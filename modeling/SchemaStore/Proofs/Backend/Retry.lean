import SchemaStore.Retry

/-!
# Repeated attempts

An operation is attempted again while its connection breaks and attempts are left.
`Repeats` has one case for the last attempt and one for an attempt that is followed by others;
what was asked for meanwhile is what the attempts asked for.
-/

namespace SchemaStore

variable {Request : Type} {Reply : Request → Type} {State α : Type}

def Event.isAsked : Event Request Reply → Bool
  | .asked .. => true
  | _ => false

/-- What was asked for, and how it was answered. -/
def asked (events : List (Event Request Reply)) : List (Event Request Reply) :=
  events.filter Event.isAsked

@[simp] theorem asked_append (events others : List (Event Request Reply)) :
    asked (events ++ others) = asked events ++ asked others :=
  List.filter_append ..

def RetryPolicy.limit (policy : RetryPolicy) : Nat :=
  max policy.attempts.toNat 1

theorem RetryPolicy.retries_succ (policy : RetryPolicy) :
    policy.attempts.toNat - 1 + 1 = policy.limit := by
  unfold limit
  omega

/-- How attempts end: as the last one did, unless attempts were left and its failure is replaced
by another one. -/
inductive Concluded {α : Type} (exhausted : Bool) : Except Failure α → Except Failure α → Prop where
  | succeeded (a : α) : Concluded exhausted (.ok a) (.ok a)
  | exhausted (failure : Failure) (none : exhausted = true) :
      Concluded exhausted (.error failure) (.error failure)
  | gaveUp (failure other : Failure) (left : exhausted = false)
      (gives : failure.aftermath = .giveUp other) :
      Concluded exhausted (.error failure) (.error other)

theorem Failure.broken_of_aftermath {failure : Failure} (retries : failure.aftermath = .retry) :
    failure.isAccess = true ∧ failure.isTransient? = some true := by
  unfold aftermath at retries
  split at retries
  · next access =>
    split at retries
    · next transient => exact ⟨access, transient⟩
    · cases retries
    · cases retries
  · cases retries

/-- A failed attempt that is the last one failed outside the access layer, or the connection did
not break, or whether it broke cannot be told. -/
theorem Failure.giveUp_cases {failure last : Failure} (gives : failure.aftermath = .giveUp last) :
    (failure.isAccess = false ∧ last = failure) ∨
      failure.isAccess = true ∧
        (failure.isTransient? = some false ∧ last = failure ∨
          failure.isTransient? = none ∧ last = .unreadableText) := by
  unfold aftermath at gives
  split at gives
  · next access =>
    refine .inr ⟨access, ?_⟩
    split at gives
    · cases gives
    · next steady =>
      cases gives
      exact .inl ⟨steady, rfl⟩
    · next undecided =>
      cases gives
      exact .inr ⟨undecided, rfl⟩
  · next foreign =>
    cases gives
    exact .inl ⟨Bool.eq_false_iff.mpr foreign, rfl⟩

/-- An operation is attempted, and up to so many more times: how that ends, what happens in the
attempts, and the state afterwards. -/
inductive Repeats (responder : Responder Request Reply State)
    (operation : Dialogue Request Reply (Except Failure α)) :
    Nat → State → Except Failure α → List (Event Request Reply) → State → Prop where
  | last {retries : Nat} {state final : State} {last outcome : Except Failure α}
      {events : List (Event Request Reply)}
      (held : operation.run responder state = ⟨last, events, final⟩)
      (concluded : Concluded (retries == 0) last outcome) :
      Repeats responder operation retries state outcome events final
  | again {retries : Nat} {state between final : State} {failure : Failure}
      {outcome : Except Failure α} {events others : List (Event Request Reply)}
      (held : operation.run responder state = ⟨.error failure, events, between⟩)
      (broken : failure.aftermath = .retry)
      (rest : Repeats responder operation retries between outcome others final) :
      Repeats responder operation (retries + 1) state outcome (events ++ others) final

theorem repeats_of_attemptFrom {responder : Responder Request Reply State}
    {operation : Dialogue Request Reply (Except Failure α)} {policy : RetryPolicy}
    {description : String} {retries number : Nat} {state final : State}
    {outcome : Except Failure α} {events : List (Event Request Reply)}
    (held : (Dialogue.attemptFrom policy description operation number retries).run responder
      state = ⟨outcome, events, final⟩) :
    ∃ tried, Repeats responder operation retries state outcome tried final ∧
      asked events = asked tried := by
  induction retries generalizing number state events with
  | zero =>
      refine ⟨events, .last held ?_, rfl⟩
      cases outcome with
      | ok a => exact .succeeded a
      | error failure => exact .exhausted failure rfl
  | succ retries induction =>
      obtain ⟨first, tried, between, rest, ran, heldRest, rfl⟩ := Dialogue.exists_of_run_bind held
      cases first with
      | ok a =>
          cases heldRest
          exact ⟨tried, .last ran (.succeeded a), by simp [asked]⟩
      | error failure =>
          dsimp only at heldRest
          split at heldRest
          · next other gives =>
            cases heldRest
            exact ⟨tried, .last ran (.gaveUp failure other rfl gives), by simp [asked]⟩
          · next retry =>
            -- The warning and the pause before the next attempt ask for nothing.
            obtain ⟨later, heldLater, same⟩ : ∃ later,
                (Dialogue.attemptFrom policy description operation (number + 1) retries).run
                  responder between = ⟨outcome, later, final⟩ ∧ asked rest = asked later := by
              cases heldRest
              exact ⟨_, rfl, rfl⟩
            obtain ⟨others, repeated, sameOthers⟩ := induction heldLater
            exact ⟨tried ++ others, .again ran retry repeated, by
              rw [asked_append, asked_append, same, sameOthers]⟩

/-- An operation that is retried is attempted at most as often as the policy allows. -/
theorem repeats_of_retry {responder : Responder Request Reply State}
    {operation : Dialogue Request Reply (Except Failure α)} {policy : RetryPolicy}
    {description : String} {state final : State} {outcome : Except Failure α}
    {events : List (Event Request Reply)}
    (held : (Dialogue.retry policy description operation).run responder state =
      ⟨outcome, events, final⟩) :
    ∃ tried, Repeats responder operation (policy.limit - 1) state outcome tried final ∧
      asked events = asked tried := by
  have retries : policy.limit - 1 = policy.attempts.toNat - 1 := by
    rw [← policy.retries_succ, Nat.add_sub_cancel]
  rw [retries]
  exact repeats_of_attemptFrom held

end SchemaStore
