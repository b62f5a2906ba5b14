import Mathlib.Order.Bounds.Defs
import SchemaStore.Proofs.Backend.Retry

/-!
# Which attempts are made

The calls of an operation, each from the state that the one before left, could go on for ever.
`Dialogue.retry` makes them up to the first one whose connection does not break, or up to its
limit.  It ends as the last of them did; after each one before, it notes the failure and waits.
There is one exception: if calls are left, a failure whose text is needed and cannot be taken is
replaced by another one.
-/

namespace SchemaStore

variable {Request : Type} {Reply : Request → Type} {State α : Type}

/-- What follows a failed attempt is decided by whether the connection broke in it. -/
theorem Failure.aftermath_eq (failure : Failure) :
    failure.aftermath =
      if failure.isAccess && failure.isTransient? == some true then .retry
      else if failure.isAccess && failure.isTransient?.isNone then .giveUp .unreadableText
      else .giveUp failure := by
  unfold aftermath
  cases failure.isAccess with
  | false => rfl
  | true => rcases failure.isTransient? with - | - | - <;> rfl

section Call

variable (call : Transcript Request Reply State (Except Failure α))

/-- The connection broke in a call, so that the call may be made again. -/
def Transcript.isTransient : Bool :=
  match call.result with
  | .ok _ => false
  | .error failure => failure.isAccess && failure.isTransient? == some true

/-- Whether the connection broke in a call cannot be told. -/
def Transcript.isUndecided : Bool :=
  match call.result with
  | .ok _ => false
  | .error failure => failure.isAccess && failure.isTransient?.isNone

/-- What happens between a call that failed and the next one. -/
def RetryPolicy.interlude (policy : RetryPolicy) (description : String) (number : Nat) :
    List (Event Request Reply) :=
  match call.result with
  | .ok _ => []
  | .error failure =>
      [.noted ⟨.warning, policy.warning description number failure⟩, .paused policy.delay]

/-- A call, what happens after it, and what is held then. -/
def Transcript.andThen (between : List (Event Request Reply))
    (rest : Transcript Request Reply State (Except Failure α)) :
    Transcript Request Reply State (Except Failure α) :=
  ⟨rest.result, call.events ++ between ++ rest.events, rest.state⟩

end Call

namespace Dialogue

section Step

variable (responder : Responder Request Reply State)
  (operation : Dialogue Request Reply (Except Failure α)) (policy : RetryPolicy)
  (description : String)

/-- One call of an operation of which more may be made. -/
theorem run_attemptFrom_succ (number retries : Nat) (state : State) :
    (attemptFrom policy description operation number (retries + 1)).run responder state =
      let call := operation.run responder state
      if call.isTransient then
        call.andThen (policy.interlude call description number)
          ((attemptFrom policy description operation (number + 1) retries).run responder call.state)
      else if call.isUndecided then
        { call with result := .error .unreadableText }
      else
        call := by
  refine (run_bind responder operation _ state).trans ?_
  rcases operation.run responder state with ⟨outcome, events, between⟩
  cases outcome with
  | ok a => exact congrArg (Transcript.mk _ · between) (List.append_nil events)
  | error failure =>
      let call : Transcript Request Reply State (Except Failure α) :=
        ⟨.error failure, events, between⟩
      have next : failure.aftermath =
          if call.isTransient then .retry
          else if call.isUndecided then .giveUp .unreadableText
          else .giveUp failure := failure.aftermath_eq
      dsimp only
      split at next
      · next broke =>
        rw [if_pos broke, next, Transcript.andThen, List.append_assoc]
        rfl
      · next steady =>
        rw [if_neg steady]
        split at next
        · next undecided =>
          rw [if_pos undecided, next]
          exact congrArg (Transcript.mk _ · between) (List.append_nil events)
        · next decided =>
          rw [if_neg decided, next]
          exact congrArg (Transcript.mk _ · between) (List.append_nil events)

/-- An operation is called once if no more attempts are left. -/
theorem run_retry_of_le (state : State) (single : policy.attempts ≤ 1) :
    (retry policy description operation).run responder state = operation.run responder state := by
  have none : policy.attempts.toNat - 1 = 0 := by omega
  rw [retry, none]
  rfl

end Step

section Calls

variable (responder : Responder Request Reply State)
  (operation : Dialogue Request Reply (Except Failure α))

/-- The calls of an operation, each from the state that the one before left. -/
def call (state : State) : Nat → Transcript Request Reply State (Except Failure α)
  | 0 => operation.run responder state
  | number + 1 => operation.run responder (call state number).state

theorem call_succ (state : State) (number : Nat) :
    call responder operation state (number + 1) =
      call responder operation (operation.run responder state).state number := by
  induction number with
  | zero => rfl
  | succ number induction => rw [call, induction, call]

/-- What happens in the calls before the last one. -/
def eventsBefore (policy : RetryPolicy) (description : String) (number : Nat)
    (calls : Nat → Transcript Request Reply State (Except Failure α)) (last : Nat) :
    List (Event Request Reply) :=
  (List.range last).flatMap fun before =>
    (calls before).events ++ policy.interlude (calls before) description (number + before)

theorem eventsBefore_succ (policy : RetryPolicy) (description : String) (number last : Nat)
    (calls : Nat → Transcript Request Reply State (Except Failure α)) :
    eventsBefore policy description number calls (last + 1) =
      (calls 0).events ++ policy.interlude (calls 0) description number ++
        eventsBefore policy description (number + 1) (fun before => calls (before + 1)) last := by
  simp only [eventsBefore, List.range_succ_eq_map, List.flatMap_cons, List.flatMap_map,
    Nat.add_zero, Nat.succ_eq_add_one, ← Nat.add_assoc, Nat.add_right_comm number 1]

/-- An operation is called up to a last time, where it stops of itself or no call is left. -/
structure Makes (policy : RetryPolicy) (description : String) (number retries : Nat)
    (calls : Nat → Transcript Request Reply State (Except Failure α)) (last : Nat)
    (held : Transcript Request Reply State (Except Failure α)) : Prop where
  bounded : last ≤ retries
  transient : ∀ before < last, (calls before).isTransient = true
  stops : (calls last).isTransient = false ∨ last = retries
  result : held.result =
    if last < retries ∧ (calls last).isUndecided = true then .error .unreadableText
    else (calls last).result
  events : held.events =
    eventsBefore policy description number calls last ++ (calls last).events
  state : held.state = (calls last).state

/-- A call that broke comes before those that are made after it. -/
theorem Makes.again {policy : RetryPolicy} {description : String} {number retries last : Nat}
    {state : State} {held : Transcript Request Reply State (Except Failure α)}
    (broke : (operation.run responder state).isTransient = true)
    (made : Makes policy description (number + 1) retries
      (call responder operation (operation.run responder state).state) last held) :
    Makes policy description number (retries + 1) (call responder operation state) (last + 1)
      ((operation.run responder state).andThen
        (policy.interlude (operation.run responder state) description number) held) := by
  have first : call responder operation state 0 = operation.run responder state := rfl
  obtain ⟨bounded, transient, stops, result, events, final⟩ := made
  refine ⟨by omega, ?_, ?_, ?_, ?_, ?_⟩
  · intro before earlier
    cases before with
    | zero => exact broke
    | succ before =>
        rw [call_succ]
        exact transient before (by omega)
  · rw [call_succ]
    exact stops.imp_right (congrArg (· + 1))
  · simp only [Transcript.andThen, call_succ, result, Nat.add_lt_add_iff_right]
  · simp only [Transcript.andThen, events, eventsBefore_succ, first, call_succ, List.append_assoc]
  · rw [call_succ, ← final]
    rfl

theorem exists_makes (policy : RetryPolicy) (description : String) (number retries : Nat)
    (state : State) :
    ∃ last, Makes policy description number retries (call responder operation state) last
      ((attemptFrom policy description operation number retries).run responder state) := by
  -- On the attempts that are left, from the state that the calls so far have led to.
  induction retries generalizing number state with
  | zero =>
      exact ⟨0, Nat.le_refl 0, by simp, .inr rfl, by simp [call, attemptFrom],
        by simp [call, attemptFrom, eventsBefore], rfl⟩
  | succ retries induction =>
      have first : call responder operation state 0 = operation.run responder state := rfl
      rw [run_attemptFrom_succ]
      dsimp only
      split
      · next broke =>
        obtain ⟨last, made⟩ := induction (number + 1) (operation.run responder state).state
        exact ⟨last + 1, made.again responder operation broke⟩
      · next steady =>
        have stops : (call responder operation state 0).isTransient = false :=
          Bool.eq_false_iff.mpr steady
        split
        · next undecided =>
          exact ⟨0, by omega, by simp, .inl stops, by simp [first, undecided],
            by simp [first, eventsBefore], rfl⟩
        · next decided =>
          exact ⟨0, by omega, by simp, .inl stops, by simp [first, decided],
            by simp [first, eventsBefore], rfl⟩

/-- An operation is called until its connection does not break or the limit is reached, with a
warning and a pause after each call but the last. -/
theorem retry_calls (policy : RetryPolicy) (description : String) (state : State) :
    let calls := call responder operation state
    ∃ last, IsLeast {number | (calls number).isTransient = false ∨
        (number : Int) + 1 = max policy.attempts 1} last ∧
      (retry policy description operation).run responder state =
        { result :=
            if (last : Int) + 1 < max policy.attempts 1 ∧ (calls last).isUndecided = true then
              .error .unreadableText
            else
              (calls last).result
          events := eventsBefore policy description 1 calls last ++ (calls last).events
          state := (calls last).state } := by
  intro calls
  obtain ⟨last, bounded, transient, stops, result, events, final⟩ :=
    exists_makes responder operation policy description 1 (policy.attempts.toNat - 1) state
  have atLimit (number : Nat) :
      (number : Int) + 1 = max policy.attempts 1 ↔ number = policy.attempts.toNat - 1 := by omega
  have belowLimit : (last : Int) + 1 < max policy.attempts 1 ↔
      last < policy.attempts.toNat - 1 := by omega
  refine ⟨last, ⟨stops.imp_right (atLimit last).mpr, ?_⟩, ?_⟩
  · rintro number (steady | limit)
    · refine Nat.le_of_not_lt fun earlier => ?_
      rw [transient number earlier] at steady
      cases steady
    · rwa [(atLimit number).mp limit]
  · simp only [belowLimit]
    rw [← result, ← events, ← final]
    rfl

end Calls

section Turn

/-- Replies that come in turn, whatever is asked for. -/
def inTurn (replies : Nat → α) : Responder Unit (fun _ => α) Nat :=
  fun _ number => (replies number, number + 1)

/-- Every sequence of outcomes is that of the calls of an operation. -/
theorem call_inTurn (outcomes : Nat → Except Failure α) (number : Nat) :
    call (inTurn outcomes) (request ()) 0 number =
      ⟨outcomes number, [.asked () (outcomes number)], number + 1⟩ := by
  induction number with
  | zero => rfl
  | succ number induction => rw [call, induction]; rfl

/-- A failure without a text is replaced if calls are left, and is the outcome if none is. -/
example :
    let failure : Failure :=
      .access { kind := .statement, label := "OperationalError", message := "",
                driver := some { args := [.scalar (.text "x")], unreadable := true } }
    let outcomes : Nat → Except Failure Unit := fun _ => .error failure
    let outcome (attempts : Int) :=
      ((retry ⟨attempts, .int 0⟩ "read" (request ())).run (inTurn outcomes) 0).result
    outcome 2 = .error .unreadableText ∧ outcome 1 = .error failure :=
  ⟨rfl, rfl⟩

end Turn

end Dialogue
end SchemaStore
