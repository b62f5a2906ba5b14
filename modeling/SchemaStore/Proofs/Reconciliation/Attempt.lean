import Mathlib.Data.List.SplitBy
import SchemaStore.Proofs.Backend.Retry
import SchemaStore.Proofs.Reconciliation.Ending

/-!
# Attempts at the steps of a run

A run probes tables and makes changes, and a step whose connection breaks is
attempted again.  The attempts are read off the events of the run; consecutive
attempts at one step make a series.  A series did its step if the last attempt
succeeded, or if the backend refused a constraint because its name is taken.
-/

namespace SchemaStore

/-- What a run asks a backend for on behalf of an entity. -/
inductive RunStep where
  | probe (table : String)
  | change (action : DdlAction)
deriving DecidableEq, Repr

namespace RunStep

def change? : RunStep → Option DdlAction
  | .probe _ => none
  | .change action => some action

def isProbe (step : RunStep) : Bool :=
  step.change?.isNone

end RunStep

inductive Attempt where
  | probe (table : String) (reply : Except Failure TableState)
  | change (action : DdlAction) (reply : Except Failure Unit)

namespace Attempt

def step : Attempt → RunStep
  | .probe table _ => .probe table
  | .change action _ => .change action

/-- The table that a successful probe shows. -/
def shown? : Attempt → Option TableState
  | .probe _ (.ok live) => some live
  | _ => none

def failure? : Attempt → Option Failure
  | .probe _ (.error failure) | .change _ (.error failure) => some failure
  | _ => none

/-- The connection broke, so that the step may be attempted again. -/
def isBroken (attempt : Attempt) : Bool :=
  attempt.failure?.any fun failure => failure.isAccess && failure.isTransient? == some true

/-- Whether an attempt that is the last one at its step did the step.  A refusal because a name is
taken counts as done.  It has to be told from a broken connection while attempts are left. -/
def isDone (exhausted : Bool) : Attempt → Bool
  | .probe _ (.error _) => false
  | .change action (.error failure) =>
      action.isAbsorbable && DdlAction.isRefusal failure && failure.isDuplicate? == some true &&
        (exhausted || failure.isTransient? == some false)
  | _ => true

/-- The last one of the attempts at a step, of which there are at most so many, did the step. -/
def didStep (limit : Nat) (tries : List Attempt) : Bool :=
  tries.getLast?.any (·.isDone (tries.length == limit))

def sameStep (attempt other : Attempt) : Bool :=
  attempt.step == other.step

end Attempt

def Event.attempt? : Event Request Request.Reply → Option Attempt
  | .asked (.inspect _ table) reply => some (.probe table reply)
  | .asked (.alter _ _ action) reply => some (.change action reply)
  | _ => none

/-- The attempts at steps, in order. -/
def attempts (events : List (Event Request Request.Reply)) : List Attempt :=
  events.filterMap Event.attempt?

@[simp] theorem attempts_append (events others : List (Event Request Request.Reply)) :
    attempts (events ++ others) = attempts events ++ attempts others :=
  List.filterMap_append

def shown (tries : List Attempt) : List TableState :=
  tries.filterMap Attempt.shown?

@[simp] theorem shown_append (tries others : List Attempt) :
    shown (tries ++ others) = shown tries ++ shown others :=
  List.filterMap_append

/-- The steps that were done by series of attempts, in order. -/
def stepsDone (limit : Nat) (groups : List (List Attempt)) : List RunStep :=
  (groups.filter (Attempt.didStep limit)).filterMap fun tries => tries.head?.map Attempt.step

@[simp] theorem stepsDone_append (limit : Nat) (groups others : List (List Attempt)) :
    stepsDone limit (groups ++ others) = stepsDone limit groups ++ stepsDone limit others := by
  simp [stepsDone]

/-- Attempts at one step: only broken connections are followed by another one. -/
structure Series (limit : Nat) (step : RunStep) (tries : List Attempt) : Prop where
  nonempty : tries ≠ []
  ofStep : ∀ attempt ∈ tries, attempt.step = step
  broken : ∀ attempt ∈ tries.dropLast, attempt.isBroken = true
  bounded : tries.length ≤ limit

namespace Attempt

variable {attempt : Attempt}

theorem shown?_of_isBroken (broken : attempt.isBroken = true) : attempt.shown? = none := by
  match attempt with
  | .probe _ (.ok _) => cases broken
  | .probe _ (.error _) | .change _ _ => rfl

/-- A broken connection is no refusal while attempts are left. -/
theorem not_isDone_of_isBroken (broken : attempt.isBroken = true) :
    attempt.isDone false = false := by
  match attempt with
  | .probe _ (.ok _) | .change _ (.ok _) => cases broken
  | .probe _ (.error _) => rfl
  | .change _ (.error failure) =>
      obtain ⟨-, transient⟩ := Bool.and_eq_true_iff.mp broken
      simp [isDone, eq_of_beq transient]

/-- Probes that are done have shown a table, and no other attempts have. -/
theorem isSome_shown? (attempt : Attempt) (exhausted : Bool) :
    attempt.shown?.isSome = (attempt.step.isProbe && attempt.isDone exhausted) := by
  match attempt with
  | .probe _ (.ok _) | .probe _ (.error _) | .change _ _ => rfl

end Attempt

namespace Series

variable {limit : Nat} {step : RunStep} {tries : List Attempt}

theorem single (attempt : Attempt) (positive : 1 ≤ limit) :
    Series limit attempt.step [attempt] :=
  ⟨by simp, by simp, by simp, positive⟩

theorem cons {attempt : Attempt} (series : Series limit attempt.step tries)
    (broken : attempt.isBroken = true) : Series (limit + 1) attempt.step (attempt :: tries) := by
  refine ⟨by simp, ?_, ?_, Nat.succ_le_succ series.bounded⟩
  · exact List.forall_mem_cons.mpr ⟨rfl, series.ofStep⟩
  · rw [List.dropLast_cons_of_ne_nil series.nonempty]
    exact List.forall_mem_cons.mpr ⟨broken, series.broken⟩

theorem head?_step (series : Series limit step tries) :
    tries.head?.map Attempt.step = some step := by
  obtain ⟨attempt, rest, rfl⟩ := List.exists_cons_of_ne_nil series.nonempty
  exact congrArg some (series.ofStep attempt List.mem_cons_self)

/-- The attempts at a step before one of them are a series that has not done the step yet. -/
theorem before {earlier later : List Attempt} (series : Series limit step (earlier ++ later))
    (some : earlier ≠ []) (more : later ≠ []) :
    Series limit step earlier ∧ Attempt.didStep limit earlier = false := by
  have broken (attempt : Attempt) (member : attempt ∈ earlier) : attempt.isBroken = true := by
    apply series.broken
    rw [List.dropLast_append_of_ne_nil more]
    exact List.mem_append_left _ member
  have short : earlier.length < limit := by
    have bounded := series.bounded
    have positive := List.length_pos_iff.mpr more
    rw [List.length_append] at bounded
    omega
  refine ⟨⟨some, fun attempt member => series.ofStep attempt (List.mem_append_left _ member),
    fun attempt member => broken attempt (List.dropLast_subset _ member), short.le⟩, ?_⟩
  rw [Attempt.didStep, List.getLast?_eq_some_getLast some, beq_false_of_ne short.ne]
  exact Attempt.not_isDone_of_isBroken (broken _ (List.getLast_mem some))

theorem stepsDone_eq (series : Series limit step tries) :
    stepsDone limit [tries] = if Attempt.didStep limit tries then [step] else [] := by
  cases did : Attempt.didStep limit tries <;> simp [stepsDone, did, series.head?_step]

theorem shown_eq (series : Series limit step tries) :
    shown tries = (tries.getLast?.bind Attempt.shown?).toList := by
  obtain rfl | ⟨earlier, last, rfl⟩ := List.eq_nil_or_concat' tries
  · rfl
  · have none : shown earlier = [] := by
      refine List.filterMap_eq_nil_iff.mpr fun attempt member => ?_
      exact Attempt.shown?_of_isBroken (series.broken attempt (by simpa using member))
    rw [shown_append, none, List.nil_append, List.getLast?_concat, Option.bind_some]
    cases one : last.shown? <;> simp [shown, one]

/-- A series shows one table if it is a probe that was done, and no table otherwise. -/
theorem length_shown (series : Series limit step tries) :
    (shown tries).length = (stepsDone limit [tries]).countP RunStep.isProbe := by
  have last := List.getLast_mem series.nonempty
  have shows : (shown tries).length = (tries.getLast series.nonempty).shown?.isSome.toNat := by
    rw [series.shown_eq, List.getLast?_eq_some_getLast series.nonempty, Option.bind_some]
    cases (tries.getLast series.nonempty).shown? <;> rfl
  rw [shows, Attempt.isSome_shown? _ (tries.length == limit), series.ofStep _ last,
    series.stepsDone_eq, Attempt.didStep, List.getLast?_eq_some_getLast series.nonempty,
    Option.any_some]
  cases Attempt.isDone _ _ <;> cases isProbe : step.isProbe <;> simp [isProbe]

end Series

section Retry

variable {State α : Type} {backend : Backend State}
  {operation : Session (Except Failure α)} {step : RunStep}

theorem isBroken_of_aftermath {attempt : Except Failure α → Attempt} {failure : Failure}
    (failed : (attempt (.error failure)).failure? = some failure)
    (retries : failure.aftermath = .retry) : (attempt (.error failure)).isBroken = true := by
  obtain ⟨access, transient⟩ := Failure.broken_of_aftermath retries
  rw [Attempt.isBroken, failed]
  simp [access, transient]

theorem attempts_asked (events : List (Event Request Request.Reply)) :
    attempts (asked events) = attempts events := by
  rw [attempts, asked, List.filterMap_filter, attempts]
  refine List.filterMap_congr fun event _ => ?_
  cases event <;> rfl

/-- Repeated attempts at a step, each of which is one event, are a series of attempts at it. -/
theorem series_of_repeats (attempt : Except Failure α → Attempt)
    (asks : ∀ state, ∃ outcome event final,
      operation.run backend state = ⟨outcome, [event], final⟩ ∧
        event.attempt? = some (attempt outcome))
    (ofStep : ∀ outcome, (attempt outcome).step = step)
    (failed : ∀ failure, (attempt (.error failure)).failure? = some failure)
    {retries : Nat} {state final : State} {outcome : Except Failure α}
    {tried : List (Event Request Request.Reply)}
    (repeated : Repeats backend operation retries state outcome tried final) :
    Series (retries + 1) step (attempts tried) ∧
      ∃ last, (attempts tried).getLast? = some (attempt last) ∧
        Concluded ((attempts tried).length == retries + 1) last outcome := by
  have once {state next : State} {reply : Except Failure α}
      {events : List (Event Request Request.Reply)}
      (ran : operation.run backend state = ⟨reply, events, next⟩) :
      attempts events = [attempt reply] := by
    obtain ⟨_, event, _, asks, isAttempt⟩ := asks state
    cases asks.symm.trans ran
    simp [attempts, isAttempt]
  induction repeated with
  | @last retries _ _ last _ _ held concluded =>
      rw [once held, ← ofStep last]
      exact ⟨Series.single _ (Nat.le_add_left _ _), last, rfl, by simpa using concluded⟩
  | @again _ _ _ _ failure _ _ _ held broken _ induction =>
      obtain ⟨series, last, atEnd, concluded⟩ := induction
      have isBroken := isBroken_of_aftermath (failed failure) broken
      rw [← ofStep (.error failure)] at series ⊢
      rw [attempts_append, once held, List.singleton_append]
      refine ⟨series.cons isBroken, last, ?_, by simpa using concluded⟩
      rw [List.getLast?_cons, atEnd]
      rfl

theorem series_of_retry (attempt : Except Failure α → Attempt)
    (asks : ∀ state, ∃ outcome event final,
      operation.run backend state = ⟨outcome, [event], final⟩ ∧
        event.attempt? = some (attempt outcome))
    (ofStep : ∀ outcome, (attempt outcome).step = step)
    (failed : ∀ failure, (attempt (.error failure)).failure? = some failure)
    {policy : RetryPolicy} {description : String} {state final : State}
    {outcome : Except Failure α} {events : List (Event Request Request.Reply)}
    (held : (Dialogue.retry policy description operation).run backend state =
      ⟨outcome, events, final⟩) :
    Series policy.limit step (attempts events) ∧
      ∃ last, (attempts events).getLast? = some (attempt last) ∧
        Concluded ((attempts events).length == policy.limit) last outcome := by
  obtain ⟨tried, repeated, same⟩ := repeats_of_retry held
  have sameAttempts : attempts events = attempts tried := by
    rw [← attempts_asked, same, attempts_asked]
  have positive : policy.limit - 1 + 1 = policy.limit := by
    rw [← policy.retries_succ, Nat.add_sub_cancel]
  rw [sameAttempts, ← positive]
  exact series_of_repeats attempt asks ofStep failed repeated

end Retry

end SchemaStore
