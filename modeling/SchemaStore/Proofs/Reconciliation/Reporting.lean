import SchemaStore.Proofs.Ddl.Rendering
import SchemaStore.Proofs.Reconciliation.Locking
import SchemaStore.Proofs.Reconciliation.Stage

/-!
# Failed runs report how far they came

A run wraps the failures of its probes and changes in errors of its own, which
carry a report.  The statements that take the lock and give it back are not
wrapped: what they fail with ends the run, without a report and in place of what
the run had failed with before.
-/

namespace SchemaStore

/-- A failure of the access layer whose text can be taken. -/
def Failure.isOrdinary (failure : Failure) : Bool :=
  failure.isAccess && failure.text?.isSome

/-- An attempt that succeeds or fails in the access layer; a change may also not be supported. -/
def Attempt.isOrdinary : Attempt → Bool
  | .probe _ (.error failure) => failure.isOrdinary
  | .change _ (.error .constraintUnsupported) => true
  | .change _ (.error failure) => failure.isOrdinary
  | _ => true

/-- The failure of a statement that takes the lock or gives it back. -/
def Event.lockFailure? : Event Request Request.Reply → Option Failure
  | .asked (.lock ..) reply =>
      match (reply : Except Failure LockAnswer) with
      | .ok _ => none
      | .error failure => some failure
  | .asked (.unlock ..) reply =>
      match (reply : Except Failure Unit) with
      | .ok _ => none
      | .error failure => some failure
  | _ => none

theorem isSome_ite_of_isSome {known : Prop} [Decidable known] {decision : Option Bool}
    (decided : decision.isSome = true) :
    (if known then some true else decision).isSome = true := by
  split
  · rfl
  · exact decided

theorem Failure.isTransient?_isSome {failure : Failure} (readable : failure.text?.isSome = true) :
    failure.isTransient?.isSome = true :=
  isSome_ite_of_isSome (Option.isSome_map.trans readable)

theorem Failure.isDuplicate?_isSome {failure : Failure} (readable : failure.text?.isSome = true) :
    failure.isDuplicate?.isSome = true :=
  isSome_ite_of_isSome (Option.isSome_map.trans readable)

theorem Concluded.eq_of_readable {α : Type} {exhausted : Bool} {last ended : Except Failure α}
    (concluded : Concluded exhausted last ended)
    (readable : ∀ failure, last = .error failure → failure.text?.isSome = true) :
    ended = last := by
  cases concluded with
  | succeeded | exhausted => rfl
  | gaveUp failure other left gives =>
      have decided := Failure.isTransient?_isSome (readable failure rfl)
      rcases Failure.giveUp_cases gives with ⟨-, rfl⟩ | ⟨-, ⟨-, rfl⟩ | ⟨undecided, -⟩⟩
      · rfl
      · rfl
      · rw [undecided] at decided
        cases decided

namespace Run

variable {State α β : Type} {backend : Backend State}

/-- After ordinary attempts, a stage only fails with errors of reconciliation. -/
def FailsOwn (backend : Backend State) (run : Run α) : Prop :=
  ∀ start failure events final, run.Ends backend start (.error failure) events final →
    (∀ attempt ∈ attempts events, attempt.isOrdinary = true) →
    Reconciler.isOwnError failure = true

namespace FailsOwn

theorem bind {run : Run α} {next : α → Run β} (first : run.FailsOwn backend)
    (second : ∀ a, (next a).FailsOwn backend) : (run >>= next).FailsOwn backend := by
  intro start failure events final ends ordinary
  rcases ends.bind_cases with ⟨_, same, failed⟩ | ⟨a, between, before, after, -, failed, rfl⟩
  · cases same
    exact first start failure events final failed ordinary
  · refine second a between failure after final failed fun attempt member => ?_
    exact ordinary attempt (by simp [member])

theorem advance (step : Progress → Progress) : (Run.advance step).FailsOwn backend := by
  intro start failure events final ends
  obtain ⟨succeeded, -⟩ := ends.of_advance
  cases succeeded

theorem ofResult_ok (a : α) :
    (Run.ofProgram (Program.ofResult (.ok a))).FailsOwn backend := by
  intro start failure events final ends
  obtain ⟨succeeded, -⟩ := ends.of_ofResult
  cases succeeded

end FailsOwn
end Run

namespace Reconciler

variable {State : Type} {backend : Backend State} {reconciler : Reconciler}

theorem text?_isSome_of_isOrdinary {action : DdlAction} {failure : Failure}
    (ordinary : (Attempt.change action (.error failure)).isOrdinary = true) :
    DdlAction.isRefusal failure = true ∧ failure.text?.isSome = true := by
  cases failure with
  | access error =>
      have both : ((Failure.access error).isAccess &&
        (Failure.access error).text?.isSome) = true := ordinary
      exact ⟨rfl, (Bool.and_eq_true_iff.mp both).2⟩
  | constraintUnsupported => exact ⟨rfl, rfl⟩
  | _ => cases ordinary

/-- A refused change is there already, or the run fails with an error of its own. -/
theorem refusal_cases (action : DdlAction) (entity : String) {failure : Failure}
    (refused : DdlAction.isRefusal failure = true) (readable : failure.text?.isSome = true) :
    action.refusal entity failure = .present ∨
      action.refusal entity failure = .failed (.own (action.error entity failure)) := by
  obtain ⟨duplicate, decided⟩ :=
    Option.isSome_iff_exists.mp (Failure.isDuplicate?_isSome readable)
  simp only [DdlAction.refusal, refused, decided]
  cases action.isAbsorbable with
  | false => exact .inr rfl
  | true =>
      cases duplicate with
      | true => exact .inl rfl
      | false => exact .inr rfl

theorem probe_failsOwn (entity : Entity) : (reconciler.probe entity).FailsOwn backend := by
  intro start failure events final ends ordinary
  obtain ⟨-, -, last, ended, atEnd, concluded, outcome⟩ := probe_ends ends
  have lastOrdinary := ordinary _ (List.mem_of_getLast? atEnd)
  have same : ended = last := concluded.eq_of_readable fun cause failed => by
    rw [failed] at lastOrdinary
    exact (Bool.and_eq_true_iff.mp lastOrdinary).2
  rw [same] at outcome
  cases last with
  | ok live => cases outcome
  | error cause =>
      have access := (Bool.and_eq_true_iff.mp lastOrdinary).1
      rw [Except.error.inj outcome, probeFailure, if_pos access]
      rfl

theorem applyAction_failsOwn (entity : Entity) (stage : RunStage) (action : DdlAction) :
    (reconciler.applyAction entity stage action).FailsOwn backend := by
  intro start failure events final ends ordinary
  obtain ⟨-, -, last, ended, atEnd, concluded, outcome⟩ := applyAction_ends ends
  have lastOrdinary := ordinary _ (List.mem_of_getLast? atEnd)
  have same : ended = last := concluded.eq_of_readable fun cause failed => by
    rw [failed] at lastOrdinary
    exact (text?_isSome_of_isOrdinary lastOrdinary).2
  rw [same] at outcome
  cases last with
  | ok done => cases outcome
  | error cause =>
      obtain ⟨refused, readable⟩ := text?_isSome_of_isOrdinary lastOrdinary
      rcases refusal_cases action entity.name refused readable with present | failed
      · rw [changeOutcome, present] at outcome
        cases outcome
      · rw [changeOutcome, failed] at outcome
        cases outcome
        rfl

theorem applyAll_failsOwn (entity : Entity) (stage : RunStage) (actions : List DdlAction) :
    (reconciler.applyAll entity stage actions).FailsOwn backend := by
  induction actions with
  | nil => exact .ofResult_ok ()
  | cons action rest induction =>
      exact (applyAction_failsOwn entity stage action).bind fun _ => induction

theorem reconcileEntity_failsOwn {entity : Entity}
    (checked : ∀ name field, (name, field) ∈ entity.fields → field.checkDefault = .ok ()) :
    (reconciler.reconcileEntity entity).FailsOwn backend := by
  refine (probe_failsOwn entity).bind fun live => .bind (.advance _) fun _ => .bind ?_ fun _ => ?_
  · rw [entity.checkPlan_eq_ok checked]
    exact .ofResult_ok ()
  · refine .bind (.advance _) fun _ => .bind (applyAll_failsOwn entity _ _) fun _ => ?_
    exact .bind (.advance _) fun _ => .advance _

/-- If the defaults of a schema can be written, the work of a run only fails with errors of
reconciliation. -/
theorem body_failsOwn (checked : reconciler.schema.checkDefaults = .ok ()) :
    reconciler.body.FailsOwn backend := by
  have all (entities : List Entity) (declared : ∀ entity ∈ entities,
      ∀ name field, (name, field) ∈ entity.fields → field.checkDefault = .ok ()) :
      (reconciler.reconcileAll entities).FailsOwn backend := by
    induction entities with
    | nil => exact .ofResult_ok ()
    | cons entity rest induction =>
        obtain ⟨first, others⟩ := List.forall_mem_cons.mp declared
        exact (reconcileEntity_failsOwn first).bind fun _ => induction others
  exact .bind (.advance _) fun _ => all _ (Schema.checkDefaults_eq_ok.mp checked)

/-- A run ended with a report: it completed, or it failed with an error of reconciliation. -/
inductive Reported : Except RunFailure RunReport → Prop where
  | completed (progress : Progress) : Reported (.ok ⟨.completed, progress⟩)
  | failed (error : StoreError) (progress : Progress) (own : error.family = .reconciliation) :
      Reported (.error ⟨.own error, some ⟨.failed, progress⟩⟩)

theorem reported_outcome {ended : Except Failure Unit} (progress : Progress)
    (own : ∀ failure, ended = .error failure → isOwnError failure = true) :
    Reported (outcome (ended, progress)) := by
  cases ended with
  | ok => exact .completed progress
  | error failure =>
      have isOwn := own failure rfl
      cases failure with
      | own error =>
          rw [outcome, if_pos isOwn]
          exact .failed error progress (eq_of_beq isOwn)
      | _ => cases isOwn

theorem not_reported_of_access {failure : Failure} (access : failure.isAccess = true)
    (progress : Progress) : outcome (.error failure, progress) = .error ⟨failure, none⟩ ∧
      ¬Reported (.error ⟨failure, none⟩) := by
  cases failure with
  | access => exact ⟨rfl, nofun⟩
  | _ => cases access

theorem lockFailure?_of_not_isLocking {event : Event Request Request.Reply}
    (working : event.isLocking = false) : event.lockFailure? = none := by
  cases event with
  | paused | noted => rfl
  | asked request reply => cases request <;> first | rfl | cases working

/-- The statements that take the lock and give it back are no attempts at a step. -/
theorem attempts_bracketed (reconciler : Reconciler) (answer : LockAnswer)
    (work : List (Event Request Request.Reply)) (released : Except Failure Unit) :
    attempts (.asked reconciler.lockRequest (.ok answer : Except Failure LockAnswer) ::
      (work ++ [.asked (reconciler.unlockRequest answer) released])) = attempts work := by
  have split := attempts_append work [.asked (reconciler.unlockRequest answer) released]
  exact split.trans (List.append_nil _)

/-- A run ends with a report unless a lock statement fails, and with that failure otherwise. -/
structure ReportsUnlessLockFails (result : Except RunFailure RunReport)
    (events : List (Event Request Request.Reply)) : Prop where
  reported_iff : Reported result ↔ ∀ event ∈ events, event.lockFailure? = none
  escapes : ∀ event ∈ events, ∀ failure, event.lockFailure? = some failure →
    result = .error ⟨failure, none⟩

namespace ReportsUnlessLockFails

variable {ended : Except Failure Unit} {progress : Progress}
  {events : List (Event Request Request.Reply)}

theorem of_served (own : ∀ failure, ended = .error failure → isOwnError failure = true)
    (served : ∀ event ∈ events, event.lockFailure? = none) :
    ReportsUnlessLockFails (outcome (ended, progress)) events := by
  refine ⟨iff_of_true (reported_outcome progress own) served, fun event member failure fails => ?_⟩
  rw [served event member] at fails
  cases fails

theorem of_failed {failure : Failure} (access : failure.isAccess = true)
    {event : Event Request Request.Reply} (member : event ∈ events)
    (fails : event.lockFailure? = some failure)
    (only : ∀ other ∈ events, other = event ∨ other.lockFailure? = none) :
    ReportsUnlessLockFails (outcome (.error failure, progress)) events := by
  obtain ⟨escapes, unreported⟩ := not_reported_of_access access progress
  rw [escapes]
  refine ⟨iff_of_false unreported fun served => ?_, fun other otherMember cause causes => ?_⟩
  · rw [served event member] at fails
    cases fails
  · rcases only other otherMember with rfl | none
    · rw [fails] at causes
      cases causes
      rfl
    · rw [none] at causes
      cases causes

end ReportsUnlessLockFails

/-- A run whose probes and changes only fail in ordinary ways ends with a report exactly if the lock
is taken and given back without failure.  A failure to do so ends the run instead, also in place of
the error of a step. -/
theorem run_reportsUnlessLockFails {State : Type} {reconciler : Reconciler}
    {backend : Backend State} {state final : State} {result : Except RunFailure RunReport}
    {events : List (Event Request Request.Reply)}
    (ran : reconciler.run.run backend state = ⟨result, events, final⟩)
    (checked : reconciler.schema.checkDefaults = .ok ())
    (ordinary : ∀ attempt ∈ attempts events, attempt.isOrdinary = true)
    (access : ∀ event ∈ events, ∀ failure, event.lockFailure? = some failure →
      failure.isAccess = true) :
    ReportsUnlessLockFails result events := by
  have served {work : List (Event Request Request.Reply)} {ended : Except Failure Unit}
      {start final : Progress × State} (worked : reconciler.body.Ends backend start ended work final)
      {event : Event Request Request.Reply} (member : event ∈ work) : event.lockFailure? = none :=
    lockFailure?_of_not_isLocking (not_isLocking_of_body worked event member)
  obtain ⟨ended, progress, held, rfl⟩ := held_of_run ran
  cases held with
  | free noLocks worked =>
      refine .of_served (fun failure failed => ?_) fun event => served worked
      subst failed
      exact body_failsOwn checked _ failure _ _ worked ordinary
  | @unanswered failure locks =>
      refine .of_failed (access _ List.mem_cons_self failure rfl) List.mem_cons_self rfl ?_
      exact fun other member => .inl (List.mem_singleton.mp member)
  | refused locks notGranted noPlans =>
      refine .of_served (fun failure failed => ?_) (List.forall_mem_singleton.mpr rfl)
      cases failed
      rfl
  | @granted answer ended work start final released locks granted worked =>
      rw [attempts_bracketed] at ordinary
      cases released with
      | error failure =>
          have atEnd := List.mem_cons_of_mem
            (Event.asked reconciler.lockRequest (.ok answer : Except Failure LockAnswer))
            (List.mem_append_right work (List.mem_singleton_self
              (Event.asked (reconciler.unlockRequest answer) (.error failure))))
          refine .of_failed (access _ atEnd failure rfl) atEnd rfl fun other member => ?_
          rcases List.mem_cons.mp member with rfl | later
          · exact .inr rfl
          · rcases List.mem_append.mp later with working | last
            · exact .inr (served worked working)
            · exact .inl (List.mem_singleton.mp last)
      | ok done =>
          refine .of_served (fun failure failed => ?_) ?_
          · change ended = .error failure at failed
            subst failed
            exact body_failsOwn checked _ failure _ _ worked ordinary
          · refine List.forall_mem_cons.mpr ⟨rfl, List.forall_mem_append.mpr ⟨?_, ?_⟩⟩
            · exact fun event => served worked
            · exact List.forall_mem_singleton.mpr rfl

/-- A backend that grants locks, and whose other statements fail. -/
def failingBackend (failure : Failure) : Backend Unit
  | .openPool .., _ | .execute .., _ | .inspect .., _ => (.error failure, ())
  | .ping _, _ | .commit _, _ | .alter .., _ | .unlock .., _ => (.error failure, ())
  | .disposePool _, _ | .rollback _, _ => ((), ())
  | .lock .., _ => (.ok ⟨0, .int 1⟩, ())

/-- The connections of a run break.  The table of its users cannot be probed, nor the lock be given
back: the run ends with the latter failure, and without a report. -/
theorem run_reportsUnlessLockFails_users :
    let gone : Failure := .access {
      kind := .statement
      label := "OperationalError"
      message := ""
      driver := some { args := [.int 2006, .text "MySQL server has gone away"] } }
    let reconciler : Reconciler := {
      schema := {
        datasource := { provider := .mysql, url := "mysql://u:p@h/d" }
        entities := [⟨"User", [("id", { type := .int, isId := true })]⟩] }
      traits := .ofName "mysql"
      settings := {}
      pool := 0 }
    let held := reconciler.run.run (failingBackend gone) ()
    (attempts held.events).map Attempt.step = List.replicate 3 (.probe "users") ∧
      held.result = .error ⟨gone, none⟩ ∧ ¬Reported held.result := by
  intro gone reconciler held
  have tried : (attempts held.events).map Attempt.step = List.replicate 3 (.probe "users") := by
    decide +kernel
  have ordinary : (attempts held.events).all Attempt.isOrdinary = true := by decide +kernel
  have access : held.events.all (·.lockFailure?.all Failure.isAccess) = true := by decide +kernel
  have released : held.events.getLast? =
      some (.asked (reconciler.unlockRequest ⟨0, .int 1⟩) (.error gone : Except Failure Unit)) := rfl
  have reports : ReportsUnlessLockFails held.result held.events :=
    run_reportsUnlessLockFails (rfl : reconciler.run.run (failingBackend gone) () = held) rfl
      (List.all_eq_true.mp ordinary) fun event member failure fails => by
        have both := List.all_eq_true.mp access event member
        rw [fails] at both
        exact both
  have member := List.mem_of_getLast? released
  refine ⟨tried, reports.escapes _ member gone rfl, fun reported => ?_⟩
  cases reports.reported_iff.mp reported _ member

end Reconciler
end SchemaStore
