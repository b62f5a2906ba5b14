import SchemaStore.Proofs.Backend.Attempts
import SchemaStore.Proofs.Backend.Program
import SchemaStore.Reconciliation.Apply

/-!
# Failures with a known code

A code that is known decides how a failure is classified, whatever its text says.  It does not
decide whether the failure is retried or taken for a constraint that is already there: if the code
is not that of a broken connection, the text decides both, although it may quote stored values.
-/

namespace SchemaStore

namespace Failure

/-- A text about an operation that was broken off. -/
def saysAborted (text : String) : Bool :=
  Text.occursIn "aborted".toList (Text.lower text).toList

/-- What a driver reports, bare or passed on by the access layer over a connection that holds. -/
inductive Reports : Failure → DriverError → Prop where
  | bare (reported : DriverError) : Reports (.driver reported) reported
  | wrapped {error : AccessError} {reported : DriverError} (driver : error.driver = some reported)
      (kind : error.kind = .statement ∨ error.kind = .interface)
      (holds : error.invalidated = false) : Reports (.access error) reported

theorem kind_of_transientCode {code : String} {info : ErrorInfo} (member : code ∈ transientCodes)
    (known : infoOfCode? code = some info) : info.kind = .connection := by
  simp only [transientCodes, List.mem_cons, List.not_mem_nil, or_false] at member
  rcases member with rfl | rfl | rfl | rfl <;> cases known <;> rfl

theorem infoOfCode?_of_duplicateCode {code : String} (member : code ∈ duplicateCodes) :
    infoOfCode? code = none := by
  simp only [duplicateCodes, List.mem_cons, List.not_mem_nil, or_false] at member
  rcases member with rfl | rfl | rfl <;> rfl

section Code

variable {failure : Failure} {reported : DriverError} {code : String} {info : ErrorInfo}

theorem Reports.code?_eq (reports : failure.Reports reported) : failure.code? = reported.code? := by
  cases reports with
  | bare => rfl
  | wrapped driver => simp only [Failure.code?, driverError?, driver, Option.bind_some]

theorem Reports.text?_eq (reports : failure.Reports reported) : failure.text? = reported.text? := by
  cases reports with
  | bare => rfl
  | wrapped driver => simp only [Failure.text?, driver]

theorem Reports.classify_eq (reports : failure.Reports reported)
    (coded : reported.code? = some code) (known : infoOfCode? code = some info) :
    failure.classify = info := by
  have decided : failure.classifyBackend = info := by
    rw [classifyBackend, reports.code?_eq, coded, Option.bind_some, known]
  cases reports with
  | bare => exact decided
  | @wrapped error _ _ kind =>
      have noTimeout : error.kind ≠ .poolTimeout := by
        rcases kind with kind | kind <;> simp [kind]
      rw [classify, if_neg noTimeout, decided]

theorem Reports.isTransient?_eq (reports : failure.Reports reported)
    (coded : reported.code? = some code) (other : code ∉ transientCodes) :
    failure.isTransient? = reported.text?.map saysAborted := by
  have notKnown : transientCodes.contains code = false := by simpa using other
  have sameCode := reports.code?_eq
  have sameText := reports.text?_eq
  cases reports with
  | bare =>
      simp only [isTransient?, sameCode, coded, notKnown, sameText]
      rfl
  | @wrapped error _ driver kind holds =>
      have connected : (error.kind == .disconnected) = false := by
        rcases kind with kind | kind <;> simp [kind]
      simp only [isTransient?, holds, connected, sameCode, coded, notKnown, sameText]
      rfl

theorem Reports.isDuplicate?_eq (reports : failure.Reports reported)
    (coded : reported.code? = some code) (other : code ∉ duplicateCodes) :
    failure.isDuplicate? = reported.text?.map saysDuplicate := by
  have notKnown : duplicateCodes.contains code = false := by simpa using other
  simp only [isDuplicate?, reports.code?_eq, coded, notKnown, reports.text?_eq]
  rfl

end Code

end Failure

section Retry

variable {Request : Type} {Reply : Request → Type} {State α : Type}
  {responder : Responder Request Reply State}
  {operation : Dialogue Request Reply (Except Failure α)} {state : State} {failure : Failure}

/-- An operation whose first attempt fails is only repeated if the failure is transient. -/
theorem Dialogue.run_retry_of_failed (policy : RetryPolicy) (description : String)
    (failed : (operation.run responder state).result = .error failure) :
    (retry policy description operation).run responder state =
      let call := operation.run responder state
      if policy.attempts ≤ 1 ∨ failure.isAccess = false then
        call
      else
        match failure.isTransient? with
        | some true =>
            call.andThen (policy.interlude call description 1)
              ((attemptFrom policy description operation 2 (policy.attempts.toNat - 2)).run
                responder call.state)
        | some false => call
        | none => { call with result := .error .unreadableText } := by
  by_cases single : policy.attempts ≤ 1
  · rw [run_retry_of_le _ _ _ _ _ single]
    simp [single]
  · have more : policy.attempts.toNat - 1 = policy.attempts.toNat - 2 + 1 := by omega
    rw [retry, more, run_attemptFrom_succ]
    simp only [Transcript.isTransient, Transcript.isUndecided, failed, single, false_or]
    cases failure.isAccess with
    | false => rfl
    | true => rcases failure.isTransient? with - | - | - <;> rfl

end Retry

section Change

variable {State : Type} {backend : Backend State} {action : DdlAction} {schema : Schema}
  {pool : Nat} {entity : String} {policy : RetryPolicy} {start final : State} {failure : Failure}
  {events : List (Event Request Request.Reply)}

/-- The attempts at a change. -/
def DdlAction.attempts (action : DdlAction) (schema : Schema) (pool : Nat)
    (policy : RetryPolicy) : Program Unit :=
  Program.ofSession (Dialogue.retry policy action.describe
    (Dialogue.request (Request.alter pool schema action) : Session (Except Failure Unit)))

/-- How a change ends whose attempts end with a failure. -/
def DdlAction.verdict (action : DdlAction) (entity : String) (failure : Failure) :
    Except Failure Bool :=
  match action.refusal entity failure with
  | .present => .ok false
  | .failed failure => .error failure

theorem DdlAction.apply_ends_of_failed
    (failed : (action.attempts schema pool policy).Ends backend start (.error failure) events
      final) :
    (action.apply schema pool entity policy).Ends backend start (action.verdict entity failure)
      events final := by
  have rescued : Program.Ends backend (match action.refusal entity failure with
      | .present => return false
      | .failed failure => Program.fail failure) final (action.verdict entity failure) []
      final := by
    unfold verdict
    cases action.refusal entity failure <;> rfl
  have ends : (action.apply schema pool entity policy).Ends backend start
      (action.verdict entity failure) (events ++ []) final :=
    Program.Ends.recover_error (failed.map_error fun _ => true) rescued
  rwa [List.append_nil] at ends

theorem Failure.Reports.verdict_eq {reported : DriverError} (reports : failure.Reports reported) :
    action.verdict entity failure =
      if failure.isAccess = false then
        .error failure
      else if action.isAbsorbable = false then
        .error (.own (action.error entity failure))
      else
        match failure.isDuplicate? with
        | some true => .ok false
        | some false => .error (.own (action.error entity failure))
        | none => .error .unreadableText := by
  unfold DdlAction.verdict DdlAction.refusal
  cases reports with
  | bare => rfl
  | @wrapped error =>
      cases action.isAbsorbable with
      | false => rfl
      | true => rcases (Failure.access error).isDuplicate? with - | - | - <;> rfl

end Change

/-- A known code that is not that of a broken connection decides the classification of a failure.
Whether the failure is retried is decided by its text, and so is whether it is absorbed. -/
theorem Failure.treatment_of_known_code {failure : Failure} {reported : DriverError}
    {code : String} {info : ErrorInfo} (reports : failure.Reports reported)
    (coded : reported.code? = some code) (known : infoOfCode? code = some info)
    (other : info.kind ≠ .connection) :
    failure.classify = info ∧
      failure.isTransient? = reported.text?.map saysAborted ∧
      failure.isDuplicate? = reported.text?.map saysDuplicate ∧
      (∀ {Request : Type} {Reply : Request → Type} {State α : Type}
        (responder : Responder Request Reply State)
        (operation : Dialogue Request Reply (Except Failure α)) (policy : RetryPolicy)
        (description : String) (state : State),
        (operation.run responder state).result = .error failure →
        (Dialogue.retry policy description operation).run responder state =
          let call := operation.run responder state
          if policy.attempts ≤ 1 ∨ failure.isAccess = false then
            call
          else
            match reported.text?.map saysAborted with
            | some true =>
                call.andThen (policy.interlude call description 1)
                  ((Dialogue.attemptFrom policy description operation 2
                    (policy.attempts.toNat - 2)).run responder call.state)
            | some false => call
            | none => { call with result := .error .unreadableText }) ∧
      ∀ {State : Type} (backend : Backend State) (action : DdlAction) (schema : Schema) (pool : Nat)
        (entity : String) (policy : RetryPolicy) (start final : State)
        (events : List (Event Request Request.Reply)),
        (action.attempts schema pool policy).Ends backend start (.error failure) events final →
        (action.apply schema pool entity policy).Ends backend start
          (if failure.isAccess = false then
            .error failure
          else if action.isAbsorbable = false then
            .error (.own (action.error entity failure))
          else
            match reported.text?.map saysDuplicate with
            | some true => .ok false
            | some false => .error (.own (action.error entity failure))
            | none => .error .unreadableText)
          events final := by
  have notTransient : code ∉ transientCodes := fun member =>
    other (kind_of_transientCode member known)
  have notDuplicate : code ∉ duplicateCodes := by
    intro member
    rw [infoOfCode?_of_duplicateCode member] at known
    cases known
  have transient := reports.isTransient?_eq coded notTransient
  have duplicate := reports.isDuplicate?_eq coded notDuplicate
  refine ⟨reports.classify_eq coded known, transient, duplicate, ?_, ?_⟩
  · intro _ _ _ _ responder operation policy description state failed
    rw [← transient]
    exact Dialogue.run_retry_of_failed policy description failed
  · intro _ backend action schema pool entity policy start final events failed
    rw [← duplicate, ← reports.verdict_eq]
    exact DdlAction.apply_ends_of_failed failed

/-- A stored value makes a duplicate entry look like a constraint whose name is taken. -/
theorem Failure.treatment_of_known_code_duplicate_entry :
    let reported : DriverError :=
      { args := [.scalar (.int 1062), .scalar (.text
          "Duplicate entry \x27index already exists\x27 for key \x27posts_title_unique\x27")] }
    let failure : Failure :=
      .access { kind := .statement, label := "IntegrityError", message := "",
                driver := some reported }
    failure.classify = ⟨.integrity, "L100", "Unique constraint failed (Duplicate entry)"⟩ ∧
      failure.isTransient? = some false ∧ failure.isDuplicate? = some true := by
  intro reported failure
  have coded : reported.code? = some "1062" := by decide +kernel
  have reports : failure.Reports reported := .wrapped rfl (.inl rfl) rfl
  obtain ⟨classified, transient, duplicate, -⟩ :=
    treatment_of_known_code reports coded rfl (by decide)
  exact ⟨classified, transient.trans (by decide +kernel), duplicate.trans (by decide +kernel)⟩

end SchemaStore
