import Mathlib.Data.List.Basic
import SchemaStore.Proofs.Backend.Ending
import SchemaStore.Proofs.Backend.Retry

/-!
# Statements of an operation

Whatever a backend answers, the requests of an operation on rows are those of the statements that
it puts to the backend, one after another: queries, each attempted a number of times, and writes,
each executed once.  `Course` says so, and that a failed statement is the last one.  It is kept by
every construct that operations are made of.
-/

namespace SchemaStore

def Statement.isWrite : Statement → Bool
  | .write _ => true
  | _ => false

/-- A statement that an operation put to a backend, and what came of it. -/
inductive Issue where
  /-- A query: the attempts whose connection broke, and the last one. -/
  | read (statement : Statement) (broken : List Failure) (last : Except Failure Result)
  /-- A write that could not be executed. -/
  | unexecuted (change : Write) (failure : Failure)
  /-- A write whose result could not be made out. -/
  | unread (change : Write) (result : Result) (failure : Failure)
  | uncommitted (change : Write) (result : Result) (failure : Failure)
  | committed (change : Write) (result : Result)

namespace Issue

def isWrite : Issue → Bool
  | .read .. => false
  | _ => true

def failure? : Issue → Option Failure
  | .read _ _ (.error failure) | .unexecuted _ failure | .unread _ _ failure
  | .uncommitted _ _ failure => some failure
  | .read _ _ (.ok _) | .committed .. => none

/-- A failure of the access layer is followed by a rollback. -/
def undoing (pool : Nat) (failure : Failure) : List (Event Request Request.Reply) :=
  if failure.isAccess then [.asked (.rollback pool) ()] else []

/-- An execution of a statement, and its reply. -/
def execution (pool : Nat) (statement : Statement) (reply : Except Failure Result) :
    Event Request Request.Reply :=
  .asked (.execute pool statement) reply

/-- What a statement asks for.  A write is executed once, committed if that succeeded, and rolled
back if it failed in the access layer. -/
def requests (pool : Nat) : Issue → List (Event Request Request.Reply)
  | .read statement broken last =>
      broken.map (fun failure => execution pool statement (.error failure)) ++
        [execution pool statement last]
  | .unexecuted change failure =>
      execution pool (.write change) (.error failure) :: undoing pool failure
  | .unread change result failure =>
      execution pool (.write change) (.ok result) :: undoing pool failure
  | .uncommitted change result failure =>
      execution pool (.write change) (.ok result) ::
        .asked (.commit pool) (.error failure : Except Failure Unit) :: undoing pool failure
  | .committed change result =>
      [execution pool (.write change) (.ok result),
        .asked (.commit pool) (.ok () : Except Failure Unit)]

/-- A query is attempted at most so many times, and again just after its connection broke. -/
def Proper (limit : Nat) : Issue → Prop
  | .read statement broken last =>
      statement.isWrite = false ∧ broken.length < limit ∧
        (∀ failure ∈ broken, failure.isAccess = true ∧ failure.isTransient? = some true) ∧
        ∀ failure, last = .error failure → failure.aftermath = .retry → broken.length + 1 = limit
  | _ => True

/-- What an operation fails with if a statement does.  A failure of the access layer becomes the
error that stands for it.  Only a query that may be attempted again, and whose failure has a text
that cannot be taken, leads to another failure. -/
def surfaced (limit : Nat) (issue : Issue) (failure : Failure) : Failure :=
  if failure.isAccess then
    match issue with
    | .read _ broken _ =>
        if broken.length + 1 < limit ∧ failure.isTransient? = none then .unreadableText
        else .own failure.toStoreError
    | _ => .own failure.toStoreError
  else failure

end Issue

/-- The requests of an operation are those of statements, of which at most so many are writes.
Only the last statement can fail, and then the operation fails with it. -/
structure Course (model : Model) (writes : Nat) {α : Type} (outcome : Except Failure α)
    (events : List (Event Request Request.Reply)) (issues : List Issue) : Prop where
  asked : asked events = issues.flatMap (Issue.requests model.pool)
  proper : ∀ issue ∈ issues, issue.Proper model.readPolicy.limit
  onward : ∀ issue ∈ issues.dropLast, issue.failure? = none
  surfaces : ∀ issue failure, issues.getLast? = some issue → issue.failure? = some failure →
    outcome = .error (issue.surfaced model.readPolicy.limit failure)
  once : issues.countP Issue.isWrite ≤ writes

namespace Course

variable {α β : Type} {model : Model} {writes moreWrites : Nat} {outcome : Except Failure α}
  {events more : List (Event Request Request.Reply)} {issues others : List Issue}

theorem nil (model : Model) (outcome : Except Failure α) : Course model 0 outcome [] [] where
  asked := rfl
  proper := List.forall_mem_nil _
  onward := List.forall_mem_nil _
  surfaces := by rintro issue failure ⟨⟩
  once := Nat.le_refl 0

theorem single {issue : Issue} (requests : SchemaStore.asked events = issue.requests model.pool)
    (proper : issue.Proper model.readPolicy.limit)
    (surfaces : ∀ failure, issue.failure? = some failure →
      outcome = .error (issue.surfaced model.readPolicy.limit failure)) :
    Course model issue.isWrite.toNat outcome events [issue] where
  asked := by rw [requests, List.flatMap_singleton]
  proper := List.forall_mem_singleton.mpr proper
  onward := List.forall_mem_nil _
  surfaces := by
    rintro last failure ⟨⟩ failed
    exact surfaces failure failed
  once := by cases isWrite : issue.isWrite <;> simp [isWrite]

/-- An operation that gave a result had no statement that failed. -/
theorem failure?_eq_none {a : α} (course : Course model writes (.ok a) events issues) :
    ∀ issue ∈ issues, issue.failure? = none := by
  obtain rfl | ⟨earlier, last, rfl⟩ := List.eq_nil_or_concat' issues
  · exact List.forall_mem_nil _
  · refine List.forall_mem_append.mpr ⟨by simpa using course.onward, ?_⟩
    refine List.forall_mem_singleton.mpr (Option.eq_none_iff_forall_ne_some.mpr ?_)
    intro failure failed
    cases course.surfaces last failure List.getLast?_concat failed

/-- One operation after another that gave a result. -/
theorem append {a : β} (first : Course model writes (.ok a) events issues)
    (second : Course model moreWrites outcome more others) :
    Course model (writes + moreWrites) outcome (events ++ more) (issues ++ others) where
  asked := by rw [asked_append, first.asked, second.asked, List.flatMap_append]
  proper := List.forall_mem_append.mpr ⟨first.proper, second.proper⟩
  onward := by
    intro issue member
    obtain rfl | some := eq_or_ne others []
    · rw [List.append_nil] at member
      exact first.onward issue member
    · rw [List.dropLast_append_of_ne_nil some] at member
      exact (List.mem_append.mp member).elim (first.failure?_eq_none issue) (second.onward issue)
  surfaces := by
    intro issue failure last failed
    rw [List.getLast?_append] at last
    cases lastOther : others.getLast? with
    | some other =>
        rw [lastOther] at last
        exact second.surfaces issue failure (lastOther.trans last) failed
    | none =>
        rw [lastOther] at last
        have succeeded := first.failure?_eq_none issue (List.mem_of_getLast? last)
        rw [succeeded] at failed
        cases failed
  once := by
    rw [List.countP_append]
    exact Nat.add_le_add first.once second.once

theorem error {failure : Failure} (course : Course model writes (.error failure : Except Failure α)
    events issues) : Course model writes (.error failure : Except Failure β) events issues :=
  { course with
    surfaces := by
      intro issue cause last failed
      cases course.surfaces issue cause last failed
      rfl }

theorem mono (course : Course model writes outcome events issues) (more : writes ≤ moreWrites) :
    Course model moreWrites outcome events issues :=
  { course with once := Nat.le_trans course.once more }

end Course

/-- However it is answered, a program puts statements to the backend in their course. -/
def Program.Issues {α : Type} (model : Model) (writes : Nat) (program : Program α) : Prop :=
  ∀ (State : Type) (backend : Backend State) (start final : State) (outcome : Except Failure α)
    (events : List (Event Request Request.Reply)),
    program.Ends backend start outcome events final →
      ∃ issues, Course model writes outcome events issues

namespace Program.Issues

variable {α β : Type} {model : Model} {writes moreWrites : Nat}

theorem ofResult (result : Except Failure α) : (Program.ofResult result).Issues model 0 := by
  intro State backend start final outcome events ends
  obtain ⟨-, -, rfl⟩ := ends.of_ofResult
  exact ⟨[], .nil model outcome⟩

theorem mono {program : Program α} (issues : program.Issues model writes)
    (more : writes ≤ moreWrites) : program.Issues model moreWrites := by
  intro State backend start final outcome events ends
  obtain ⟨issued, course⟩ := issues State backend start final outcome events ends
  exact ⟨issued, course.mono more⟩

theorem bind {program : Program α} {next : α → Program β} (issues : program.Issues model writes)
    (goesOn : ∀ a, (next a).Issues model moreWrites) :
    (program >>= next).Issues model (writes + moreWrites) := by
  intro State backend start final outcome events ends
  rcases ends.bind_cases with ⟨failure, rfl, held⟩ | ⟨a, between, first, second, held, rest, rfl⟩
  · obtain ⟨issued, course⟩ := issues State backend start final _ events held
    exact ⟨issued, course.error.mono (Nat.le_add_right ..)⟩
  · obtain ⟨issued, course⟩ := issues State backend start between _ first held
    obtain ⟨others, onward⟩ := goesOn a State backend between final outcome second rest
    exact ⟨issued ++ others, course.append onward⟩

theorem read_bind {program : Program α} {next : α → Program β} (issues : program.Issues model 0)
    (goesOn : ∀ a, (next a).Issues model writes) : (program >>= next).Issues model writes :=
  (issues.bind goesOn).mono (Nat.le_of_eq (Nat.zero_add writes))

theorem bind_read {program : Program α} {next : α → Program β}
    (issues : program.Issues model writes) (reads : ∀ a, (next a).Issues model 0) :
    (program >>= next).Issues model writes :=
  issues.bind reads

theorem ite {condition : Prop} [Decidable condition] {program other : Program α}
    (issues : program.Issues model writes) (otherwise : other.Issues model writes) :
    (if condition then program else other).Issues model writes := by
  split
  · exact issues
  · exact otherwise

end Program.Issues

namespace Model

variable {α : Type} {State : Type} {backend : Backend State} {model : Model} {start final : State}
  {events : List (Event Request Request.Reply)}

section Reading

variable {statement : Statement} {f : Result → α} {outcome : Except Failure α}

def query (model : Model) (statement : Statement) (f : Result → α) : Program α := do
  let result ← model.execute statement
  return f result

theorem ends_of_query (ends : (model.query statement f).Ends backend start outcome events final) :
    ∃ reply, events = [Issue.execution model.pool statement reply] ∧ outcome = f <$> reply := by
  rcases ends.bind_cases with
    ⟨failure, rfl, held⟩ | ⟨result, between, first, second, held, rest, rfl⟩
  · obtain ⟨-, rfl⟩ := ends_of_execute held
    exact ⟨.error failure, rfl, rfl⟩
  · obtain ⟨-, rfl⟩ := ends_of_execute held
    cases rest
    exact ⟨.ok result, rfl, rfl⟩

/-- The attempts at a query, and how they end. -/
theorem issue_of_repeats (isQuery : statement.isWrite = false) {retries : Nat}
    (repeated : Repeats backend (model.query statement f).session retries start outcome events
      final) :
    ∃ broken last, asked events = (Issue.read statement broken last).requests model.pool ∧
      (Issue.read statement broken last).Proper (retries + 1) ∧
      Concluded (broken.length == retries) (f <$> last) outcome := by
  induction repeated with
  | @last retries _ _ _ _ _ held concluded =>
      obtain ⟨reply, rfl, rfl⟩ := ends_of_query held
      have same : (0 == retries) = (retries == 0) := BEq.comm
      refine ⟨[], reply, rfl, ⟨isQuery, Nat.succ_pos retries, List.forall_mem_nil _, ?_⟩, ?_⟩
      · rintro failure rfl retry
        cases concluded with
        | exhausted _ none =>
            rw [eq_of_beq none]
            rfl
        | gaveUp _ other _ gives => cases retry.symm.trans gives
      · rw [List.length_nil, same]
        exact concluded
  | @again retries _ _ _ failure _ _ _ held broken _ induction =>
      obtain ⟨reply, rfl, failed⟩ := ends_of_query held
      obtain ⟨others, last, requests, ⟨-, bounded, transient, stopped⟩, concluded⟩ := induction
      cases reply with
      | ok result => cases failed
      | error cause =>
          cases failed
          refine ⟨failure :: others, last, ?_, ⟨isQuery, Nat.succ_lt_succ bounded, ?_, ?_⟩, ?_⟩
          · rw [asked_append, requests]
            rfl
          · exact List.forall_mem_cons.mpr ⟨Failure.broken_of_aftermath broken, transient⟩
          · intro cause same retry
            exact congrArg Nat.succ (stopped cause same retry)
          · simpa using concluded

def reported (failure : Failure) : Failure :=
  if failure.isAccess then .own failure.toStoreError else failure

/-- A query whose attempts ended with a failure ended with one itself, which surfaces. -/
theorem surfaced_of_concluded {broken : List Failure} {last : Except Failure Result}
    {failure : Failure} {retries : Nat}
    (proper : (Issue.read statement broken last).Proper (retries + 1))
    (concluded : Concluded (broken.length == retries) (f <$> last) (.error failure)) :
    ∃ cause, last = .error cause ∧
      reported failure = (Issue.read statement broken last).surfaced (retries + 1) cause := by
  cases last with
  | ok result => cases concluded
  | error cause =>
      refine ⟨cause, rfl, ?_⟩
      cases concluded with
      | exhausted _ spent =>
          have noneLeft : ¬(broken.length + 1 < retries + 1 ∧ failure.isTransient? = none) := by
            rintro ⟨left, -⟩
            rw [eq_of_beq spent] at left
            exact Nat.lt_irrefl _ left
          rw [Issue.surfaced, if_neg noneLeft]
          rfl
      | gaveUp cause other left gives =>
          have short : broken.length + 1 < retries + 1 :=
            Nat.lt_of_le_of_ne proper.2.1 fun same => by simp at left; omega
          unfold reported Issue.surfaced
          rcases Failure.giveUp_cases gives with ⟨foreign, rfl⟩ | ⟨access, known⟩
          · simp [foreign]
          · rcases known with ⟨lasting, rfl⟩ | ⟨unreadable, rfl⟩
            · simp [access, lasting]
            · have own : Failure.unreadableText.isAccess = false := rfl
              simp [access, own, short, unreadable]

theorem ends_of_report {words : String} {failure : Failure}
    (ends : (if failure.isAccess then giveUp words failure else Program.fail failure :
      Program α).Ends backend start outcome events final) :
    outcome = .error (reported failure) ∧ final = start ∧ asked events = [] := by
  unfold reported
  split at ends
  · next access =>
    obtain ⟨rfl, rfl, _, rfl⟩ := ends_of_giveUp ends
    exact ⟨by rw [if_pos access], rfl, rfl⟩
  · next foreign =>
    obtain ⟨rfl, rfl, rfl⟩ := ends.of_ofResult
    exact ⟨by rw [if_neg foreign], rfl, rfl⟩

/-- A reading puts one query to the backend, as often as the settings allow. -/
theorem issues_read (isQuery : statement.isWrite = false) :
    (model.read (model.query statement f)).Issues model 0 := by
  intro State backend start final outcome events ends
  have limit : model.readPolicy.limit - 1 + 1 = model.readPolicy.limit := by
    rw [← model.readPolicy.retries_succ, Nat.add_sub_cancel]
  rcases ends.recover_cases with ⟨a, rfl, held⟩ | ⟨failure, between, first, second, held, rest, rfl⟩
  · obtain ⟨tried, repeated, same⟩ := repeats_of_retry held
    obtain ⟨broken, last, requests, proper, concluded⟩ := issue_of_repeats isQuery repeated
    rw [limit] at proper
    refine ⟨_, .single (same.trans requests) proper fun failure failed => ?_⟩
    cases last with
    | ok result => cases failed
    | error cause => cases concluded
  · obtain ⟨rfl, rfl, quiet⟩ := ends_of_report rest
    obtain ⟨tried, repeated, same⟩ := repeats_of_retry held
    obtain ⟨broken, last, requests, proper, concluded⟩ := issue_of_repeats isQuery repeated
    obtain ⟨cause, rfl, surfaces⟩ := surfaced_of_concluded proper concluded
    rw [limit] at proper surfaces
    refine ⟨_, .single ?_ proper fun failure failed => ?_⟩
    · rw [asked_append, quiet, List.append_nil, same, requests]
    · cases failed
      rw [surfaces]

theorem issues_fetch (model : Model) (query : Select) (includes : List Include) :
    (model.fetch query includes).Issues model 0 :=
  issues_read rfl

theorem issues_fetchScalar (model : Model) (isQuery : statement.isWrite = false) :
    (model.fetchScalar statement).Issues model 0 :=
  issues_read isQuery

end Reading

section Writing

variable {change : Write} {extract : Result → Except Failure α} {words : String}
  {outcome : Except Failure α}

/-- A write that is attempted is put to the backend once; it lacks a rollback if it failed. -/
theorem issue_of_attempt (ends : Program.Ends backend
      (do
        let result ← model.execute (.write change)
        let value ← Program.ofResult (extract result)
        model.commit
        return value)
      start outcome events final) :
    ∃ issue : Issue, issue.isWrite = true ∧
      match outcome with
      | .ok _ => issue.failure? = none ∧ asked events = issue.requests model.pool
      | .error failure => issue.failure? = some failure ∧
          asked events ++ Issue.undoing model.pool failure = issue.requests model.pool := by
  rcases ends.bind_cases with ⟨failure, rfl, held⟩ | ⟨result, between, _, _, held, rest, rfl⟩
  · obtain ⟨-, rfl⟩ := ends_of_execute held
    exact ⟨.unexecuted change failure, rfl, rfl, rfl⟩
  · obtain ⟨-, rfl⟩ := ends_of_execute held
    rcases rest.ofResult_bind_cases with ⟨failure, -, rfl, rfl, rfl⟩ | ⟨value, -, committing⟩
    · exact ⟨.unread change result failure, rfl, rfl, rfl⟩
    · rcases committing.bind_cases with ⟨failure, rfl, held⟩ | ⟨⟨⟩, _, _, _, held, given, rfl⟩
      · obtain ⟨-, rfl⟩ := ends_of_commit held
        exact ⟨.uncommitted change result failure, rfl, rfl, rfl⟩
      · obtain ⟨-, rfl⟩ := ends_of_commit held
        cases given
        exact ⟨.committed change result, rfl, rfl, rfl⟩

theorem surfaced_of_isWrite {issue : Issue} (isWrite : issue.isWrite = true) (limit : Nat)
    (failure : Failure) : issue.surfaced limit failure = reported failure := by
  cases issue with
  | read => cases isWrite
  | unexecuted | unread | uncommitted | committed => rfl

theorem ends_of_undo {failure : Failure}
    (ends : Program.Ends backend
      (if failure.isAccess then do
        model.rollback
        giveUp words failure
      else Program.fail failure : Program α) start outcome events final) :
    outcome = .error (reported failure) ∧ asked events = Issue.undoing model.pool failure := by
  unfold reported Issue.undoing
  split at ends
  · next access =>
    rcases ends.bind_cases with ⟨cause, rfl, held⟩ | ⟨⟨⟩, _, _, _, held, reporting, rfl⟩
    · obtain ⟨-, -, same⟩ := ends_of_rollback held
      cases same
    · obtain ⟨-, rfl, -⟩ := ends_of_rollback held
      obtain ⟨rfl, -, _, rfl⟩ := ends_of_giveUp reporting
      rw [if_pos access, if_pos access]
      exact ⟨rfl, rfl⟩
  · next foreign =>
    obtain ⟨rfl, -, rfl⟩ := ends.of_ofResult
    rw [if_neg foreign, if_neg foreign]
    exact ⟨rfl, rfl⟩

/-- A write is put to the backend once, whatever is made of its result. -/
theorem issues_write (model : Model) (change : Write) (extract : Result → Except Failure α)
    (words : String) : (model.write change extract words).Issues model 1 := by
  intro State backend start final outcome events ends
  have proper {issue : Issue} (isWrite : issue.isWrite = true) :
      issue.Proper model.readPolicy.limit := by
    cases issue with
    | read => cases isWrite
    | unexecuted | unread | uncommitted | committed => trivial
  rcases ends.recover_cases with ⟨a, rfl, held⟩ | ⟨failure, between, first, second, held, rest, rfl⟩
  · obtain ⟨issue, isWrite, succeeded, requests⟩ := issue_of_attempt held
    have course : Course model issue.isWrite.toNat (.ok a) events [issue] :=
      .single requests (proper isWrite) (by rw [succeeded]; rintro failure ⟨⟩)
    exact ⟨_, isWrite ▸ course⟩
  · obtain ⟨issue, isWrite, failed, requests⟩ := issue_of_attempt held
    obtain ⟨rfl, undone⟩ := ends_of_undo rest
    have course : Course model issue.isWrite.toNat (.error (reported failure) : Except Failure α)
        (first ++ second) [issue] := by
      refine .single ?_ (proper isWrite) fun cause same => ?_
      · rw [asked_append, undone, requests]
      · cases failed.symm.trans same
        rw [surfaced_of_isWrite isWrite]
    exact ⟨_, isWrite ▸ course⟩

end Writing

end Model

end SchemaStore
