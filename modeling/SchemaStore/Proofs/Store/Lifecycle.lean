import SchemaStore.Backend.Script
import SchemaStore.Proofs.Reconciliation.Locking
import SchemaStore.Proofs.Schema.Valid
import SchemaStore.Store

/-!
# The lifecycle of a store

A store is used by any sequence of calls, held with any backend.  `Store.Consistent` is what
every call preserves as long as the defaults of the schema can be read: the store is connected
exactly when the answers say so, and just its own pool is left open.
-/

namespace SchemaStore

/-- The pools that are open after an event, of those that were open before it. -/
def Event.openAfter (opened : List Nat) : Event Request Request.Reply → List Nat
  | .asked (.openPool ..) (.ok pool : Except Failure Nat) => pool :: opened
  | .asked (.disposePool pool) _ => opened.filter (· != pool)
  | _ => opened

/-- The pools that were opened and not disposed of. -/
def leftOpen (events : List (Event Request Request.Reply)) : List Nat :=
  events.foldl Event.openAfter []

theorem leftOpen_append (events more : List (Event Request Request.Reply)) :
    leftOpen (events ++ more) = more.foldl Event.openAfter (leftOpen events) :=
  List.foldl_append

/-- An event that neither opens a pool nor disposes of one. -/
def Event.KeepsPools (event : Event Request Request.Reply) : Prop :=
  ∀ opened, event.openAfter opened = opened

theorem foldl_openAfter {events : List (Event Request Request.Reply)}
    (keep : ∀ event ∈ events, event.KeepsPools) (opened : List Nat) :
    events.foldl Event.openAfter opened = opened := by
  induction events generalizing opened with
  | nil => rfl
  | cons event rest induction =>
      obtain ⟨keeps, others⟩ := List.forall_mem_cons.mp keep
      rw [List.foldl_cons, keeps, induction others]

namespace Reconciler

variable {State : Type} {backend : Backend State} {reconciler : Reconciler}

theorem keepsPools_of_body {start final : Progress × State} {ended : Except Failure Unit}
    {events : List (Event Request Request.Reply)}
    (work : reconciler.body.Ends backend start ended events final) :
    ∀ event ∈ events, event.KeepsPools := by
  intro event member
  cases event with
  | paused | noted => exact fun _ => rfl
  | asked request reply =>
      have same : ((reconciler.body.hold start.1).run backend start.2).events = events :=
        congrArg Transcript.events work
      rw [← same] at member
      cases (reconciler.body_only start.1).of_run member <;> exact fun _ => rfl

/-- A run works with the pool that it is given. -/
theorem keepsPools_of_run {state final : State} {result : Except RunFailure RunReport}
    {events : List (Event Request Request.Reply)}
    (ran : reconciler.run.run backend state = ⟨result, events, final⟩) :
    ∀ event ∈ events, event.KeepsPools := by
  obtain ⟨ended, progress, held, -⟩ := held_of_run ran
  cases held with
  | free _ work => exact keepsPools_of_body work
  | unanswered | refused => exact List.forall_mem_singleton.mpr fun _ => rfl
  | granted _ _ work =>
      refine List.forall_mem_cons.mpr ⟨fun _ => rfl, List.forall_mem_append.mpr ⟨?_, ?_⟩⟩
      · exact keepsPools_of_body work
      · exact List.forall_mem_singleton.mpr fun _ => rfl

end Reconciler

namespace Store

variable {State : Type} {backend : Backend State} {store after : Store} {state final : State}
  {events : List (Event Request Request.Reply)}

def openRequest (store : Store) : Request :=
  .openPool store.schema.datasource store.settings

/-- How a store is connected: what that ends with, the store afterwards, and what happens. -/
inductive Connects (store : Store) :
    Except Failure Unit → Store → List (Event Request Request.Reply) → Prop where
  | already {pool : Nat} (connected : store.pool = some pool) : Connects store (.ok ()) store []
  | unopened {failure : Failure} (closed : store.pool = none) :
      Connects store (.error failure) store
        [.asked store.openRequest (.error failure : Except Failure Nat)]
  /-- A pool that cannot be used is disposed of. -/
  | unreachable {pool : Nat} {failure : Failure} (closed : store.pool = none) :
      Connects store (.error (connectionFailure failure)) store
        [.asked store.openRequest (.ok pool : Except Failure Nat),
          .asked (.ping pool) (.error failure : Except Failure Unit),
          .asked (.disposePool pool) ()]
  /-- The pool is kept, also if the schema has a default that cannot be read. -/
  | opened {pool : Nat} (closed : store.pool = none) :
      Connects store store.schema.checkDefaults { store with pool := some pool }
        [.asked store.openRequest (.ok pool : Except Failure Nat),
          .asked (.ping pool) (.ok () : Except Failure Unit)]

theorem connects_of_run {outcome : Except Failure Unit}
    (ran : store.connect.run backend state = ⟨(outcome, after), events, final⟩) :
    store.Connects outcome after events := by
  unfold connect at ran
  cases connected : store.pool with
  | some pool =>
      rw [connected] at ran
      cases ran
      exact .already connected
  | none =>
      rw [connected] at ran
      obtain ⟨reply, _, between, more, asked, rest, rfl⟩ := Dialogue.exists_of_run_bind ran
      obtain ⟨-, rfl⟩ := Dialogue.answer_of_run_request asked
      cases reply with
      | error failure =>
          cases rest
          exact .unopened connected
      | ok pool =>
          obtain ⟨answer, _, _, _, pinged, ending, rfl⟩ := Dialogue.exists_of_run_bind rest
          obtain ⟨-, rfl⟩ := Dialogue.answer_of_run_request pinged
          cases answer with
          | ok =>
              cases ending
              exact .opened connected
          | error failure =>
              cases ending
              exact .unreachable connected

theorem run_close_of_open {pool : Nat} (connected : store.pool = some pool) :
    store.close.run backend state =
      ⟨{ store with pool := none }, [.asked (.disposePool pool) ()],
        (backend (.disposePool pool) state).2⟩ := by
  unfold close
  rw [connected]
  rfl

/-- What a store can be used for. -/
inductive Call where
  | connect
  | close
  | model (name : String)
  | reconcile

inductive Answer where
  | connected (outcome : Except Failure Unit)
  | closed
  | model (found : Except Failure Model)
  | reconciled (outcome : Except RunFailure RunReport)

def perform (store : Store) : Call → Session (Answer × Store)
  | .connect => do
      let (outcome, store) ← store.connect
      return (.connected outcome, store)
  | .close => do
      let store ← store.close
      return (.closed, store)
  | .model name => return (.model (store.model name), store)
  | .reconcile => do
      let outcome ← store.reconcile
      return (.reconciled outcome, store)

def performAll (store : Store) : List Call → Session (List Answer × Store)
  | [] => return ([], store)
  | call :: rest => do
      let (answer, store) ← store.perform call
      let (answers, store) ← store.performAll rest
      return (answer :: answers, store)

/-- Among the answers of a store, connecting it succeeded after it was closed for the last time. -/
def ConnectedBy (answers : List Answer) : Prop :=
  ∃ before after, answers = before ++ .connected (.ok ()) :: after ∧ .closed ∉ after

theorem connectedBy_concat {answers : List Answer} {answer : Answer} :
    ConnectedBy (answers ++ [answer]) ↔
      answer = .connected (.ok ()) ∨ ConnectedBy answers ∧ answer ≠ .closed := by
  constructor
  · rintro ⟨before, after, split, notClosed⟩
    rcases List.eq_nil_or_concat after with rfl | ⟨others, last, rfl⟩
    · obtain ⟨-, same⟩ := List.append_inj' split rfl
      exact .inl (List.singleton_inj.mp same)
    · rw [List.concat_eq_append, ← List.cons_append, ← List.append_assoc] at split
      obtain ⟨rfl, same⟩ := List.append_inj' split rfl
      obtain rfl := List.singleton_inj.mp same
      simp only [List.concat_eq_append, List.mem_append, List.mem_singleton, not_or] at notClosed
      exact .inr ⟨⟨before, others, rfl, notClosed.1⟩, Ne.symm notClosed.2⟩
  · rintro (rfl | ⟨⟨before, after, rfl, notClosed⟩, other⟩)
    · exact ⟨answers, [], rfl, List.not_mem_nil⟩
    · refine ⟨before, after ++ [answer], by simp, ?_⟩
      simp [notClosed, Ne.symm other]

/-- What holds of a store between calls, with the answers that were given and the events that took
place up to then. -/
structure Consistent (schema : Schema) (settings : Settings) (answers : List Answer)
    (events : List (Event Request Request.Reply)) (store : Store) : Prop where
  schema : store.schema = schema
  settings : store.settings = settings
  connected : store.isConnected = true ↔ ConnectedBy answers
  pools : leftOpen events = store.pool.toList

section Calls

variable {schema : Schema} {settings : Settings} {answers : List Answer}
  {more : List (Event Request Request.Reply)}

/-- An answer that neither connects the store nor closes it leaves all as it is, if no pool is
opened or disposed of. -/
theorem Consistent.keep {answer : Answer}
    (consistent : Consistent schema settings answers events store)
    (notConnecting : answer ≠ .connected (.ok ())) (notClosing : answer ≠ .closed)
    (pools : leftOpen (events ++ more) = leftOpen events) :
    Consistent schema settings (answers ++ [answer]) (events ++ more) store where
  schema := consistent.schema
  settings := consistent.settings
  connected := by
    rw [connectedBy_concat, consistent.connected]
    exact ⟨fun connected => .inr ⟨connected, notClosing⟩,
      fun given => (given.resolve_left notConnecting).1⟩
  pools := pools.trans consistent.pools

theorem Consistent.connect {outcome : Except Failure Unit}
    (readable : schema.checkDefaults = .ok ())
    (consistent : Consistent schema settings answers events store)
    (connects : store.Connects outcome after more) :
    Consistent schema settings (answers ++ [.connected outcome]) (events ++ more) after := by
  have failed {failure : Failure} : Answer.connected (.error failure) ≠ .connected (.ok ()) := nofun
  cases connects with
  | already connected =>
      have stays : store.isConnected = true := by rw [isConnected, connected]; rfl
      rw [List.append_nil]
      exact { consistent with
        connected := iff_of_true stays (connectedBy_concat.mpr (.inl rfl)) }
  | unopened closed =>
      exact consistent.keep failed nofun (leftOpen_append ..)
  | @unreachable pool failure closed =>
      refine consistent.keep failed nofun ?_
      have none : leftOpen events = [] := by rw [consistent.pools, closed]; rfl
      have disposed : [pool].filter (· != pool) = [] := by simp
      rw [leftOpen_append, none]
      exact disposed
  | @opened pool closed =>
      have none : leftOpen events = [] := by rw [consistent.pools, closed]; rfl
      refine ⟨consistent.schema, consistent.settings, ?_, ?_⟩
      · rw [consistent.schema, readable]
        exact iff_of_true rfl (connectedBy_concat.mpr (.inl rfl))
      · rw [leftOpen_append, none]
        rfl

theorem Consistent.close (consistent : Consistent schema settings answers events store)
    (ran : store.close.run backend state = ⟨after, more, final⟩) :
    Consistent schema settings (answers ++ [.closed]) (events ++ more) after := by
  have notConnected : ¬ConnectedBy (answers ++ [.closed]) := by
    rw [connectedBy_concat]
    simp
  cases opened : store.pool with
  | none =>
      unfold Store.close at ran
      rw [opened] at ran
      cases ran
      rw [List.append_nil]
      have closed : store.isConnected = false := by rw [isConnected, opened]; rfl
      exact { consistent with
        connected := iff_of_false (Bool.eq_false_iff.mp closed) notConnected }
  | some pool =>
      rw [run_close_of_open opened] at ran
      cases ran
      refine ⟨consistent.schema, consistent.settings, iff_of_false nofun notConnected, ?_⟩
      rw [leftOpen_append, consistent.pools, opened]
      simp [Event.openAfter]

/-- A run of the reconciler leaves the pools as they are. -/
theorem keepsPools_of_reconcile {outcome : Except RunFailure RunReport}
    (ran : store.reconcile.run backend state = ⟨outcome, more, final⟩) :
    ∀ event ∈ more, event.KeepsPools := by
  unfold reconcile at ran
  cases connected : store.requirePool with
  | error failure =>
      rw [connected] at ran
      cases ran
      exact List.forall_mem_nil _
  | ok pool =>
      rw [connected] at ran
      dsimp only at ran
      exact Reconciler.keepsPools_of_run ran

theorem Consistent.reconcile {outcome : Except RunFailure RunReport}
    (consistent : Consistent schema settings answers events store)
    (ran : store.reconcile.run backend state = ⟨outcome, more, final⟩) :
    Consistent schema settings (answers ++ [.reconciled outcome]) (events ++ more) store := by
  refine consistent.keep nofun nofun ?_
  rw [leftOpen_append, foldl_openAfter (keepsPools_of_reconcile ran)]

theorem Consistent.perform {call : Call} {answer : Answer}
    (readable : schema.checkDefaults = .ok ())
    (consistent : Consistent schema settings answers events store)
    (ran : (store.perform call).run backend state = ⟨(answer, after), more, final⟩) :
    Consistent schema settings (answers ++ [answer]) (events ++ more) after := by
  cases call with
  | connect =>
      obtain ⟨⟨outcome, connected⟩, _, _, _, ran, given, rfl⟩ := Dialogue.exists_of_run_bind ran
      cases given
      rw [List.append_nil]
      exact consistent.connect readable (connects_of_run ran)
  | close =>
      obtain ⟨closed, _, _, _, ran, given, rfl⟩ := Dialogue.exists_of_run_bind ran
      cases given
      rw [List.append_nil]
      exact consistent.close ran
  | model name =>
      cases ran
      exact consistent.keep nofun nofun (leftOpen_append ..)
  | reconcile =>
      obtain ⟨outcome, _, _, _, ran, given, rfl⟩ := Dialogue.exists_of_run_bind ran
      cases given
      rw [List.append_nil]
      exact consistent.reconcile ran

/-- Any sequence of calls leaves a store consistent. -/
theorem Consistent.performAll {calls : List Call} {others : List Answer}
    (readable : schema.checkDefaults = .ok ())
    (consistent : Consistent schema settings answers events store)
    (ran : (store.performAll calls).run backend state = ⟨(others, after), more, final⟩) :
    Consistent schema settings (answers ++ others) (events ++ more) after := by
  induction calls generalizing store answers events state others more with
  | nil =>
      cases ran
      simpa using consistent
  | cons call rest induction =>
      obtain ⟨⟨answer, next⟩, first, _, _, performed, later, rfl⟩ := Dialogue.exists_of_run_bind ran
      obtain ⟨⟨rest, last⟩, second, _, _, ranOn, given, rfl⟩ := Dialogue.exists_of_run_bind later
      cases given
      have whole := induction (consistent.perform readable performed) ranOn
      simpa using whole

theorem pool_eq_none_iff : store.pool = none ↔ store.isConnected = false := by
  unfold isConnected
  cases store.pool <;> simp

end Calls

/-- If only a default cannot be read, connecting a store fails and yet leaves it connected, without
a model for any entity. -/
theorem Connects.unreadable {outcome : Except Failure Unit} {failure : Failure}
    (connects : store.Connects outcome after events) (closed : store.pool = none)
    (connected : after.isConnected = true)
    (unreadable : store.schema.checkDefaults = .error failure) :
    outcome = .error failure ∧ ∀ entity name, store.schema.entity name = .ok entity →
      after.model name = .error .missingKey := by
  cases connects with
  | already opened => cases closed.symm.trans opened
  | unopened | unreachable =>
      rw [pool_eq_none_iff.mp closed] at connected
      cases connected
  | @opened pool _ =>
      refine ⟨unreadable, fun entity name declared => ?_⟩
      have required : requirePool { store with pool := some pool } = .ok pool := rfl
      rw [model, required, unreadable, declared]
      rfl

end Store
end SchemaStore
