import SchemaStore.Log
import SchemaStore.Value

/-!
# Dialogues

A `Dialogue` is a computation that asks for replies, pauses, and notes what it
does.  It does not know who answers: `Dialogue.run` holds it with a responder
and keeps the events in order.
-/

namespace SchemaStore

/-- A computation that depends on replies to its requests. -/
inductive Dialogue (Request : Type) (Reply : Request → Type) (α : Type) where
  | done (result : α)
  | ask (request : Request) (next : Reply request → Dialogue Request Reply α)
  /-- Wait for some seconds. -/
  | pause (delay : Scalar) (next : Dialogue Request Reply α)
  | note (entry : LogEntry) (next : Dialogue Request Reply α)

/-- What happens in a dialogue. -/
inductive Event (Request : Type) (Reply : Request → Type) where
  | asked (request : Request) (reply : Reply request)
  | paused (delay : Scalar)
  | noted (entry : LogEntry)

/-- Someone who answers requests and remembers a state. -/
abbrev Responder (Request : Type) (Reply : Request → Type) (State : Type) :=
  (request : Request) → State → Reply request × State

/-- A dialogue as it was held. -/
structure Transcript (Request : Type) (Reply : Request → Type) (State α : Type) where
  result : α
  events : List (Event Request Reply)
  state : State

namespace Dialogue

variable {Request : Type} {Reply : Request → Type} {State α β γ : Type}

/-- Go on with the result of a dialogue. -/
def bind : Dialogue Request Reply α → (α → Dialogue Request Reply β) →
    Dialogue Request Reply β
  | .done result, next => next result
  | .ask request rest, next => .ask request fun reply => (rest reply).bind next
  | .pause delay rest, next => .pause delay (rest.bind next)
  | .note entry rest, next => .note entry (rest.bind next)

instance : Monad (Dialogue Request Reply) where
  pure := .done
  bind := bind

/-- Ask for one reply. -/
def request (request : Request) : Dialogue Request Reply (Reply request) :=
  .ask request .done

/-- Wait for some seconds. -/
def wait (delay : Scalar) : Dialogue Request Reply Unit :=
  .pause delay (.done ())

/-- Note something. -/
def log (level : LogLevel) (message : String) : Dialogue Request Reply Unit :=
  .note ⟨level, message⟩ (.done ())

/-- Hold a dialogue with a responder. -/
def run (responder : Responder Request Reply State) :
    Dialogue Request Reply α → State → Transcript Request Reply State α
  | .done result, state => ⟨result, [], state⟩
  | .ask request next, state =>
      let (reply, state) := responder request state
      let rest := (next reply).run responder state
      { rest with events := .asked request reply :: rest.events }
  | .pause delay next, state =>
      let rest := next.run responder state
      { rest with events := .paused delay :: rest.events }
  | .note entry next, state =>
      let rest := next.run responder state
      { rest with events := .noted entry :: rest.events }

theorem bind_done (dialogue : Dialogue Request Reply α) : dialogue.bind .done = dialogue := by
  induction dialogue with
  | done => rfl
  | ask request rest ih => simp only [bind, ih]
  | pause delay rest ih => simp only [bind, ih]
  | note entry rest ih => simp only [bind, ih]

theorem bind_assoc (dialogue : Dialogue Request Reply α)
    (second : α → Dialogue Request Reply β) (third : β → Dialogue Request Reply γ) :
    (dialogue.bind second).bind third = dialogue.bind fun result => (second result).bind third := by
  induction dialogue with
  | done => rfl
  | ask request rest ih => simp only [bind, ih]
  | pause delay rest ih => simp only [bind, ih]
  | note entry rest ih => simp only [bind, ih]

instance : LawfulMonad (Dialogue Request Reply) :=
  LawfulMonad.mk' _ bind_done (fun _ _ => rfl) bind_assoc

/-- One dialogue after another is held like each of them in turn. -/
theorem run_bind (responder : Responder Request Reply State)
    (dialogue : Dialogue Request Reply α) (next : α → Dialogue Request Reply β) (state : State) :
    (dialogue.bind next).run responder state =
      let first := dialogue.run responder state
      let second := (next first.result).run responder first.state
      ⟨second.result, first.events ++ second.events, second.state⟩ := by
  induction dialogue generalizing state with
  | done => simp [bind, run]
  | ask request rest ih => simp [bind, run, ih]
  | pause delay rest ih => simp [bind, run, ih]
  | note entry rest ih => simp [bind, run, ih]

variable {responder : Responder Request Reply State} {state final : State}
  {events : List (Event Request Reply)}

/-- What was held as one dialogue after another was held in two parts. -/
theorem exists_of_run_bind {dialogue : Dialogue Request Reply α}
    {next : α → Dialogue Request Reply β} {result : β}
    (held : (dialogue.bind next).run responder state = ⟨result, events, final⟩) :
    ∃ middle first between second, dialogue.run responder state = ⟨middle, first, between⟩ ∧
      (next middle).run responder between = ⟨result, second, final⟩ ∧ events = first ++ second := by
  rw [run_bind] at held
  cases held
  exact ⟨_, _, _, _, rfl, rfl, rfl⟩

theorem answer_of_run_request {asked : Request} {reply : Reply asked}
    (held : (request asked).run responder state = ⟨reply, events, final⟩) :
    responder asked state = (reply, final) ∧ events = [.asked asked reply] := by
  cases held
  exact ⟨rfl, rfl⟩

end Dialogue
end SchemaStore
