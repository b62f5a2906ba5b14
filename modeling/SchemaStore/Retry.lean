import SchemaStore.Dialogue
import SchemaStore.Error.Classify

/-!
# Retries

`Dialogue.retry` repeats an operation whose connection broke, with a fixed delay
between the attempts.  Every other failure, and the failure of the last attempt,
is the outcome.
-/

namespace SchemaStore

/-- How often an operation is attempted, and how long to wait in between. -/
structure RetryPolicy where
  attempts : Int
  delay : Scalar
deriving DecidableEq, Repr

namespace RetryPolicy

/-- What is noted before an attempt is repeated. -/
def warning (policy : RetryPolicy) (description : String) (attempt : Nat) (failure : Failure) :
    String :=
  description ++ " aborted (attempt " ++ toString attempt ++ "/" ++ toString policy.attempts ++
    "): " ++ failure.logText ++ ". Retrying in " ++ policy.delay.display ++ "s"

end RetryPolicy

/-- What follows a failed attempt that is not the last one. -/
inductive Failure.Aftermath where
  | retry
  | giveUp (failure : Failure)

/-- Only failures of the access layer are retried, and of them only those of a connection that
broke. -/
def Failure.aftermath (failure : Failure) : Failure.Aftermath :=
  if failure.isAccess then
    match failure.isTransient? with
    | some true => .retry
    | some false => .giveUp failure
    | none => .giveUp .unreadableText
  else
    .giveUp failure

namespace Dialogue

variable {Request : Type} {Reply : Request → Type} {α : Type}

/-- Attempt an operation, counting attempts from the given number, up to `retries` more times. -/
def attemptFrom (policy : RetryPolicy) (description : String)
    (operation : Dialogue Request Reply (Except Failure α)) (attempt : Nat) :
    Nat → Dialogue Request Reply (Except Failure α)
  | 0 => operation
  | retries + 1 => do
      match ← operation with
      | .ok result => return .ok result
      | .error failure =>
          match failure.aftermath with
          | .giveUp failure => return .error failure
          | .retry =>
              log .warning (policy.warning description attempt failure)
              wait policy.delay
              attemptFrom policy description operation (attempt + 1) retries

/-- Attempt an operation at least once, and again while its connection breaks. -/
def retry (policy : RetryPolicy) (description : String)
    (operation : Dialogue Request Reply (Except Failure α)) :
    Dialogue Request Reply (Except Failure α) :=
  attemptFrom policy description operation 1 (policy.attempts.toNat - 1)

end Dialogue
end SchemaStore
