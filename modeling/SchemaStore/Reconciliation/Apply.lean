import SchemaStore.Backend.Request
import SchemaStore.Retry

/-!
# Applying changes

`DdlAction.apply` makes one change and tells whether it was made.  A refusal
because the name of a constraint is taken means that the constraint is there.
-/

namespace SchemaStore

/-- What a refused change means. -/
inductive Refusal where
  /-- The change is already made. -/
  | present
  | failed (failure : Failure)

namespace DdlAction

/-- The error of a change that cannot be made. -/
def error (action : DdlAction) (entity : String) (failure : Failure) : StoreError :=
  let cause := failure.classify
  .reconciliation ("Failed to " ++ action.describe ++ ": " ++ cause.message)
    { entity := some entity, action := some action.describe, cause := some cause }

/-- Whether a backend refused a change, as opposed to a failure on the way to it. -/
def isRefusal : Failure → Bool
  | .access _ | .constraintUnsupported => true
  | _ => false

/-- What the failure of a change means. -/
def refusal (action : DdlAction) (entity : String) (failure : Failure) : Refusal :=
  if !isRefusal failure then .failed failure
  else if !action.isAbsorbable then .failed (.own (action.error entity failure))
  else
    match failure.isDuplicate? with
    | some true => .present
    | some false => .failed (.own (action.error entity failure))
    | none => .failed .unreadableText

/-- Make a change through a pool; it was made unless it is already there. -/
def apply (action : DdlAction) (schema : Schema) (pool : Nat) (entity : String)
    (policy : RetryPolicy) : Program Bool :=
  let change : Dialogue Request Request.Reply (Except Failure Unit) :=
    Dialogue.request (Request.alter pool schema action)
  let attempts : Program Bool :=
    (fun _ => true) <$> Program.ofSession (Dialogue.retry policy action.describe change)
  attempts.recover fun failure =>
    match action.refusal entity failure with
    | .present => return false
    | .failed failure => Program.fail failure

end DdlAction
end SchemaStore
