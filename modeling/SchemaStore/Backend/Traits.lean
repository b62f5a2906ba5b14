/-!
# What a backend can do

The traits of a backend say which changes it can make to existing tables and
which services it offers.
-/

namespace SchemaStore

/-- What a backend can do in place. -/
structure BackendTraits where
  name : String
  unsigned : Bool := false
  alterColumn : Bool := false
  /-- A column can refresh itself when its row changes. -/
  onUpdate : Bool := false
  addConstraint : Bool := false
  /-- A required column can be added without a constant default. -/
  addRequiredColumn : Bool := false
  advisoryLock : Bool := false
deriving DecidableEq, Repr

/-- The traits of a backend by its name; an unknown one is taken for a plain server. -/
def BackendTraits.ofName (name : String) : BackendTraits :=
  match name with
  | "mysql" =>
      { name, unsigned := true, alterColumn := true, onUpdate := true, addConstraint := true,
        addRequiredColumn := true, advisoryLock := true }
  | "sqlite" => { name }
  | _ => { name, alterColumn := true, addConstraint := true, addRequiredColumn := true }

end SchemaStore
