import SchemaStore.Sql.Dialect

/-!
# Boolean clauses

A `Clause` is the condition of a statement.  Conjunction and disjunction drop
the constants that do not matter; a disjunction stands in a group, so that it
never takes in a neighbour.  `Clause.render` writes a clause for a dialect.
-/

namespace SchemaStore

/-- The comparisons of a column with a value. -/
inductive Comparison where
  | equal
  | notEqual
  | greater
  | greaterEqual
  | less
  | lessEqual
deriving DecidableEq, Repr

namespace Comparison

/-- The comparison that holds of known values exactly when this one does not. -/
def inverse : Comparison → Comparison
  | .equal => .notEqual
  | .notEqual => .equal
  | .greater => .lessEqual
  | .greaterEqual => .less
  | .less => .greaterEqual
  | .lessEqual => .greater

/-- Whether a comparison asks for an order. -/
def isOrdering : Comparison → Bool
  | .equal | .notEqual => false
  | _ => true

def symbol : Comparison → String
  | .equal => "="
  | .notEqual => "!="
  | .greater => ">"
  | .greaterEqual => ">="
  | .less => "<"
  | .lessEqual => "<="

theorem inverse_inverse (comparison : Comparison) : comparison.inverse.inverse = comparison := by
  cases comparison <;> rfl

end Comparison

/-- A condition on a row. -/
inductive Clause where
  /-- A truth value. -/
  | constant (value : Bool)
  /-- A truth value that the clauses around it leave in place. -/
  | settled (value : Bool)
  | compare (comparison : Comparison) (column : ColumnRef) (operand : Value)
  | member (negated : Bool) (column : ColumnRef) (values : List Value)
  | both (left right : Clause)
  | either (left right : Clause)
  | group (inner : Clause)
  /-- The negation of a group; `restores` tells whether negating it again gives the group. -/
  | negation (restores : Bool) (inner : Clause)
deriving Repr, Inhabited

namespace Clause

/-- A conjunction in a group joins a conjunction around it. -/
def openConjunction : Clause → Clause
  | .group (.both left right) => .both left right
  | clause => clause

/-- A disjunction in a group joins a disjunction around it. -/
def openDisjunction : Clause → Clause
  | .group (.either left right) => .either left right
  | clause => clause

/-- Whether a clause is the given truth value. -/
def isConstant (value : Bool) : Clause → Bool
  | .constant b => b == value
  | _ => false

/-- Several clauses joined by `both`. -/
def joinBoth (first : Clause) : List Clause → Clause
  | [] => first
  | second :: rest => joinBoth (.both first second) rest

/-- Several clauses joined by `either`. -/
def joinEither (first : Clause) : List Clause → Clause
  | [] => first
  | second :: rest => joinEither (.either first second) rest

/-- The conjunction of several clauses. -/
def allOf (clauses : List Clause) : Clause :=
  if clauses.any (isConstant false) then .settled false
  else
    match clauses.filter (!isConstant true ·) with
    | [] => .settled true
    | [single] => single
    | first :: rest => joinBoth first.openConjunction (rest.map openConjunction)

/-- The disjunction of several clauses. -/
def anyOf (clauses : List Clause) : Clause :=
  if clauses.any (isConstant true) then .settled true
  else
    match clauses.filter (!isConstant false ·) with
    | [] => .settled false
    | [single] => single
    | first :: rest => joinEither first.openDisjunction (rest.map openDisjunction)

/-- Put a clause into a group unless it stands for itself. -/
def grouped : Clause → Clause
  | .constant b => .constant b
  | .settled b => .settled b
  | .group inner => .group inner
  | .negation restores inner => .negation restores inner
  | clause => .group clause

/-- The conjunction of any number of clauses; no clause at all holds. -/
def conjoin : List Clause → Clause
  | [] => .constant true
  | [single] => single
  | clauses => allOf clauses

/-- The disjunction of any number of clauses, in a group; no clause at all fails. -/
def disjoin : List Clause → Clause
  | [] => .constant false
  | [single] => single
  | clauses => (anyOf clauses).grouped

def negate : Clause → Clause
  | .constant b => .constant !b
  | .settled b => .constant !b
  | .compare comparison column operand => .compare comparison.inverse column operand
  | .member negated column values => .member (!negated) column values
  | .group inner => .negation true inner
  | .negation true inner => .group inner
  | .negation false inner => .negation false (.negation false inner)
  | clause => .negation false clause

/-- The conditions of a statement as one clause; a lone constant stays in place. -/
def criteria : List Clause → Option Clause
  | [] => none
  | [.constant b] => some (.settled b)
  | clauses => some (allOf clauses)

/-- A list of parameters, or what stands for an empty list. -/
def renderMembers (dialect : Dialect) (negated : Bool) (column : String) (values : List Value) :
    Sql :=
  let words := if negated then " NOT IN " else " IN "
  let body :=
    match dialect, values with
    | .sqlite, [] => .raw (column ++ words ++ "(SELECT 1 FROM (SELECT 1) WHERE 1!=1)")
    | .mysql, [] =>
        .raw (column ++ words ++ "(NULL)" ++ if negated then " OR (1 = 1)" else " AND (1 != 1)")
    | _, _ => .raw (column ++ words) ++ (Sql.join ", " (values.map dialect.param)).parens
  if negated then body.parens else body

/-- A comparison of a column; constants are written out, and null has words of its own. -/
def renderComparison (dialect : Dialect) (comparison : Comparison) (column : String)
    (operand : Value) : Sql :=
  match comparison, operand with
  | .equal, .scalar .null => .raw (column ++ " IS NULL")
  | .notEqual, .scalar .null => .raw (column ++ " IS NOT NULL")
  | _, .scalar (.bool b) =>
      .raw (column ++ " " ++ comparison.symbol ++ " " ++ dialect.constant b)
  | _, _ => .raw (column ++ " " ++ comparison.symbol ++ " ") ++ dialect.param operand

/-- A clause as statements write it. -/
def render (dialect : Dialect) : Clause → Sql
  | .constant b => .raw (dialect.constant b)
  | .settled b => .raw (dialect.constant b ++ " = 1")
  | .compare comparison column operand =>
      renderComparison dialect comparison (dialect.column column) operand
  | .member negated column values =>
      renderMembers dialect negated (dialect.column column) values
  | .both left right => left.render dialect ++ .raw " AND " ++ right.render dialect
  | .either left right => left.render dialect ++ .raw " OR " ++ right.render dialect
  | .group inner => (inner.render dialect).parens
  | .negation _ inner => .raw "NOT " ++ (inner.render dialect).parens

end Clause
end SchemaStore
