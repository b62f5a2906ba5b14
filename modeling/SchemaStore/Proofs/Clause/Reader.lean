import Mathlib.Logic.Function.Iterate
import SchemaStore.Database.Condition
import SchemaStore.Proofs.Clause.Scanner

/-!
# Conditions as a database reads them

The tokens of a condition are read from left to right, with one `Level` for each
open parenthesis.  A comparison is read as a whole; NOT takes the one condition
that follows it, AND joins what stands since the last OR, and OR joins the rest.
Nothing but the tokens, the columns of the table and the parameters goes into
the condition that is read.

`Tight`, `Conjunct` and `Disjunct` are the three places of the grammar that a run
of tokens can stand in.  Each rule of the grammar gives the truth value of the
condition that is read for a composed run from those of its parts.
-/

namespace SchemaStore.Sql

inductive Operand where
  | parameter (value : Value)
  | number (n : Nat)
  | null

namespace Operand

/-- The conversion that a parameter goes through. -/
def conversion (column : ColumnRef) : Operand → Conversion
  | .parameter value => .ofOperand column.type value
  | .number _ | .null => .plain

def cell (conversion : Conversion) : Operand → Cell
  | .parameter value => (Parameter.mk conversion value).boundCell
  | .number n => .int n
  | .null => .null

/-- The cells that a column is compared with; the first operand settles the conversion. -/
def cells (column : ColumnRef) (operands : List Operand) : List Cell :=
  let conversion := operands.head?.elim .plain (conversion column)
  operands.map fun operand => (operand.cell conversion).prefer column.type.affinity

end Operand

inductive Condition where
  | numbers (comparison : Comparison) (left right : Nat)
  | compare (comparison : Comparison) (column : ColumnRef) (operand : Operand)
  /-- Whether a column is missing or, negated, is present. -/
  | missing (negated : Bool) (column : ColumnRef)
  /-- Whether a column equals one of several operands or, negated, none of them. -/
  | among (negated : Bool) (column : ColumnRef) (operands : List Operand)
  | both (left right : Condition)
  | either (left right : Condition)
  | negation (inner : Condition)

namespace Condition

/-- The truth value of a condition, given the cells of the columns. -/
def eval (cellOf : ColumnRef → Cell) : Condition → Truth
  | .numbers comparison left right => comparison.truth (.int left) (.int right)
  | .compare comparison column operand =>
      Truth.any ((Operand.cells column [operand]).map (comparison.truth (cellOf column)))
  | .missing negated column => .ofBool ((cellOf column == .null) != negated)
  | .among negated column operands =>
      let truth :=
        Truth.any ((Operand.cells column operands).map (Comparison.equal.truth (cellOf column)))
      if negated then truth.not else truth
  | .both left right => (left.eval cellOf).and (right.eval cellOf)
  | .either left right => (left.eval cellOf).or (right.eval cellOf)
  | .negation inner => (inner.eval cellOf).not

end Condition

/-! ### Comparisons -/

/-- What the levels of a condition are made of. -/
inductive Symbol where
  | condition (condition : Condition)
  | and
  | or
  | not
  | opening
  | closing

namespace Token

def number? : Token → Option Nat
  | .number n => some n
  | .keyword "true" => some 1
  | .keyword "false" => some 0
  | _ => none

def operand? : Token → Option Operand
  | .parameter value => some (.parameter value)
  | .keyword "null" => some .null
  | token => token.number?.map .number

end Token

/-- The column of a table that a database finds under two names. -/
def readColumn (dialect : Dialect) (table : Table) (source name : String) : Option ColumnRef :=
  if dialect.readName table.name = source then
    (table.columns.find? fun column => dialect.readName column.name == name).map
      (·.ref table.name)
  else none

/-- The operands up to a closing parenthesis, and the rest. -/
def readOperands : List Token → Option (List Operand × List Token)
  | token :: .closing :: rest => do return ([← token.operand?], rest)
  | token :: .comma :: rest => do
      let operand ← token.operand?
      let (others, rest) ← readOperands rest
      return (operand :: others, rest)
  | _ => none

/-- The members of a list after its opening parenthesis, and the rest.  A list may be selected
from the one row of a number, where the row is there if two numbers compare as demanded. -/
def readMembers : List Token → Option (List Operand × List Token)
  | .keyword "select" :: .number member :: .keyword "from" :: .opening :: .keyword "select" ::
      .number _ :: .closing :: .keyword "where" :: .number left :: .sign comparison ::
      .number right :: .closing :: rest =>
      let kept := (comparison.truth (.int left) (.int right)).holds
      some (if kept then [.number member] else [], rest)
  | tokens => readOperands tokens

/-- What is said about a column, and the rest. -/
def readPredicate (column : ColumnRef) : List Token → Option (Condition × List Token)
  | .sign comparison :: token :: rest => do
      return (.compare comparison column (← token.operand?), rest)
  | .keyword "is" :: .keyword "null" :: rest => some (.missing false column, rest)
  | .keyword "is" :: .keyword "not" :: .keyword "null" :: rest =>
      some (.missing true column, rest)
  | .keyword "in" :: .opening :: rest => do
      let (members, rest) ← readMembers rest
      return (.among false column members, rest)
  | .keyword "not" :: .keyword "in" :: .opening :: rest => do
      let (members, rest) ← readMembers rest
      return (.among true column members, rest)
  | _ => none

def readSymbol (dialect : Dialect) (table : Table) : List Token → Option (Symbol × List Token)
  | .keyword "and" :: rest => some (.and, rest)
  | .keyword "or" :: rest => some (.or, rest)
  | .keyword "not" :: rest => some (.not, rest)
  | .opening :: rest => some (.opening, rest)
  | .closing :: rest => some (.closing, rest)
  | .name source :: .dot :: .name name :: rest => do
      let (condition, rest) ← readPredicate (← readColumn dialect table source name) rest
      return (.condition condition, rest)
  | first :: .sign comparison :: second :: rest => do
      return (.condition (.numbers comparison (← first.number?) (← second.number?)), rest)
  | _ => none

theorem readOperands_length {tokens rest : List Token} {operands : List Operand}
    (read : readOperands tokens = some (operands, rest)) : rest.length < tokens.length := by
  fun_induction readOperands tokens generalizing operands with
  | case1 token left =>
      obtain ⟨operand, -, same⟩ := Option.bind_eq_some_iff.mp read
      cases same
      simp only [List.length_cons]
      omega
  | case2 token left induction =>
      obtain ⟨operand, -, further⟩ := Option.bind_eq_some_iff.mp read
      obtain ⟨⟨others, last⟩, othersRead, same⟩ := Option.bind_eq_some_iff.mp further
      cases same
      have shorter := induction othersRead
      simp only [List.length_cons]
      omega
  | case3 => cases read

theorem readMembers_length {tokens rest : List Token} {operands : List Operand}
    (read : readMembers tokens = some (operands, rest)) : rest.length < tokens.length := by
  unfold readMembers at read
  split at read
  · cases read
    simp only [List.length_cons]
    omega
  · exact readOperands_length read

theorem readPredicate_length {column : ColumnRef} {tokens rest : List Token}
    {condition : Condition} (read : readPredicate column tokens = some (condition, rest)) :
    rest.length < tokens.length := by
  have list {left : List Token} {negated : Bool}
      (found : (readMembers left).bind (fun read =>
        some (Condition.among negated column read.1, read.2)) = some (condition, rest)) :
      rest.length < left.length := by
    obtain ⟨⟨members, last⟩, membersRead, same⟩ := Option.bind_eq_some_iff.mp found
    cases same
    exact readMembers_length membersRead
  unfold readPredicate at read
  split at read
  · next comparison token left =>
      obtain ⟨operand, -, same⟩ := Option.bind_eq_some_iff.mp read
      cases same
      simp only [List.length_cons]
      omega
  · cases read
    simp only [List.length_cons]
    omega
  · cases read
    simp only [List.length_cons]
    omega
  · have shorter := list read
    simp only [List.length_cons]
    omega
  · have shorter := list read
    simp only [List.length_cons]
    omega
  · cases read

/-- Every symbol takes up some tokens. -/
theorem readSymbol_length {dialect : Dialect} {table : Table} {tokens rest : List Token}
    {symbol : Symbol} (read : readSymbol dialect table tokens = some (symbol, rest)) :
    rest.length < tokens.length := by
  unfold readSymbol at read
  split at read
  case h_6 source name left =>
    obtain ⟨column, -, said⟩ := Option.bind_eq_some_iff.mp read
    obtain ⟨⟨condition, last⟩, predicateRead, same⟩ := Option.bind_eq_some_iff.mp said
    cases same
    have shorter := readPredicate_length predicateRead
    simp only [List.length_cons]
    omega
  case h_7 first comparison second left =>
    obtain ⟨m, -, said⟩ := Option.bind_eq_some_iff.mp read
    obtain ⟨n, -, same⟩ := Option.bind_eq_some_iff.mp said
    cases same
    simp only [List.length_cons]
    omega
  case h_8 => cases read
  all_goals
    cases read
    simp

/-! ### Levels of parentheses -/

/-- What has been read since a parenthesis was opened. -/
structure Level where
  /-- What stands before the last OR. -/
  disjuncts : Option Condition := none
  /-- What stands since the last OR. -/
  conjuncts : Option Condition := none
  /-- The number of NOTs before the condition that comes next. -/
  negations : Nat := 0
  /-- Whether a condition has to come next. -/
  due : Bool := true

namespace Level

/-- Read a condition, which takes the NOTs before it. -/
def accept (level : Level) (condition : Condition) : Option Level :=
  let negated := Condition.negation^[level.negations] condition
  if level.due then
    some { level with
      conjuncts := some (level.conjuncts.elim negated (.both · negated))
      negations := 0
      due := false }
  else none

def whole (level : Level) : Option Condition :=
  if level.due then none
  else level.conjuncts.map fun conjunct => level.disjuncts.elim conjunct (.either · conjunct)

end Level

/-- The level under way and the ones around it. -/
structure Nesting where
  level : Level := {}
  outer : List Level := []

namespace Nesting

def advance (nesting : Nesting) : Symbol → Option Nesting
  | .condition condition => do return { nesting with level := ← nesting.level.accept condition }
  | .and => if nesting.level.due then none else some { nesting with level.due := true }
  | .or => do return { nesting with level := { disjuncts := some (← nesting.level.whole) } }
  | .not =>
      if nesting.level.due then
        some { nesting with level.negations := nesting.level.negations + 1 }
      else none
  | .opening =>
      if nesting.level.due then some { outer := nesting.level :: nesting.outer } else none
  | .closing =>
      match nesting.outer with
      | [] => none
      | level :: outer => do return ⟨← level.accept (← nesting.level.whole), outer⟩

/-- The condition that has been read, if no parenthesis is open. -/
def finish (nesting : Nesting) : Option Condition :=
  if nesting.outer.isEmpty then nesting.level.whole else none

end Nesting

def readFrom (dialect : Dialect) (table : Table) (nesting : Nesting) (tokens : List Token) :
    Option Condition :=
  match tokens with
  | [] => nesting.finish
  | token :: others =>
      match _ : readSymbol dialect table (token :: others) with
      | none => none
      | some (symbol, rest) =>
          (nesting.advance symbol).bind fun next => readFrom dialect table next rest
termination_by tokens.length
decreasing_by exact readSymbol_length ‹_›

/-- The condition after the word WHERE; a text without a condition has none. -/
def readWhere (dialect : Dialect) (table : Table) (sql : Sql) : Option (Option Condition) := do
  match ← tokens dialect sql with
  | [] => return none
  | .keyword "where" :: condition => return some (← readFrom dialect table {} condition)
  | _ => none

end SchemaStore.Sql
