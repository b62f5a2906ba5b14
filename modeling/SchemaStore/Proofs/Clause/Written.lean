import SchemaStore.Proofs.Clause.Grouping
import SchemaStore.Proofs.Clause.Precedence
import SchemaStore.Proofs.Schema.Valid

/-!
# Written clauses are read back

What is written for a comparison or a list is read as a condition with the same
truth value on every row.  With the rules of precedence the same follows, by
induction on the clause, for every placed clause: beside an AND it is read as
conjuncts, unless it is a bare disjunction, and in every other place as disjuncts.
-/

namespace SchemaStore

/-- A table whose columns a database tells apart by the names that it reads. -/
structure Table.Legible (dialect : Dialect) (table : Table) : Prop where
  source : dialect.Legible table.name
  columns : ∀ column ∈ table.columns, dialect.Legible column.name
  distinct : (table.columns.map fun column => dialect.readName column.name).Nodup

namespace Sql

variable {dialect : Dialect} {table : Table} {column : ColumnRef}

theorem readColumn_eq (legible : table.Legible dialect) (known : table.Has column) :
    readColumn dialect table (dialect.readName column.source) (dialect.readName column.name) =
      some column := by
  obtain ⟨declared, member, rfl⟩ := known
  have found := find?_eq_some_of_nodup (fun column : Column => dialect.readName column.name)
    legible.distinct member
  simp only [readColumn, Column.ref, if_true, found, Option.map_some]

theorem spells_known (legible : table.Legible dialect) (known : table.Has column) :
    Spells dialect Breaks (.raw (dialect.column column)) (columnTokens dialect column) := by
  obtain ⟨declared, member, rfl⟩ := known
  exact spells_column legible.source (legible.columns declared member)

theorem tight_column (legible : table.Legible dialect) (known : table.Has column)
    {said : List Token} {meaning : Meaning} (condition : Condition)
    (read : ∀ rest, readPredicate column (said ++ rest) = some (condition, rest))
    (means : ∀ cellOf, condition.eval cellOf = meaning cellOf) :
    Tight dialect table (columnTokens dialect column ++ said) meaning := by
  refine .of_symbol condition ?_ means
  intro rest
  have found := readColumn_eq legible known
  simp [columnTokens, readSymbol, found, read]

theorem tight_numbers (comparison : Comparison) {first second : Token} {left right : Nat}
    (firstNumber : first.number? = some left) (secondNumber : second.number? = some right) :
    Tight dialect table [first, .sign comparison, second]
      (fun _ => comparison.truth (.int left) (.int right)) := by
  refine .of_symbol (.numbers comparison left right) ?_ fun _ => rfl
  intro rest
  have read : readSymbol dialect table (first :: .sign comparison :: second :: rest) = (do
      return (.condition (.numbers comparison (← first.number?) (← second.number?)), rest)) := by
    unfold Token.number? at firstNumber
    split at firstNumber
    · rfl
    · rfl
    · rfl
    · cases firstNumber
  rw [List.cons_append, List.cons_append, List.singleton_append, read, firstNumber, secondNumber]
  rfl

/-! ### Comparisons -/

theorem spells_word (word : String) {token : Token}
    (shaped : (!word.toList.isEmpty && word.toList.all Dialect.isNameChar) = true)
    (means : Token.ofWord dialect word.toList = token) :
    Spells dialect Breaks (.raw word) [token] := by
  intro params before rest breaks
  obtain ⟨filled, inside⟩ := Bool.and_eq_true_iff.mp shaped
  have nonempty : word.toList ≠ [] := by simpa using filled
  subst means
  exact scan_words nonempty (List.all_eq_true.mp inside) breaks

/-- A truth value is written as a number, or as a word that stands for one. -/
theorem spells_constant (dialect : Dialect) (b : Bool) :
    ∃ token, token.number? = some b.toNat ∧
      Spells dialect Breaks (.raw (dialect.constant b)) [token] := by
  cases dialect with
  | sqlite =>
      cases b with
      | true => exact ⟨.number 1, rfl, spells_word "1" rfl rfl⟩
      | false => exact ⟨.number 0, rfl, spells_word "0" rfl rfl⟩
  | mysql =>
      cases b with
      | true => exact ⟨.keyword "true", rfl, spells_word "true" rfl rfl⟩
      | false => exact ⟨.keyword "false", rfl, spells_word "false" rfl rfl⟩

theorem spells_sign (comparison : Comparison) :
    Spells dialect Unconstrained (.raw (" " ++ comparison.symbol ++ " ")) [Token.sign comparison] :=
  spells_text fun _ _ _ => by cases dialect <;> cases comparison <;> rfl

theorem spells_null : Spells dialect Breaks (.raw "NULL") [.keyword "null"] :=
  spells_word "NULL" rfl (by cases dialect <;> rfl)

theorem spells_isNull : Spells dialect Breaks (.raw " IS NULL")
    [.keyword "is", .keyword "null"] := by
  have before : Spells dialect Unconstrained (.raw " IS ") [.keyword "is"] :=
    spells_text fun _ _ _ => by cases dialect <;> rfl
  have text : " IS NULL" = " IS " ++ "NULL" := rfl
  rw [text, raw_append]
  exact before.followedBy spells_null

theorem spells_isNotNull : Spells dialect Breaks (.raw " IS NOT NULL")
    [.keyword "is", .keyword "not", .keyword "null"] := by
  have before : Spells dialect Unconstrained (.raw " IS NOT ") [.keyword "is", .keyword "not"] :=
    spells_text fun _ _ _ => by cases dialect <;> rfl
  have text : " IS NOT NULL" = " IS NOT " ++ "NULL" := rfl
  rw [text, raw_append]
  exact before.followedBy spells_null

/-- A blank at the start of a text ends the word before it. -/
theorem breaks_blank {text : String} {cs rest : List Char} (starts : text.toList = ' ' :: cs) :
    Breaks (text.toList ++ rest) := by
  rw [starts]
  exact breaks_cons (by simp)

theorem breaks_sign {rest : List Char} (comparison : Comparison) :
    Breaks ((" " ++ comparison.symbol ++ " ").toList ++ rest) := by
  refine ⟨' ', comparison.symbol.toList ++ ' ' :: rest, ?_, by simp⟩
  simp [String.toList_append]

theorem reads_settled (b : Bool) :
    ∃ run, Spells dialect Breaks ((Clause.settled b).render dialect) run ∧
      Tight dialect table run (fun cellOf => (Clause.settled b).eval cellOf) := by
  obtain ⟨token, number, spells⟩ := spells_constant dialect b
  have one : Spells dialect Breaks (.raw "1") [.number 1] :=
    spells_word "1" rfl (by cases dialect <;> rfl)
  have text : (Clause.settled b).render dialect =
      .raw (dialect.constant b) ++ .raw (" " ++ Comparison.equal.symbol ++ " ") ++ .raw "1" := by
    simp only [Clause.render, ← raw_append, String.append_assoc]
    rfl
  refine ⟨[token, .sign .equal, .number 1], ?_, ?_⟩
  · rw [text]
    exact (spells.append (spells_sign .equal) fun _ _ => breaks_sign .equal).followedBy one
  · have truth : (fun cellOf => (Clause.settled b).eval cellOf) =
        fun _ => Comparison.equal.truth (.int b.toNat) (.int (1 : Nat)) := by
      cases b <;> rfl
    rw [truth]
    exact tight_numbers .equal number rfl

/-- The members of a list of values have the conversion of its first value. -/
theorem cells_parameters (column : ColumnRef) (values : List Value) :
    Operand.cells column (values.map .parameter) =
      (Parameter.operands column values).map (Clause.operandCell column) := by
  cases values with
  | nil => rfl
  | cons value others =>
      simp [Operand.cells, Parameter.operands, Conversion.ofOperands, Operand.conversion,
        Operand.cell, Clause.operandCell, Function.comp_def]

/-- A truth value is compared as the number that is written for it. -/
theorem cells_truth (column : ColumnRef) (b : Bool) :
    Operand.cells column [.number b.toNat] =
      Operand.cells column [.parameter (.scalar (.bool b))] := by
  cases b <;> rfl

theorem operand?_of_number? {token : Token} {n : Nat} (number : token.number? = some n) :
    token.operand? = some (.number n) := by
  unfold Token.number? at number
  split at number
  · cases number
    rfl
  · cases number
    rfl
  · cases number
    rfl
  · cases number

/-- Comparisons other than those with null compare the cell of the value. -/
theorem comparisonTruth_operand {comparison : Comparison} {operand : Value}
    (notMissing : comparison = .equal → operand = .scalar .null → False)
    (notPresent : comparison = .notEqual → operand = .scalar .null → False) (cell : Cell) :
    Clause.comparisonTruth comparison column operand cell =
      Truth.any ((Operand.cells column [.parameter operand]).map (comparison.truth cell)) := by
  have cells := cells_parameters column [operand]
  rw [List.map_singleton] at cells
  rw [cells]
  unfold Clause.comparisonTruth
  split
  · exact absurd rfl (notMissing rfl)
  · exact absurd rfl (notPresent rfl)
  · simp [Parameter.operands, Parameter.operand, Conversion.ofOperands]

theorem reads_compare (legible : table.Legible dialect) (known : table.Has column)
    (comparison : Comparison) (operand : Value) :
    ∃ run, Spells dialect Breaks ((Clause.compare comparison column operand).render dialect) run ∧
      Tight dialect table run
        (fun cellOf => (Clause.compare comparison column operand).eval cellOf) := by
  have spells := spells_known legible known
  have signed : Spells dialect Unconstrained
      (.raw (dialect.column column ++ (" " ++ comparison.symbol ++ " ")))
      (columnTokens dialect column ++ [Token.sign comparison]) := by
    rw [raw_append]
    exact spells.append (spells_sign comparison) fun _ _ => breaks_sign comparison
  rw [Clause.render]
  unfold Clause.renderComparison
  split
  · refine ⟨columnTokens dialect column ++ [Token.keyword "is", Token.keyword "null"], ?_, ?_⟩
    · rw [raw_append]
      exact spells.append spells_isNull fun _ _ => breaks_blank rfl
    · apply tight_column legible known (.missing false column) fun _ => rfl
      intro cellOf
      simp [Condition.eval, Clause.eval, Clause.comparisonTruth]
  · refine ⟨columnTokens dialect column ++
      [Token.keyword "is", Token.keyword "not", Token.keyword "null"], ?_, ?_⟩
    · rw [raw_append]
      exact spells.append spells_isNotNull fun _ _ => breaks_blank rfl
    · apply tight_column legible known (.missing true column) fun _ => rfl
      intro cellOf
      simp [Condition.eval, Clause.eval, Clause.comparisonTruth, bne]
  · next _ _ b =>
      obtain ⟨token, number, constant⟩ := spells_constant dialect b
      refine ⟨columnTokens dialect column ++ [Token.sign comparison] ++ [token], ?_, ?_⟩
      · have text : dialect.column column ++ " " ++ comparison.symbol ++ " " ++ dialect.constant b =
            dialect.column column ++ (" " ++ comparison.symbol ++ " ") ++ dialect.constant b := by
          simp only [String.append_assoc]
        rw [text, raw_append]
        exact signed.followedBy constant
      · rw [List.append_assoc]
        apply tight_column legible known (.compare comparison column (.number b.toNat))
        · intro rest
          simp [readPredicate, operand?_of_number? number]
        · intro cellOf
          have given (_ : comparison = .equal ∨ comparison = .notEqual) :
              Value.scalar (.bool b) ≠ .scalar .null := by simp
          rw [Condition.eval, cells_truth,
            ← comparisonTruth_operand (fun equal => given (.inl equal))
              (fun notEqual => given (.inr notEqual))]
          rfl
  · next notTruth notMissing notPresent =>
      refine ⟨columnTokens dialect column ++ [Token.sign comparison] ++
        [Token.parameter operand], ?_, ?_⟩
      · have text : dialect.column column ++ " " ++ comparison.symbol ++ " " =
            dialect.column column ++ (" " ++ comparison.symbol ++ " ") := by
          simp only [String.append_assoc]
        rw [text]
        exact signed.followedBy (spells_param operand).weaken
      · rw [List.append_assoc]
        apply tight_column legible known (.compare comparison column (.parameter operand))
          fun _ => rfl
        intro cellOf
        rw [Condition.eval, ← comparisonTruth_operand notMissing notPresent]
        rfl

/-! ### Lists -/

theorem readOperands_parameters {values : List Value} (nonempty : values ≠ [])
    (rest : List Token) :
    readOperands ((values.map Token.parameter).intersperse Token.comma ++ Token.closing :: rest) =
      some (values.map .parameter, rest) := by
  induction values with
  | nil => exact absurd rfl nonempty
  | cons value others induction =>
      cases others with
      | nil => rfl
      | cons next last =>
          have further := induction (by simp)
          simp only [List.map_cons, List.intersperse_cons_cons, List.cons_append] at further ⊢
          rw [readOperands, further]
          rfl

theorem readMembers_parameters {values : List Value} (nonempty : values ≠ [])
    (rest : List Token) :
    readMembers ((values.map Token.parameter).intersperse Token.comma ++ [Token.closing] ++ rest) =
      some (values.map .parameter, rest) := by
  have operands := readOperands_parameters nonempty rest
  rw [List.append_assoc, List.singleton_append]
  cases values with
  | nil => exact absurd rfl nonempty
  | cons value others =>
      rw [← operands]
      cases others <;> rfl

/-- The words before a list. -/
def listTokens (negated : Bool) : List Token :=
  if negated then [.keyword "not", .keyword "in"] else [.keyword "in"]

theorem spells_listWords (negated : Bool) :
    Spells dialect Unconstrained (.raw (if negated then " NOT IN " else " IN "))
      (listTokens negated) := by
  cases negated with
  | true => exact spells_text fun _ _ _ => by cases dialect <;> rfl
  | false => exact spells_text fun _ _ _ => by cases dialect <;> rfl

theorem spells_listed (legible : table.Legible dialect) (known : table.Has column)
    (negated : Bool) : Spells dialect Unconstrained
      (.raw (dialect.column column ++ if negated then " NOT IN " else " IN "))
      (columnTokens dialect column ++ listTokens negated) := by
  rw [raw_append]
  refine (spells_known legible known).append (spells_listWords negated) fun _ _ => ?_
  cases negated <;> exact breaks_blank rfl

theorem tight_among (legible : table.Legible dialect) (known : table.Has column) (negated : Bool)
    (listed : List Token) {members : List Operand}
    (read : ∀ rest, readMembers (listed ++ rest) = some (members, rest)) :
    Tight dialect table
      (columnTokens dialect column ++ listTokens negated ++ Token.opening :: listed)
      (fun cellOf => (Condition.among negated column members).eval cellOf) := by
  rw [List.append_assoc]
  refine tight_column legible known (.among negated column members) ?_ fun _ => rfl
  intro rest
  cases negated <;> simp [listTokens, readPredicate, read]

theorem eval_among (negated : Bool) (values : List Value) (cellOf : ColumnRef → Cell) :
    (Condition.among negated column (values.map .parameter)).eval cellOf =
      (Clause.member negated column values).eval cellOf := by
  simp only [Condition.eval, Clause.eval, Clause.memberTruth, cells_parameters, List.map_map]
  rfl

theorem tight_members (legible : table.Legible dialect) (known : table.Has column) (negated : Bool)
    (values : List Value) (listed : List Token)
    (read : ∀ rest, readMembers (listed ++ rest) = some (values.map .parameter, rest)) :
    Tight dialect table
      (columnTokens dialect column ++ listTokens negated ++ Token.opening :: listed)
      (fun cellOf => (Clause.member negated column values).eval cellOf) := by
  have tight := tight_among legible known negated listed read
  simpa only [eval_among] using tight

/-- The tokens of a list whose members are the rows of a selection that has none. -/
def noRows : List Token :=
  [.keyword "select", .number 1, .keyword "from", .opening, .keyword "select", .number 1,
    .closing, .keyword "where", .number 1, .sign .notEqual, .number 1, .closing]

/-- A run that is put into a group if it is negated. -/
theorem Tight.reads_list {sql : Sql} {run : List Token} {meaning : Meaning} (negated : Bool)
    (spells : Spells dialect Breaks sql run) (tight : Tight dialect table run meaning) :
    ∃ run, Spells dialect Breaks (if negated then sql.parens else sql) run ∧
      Conjunct dialect table run meaning := by
  cases negated with
  | true => exact ⟨_, spells.parens.weaken, tight.conjunct.disjunct.parens.conjunct⟩
  | false => exact ⟨run, spells, tight.conjunct⟩

theorem spells_noRows : Spells .sqlite Unconstrained (.raw "(SELECT 1 FROM (SELECT 1) WHERE 1!=1)")
    (.opening :: noRows) := by
  have source : Spells .sqlite Unconstrained (.raw "(SELECT 1 FROM ")
      [.opening, .keyword "select", .number 1, .keyword "from"] := spells_text fun _ _ _ => rfl
  have row : Spells .sqlite Unconstrained (.raw "(SELECT 1)")
      [.opening, .keyword "select", .number 1, .closing] := spells_text fun _ _ _ => rfl
  have kept : Spells .sqlite Unconstrained (.raw " WHERE 1!=1)")
      [.keyword "where", .number 1, .sign .notEqual, .number 1, .closing] :=
    spells_text fun _ _ _ => rfl
  have text : "(SELECT 1 FROM (SELECT 1) WHERE 1!=1)" =
      "(SELECT 1 FROM " ++ "(SELECT 1)" ++ " WHERE 1!=1)" := rfl
  rw [text, raw_append, raw_append]
  exact (source.followedBy row).followedBy kept

def comparedOnes (comparison : Comparison) : List Token :=
  Token.opening :: [Token.number 1, Token.sign comparison, Token.number 1] ++ [Token.closing]

/-- A list of nothing but null, with the comparison of numbers that settles its value. -/
theorem spells_onlyNull (negated : Bool) : Spells .mysql Unconstrained
    (.raw ("(NULL)" ++ if negated then " OR (1 = 1)" else " AND (1 != 1)"))
    ([Token.opening, Token.keyword "null", Token.closing] ++
      [Token.keyword (if negated then "or" else "and")] ++
      comparedOnes (if negated then .equal else .notEqual)) := by
  have list : Spells .mysql Unconstrained (.raw "(NULL)") [.opening, .keyword "null", .closing] :=
    spells_null.parens
  rw [List.append_assoc, raw_append]
  apply list.followedBy
  cases negated with
  | true => exact spells_text fun _ _ _ => rfl
  | false => exact spells_text fun _ _ _ => rfl

theorem reads_onlyNull (legible : table.Legible .mysql) (known : table.Has column)
    (negated : Bool) :
    ∃ run, Spells .mysql Breaks ((Clause.member negated column []).render .mysql) run ∧
      Conjunct .mysql table run (fun cellOf => (Clause.member negated column []).eval cellOf) := by
  have list := tight_among legible known negated [.keyword "null", .closing] fun _ => rfl
  have numbers (comparison : Comparison) :
      Tight .mysql table (comparedOnes comparison)
        (fun _ => comparison.truth (.int 1) (.int 1)) :=
    (tight_numbers comparison rfl rfl).conjunct.disjunct.parens
  have spells := (spells_listed legible known negated).followedBy (spells_onlyNull negated)
  rw [← List.append_assoc, ← List.append_assoc, ← raw_append, ← String.append_assoc] at spells
  rw [Clause.render]
  cases negated with
  | true =>
      -- The OR stands in the group that a negated list gets anyway.
      refine ⟨_, spells.weaken.parens.weaken, ?_⟩
      have decided : (fun cellOf => (Clause.member true column []).eval cellOf) = fun cellOf =>
          ((Condition.among true column [.null]).eval cellOf).or
            (Comparison.equal.truth (.int 1) (.int 1)) := by
        have holds : Comparison.equal.truth (.int 1) (.int 1) = .yes := rfl
        funext cellOf
        rw [holds, Truth.or_yes]
        rfl
      rw [decided]
      exact (list.conjunct.disjunct.either (numbers .equal).conjunct.disjunct).parens.conjunct
  | false =>
      -- Without a group the AND adds a second conjunct, which no NOT before it takes in.
      refine ⟨_, spells.weaken, ?_⟩
      have decided : (fun cellOf => (Clause.member false column []).eval cellOf) = fun cellOf =>
          ((Condition.among false column [.null]).eval cellOf).and
            (Comparison.notEqual.truth (.int 1) (.int 1)) := by
        have fails : Comparison.notEqual.truth (.int 1) (.int 1) = .no := rfl
        funext cellOf
        rw [fails, Truth.and_no]
        rfl
      rw [decided]
      exact list.conjunct.both (numbers .notEqual).conjunct

/-- A list of values is read with its own meaning, also if it is empty. -/
theorem reads_member (legible : table.Legible dialect) (known : table.Has column)
    (negated : Bool) (values : List Value) :
    ∃ run, Spells dialect Breaks ((Clause.member negated column values).render dialect) run ∧
      Conjunct dialect table run
        (fun cellOf => (Clause.member negated column values).eval cellOf) := by
  have said := spells_listed legible known negated
  cases values with
  | nil =>
      cases dialect with
      | sqlite =>
          rw [Clause.render]
          exact Tight.reads_list negated (said.followedBy spells_noRows).weaken
            (tight_members legible known negated [] noRows fun _ => rfl)
      | mysql => exact reads_onlyNull legible known negated
  | cons value others =>
      have text : (Clause.member negated column (value :: others)).render dialect =
          let body := .raw (dialect.column column ++ if negated then " NOT IN " else " IN ") ++
            (Sql.join ", " ((value :: others).map dialect.param)).parens
          if negated then body.parens else body := by
        cases dialect <;> rfl
      rw [text]
      have listed := said.followedBy (spells_params (List.cons_ne_nil value others)).weaken.parens
      exact Tight.reads_list negated listed.weaken
        (tight_members legible known negated _ _ (readMembers_parameters (by simp)))

/-! ### Placed clauses -/

theorem spells_and : Spells dialect Unconstrained (.raw " AND ") [.keyword "and"] :=
  spells_text fun _ _ _ => by cases dialect <;> rfl

theorem spells_or : Spells dialect Unconstrained (.raw " OR ") [.keyword "or"] :=
  spells_text fun _ _ _ => by cases dialect <;> rfl

theorem spells_not : Spells dialect Unconstrained (.raw "NOT ") [.keyword "not"] :=
  spells_text fun _ _ _ => by cases dialect <;> rfl

/-- What is written for a placed clause is read with the meaning of the clause. -/
theorem reads_placed (legible : table.Legible dialect) {clause : Clause}
    (placed : clause.Placed table) :
    ∃ run, Spells dialect Breaks (clause.render dialect) run ∧
      (clause.isEither = false → Conjunct dialect table run (fun cellOf => clause.eval cellOf)) ∧
      Disjunct dialect table run (fun cellOf => clause.eval cellOf) := by
  induction clause with
  | constant b => cases placed
  | settled b =>
      obtain ⟨run, spells, tight⟩ := reads_settled b
      exact ⟨run, spells, fun _ => tight.conjunct, tight.conjunct.disjunct⟩
  | compare comparison column operand =>
      obtain ⟨run, spells, tight⟩ := reads_compare legible placed comparison operand
      exact ⟨run, spells, fun _ => tight.conjunct, tight.conjunct.disjunct⟩
  | member negated column values =>
      obtain ⟨run, spells, conjunct⟩ := reads_member legible placed negated values
      exact ⟨run, spells, fun _ => conjunct, conjunct.disjunct⟩
  | both left right leftReads rightReads =>
      obtain ⟨⟨leftPlaced, leftBare⟩, rightPlaced, rightBare⟩ := placed
      obtain ⟨leftRun, leftSpells, leftConjunct, -⟩ := leftReads leftPlaced
      obtain ⟨rightRun, rightSpells, rightConjunct, -⟩ := rightReads rightPlaced
      have joined := leftSpells.append spells_and fun _ _ => breaks_blank rfl
      have conjunct := (leftConjunct leftBare).both (rightConjunct rightBare)
      exact ⟨_, joined.followedBy rightSpells, fun _ => conjunct, conjunct.disjunct⟩
  | either left right leftReads rightReads =>
      -- This is the one clause that has no place beside an AND.
      obtain ⟨leftPlaced, rightPlaced⟩ := placed
      obtain ⟨leftRun, leftSpells, -, leftDisjunct⟩ := leftReads leftPlaced
      obtain ⟨rightRun, rightSpells, -, rightDisjunct⟩ := rightReads rightPlaced
      have joined := leftSpells.append spells_or fun _ _ => breaks_blank rfl
      refine ⟨_, joined.followedBy rightSpells, ?_, leftDisjunct.either rightDisjunct⟩
      intro bare
      cases bare
  | group inner innerReads =>
      obtain ⟨run, spells, -, disjunct⟩ := innerReads placed
      have conjunct := disjunct.parens.conjunct
      exact ⟨_, spells.parens.weaken, fun _ => conjunct, conjunct.disjunct⟩
  | negation restores inner innerReads =>
      obtain ⟨run, spells, -, disjunct⟩ := innerReads placed
      have conjunct := disjunct.parens.negation.conjunct
      exact ⟨_, (spells_not.followedBy spells.parens).weaken, fun _ => conjunct, conjunct.disjunct⟩

/-- Without a group, only the second part of a disjunction before an AND is taken by it. -/
theorem reads_ungrouped (legible : table.Legible dialect) {first second third : Clause}
    (firstPlaced : first.Placed table) (secondJoinable : second.Joinable table)
    (thirdJoinable : third.Joinable table) :
    ∃ run, Spells dialect Breaks ((Clause.both (.either first second) third).render dialect) run ∧
      Disjunct dialect table run (fun cellOf =>
        (first.eval cellOf).or ((second.eval cellOf).and (third.eval cellOf))) := by
  obtain ⟨firstRun, firstSpells, -, firstDisjunct⟩ := reads_placed legible firstPlaced
  obtain ⟨secondRun, secondSpells, secondConjunct, -⟩ := reads_placed legible secondJoinable.1
  obtain ⟨thirdRun, thirdSpells, thirdConjunct, -⟩ := reads_placed legible thirdJoinable.1
  have before := (firstSpells.append spells_or fun _ _ => breaks_blank rfl).followedBy secondSpells
  have spells := (before.append spells_and fun _ _ => breaks_blank rfl).followedBy thirdSpells
  have joined := (secondConjunct secondJoinable.2).both (thirdConjunct thirdJoinable.2)
  refine ⟨_, spells, ?_⟩
  simpa only [List.append_assoc] using firstDisjunct.either joined.disjunct

end Sql
end SchemaStore
