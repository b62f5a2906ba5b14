import SchemaStore.Proofs.Filter.Offence
import SchemaStore.Proofs.Filter.Shape

/-!
# The language of filters

`WellFormed` says which values are filters, and `WellFormedNegated` which mappings may
stand under `NOT`.  `Offends` says what is wrong at which place of a value.  A value is
read exactly if it is well formed, and otherwise the offence at the first place is
reported.
-/

namespace SchemaStore

/-- What is passed on to sequences from their items, and to objects from the values of their
entries, holds of every value. -/
theorem Value.induction {motive : Value → Prop} (scalar : ∀ s, motive (.scalar s))
    (sequence : ∀ kind items, (∀ item ∈ items, motive item) → motive (.sequence kind items))
    (object : ∀ entries, (∀ entry ∈ entries, motive entry.2) → motive (.object entries)) :
    ∀ value, motive value
  | .scalar s => scalar s
  | .sequence kind items =>
      sequence kind items fun item _ => Value.induction scalar sequence object item
  | .object entries =>
      object entries fun entry _ => Value.induction scalar sequence object entry.2
termination_by value => value
decreasing_by
  · have smaller := List.sizeOf_lt_of_mem ‹item ∈ items›
    simp
    omega
  · have smaller := List.sizeOf_lt_of_mem ‹entry ∈ entries›
    obtain ⟨name, value⟩ := entry
    simp at smaller ⊢
    omega

namespace Filter

/-- The operators that ask for an order. -/
def orderingNames : List String := ["gt", "gte", "lt", "lte"]

def operatorNames : List String := orderingNames ++ ["equals", "not"]

/-- An operator is known, and one that asks for an order has an operand with an order. -/
structure WellFormedOperator (operator : String × Value) : Prop where
  known : operator.1 ∈ operatorNames
  ordered : operator.1 ∈ orderingNames → operator.2.isUnordered = false

/-- A field is tested for a single value, for a list of values, or by operators. -/
inductive WellFormedTest : Value → Prop where
  | single (s : Scalar) : WellFormedTest (.scalar s)
  | list (kind : SequenceKind) (values : List Value) : WellFormedTest (.sequence kind values)
  | operators {operators : List (String × Value)}
      (each : ∀ operator ∈ operators, WellFormedOperator operator) :
      WellFormedTest (.object operators)

mutual

/-- A filter is a mapping of entries. -/
inductive WellFormed (table : Table) : Value → Prop where
  | ofEntries {entries : List (String × Value)}
      (each : ∀ entry ∈ entries, WellFormedEntry table entry.1 entry.2) :
      WellFormed table (.object entries)

inductive WellFormedEntry (table : Table) : String → Value → Prop where
  | all {key : String} {filter : Value} (named : key = "AND")
      (wellFormed : WellFormed table filter) : WellFormedEntry table key filter
  | allOf {key : String} {kind : SequenceKind} {branches : List Value} (named : key = "AND")
      (each : ∀ branch ∈ branches, WellFormed table branch) :
      WellFormedEntry table key (.sequence kind branches)
  | anyOf {key : String} {kind : SequenceKind} {branches : List Value} (named : key = "OR")
      (each : ∀ branch ∈ branches, WellFormed table branch) :
      WellFormedEntry table key (.sequence kind branches)
  /-- A mapping under `OR` has one branch for each of its entries. -/
  | anyEntry {key : String} {entries : List (String × Value)} (named : key = "OR")
      (each : ∀ entry ∈ entries, WellFormed table (.object [entry])) :
      WellFormedEntry table key (.object entries)
  | none {key : String} {mapping : Value} (named : key = "NOT")
      (wellFormed : WellFormedNegated table mapping) : WellFormedEntry table key mapping
  | noneOf {key : String} {kind : SequenceKind} {branches : List Value} (named : key = "NOT")
      (each : ∀ branch ∈ branches, WellFormedNegated table branch) :
      WellFormedEntry table key (.sequence kind branches)
  | test {key : String} {value : Value} (field : isCombinator key = false)
      (known : ∃ column ∈ table.columns, column.name = key) (test : WellFormedTest value) :
      WellFormedEntry table key value

/-- A mapping under `NOT`. -/
inductive WellFormedNegated (table : Table) : Value → Prop where
  | ofEntries {entries : List (String × Value)}
      (each : ∀ entry ∈ entries, WellFormedNegatedEntry table entry.1 entry.2) :
      WellFormedNegated table (.object entries)

inductive WellFormedNegatedEntry (table : Table) : String → Value → Prop where
  /-- A combinator is a filter by itself. -/
  | combined {key : String} {value : Value} (combinator : isCombinator key = true)
      (wellFormed : WellFormed table (.object [(key, value)])) :
      WellFormedNegatedEntry table key value
  | test {key : String} {value : Value} (field : isCombinator key = false)
      (known : ∃ column ∈ table.columns, column.name = key) (test : WellFormedTest value) :
      WellFormedNegatedEntry table key value

end

/-- A combinator takes a mapping or a list of mappings. -/
def isBranching : Value → Bool
  | .object _ => true
  | .sequence _ items => items.all Value.isMapping
  | .scalar _ => false

inductive OperatorOffends (operator : String × Value) : Place → FilterDefect → Prop where
  | unknown (unknown : operator.1 ∉ operatorNames) :
      OperatorOffends operator [] (.unknownOperator operator.1)
  | unordered (ordering : operator.1 ∈ orderingNames)
      (unordered : operator.2.isUnordered = true) :
      OperatorOffends operator [] .unorderedOperand

mutual

/-- What is wrong at a place of a value that is given as a filter. -/
inductive Offends (table : Table) : Value → Place → FilterDefect → Prop where
  | notMapping {value : Value} (other : value.isMapping = false) :
      Offends table value [] (.notMapping value.typeName)
  | entry {entries : List (String × Value)} {position : Nat} {entry : String × Value}
      {place : Place} {defect : FilterDefect} (there : entries[position]? = some entry)
      (offends : EntryOffends table entry.1 entry.2 place defect) :
      Offends table (.object entries) (position :: place) defect

/-- What is wrong at a place of an entry, be it under `NOT` or not. -/
inductive EntryOffends (table : Table) : String → Value → Place → FilterDefect → Prop where
  | badBranches {key : String} {value : Value} (combinator : isCombinator key = true)
      (malformed : isBranching value = false) : EntryOffends table key value [] (.badBranches key)
  | branch {key : String} {entries : List (String × Value)} {place : Place} {defect : FilterDefect}
      (combinator : isCombinator key = true)
      (offends : Offends table (.object entries) place defect) :
      EntryOffends table key (.object entries) place defect
  | branches {key : String} {kind : SequenceKind} {items : List Value} {position : Nat}
      {item : Value} {place : Place} {defect : FilterDefect}
      (combinator : isCombinator key = true) (there : items[position]? = some item)
      (offends : Offends table item place defect) :
      EntryOffends table key (.sequence kind items) (position :: place) defect
  | unknownField {key : String} {value : Value} (field : isCombinator key = false)
      (unknown : ∀ column ∈ table.columns, column.name ≠ key) :
      EntryOffends table key value [] (.unknownField key table.name)
  | operator {key : String} {operators : List (String × Value)} {position : Nat}
      {operator : String × Value} {place : Place} {defect : FilterDefect}
      (field : isCombinator key = false) (there : operators[position]? = some operator)
      (offends : OperatorOffends operator place defect) :
      EntryOffends table key (.object operators) (position :: place) defect

end

section Operators

theorem lookup_comparisonNames (name : String) :
    (comparisonNames.lookup name = none ∧ name ∉ operatorNames) ∨
      ∃ comparison, comparisonNames.lookup name = some comparison ∧ name ∈ operatorNames ∧
        (comparison.isOrdering = true ↔ name ∈ orderingNames) := by
  by_cases known : name ∈ operatorNames
  · right
    simp only [operatorNames, orderingNames, List.cons_append, List.nil_append, List.mem_cons,
      List.not_mem_nil, or_false] at known
    rcases known with rfl | rfl | rfl | rfl | rfl | rfl <;>
      exact ⟨_, rfl, by decide, by decide⟩
  · refine .inl ⟨List.lookup_eq_none_iff.mpr ?_, known⟩
    rintro ⟨other, comparison⟩ member
    have others : other ∈ operatorNames := by
      simp only [comparisonNames, List.mem_cons, Prod.mk.injEq, List.not_mem_nil,
        or_false] at member
      rcases member with ⟨rfl, -⟩ | ⟨rfl, -⟩ | ⟨rfl, -⟩ | ⟨rfl, -⟩ | ⟨rfl, -⟩ | ⟨rfl, -⟩ <;>
        decide
    simpa using fun same : name = other => known (same ▸ others)

def readOperator (operator : String × Value) : Except FilterDefect (Comparison × Value) :=
  match comparisonNames.lookup operator.1 with
  | none => .error (.unknownOperator operator.1)
  | some comparison =>
      if comparison.isOrdering && operator.2.isUnordered then .error .unorderedOperand
      else .ok (comparison, operator.2)

theorem readComparisons_eq_mapM (operators : List (String × Value)) :
    readComparisons operators = operators.mapM readOperator := by
  induction operators with
  | nil => rfl
  | cons operator rest induction =>
      obtain ⟨name, operand⟩ := operator
      rw [readComparisons, List.mapM_cons, readOperator, ← induction]
      dsimp only
      cases comparisonNames.lookup name with
      | none => rfl
      | some comparison => dsimp only; split <;> rfl

theorem decides_operator (operator : String × Value) :
    Decides (readOperator operator) (WellFormedOperator operator) (OperatorOffends operator) := by
  unfold readOperator
  rcases lookup_comparisonNames operator.1 with
    ⟨absent, unknown⟩ | ⟨comparison, found, known, same⟩
  · rw [absent]
    refine .error (fun wellFormed => unknown wellFormed.known) (.unknown unknown) ?_
    rintro _ (_ | ⟨ordering, -⟩)
    · rfl
    · exact absurd (List.mem_append_left _ ordering) unknown
  · rw [found]
    dsimp only
    split
    · next fails =>
      obtain ⟨ordering, unordered⟩ := Bool.and_eq_true_iff.mp fails
      refine .error ?_ (.unordered (same.mp ordering) unordered) ?_
      · intro wellFormed
        rw [wellFormed.ordered (same.mp ordering)] at unordered
        cases unordered
      · rintro _ (⟨unknown⟩ | _)
        · exact absurd known unknown
        · rfl
    · next passes =>
      rw [Bool.and_eq_true_iff, same] at passes
      refine .ok _ ⟨known, fun ordering => ?_⟩ ?_
      · exact Bool.eq_false_iff.mpr fun unordered => passes ⟨ordering, unordered⟩
      · rintro _ _ (⟨unknown⟩ | ⟨ordering, unordered⟩)
        · exact unknown known
        · exact passes ⟨ordering, unordered⟩

end Operators

section Negation

variable {table : Table} {key : String} {value : Value}

theorem wellFormed_object {entries : List (String × Value)} :
    WellFormed table (.object entries) ↔
      ∀ entry ∈ entries, WellFormedEntry table entry.1 entry.2 := by
  constructor
  · rintro ⟨each⟩
    exact each
  · exact .ofEntries

theorem wellFormed_single : WellFormed table (.object [(key, value)]) ↔
    WellFormedEntry table key value := by
  rw [wellFormed_object, List.forall_mem_singleton]

theorem wellFormedNegatedEntry_iff :
    WellFormedNegatedEntry table key value ↔ WellFormedEntry table key value := by
  constructor
  · rintro (⟨-, wellFormed⟩ | ⟨field, known, test⟩)
    · exact wellFormed_single.mp wellFormed
    · exact .test field known test
  · intro wellFormed
    cases combinator : isCombinator key with
    | true => exact .combined combinator (wellFormed_single.mpr wellFormed)
    | false =>
        cases wellFormed with
        | test field known test => exact .test field known test
        | all named | allOf named | anyOf named | anyEntry named | none named | noneOf named =>
            rw [named] at combinator
            cases combinator

/-- What may stand under a negation is what may stand alone. -/
theorem wellFormedNegated_iff : WellFormedNegated table value ↔ WellFormed table value := by
  constructor
  · rintro ⟨each⟩
    exact .ofEntries fun entry member => wellFormedNegatedEntry_iff.mp (each entry member)
  · rintro ⟨each⟩
    exact .ofEntries fun entry member => wellFormedNegatedEntry_iff.mpr (each entry member)

end Negation

section Reading

variable {table : Table} {key : String}

theorem wellFormedEntry_field {value : Value} (field : isCombinator key = false) :
    WellFormedEntry table key value ↔
      (∃ column ∈ table.columns, column.name = key) ∧ WellFormedTest value := by
  constructor
  · intro wellFormed
    cases wellFormed with
    | test _ known test => exact ⟨known, test⟩
    | all named | allOf named | anyOf named | anyEntry named | none named | noneOf named =>
        rw [named] at field
        cases field
  · rintro ⟨known, test⟩
    exact .test field known test

/-- Of a known field, only operators offend. -/
theorem entryOffends_known {value : Value} (field : isCombinator key = false)
    (known : ∃ column ∈ table.columns, column.name = key) (place : Place)
    (defect : FilterDefect) :
    EntryOffends table key value place defect ↔
      InItem OperatorOffends value.entries place defect := by
  constructor
  · rintro (⟨combinator⟩ | ⟨combinator⟩ | ⟨combinator⟩ | ⟨-, unknown⟩ |
      ⟨-, there, offends⟩)
    · exact absurd combinator (by simp [field])
    · exact absurd combinator (by simp [field])
    · exact absurd combinator (by simp [field])
    · obtain ⟨column, member, same⟩ := known
      exact absurd same (unknown column member)
    · exact .item there offends
  · rintro ⟨there, offends⟩
    cases value with
    | object operators => exact .operator field there offends
    | scalar s => cases there
    | sequence kind items => cases there

theorem wellFormedTest_object {operators : List (String × Value)} :
    WellFormedTest (.object operators) ↔
      ∀ operator ∈ operators, WellFormedOperator operator := by
  constructor
  · rintro (_ | _ | each)
    exact each
  · exact .operators

/-- What a field is said to be is checked after the field itself. -/
theorem decides_field (field : isCombinator key = false) (value : Value) :
    Decides (readEntry table key value) (WellFormedEntry table key value)
      (EntryOffends table key value) := by
  rw [readEntry_field field, wellFormedEntry_field field, readColumn, Table.ref?]
  cases found : table.column? key with
  | none =>
      have unknown : ∀ column ∈ table.columns, column.name ≠ key := by
        simpa [Table.column?] using found
      refine .error ?_ (.unknownField field unknown) ?_
      · rintro ⟨⟨column, member, same⟩, -⟩
        exact unknown column member same
      · rintro _ (⟨combinator⟩ | ⟨combinator⟩ | _)
        · exact absurd combinator (by simp [field])
        · exact absurd combinator (by simp [field])
        · rfl
  | some column =>
      have known : ∃ column ∈ table.columns, column.name = key :=
        ⟨column, List.mem_of_find?_eq_some found, by simpa using List.find?_some found⟩
      have test : Decides (readTest value) (WellFormedTest value)
          (InItem OperatorOffends value.entries) := by
        cases value with
        | scalar s => exact .ok _ (.single s) fun _ _ ⟨there, _⟩ => nomatch there
        | sequence kind values =>
            exact .ok _ (.list kind values) fun _ _ ⟨there, _⟩ => nomatch there
        | object operators =>
            rw [readTest, readComparisons_eq_mapM, wellFormedTest_object]
            exact (Decides.mapM fun operator _ => decides_operator operator).map _
      exact (test.map (FilterEntry.test (column.ref table.name))).congr (and_iff_right known)
        (entryOffends_known field known)

theorem readEntries_eq_mapM (entries : List (String × Value)) :
    readEntries table entries = entries.mapM fun entry => readEntry table entry.1 entry.2 := by
  induction entries with
  | nil => rw [readEntries, List.mapM_nil]; rfl
  | cons entry rest induction =>
      rw [readEntries, List.mapM_cons, induction]

theorem readAll_eq_mapM (items : List Value) : readAll table items = items.mapM (read table) := by
  induction items with
  | nil => rw [readAll, List.mapM_nil]; rfl
  | cons item rest induction =>
      rw [readAll, List.mapM_cons, induction]

/-- The entries of a mapping are decided one after another. -/
theorem decides_entries {entries : List (String × Value)}
    (each : ∀ entry ∈ entries, Decides (readEntry table entry.1 entry.2)
      (WellFormedEntry table entry.1 entry.2) (EntryOffends table entry.1 entry.2)) :
    Decides (readEntries table entries) (WellFormed table (.object entries))
      (Offends table (.object entries)) := by
  rw [readEntries_eq_mapM]
  refine (Decides.mapM each).congr wellFormed_object fun place defect => ?_
  constructor
  · rintro (⟨⟨⟩⟩ | ⟨there, offends⟩)
    exact .item there offends
  · rintro ⟨there, offends⟩
    exact .entry there offends

section Combinator

variable (combinator : isCombinator key = true)

include combinator

theorem wellFormedEntry_branch {entries : List (String × Value)} :
    WellFormedEntry table key (.object entries) ↔ WellFormed table (.object entries) := by
  constructor
  · intro wellFormed
    cases wellFormed with
    | all _ wellFormed => exact wellFormed
    | anyEntry _ each =>
        exact .ofEntries fun entry member => wellFormed_single.mp (each entry member)
    | none _ wellFormed => exact wellFormedNegated_iff.mp wellFormed
    | test field => exact absurd combinator (by simp [field])
  · intro wellFormed
    simp only [isCombinator, Bool.or_eq_true, beq_iff_eq] at combinator
    rcases combinator with (named | named) | named
    · exact .all named wellFormed
    · exact .anyEntry named fun entry member =>
        wellFormed_single.mpr (wellFormed_object.mp wellFormed entry member)
    · exact .none named (wellFormedNegated_iff.mpr wellFormed)

theorem wellFormedEntry_branches {kind : SequenceKind} {items : List Value} :
    WellFormedEntry table key (.sequence kind items) ↔
      ∀ item ∈ items, WellFormed table item := by
  constructor
  · intro wellFormed
    cases wellFormed with
    | all _ wellFormed => cases wellFormed
    | none _ wellFormed => cases wellFormed
    | allOf _ each | anyOf _ each => exact each
    | noneOf _ each => exact fun item member => wellFormedNegated_iff.mp (each item member)
    | test field => exact absurd combinator (by simp [field])
  · intro each
    simp only [isCombinator, Bool.or_eq_true, beq_iff_eq] at combinator
    rcases combinator with (named | named) | named
    · exact .allOf named each
    · exact .anyOf named each
    · exact .noneOf named fun item member => wellFormedNegated_iff.mpr (each item member)

theorem wellFormedEntry_malformed {value : Value} (malformed : isBranching value = false) :
    ¬WellFormedEntry table key value := by
  cases value with
  | object entries => cases malformed
  | sequence kind items =>
      rw [wellFormedEntry_branches combinator]
      intro each
      have mappings : items.all Value.isMapping = true := by
        rw [List.all_eq_true]
        intro item member
        obtain ⟨-⟩ := each item member
        rfl
      exact absurd mappings (by simpa [isBranching] using malformed)
  | scalar s =>
      rintro (⟨-, ⟨⟩⟩ | _ | _ | _ | ⟨-, ⟨⟩⟩ | _ | ⟨field⟩)
      exact absurd combinator (by simp [field])

/-- A combinator with something else than branches is reported whatever is in it. -/
theorem decides_malformed {value : Value} (malformed : isBranching value = false) :
    Decides (.error (.badBranches key) : Except FilterDefect FilterEntry)
      (WellFormedEntry table key value) (EntryOffends table key value) := by
  refine .error (wellFormedEntry_malformed combinator malformed)
    (.badBranches combinator malformed) ?_
  rintro cause (_ | _ | _ | ⟨field⟩ | _)
  · rfl
  · cases malformed
  · exact absurd combinator (by simp [field])

theorem decides_branch {entries : List (String × Value)}
    (decides : Decides (readEntries table entries) (WellFormed table (.object entries))
      (Offends table (.object entries))) :
    Decides (readEntry table key (.object entries)) (WellFormedEntry table key (.object entries))
      (EntryOffends table key (.object entries)) := by
  obtain ⟨entryOf, reads, -⟩ := readEntry_branch table combinator
  rw [reads]
  refine (decides.map entryOf).congr (wellFormedEntry_branch combinator) fun place defect => ?_
  constructor
  · rintro (⟨-, malformed⟩ | ⟨-, offends⟩ | _ | ⟨field⟩ | ⟨field⟩)
    · cases malformed
    · exact offends
    · exact absurd combinator (by simp [field])
    · exact absurd combinator (by simp [field])
  · exact .branch combinator

/-- A list of branches is decided one after another, once all of them are mappings. -/
theorem decides_branches {kind : SequenceKind} {items : List Value}
    (each : ∀ item ∈ items, Decides (read table item) (WellFormed table item)
      (Offends table item)) :
    Decides (readEntry table key (.sequence kind items))
      (WellFormedEntry table key (.sequence kind items))
      (EntryOffends table key (.sequence kind items)) := by
  obtain ⟨entryOf, reads, -⟩ := readEntry_branches table combinator
  rw [reads, readBranches]
  split
  · next mappings =>
    rw [readAll_eq_mapM]
    refine ((Decides.mapM each).map entryOf).congr (wellFormedEntry_branches combinator)
      fun place defect => ?_
    constructor
    · rintro (⟨-, malformed⟩ | _ | ⟨-, there, offends⟩ | ⟨field⟩ | _)
      · exact absurd mappings (by simpa [isBranching] using malformed)
      · exact .item there offends
      · exact absurd combinator (by simp [field])
    · rintro ⟨there, offends⟩
      exact .branches combinator there offends
  · next other => exact decides_malformed combinator (Bool.eq_false_iff.mpr other)

end Combinator

/-- A value is decided as a filter, and under every key as an entry. -/
theorem decides_value (value : Value) :
    Decides (read table value) (WellFormed table value) (Offends table value) ∧
      ∀ key, Decides (readEntry table key value) (WellFormedEntry table key value)
        (EntryOffends table key value) := by
  induction value using Value.induction with
  | scalar s =>
      constructor
      · rw [read]
        refine .error (by rintro ⟨⟩) (.notMapping rfl) ?_
        rintro _ ⟨-⟩
        rfl
      · intro key
        cases combinator : isCombinator key with
        | false => exact decides_field combinator _
        | true =>
            have refused : readEntry table key (.scalar s) = .error (.badBranches key) := by
              rw [readEntry]
              exact if_pos combinator
            rw [refused]
            exact decides_malformed combinator rfl
  | sequence kind items each =>
      constructor
      · have sort : (Value.sequence kind []).typeName = (Value.sequence kind items).typeName := by
          cases kind <;> rfl
        rw [read, sort]
        refine .error (by rintro ⟨⟩) (.notMapping rfl) ?_
        rintro _ ⟨-⟩
        rfl
      · intro key
        cases combinator : isCombinator key with
        | false => exact decides_field combinator _
        | true => exact decides_branches combinator fun item member => (each item member).1
  | object entries each =>
      have decides := decides_entries fun entry member => (each entry member).2 entry.1
      constructor
      · rw [read]
        exact decides.map Filter.ofEntries
      · intro key
        cases combinator : isCombinator key with
        | false => exact decides_field combinator _
        | true => exact decides_branch combinator decides

end Reading

theorem compile_single {table : Table} {key : String} {value : Value} :
    compile table (.object [(key, value)]) =
      (fun entry => (Filter.ofEntries [entry]).clause) <$> readEntry table key value := by
  rw [compile, read, readEntries]
  cases readEntry table key value with
  | error defect => rfl
  | ok entry => rw [readEntries]; rfl

theorem wellFormedEntry_not {table : Table} {value : Value} :
    WellFormedEntry table "NOT" value ↔
      WellFormedNegated table value ∨
        ∃ kind branches, value = .sequence kind branches ∧
          ∀ branch ∈ branches, WellFormedNegated table branch := by
  constructor
  · intro wellFormed
    cases wellFormed with
    | none _ wellFormed => exact .inl wellFormed
    | noneOf _ each => exact .inr ⟨_, _, rfl, each⟩
    | all named | allOf named | anyOf named | anyEntry named => exact absurd named (by decide)
    | test field => cases field
  · rintro (wellFormed | ⟨kind, branches, rfl, each⟩)
    · exact .none rfl wellFormed
    · exact .noneOf rfl each

/-- A value is compiled exactly if it is in the language, and otherwise the offence at the first
place is reported: as a failed validation, or as an argument error if an operand has no order.
The same holds of what stands under a negation. -/
theorem compile_decides (table : Table) (value : Value) :
    (Except.Succeeds (compile table value) ↔ WellFormed table value) ∧
    (∀ defect, compile table value = .error defect ↔
      ∃ place, First (Offends table value) place defect) ∧
    (Except.Succeeds (compile table (.object [("NOT", value)])) ↔
      WellFormedNegated table value ∨
        ∃ kind branches, value = .sequence kind branches ∧
          ∀ branch ∈ branches, WellFormedNegated table branch) ∧
    (∀ defect, compile table (.object [("NOT", value)]) = .error defect ↔
      ∃ place, First (EntryOffends table "NOT" value) place defect) ∧
    ∀ defect : FilterDefect,
      (defect = .unorderedOperand ∧ defect.failure = .unorderedOperand) ∨
        (defect ≠ .unorderedOperand ∧ ∃ message, defect.failure = .validation message) := by
  have whole := (@decides_value table value).1.map clause
  have negated := ((@decides_value table value).2 "NOT").map
    fun entry => (Filter.ofEntries [entry]).clause
  refine ⟨whole.accepts, whole.reports.error_iff, ?_, ?_, ?_⟩
  · rw [compile_single, ← wellFormedEntry_not]
    exact negated.accepts
  · rw [compile_single]
    exact negated.reports.error_iff
  · intro defect
    cases defect with
    | unorderedOperand => exact .inl ⟨rfl, rfl⟩
    | notMapping | badBranches | unknownField | unknownOperator =>
        exact .inr ⟨nofun, _, rfl⟩

end Filter
end SchemaStore
