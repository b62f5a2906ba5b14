import SchemaStore.Proofs.Clause.Decision
import SchemaStore.Proofs.Filter.Operands

/-!
# Parts of filters

A mapping falls into parts: the comparisons of its operator objects one by one, and
every other entry as a whole.  A row matches the mapping if it matches all parts, and
matches the mapping under `NOT` if it matches none of them.  On a row without missing
cells, and with values that are not bound as null, every part is decided.
-/

namespace SchemaStore

namespace Filter

/-- The parts of an entry, each of them a mapping of its own. -/
def entryParts (key : String) : Value → List Value
  | .object operators =>
      if isCombinator key then [.object [(key, .object operators)]]
      else operators.map fun operator => .object [(key, .object [operator])]
  | value => [.object [(key, value)]]

def parts : Value → List Value
  | .object entries => entries.flatMap fun (key, value) => entryParts key value
  | _ => []

/-- Every value that fields are tested against is bound as something other than null. -/
def Present (table : Table) (value : Value) : Prop :=
  ∀ said ∈ fieldTests value, ∀ column, table.ref? said.1 = some column →
    ∀ parameter ∈ parametersOf column said.2, ∃ cell, parameter.cell = .ok cell ∧ cell ≠ .null

variable {table : Table} {cellOf : ColumnRef → Cell} {key : String} {value part : Value}

section Meaning

theorem meaning_single (table : Table) (cellOf : ColumnRef → Cell) (key : String) (value : Value) :
    meaning table cellOf (.object [(key, value)]) = entryMeaning table cellOf key value := by
  simp [meaning, entryMeanings]

theorem entryMeaning_field (field : isCombinator key = false) (value : Value) :
    entryMeaning table cellOf key value =
      columnMeaning table key fun column => testMeaning cellOf column value := by
  simp only [isCombinator, Bool.or_eq_false_iff, beq_eq_false_iff_ne] at field
  obtain ⟨⟨notAnd, notOr⟩, notNot⟩ := field
  cases value with
  | scalar s => rw [entryMeaning]
  | sequence kind items => rw [entryMeaning] <;> assumption
  | object entries => rw [entryMeaning] <;> assumption

/-- The value of an entry under `NOT`. -/
def negatedEntryMeaning (table : Table) (cellOf : ColumnRef → Cell) (key : String)
    (value : Value) : Truth :=
  if isCombinator key then (entryMeaning table cellOf key value).not
  else columnMeaning table key fun column => negatedTestMeaning cellOf column value

/-- An entry that is one part fails as a whole. -/
theorem negatedEntryMeaning_whole (single : isCombinator key = true ∨ value.isMapping = false) :
    negatedEntryMeaning table cellOf key value = (entryMeaning table cellOf key value).not := by
  unfold negatedEntryMeaning
  split
  · rfl
  · next field =>
    have notCombinator := Bool.eq_false_iff.mpr field
    have noMapping := single.resolve_left field
    rw [entryMeaning_field notCombinator]
    unfold columnMeaning
    cases table.ref? key with
    | none => rfl
    | some column =>
        cases value with
        | object entries => cases noMapping
        | sequence kind values => rfl
        | scalar s => exact Clause.comparisonTruth_inverse .equal column (.scalar s) _

theorem readColumn_of_readEntry {entry : FilterEntry} (field : isCombinator key = false)
    (accepted : readEntry table key value = .ok entry) :
    ∃ column test, table.ref? key = some column ∧ readTest value = .ok test := by
  rw [readEntry_field field] at accepted
  obtain ⟨column, known, rest⟩ := Except.bind_eq_ok.mp accepted
  obtain ⟨test, testRead, -⟩ := Except.map_eq_ok.mp rest
  exact ⟨column, test, readColumn_eq_ok.mp known, testRead⟩

theorem meaning_entryParts (cellOf : ColumnRef → Cell) {entry : FilterEntry}
    (accepted : readEntry table key value = .ok entry) :
    entryMeaning table cellOf key value =
        Truth.all ((entryParts key value).map (meaning table cellOf)) ∧
      negatedEntryMeaning table cellOf key value =
        Truth.all ((entryParts key value).map fun part => (meaning table cellOf part).not) := by
  by_cases single : isCombinator key = true ∨ value.isMapping = false
  · have whole : entryParts key value = [.object [(key, value)]] := by
      cases value with
      | object operators =>
          rcases single with combinator | noMapping
          · rw [entryParts, if_pos combinator]
          · cases noMapping
      | sequence kind values => rfl
      | scalar s => rfl
    rw [whole, negatedEntryMeaning_whole single]
    simp [meaning_single]
  · obtain ⟨notCombinator, mapping⟩ := not_or.mp single
    have field := Bool.eq_false_iff.mpr notCombinator
    cases value with
    | scalar s => exact absurd rfl mapping
    | sequence kind values => exact absurd rfl mapping
    | object operators =>
        obtain ⟨column, -, known, -⟩ := readColumn_of_readEntry field accepted
        have one (operator : String × Value) :
            meaning table cellOf (.object [(key, .object [operator])]) =
              Truth.all (comparisonMeanings cellOf column [operator]) := by
          rw [meaning_single, entryMeaning_field field, columnMeaning, known]
          rfl
        have each : (comparisonMeanings cellOf column operators) =
            (entryParts key (.object operators)).map (meaning table cellOf) := by
          rw [entryParts, if_neg notCombinator, List.map_map, comparisonMeanings]
          apply List.map_congr_left
          intro operator _
          simp [one, comparisonMeanings]
        constructor
        · rw [entryMeaning_field field, columnMeaning, known, ← each]
          rfl
        · rw [negatedEntryMeaning, if_neg notCombinator, columnMeaning, known]
          simp only [negatedTestMeaning]
          rw [each, List.map_map]
          rfl

theorem meaning_entries {entries : List (String × Value)} {entriesRead : List FilterEntry}
    (accepted : readEntries table entries = .ok entriesRead) :
    Truth.all (entryMeanings table cellOf entries) =
        Truth.all ((parts (.object entries)).map (meaning table cellOf)) ∧
      Truth.all (negatedEntryMeanings table cellOf entries) =
        Truth.all ((parts (.object entries)).map fun part =>
          (meaning table cellOf part).not) := by
  induction entries generalizing entriesRead with
  | nil => exact ⟨rfl, rfl⟩
  | cons entry rest induction =>
      obtain ⟨key, value⟩ := entry
      rw [readEntries] at accepted
      obtain ⟨read, entryAccepted, restRead⟩ := Except.bind_eq_ok.mp accepted
      obtain ⟨others, othersAccepted, -⟩ := Except.map_eq_ok.mp restRead
      obtain ⟨positive, negative⟩ := meaning_entryParts cellOf entryAccepted
      obtain ⟨restPositive, restNegative⟩ := induction othersAccepted
      have split : parts (.object ((key, value) :: rest)) =
          entryParts key value ++ parts (.object rest) := rfl
      constructor
      · rw [entryMeanings, Truth.all_cons, positive, restPositive, split, List.map_append,
          Truth.all_append]
      · rw [negatedEntryMeanings, Truth.all_cons, ← negatedEntryMeaning, negative, restNegative,
          split, List.map_append, Truth.all_append]

/-- A mapping holds if all of its parts do; under `NOT` all of them have to fail. -/
theorem meaning_parts {filter : Filter} (accepted : read table value = .ok filter) :
    meaning table cellOf value = Truth.all ((parts value).map (meaning table cellOf)) ∧
      meaning table cellOf (.object [("NOT", value)]) =
        Truth.all ((parts value).map fun part => (meaning table cellOf part).not) := by
  cases value with
  | object entries =>
      rw [read] at accepted
      obtain ⟨entriesRead, entriesAccepted, -⟩ := Except.map_eq_ok.mp accepted
      rw [meaning_single, entryMeaning, meaning]
      exact meaning_entries entriesAccepted
  | scalar s => rw [read] at accepted; cases accepted
  | sequence kind items => rw [read] at accepted; cases accepted

end Meaning

section Acceptance

theorem read_single {entry : FilterEntry} (accepted : readEntry table key value = .ok entry) :
    read table (.object [(key, value)]) = .ok (.ofEntries [entry]) := by
  rw [read, readEntries, accepted, readEntries]
  rfl

theorem readComparisons_single {operators : List (String × Value)}
    {tests : List (Comparison × Value)} (accepted : readComparisons operators = .ok tests)
    {operator : String × Value} (member : operator ∈ operators) :
    ∃ test, readComparisons [operator] = .ok test := by
  induction operators generalizing tests with
  | nil => cases member
  | cons head rest induction =>
      obtain ⟨name, operand⟩ := head
      rw [readComparisons] at accepted
      split at accepted
      · cases accepted
      · next comparison known =>
        split at accepted
        · cases accepted
        · next ordered =>
          obtain ⟨others, othersAccepted, -⟩ := Except.map_eq_ok.mp accepted
          rcases List.mem_cons.mp member with rfl | later
          · refine ⟨[(comparison, operand)], ?_⟩
            rw [readComparisons, known]
            dsimp only
            rw [if_neg ordered]
            rfl
          · exact induction othersAccepted later

theorem read_entryPart {entry : FilterEntry} (accepted : readEntry table key value = .ok entry)
    (member : part ∈ entryParts key value) : ∃ filter, read table part = .ok filter := by
  unfold entryParts at member
  split at member
  · next operators =>
    split at member
    · rw [List.mem_singleton.mp member]
      exact ⟨_, read_single accepted⟩
    · next notCombinator =>
      have field := Bool.eq_false_iff.mpr notCombinator
      obtain ⟨operator, operatorMember, rfl⟩ := List.mem_map.mp member
      obtain ⟨column, test, known, testRead⟩ := readColumn_of_readEntry field accepted
      obtain ⟨tests, testsRead, -⟩ := Except.map_eq_ok.mp testRead
      obtain ⟨single, singleRead⟩ := readComparisons_single testsRead operatorMember
      have columnRead : readColumn table key = .ok column := readColumn_eq_ok.mpr known
      have entryRead : readEntry table key (.object [operator]) =
          .ok (.test column (.comparisons single)) := by
        rw [readEntry_field field, columnRead, Except.ok_bind, readTest, singleRead]
        rfl
      exact ⟨_, read_single entryRead⟩
  · rw [List.mem_singleton.mp member]
    exact ⟨_, read_single accepted⟩

/-- The parts of an accepted mapping are accepted. -/
theorem read_part {filter : Filter} (accepted : read table value = .ok filter)
    (member : part ∈ parts value) : ∃ filter, read table part = .ok filter := by
  cases value with
  | object entries =>
      rw [read] at accepted
      obtain ⟨entriesRead, entriesAccepted, -⟩ := Except.map_eq_ok.mp accepted
      clear accepted
      rw [parts] at member
      induction entries generalizing entriesRead with
      | nil => cases member
      | cons entry rest induction =>
          obtain ⟨key, value⟩ := entry
          rw [readEntries] at entriesAccepted
          obtain ⟨read, entryAccepted, restRead⟩ := Except.bind_eq_ok.mp entriesAccepted
          obtain ⟨others, othersAccepted, -⟩ := Except.map_eq_ok.mp restRead
          rcases List.mem_append.mp member with first | later
          · exact read_entryPart entryAccepted first
          · exact induction later others othersAccepted
  | scalar s => cases member
  | sequence kind items => cases member

end Acceptance

section Decided

theorem fieldTests_single (key : String) (value : Value) :
    fieldTests (.object [(key, value)]) = fieldTestsOfEntry key value := by
  simp [fieldTests, fieldTestsOfEntries]

theorem fieldTestsOfEntry_field (field : isCombinator key = false) (value : Value) :
    fieldTestsOfEntry key value = [(key, value)] := by
  cases value <;> simp [fieldTestsOfEntry, field]

theorem present_entryPart (present : Present table (.object [(key, value)]))
    (member : part ∈ entryParts key value) : Present table part := by
  unfold entryParts at member
  split at member
  · next operators =>
    split at member
    · rw [List.mem_singleton.mp member]
      exact present
    · next notCombinator =>
      have field := Bool.eq_false_iff.mpr notCombinator
      obtain ⟨operator, operatorMember, rfl⟩ := List.mem_map.mp member
      unfold Present at present ⊢
      rw [fieldTests_single, fieldTestsOfEntry_field field, List.forall_mem_singleton]
        at present ⊢
      intro column known parameter parameterMember
      apply present column known
      rw [parametersOf, List.map_singleton, List.mem_singleton] at parameterMember
      subst parameterMember
      exact List.mem_map_of_mem operatorMember
  · rw [List.mem_singleton.mp member]
    exact present

theorem present_part (present : Present table value) (member : part ∈ parts value) :
    Present table part := by
  cases value with
  | object entries =>
      obtain ⟨⟨key, value⟩, entryMember, partMember⟩ := List.mem_flatMap.mp member
      apply present_entryPart _ partMember
      intro said saidMember
      apply present
      rw [fieldTests_single] at saidMember
      rw [fieldTests]
      clear present member
      induction entries with
      | nil => cases entryMember
      | cons entry rest induction =>
          rw [fieldTestsOfEntries, List.mem_append]
          rcases List.mem_cons.mp entryMember with rfl | later
          · exact .inl saidMember
          · exact .inr (induction later)
  | scalar s => cases member
  | sequence kind items => cases member

/-- What is bound can be seen from the filter that was read. -/
theorem present_iff {filter : Filter} (accepted : read table value = .ok filter) :
    Present table value ↔
      ∀ parameter ∈ filter.parameters, ∃ cell, parameter.cell = .ok cell ∧ cell ≠ .null := by
  unfold Present parameters
  generalize fieldTests value = said, filter.tests = tests, reads_tests accepted = reads
  induction reads with
  | nil => simp [parametersOfTests]
  | @cons entry test said tests read _ induction =>
      obtain ⟨known, testRead⟩ := read
      have split : parametersOfTests (test :: tests) =
          parametersOf test.1 entry.2 ++ parametersOfTests tests := by
        rw [← parameters_of_readTest testRead]
        exact List.flatMap_cons ..
      rw [List.forall_mem_cons, induction, split, List.forall_mem_append]
      refine and_congr_left fun _ => ⟨fun bound => bound _ known, fun bound column same => ?_⟩
      rw [known] at same
      cases same
      exact bound

/-- On a row without missing cells, a filter whose values are bound either matches or not. -/
theorem meaning_ne_unknown {filter : Filter} (accepted : read table value = .ok filter)
    (present : Present table value) (cells : ∀ column, table.Has column → cellOf column ≠ .null) :
    meaning table cellOf value ≠ .unknown := by
  rw [← (eval_clause_of_read accepted).1]
  apply Clause.eval_ne_unknown
  · intro column member
    have closed : filter.clause.Closed table :=
      closed_compile (Except.map_eq_ok.mpr ⟨filter, accepted, rfl⟩)
    exact cells column (Clause.has_of_closed closed column member)
  · intro parameter member
    obtain ⟨cell, bound, notNull⟩ :=
      (present_iff accepted).mp present parameter (parameters_clause filter member)
    rw [Parameter.boundCell, bound]
    exact notNull

/-- On such a row a filter under `NOT` matches if no part of the filter does. -/
theorem holds_negated_parts {filter : Filter} (accepted : read table value = .ok filter)
    (present : Present table value) (cells : ∀ column, table.Has column → cellOf column ≠ .null) :
    (meaning table cellOf (.object [("NOT", value)])).holds =
      (parts value).all fun part => !(meaning table cellOf part).holds := by
  rw [(meaning_parts accepted).2, Truth.holds_all, List.all_map]
  rw [Bool.eq_iff_iff, List.all_eq_true, List.all_eq_true]
  refine forall₂_congr fun part member => ?_
  obtain ⟨read, partRead⟩ := read_part accepted member
  rw [Function.comp_apply,
    Truth.holds_not (meaning_ne_unknown partRead (present_part present member) cells)]

end Decided

end Filter
end SchemaStore
