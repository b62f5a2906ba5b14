import SchemaStore.Proofs.Clause.Placeholder
import SchemaStore.Proofs.Filter.Operands

/-!
# Filters of one shape

Two mappings are alike if they have the same keys, operators, nesting and numbers of
values, and values of the same class stand at corresponding places: null, true, false,
or any other value.  Putting the number of its place for every leaf of a filter leaves
what alike mappings have in common; the clause of a filter is the clause of its
numbered form with the leaves put back.
-/

namespace SchemaStore

theorem SameClass.isUnordered {value other : Value} (same : SameClass value other) :
    value.isUnordered = other.isUnordered := by
  have unordered (value : Value) : value.isUnordered = (value.operandClass != .other) := by
    cases value with
    | scalar s => cases s <;> rfl
    | sequence kind items => rfl
    | object entries => rfl
  rw [unordered, unordered, same]

namespace Filter

/-- What two mappings say of a field is of one form, with values of the same classes. -/
inductive SaidAlike : Value → Value → Prop where
  | single {s t : Scalar} : SameClass (.scalar s) (.scalar t) →
      SaidAlike (.scalar s) (.scalar t)
  | list {kind otherKind : SequenceKind} {values others : List Value} :
      List.Forall₂ SameClass values others →
      SaidAlike (.sequence kind values) (.sequence otherKind others)
  | operators {operators others : List (String × Value)} :
      List.Forall₂ (fun one other => one.1 = other.1 ∧ SameClass one.2 other.2)
        operators others →
      SaidAlike (.object operators) (.object others)

mutual

/-- Two mappings are of one shape, with values of the same classes. -/
inductive Alike : Value → Value → Prop where
  | ofEntries {entries others : List (String × Value)} : EntriesAlike entries others →
      Alike (.object entries) (.object others)

inductive EntriesAlike : List (String × Value) → List (String × Value) → Prop where
  | nil : EntriesAlike [] []
  | cons {key : String} {value other : Value} {rest others : List (String × Value)} :
      EntryAlike key value other → EntriesAlike rest others →
      EntriesAlike ((key, value) :: rest) ((key, other) :: others)

inductive EntryAlike : String → Value → Value → Prop where
  | branch {key : String} {value other : Value} : isCombinator key = true →
      Alike value other → EntryAlike key value other
  | branches {key : String} {kind otherKind : SequenceKind} {items others : List Value} :
      isCombinator key = true → BranchesAlike items others →
      EntryAlike key (.sequence kind items) (.sequence otherKind others)
  | field {key : String} {value other : Value} : isCombinator key = false →
      SaidAlike value other → EntryAlike key value other

inductive BranchesAlike : List Value → List Value → Prop where
  | nil : BranchesAlike [] []
  | cons {value other : Value} {rest others : List Value} :
      Alike value other → BranchesAlike rest others →
      BranchesAlike (value :: rest) (other :: others)

end

end Filter

/-- Apply a function to the values that a column is tested against. -/
def ColumnTest.mapOperands (f : Value → Value) : ColumnTest → ColumnTest
  | .equals operand => .equals (f operand)
  | .among values => .among (values.map f)
  | .comparisons tests => .comparisons (tests.map fun (comparison, operand) =>
      (comparison, f operand))

mutual

def Filter.mapOperands (f : Value → Value) : Filter → Filter
  | .ofEntries entries => .ofEntries (FilterEntry.mapAllOperands f entries)

def FilterEntry.mapOperands (f : Value → Value) : FilterEntry → FilterEntry
  | .all branches => .all (Filter.mapAllOperands f branches)
  | .any branches => .any (Filter.mapAllOperands f branches)
  | .none branches => .none (Filter.mapAllOperands f branches)
  | .test column test => .test column (test.mapOperands f)

def FilterEntry.mapAllOperands (f : Value → Value) : List FilterEntry → List FilterEntry
  | [] => []
  | entry :: rest => entry.mapOperands f :: FilterEntry.mapAllOperands f rest

def Filter.mapAllOperands (f : Value → Value) : List Filter → List Filter
  | [] => []
  | filter :: rest => filter.mapOperands f :: Filter.mapAllOperands f rest

end

/-- The number of a place, as a value. -/
def Value.place (place : Nat) : Value :=
  .int place

/-- The numbers of places from a given one on. -/
def placesFrom (next size : Nat) : List Value :=
  (List.range' next size).map .place

/-- The value at the place that a number stands for. -/
def leafAt (leaves : List Value) : Value → Value
  | .scalar (.int place) => (leaves[place.toNat]?).getD .null
  | _ => .null

theorem leafAt_place (leaves : List Value) (place : Nat) :
    leafAt leaves (.place place) = (leaves[place]?).getD .null := rfl

theorem map_leafAt_placesFrom {leaves values : List Value} {next : Nat}
    (there : values <+: leaves.drop next) :
    (placesFrom next values.length).map (leafAt leaves) = values := by
  obtain ⟨rest, whole⟩ := there
  apply List.ext_getElem
  · simp [placesFrom]
  · intro place inside short
    have found : leaves[next + place]? = some values[place] := by
      rw [← List.getElem?_drop, ← whole, List.getElem?_append_left short,
        List.getElem?_eq_getElem short]
    simp [placesFrom, leafAt_place, found]

/-- Put the numbers of places, from a given one on, for the values of a test. -/
def ColumnTest.number (next : Nat) : ColumnTest → ColumnTest
  | .equals _ => .equals (.place next)
  | .among values => .among (placesFrom next values.length)
  | .comparisons tests =>
      .comparisons ((tests.map (·.1)).zip (placesFrom next tests.length))

/-- The number of values of several tests. -/
def sizeOfTests (tests : List (ColumnRef × ColumnTest)) : Nat :=
  (tests.flatMap (·.2.operands)).length

theorem sizeOfTests_append (tests others : List (ColumnRef × ColumnTest)) :
    sizeOfTests (tests ++ others) = sizeOfTests tests + sizeOfTests others := by
  simp [sizeOfTests]

mutual

/-- Put the numbers of places, from a given one on, for the leaves of a filter. -/
def Filter.number (next : Nat) : Filter → Filter
  | .ofEntries entries => .ofEntries (FilterEntry.numberAll next entries)

def FilterEntry.number (next : Nat) : FilterEntry → FilterEntry
  | .all branches => .all (Filter.numberAll next branches)
  | .any branches => .any (Filter.numberAll next branches)
  | .none branches => .none (Filter.numberAll next branches)
  | .test column test => .test column (test.number next)

def FilterEntry.numberAll (next : Nat) : List FilterEntry → List FilterEntry
  | [] => []
  | entry :: rest =>
      entry.number next :: FilterEntry.numberAll (next + sizeOfTests entry.tests) rest

def Filter.numberAll (next : Nat) : List Filter → List Filter
  | [] => []
  | filter :: rest =>
      filter.number next :: Filter.numberAll (next + sizeOfTests filter.tests) rest

end

namespace Filter

/-- From a place on, a list of leaves begins with the values of several tests. -/
def HoldsAt (leaves : List Value) (next : Nat) (tests : List (ColumnRef × ColumnTest)) : Prop :=
  tests.flatMap (·.2.operands) <+: leaves.drop next

theorem HoldsAt.append {leaves : List Value} {next : Nat}
    {tests others : List (ColumnRef × ColumnTest)}
    (holds : HoldsAt leaves next (tests ++ others)) :
    HoldsAt leaves next tests ∧ HoldsAt leaves (next + sizeOfTests tests) others := by
  obtain ⟨rest, whole⟩ := holds
  rw [List.flatMap_append, List.append_assoc] at whole
  refine ⟨⟨_, whole⟩, rest, ?_⟩
  rw [← List.drop_drop, ← whole, sizeOfTests, List.drop_left]

theorem map_number_test {leaves : List Value} {next : Nat} {column : ColumnRef}
    {test : ColumnTest} (holds : HoldsAt leaves next [(column, test)]) :
    (test.number next).mapOperands (leafAt leaves) = test := by
  have there : test.operands <+: leaves.drop next := by simpa [HoldsAt] using holds
  have operands := map_leafAt_placesFrom there
  cases test with
  | equals operand =>
      simpa [placesFrom, ColumnTest.operands, ColumnTest.number, ColumnTest.mapOperands]
        using operands
  | among values => exact congrArg ColumnTest.among operands
  | comparisons tests =>
      rw [ColumnTest.operands, List.length_map] at operands
      have paired : tests = (tests.map (·.1)).zip (tests.map (·.2)) := List.zip_of_prod rfl rfl
      have mapped :
          (tests.map (·.1)).zip ((placesFrom next tests.length).map (leafAt leaves)) = _ :=
        List.zip_map_right
      rw [operands, ← paired] at mapped
      exact congrArg ColumnTest.comparisons mapped.symm

mutual

/-- A numbered filter becomes the filter again when its leaves are put back. -/
theorem map_number {leaves : List Value} {next : Nat} (filter : Filter)
    (holds : HoldsAt leaves next filter.tests) :
    (filter.number next).mapOperands (leafAt leaves) = filter := by
  cases filter with
  | ofEntries entries => exact congrArg Filter.ofEntries (map_numberEntries entries holds)

theorem map_numberEntries {leaves : List Value} {next : Nat} (entries : List FilterEntry)
    (holds : HoldsAt leaves next (FilterEntry.testsOfAll entries)) :
    FilterEntry.mapAllOperands (leafAt leaves) (FilterEntry.numberAll next entries) =
      entries := by
  cases entries with
  | nil => rfl
  | cons entry rest =>
      obtain ⟨first, others⟩ := HoldsAt.append holds
      rw [FilterEntry.numberAll, FilterEntry.mapAllOperands, map_numberEntry entry first,
        map_numberEntries rest others]

theorem map_numberEntry {leaves : List Value} {next : Nat} (entry : FilterEntry)
    (holds : HoldsAt leaves next entry.tests) :
    (entry.number next).mapOperands (leafAt leaves) = entry := by
  cases entry with
  | all branches => exact congrArg FilterEntry.all (map_numberBranches branches holds)
  | any branches => exact congrArg FilterEntry.any (map_numberBranches branches holds)
  | none branches => exact congrArg FilterEntry.none (map_numberBranches branches holds)
  | test column test => exact congrArg (FilterEntry.test column) (map_number_test holds)

theorem map_numberBranches {leaves : List Value} {next : Nat} (branches : List Filter)
    (holds : HoldsAt leaves next (testsOfAll branches)) :
    mapAllOperands (leafAt leaves) (numberAll next branches) = branches := by
  cases branches with
  | nil => rfl
  | cons filter rest =>
      obtain ⟨first, others⟩ := HoldsAt.append holds
      rw [numberAll, mapAllOperands, map_number filter first, map_numberBranches rest others]

end

theorem placesFrom_add (next size more : Nat) :
    placesFrom next (size + more) = placesFrom next size ++ placesFrom (next + size) more := by
  rw [placesFrom, placesFrom, placesFrom, ← List.map_append, List.range'_append_1]

theorem operands_number_test (next : Nat) (test : ColumnTest) :
    (test.number next).operands = placesFrom next test.operands.length := by
  cases test with
  | equals operand => rfl
  | among values => rfl
  | comparisons tests =>
      simp [ColumnTest.number, ColumnTest.operands, placesFrom, List.map_snd_zip]

mutual

/-- The leaves of a numbered filter are the numbers of its places, in order. -/
theorem operands_number (next : Nat) (filter : Filter) :
    (filter.number next).tests.flatMap (·.2.operands) =
      placesFrom next (sizeOfTests filter.tests) := by
  cases filter with
  | ofEntries entries => exact operands_numberEntries next entries

theorem operands_numberEntries (next : Nat) (entries : List FilterEntry) :
    (FilterEntry.testsOfAll (FilterEntry.numberAll next entries)).flatMap (·.2.operands) =
      placesFrom next (sizeOfTests (FilterEntry.testsOfAll entries)) := by
  cases entries with
  | nil => rfl
  | cons entry rest =>
      rw [FilterEntry.numberAll, FilterEntry.testsOfAll, FilterEntry.testsOfAll, sizeOfTests_append,
        placesFrom_add, List.flatMap_append, operands_numberEntry, operands_numberEntries]

theorem operands_numberEntry (next : Nat) (entry : FilterEntry) :
    (entry.number next).tests.flatMap (·.2.operands) =
      placesFrom next (sizeOfTests entry.tests) := by
  cases entry with
  | all branches => exact operands_numberBranches next branches
  | any branches => exact operands_numberBranches next branches
  | none branches => exact operands_numberBranches next branches
  | test column test =>
      simpa [FilterEntry.number, FilterEntry.tests, sizeOfTests]
        using operands_number_test next test

theorem operands_numberBranches (next : Nat) (branches : List Filter) :
    (testsOfAll (numberAll next branches)).flatMap (·.2.operands) =
      placesFrom next (sizeOfTests (testsOfAll branches)) := by
  cases branches with
  | nil => rfl
  | cons filter rest =>
      rw [numberAll, testsOfAll, testsOfAll, sizeOfTests_append, placesFrom_add,
        List.flatMap_append, operands_number, operands_numberBranches]

end

/-- Tests of values that are of the same classes place by place. -/
def TestsAlike (tests others : List (ColumnRef × ColumnTest)) : Prop :=
  List.Forall₂ SameClass (tests.flatMap (·.2.operands)) (others.flatMap (·.2.operands))

theorem TestsAlike.size {tests others : List (ColumnRef × ColumnTest)}
    (alike : TestsAlike tests others) : sizeOfTests tests = sizeOfTests others :=
  alike.length_eq

theorem TestsAlike.append {tests others rest otherRest : List (ColumnRef × ColumnTest)}
    (alike : TestsAlike tests others) (restAlike : TestsAlike rest otherRest) :
    TestsAlike (tests ++ rest) (others ++ otherRest) := by
  unfold TestsAlike
  rw [List.flatMap_append, List.flatMap_append]
  exact List.rel_append alike restAlike

theorem readComparisons_alike {operators others : List (String × Value)}
    (alike : List.Forall₂ (fun one other => one.1 = other.1 ∧ SameClass one.2 other.2)
      operators others)
    {tests : List (Comparison × Value)} (accepted : readComparisons operators = .ok tests) :
    ∃ otherTests, readComparisons others = .ok otherTests ∧
      tests.map (·.1) = otherTests.map (·.1) := by
  induction alike generalizing tests with
  | nil =>
      cases accepted
      exact ⟨[], rfl, rfl⟩
  | @cons operator other rest others same _ induction =>
      obtain ⟨name, operand⟩ := operator
      obtain ⟨otherName, otherOperand⟩ := other
      obtain ⟨rfl, sameClass⟩ := same
      rw [readComparisons] at accepted ⊢
      split at accepted
      · cases accepted
      · next comparison known =>
        dsimp only
        rw [known, ← sameClass.isUnordered]
        dsimp only
        split at accepted
        · cases accepted
        · next ordered =>
          rw [if_neg ordered]
          obtain ⟨tail, tailAccepted, rfl⟩ := Except.map_eq_ok.mp accepted
          obtain ⟨otherTail, otherAccepted, sameTail⟩ := induction tailAccepted
          exact ⟨(comparison, otherOperand) :: otherTail,
            Except.map_eq_ok.mpr ⟨otherTail, otherAccepted, rfl⟩,
            congrArg (comparison :: ·) sameTail⟩

/-- What is said alike of a field is read as tests that differ in their values only. -/
theorem readTest_alike {value other : Value} (alike : SaidAlike value other) {test : ColumnTest}
    (accepted : readTest value = .ok test) :
    ∃ otherTest, readTest other = .ok otherTest ∧
      (∀ next, test.number next = otherTest.number next) ∧
      List.Forall₂ SameClass test.operands otherTest.operands := by
  cases alike with
  | single same =>
      cases accepted
      exact ⟨_, rfl, fun _ => rfl, .cons same .nil⟩
  | list same =>
      cases accepted
      refine ⟨_, rfl, fun next => ?_, same⟩
      rw [ColumnTest.number, ColumnTest.number, same.length_eq]
  | @operators operators others same =>
      obtain ⟨tests, testsAccepted, rfl⟩ := Except.map_eq_ok.mp accepted
      obtain ⟨otherTests, otherAccepted, sameTests⟩ := readComparisons_alike same testsAccepted
      refine ⟨.comparisons otherTests, Except.map_eq_ok.mpr ⟨_, otherAccepted, rfl⟩,
        fun next => ?_, ?_⟩
      · have sameLength : tests.length = otherTests.length := by
          simpa using congrArg List.length sameTests
        rw [ColumnTest.number, ColumnTest.number, sameTests, sameLength]
      · rw [ColumnTest.operands, ColumnTest.operands, operands_of_readComparisons testsAccepted,
          operands_of_readComparisons otherAccepted, List.forall₂_map_left_iff,
          List.forall₂_map_right_iff]
        exact same.imp fun _ _ both => both.2

/-- Two filters that differ in their leaves only, in values of the same classes. -/
def SameForm (filter other : Filter) : Prop :=
  (∀ next, filter.number next = other.number next) ∧ TestsAlike filter.tests other.tests

def SameForms (filters others : List Filter) : Prop :=
  (∀ next, numberAll next filters = numberAll next others) ∧
    TestsAlike (testsOfAll filters) (testsOfAll others)

def SameEntry (entry other : FilterEntry) : Prop :=
  (∀ next, entry.number next = other.number next) ∧ TestsAlike entry.tests other.tests

def SameEntries (entries others : List FilterEntry) : Prop :=
  (∀ next, FilterEntry.numberAll next entries = FilterEntry.numberAll next others) ∧
    TestsAlike (FilterEntry.testsOfAll entries) (FilterEntry.testsOfAll others)

theorem SameEntries.cons {entry other : FilterEntry} {rest others : List FilterEntry}
    (same : SameEntry entry other) (restSame : SameEntries rest others) :
    SameEntries (entry :: rest) (other :: others) := by
  refine ⟨fun next => ?_, same.2.append restSame.2⟩
  rw [FilterEntry.numberAll, FilterEntry.numberAll, same.1, same.2.size, restSame.1]

theorem SameForms.cons {filter other : Filter} {rest others : List Filter}
    (same : SameForm filter other) (restSame : SameForms rest others) :
    SameForms (filter :: rest) (other :: others) := by
  refine ⟨fun next => ?_, same.2.append restSame.2⟩
  rw [numberAll, numberAll, same.1, same.2.size, restSame.1]

theorem SameEntries.ofEntries {entries others : List FilterEntry}
    (same : SameEntries entries others) : SameForm (.ofEntries entries) (.ofEntries others) :=
  ⟨fun next => congrArg Filter.ofEntries (same.1 next), same.2⟩

theorem SameForm.single {filter other : Filter} (same : SameForm filter other) :
    SameForms [filter] [other] :=
  SameForms.cons same ⟨fun _ => rfl, .nil⟩

theorem SameForms.all {branches others : List Filter} (same : SameForms branches others) :
    SameEntry (.all branches) (.all others) :=
  ⟨fun next => congrArg FilterEntry.all (same.1 next), same.2⟩

theorem SameForms.any {branches others : List Filter} (same : SameForms branches others) :
    SameEntry (.any branches) (.any others) :=
  ⟨fun next => congrArg FilterEntry.any (same.1 next), same.2⟩

theorem SameForms.none {branches others : List Filter} (same : SameForms branches others) :
    SameEntry (.none branches) (.none others) :=
  ⟨fun next => congrArg FilterEntry.none (same.1 next), same.2⟩

theorem numberAll_singletons (next : Nat) (entries : List FilterEntry) :
    numberAll next (entries.map fun entry => .ofEntries [entry]) =
      (FilterEntry.numberAll next entries).map fun entry => .ofEntries [entry] := by
  induction entries generalizing next with
  | nil => rfl
  | cons entry rest induction =>
      simp [numberAll, FilterEntry.numberAll, number, tests, FilterEntry.testsOfAll, induction]

theorem SameEntries.singletons {entries others : List FilterEntry}
    (same : SameEntries entries others) :
    SameForms (entries.map fun entry => .ofEntries [entry])
      (others.map fun entry => .ofEntries [entry]) := by
  constructor
  · intro next
    rw [numberAll_singletons, numberAll_singletons, same.1]
  · rw [testsOfAll_singletons, testsOfAll_singletons]
    exact same.2

/-- A combinator makes its entry from the entries of a mapping in one way, which keeps the
form. -/
theorem readEntry_branch (table : Table) {key : String} (combinator : isCombinator key = true) :
    ∃ entryOf : List FilterEntry → FilterEntry,
      (∀ entries, readEntry table key (.object entries) =
        entryOf <$> readEntries table entries) ∧
      ∀ {entries others}, SameEntries entries others →
        SameEntry (entryOf entries) (entryOf others) := by
  simp only [isCombinator, Bool.or_eq_true, beq_iff_eq] at combinator
  rcases combinator with (rfl | rfl) | rfl
  · exact ⟨fun entries => .all [.ofEntries entries], fun _ => by rw [readEntry]; rfl,
      fun same => same.ofEntries.single.all⟩
  · exact ⟨fun entries => .any (entries.map fun entry => .ofEntries [entry]),
      fun _ => by rw [readEntry]; rfl, fun same => same.singletons.any⟩
  · exact ⟨fun entries => .none [.ofEntries entries], fun _ => by rw [readEntry]; rfl,
      fun same => same.ofEntries.single.none⟩

/-- A combinator makes its entry from a list of mappings in one way, which keeps the form. -/
theorem readEntry_branches (table : Table) {key : String}
    (combinator : isCombinator key = true) :
    ∃ entryOf : List Filter → FilterEntry,
      (∀ kind items, readEntry table key (.sequence kind items) =
        entryOf <$> readBranches table key items) ∧
      ∀ {branches others}, SameForms branches others →
        SameEntry (entryOf branches) (entryOf others) := by
  simp only [isCombinator, Bool.or_eq_true, beq_iff_eq] at combinator
  rcases combinator with (rfl | rfl) | rfl
  · exact ⟨.all, fun _ _ => by rw [readEntry], fun same => same.all⟩
  · exact ⟨.any, fun _ _ => by rw [readEntry], fun same => same.any⟩
  · exact ⟨.none, fun _ _ => by rw [readEntry], fun same => same.none⟩

theorem BranchesAlike.all_isMapping {items others : List Value}
    (alike : BranchesAlike items others) :
    items.all Value.isMapping = others.all Value.isMapping := by
  cases alike with
  | nil => rfl
  | cons branchAlike restAlike =>
      obtain ⟨_⟩ := branchAlike
      simp [Value.isMapping, BranchesAlike.all_isMapping restAlike]

/-- What a combinator says of a list like an accepted one is read as the mappings of that
list. -/
theorem readBranches_of_alike {table : Table} {key : String} {items others : List Value}
    {branches otherBranches : List Filter} (alike : BranchesAlike items others)
    (accepted : readBranches table key items = .ok branches)
    (othersAccepted : readAll table others = .ok otherBranches) :
    readBranches table key others = .ok otherBranches := by
  rw [readBranches] at accepted ⊢
  rw [← alike.all_isMapping]
  split at accepted
  · next mappings => rw [if_pos mappings, othersAccepted]
  · cases accepted

mutual

/-- A mapping like an accepted one is accepted, and read as a filter of the same form. -/
theorem read_alike {table : Table} {value other : Value} (alike : Alike value other)
    {filter : Filter} (accepted : read table value = .ok filter) :
    ∃ otherFilter, read table other = .ok otherFilter ∧ SameForm filter otherFilter := by
  cases alike with
  | ofEntries entriesAlike =>
      rw [read] at accepted
      obtain ⟨entries, entriesAccepted, rfl⟩ := Except.map_eq_ok.mp accepted
      obtain ⟨others, othersAccepted, same⟩ := readEntries_alike entriesAlike entriesAccepted
      rw [read]
      exact ⟨.ofEntries others, Except.map_eq_ok.mpr ⟨others, othersAccepted, rfl⟩,
        same.ofEntries⟩
termination_by sizeOf value

theorem readEntries_alike {table : Table} {entries others : List (String × Value)}
    (alike : EntriesAlike entries others) {read : List FilterEntry}
    (accepted : readEntries table entries = .ok read) :
    ∃ otherRead, readEntries table others = .ok otherRead ∧ SameEntries read otherRead := by
  cases alike with
  | nil =>
      rw [readEntries] at accepted
      cases accepted
      exact ⟨[], by rw [readEntries], fun _ => rfl, .nil⟩
  | cons entryAlike restAlike =>
      rw [readEntries] at accepted
      obtain ⟨entry, entryAccepted, restRead⟩ := Except.bind_eq_ok.mp accepted
      obtain ⟨rest, restAccepted, rfl⟩ := Except.map_eq_ok.mp restRead
      obtain ⟨otherEntry, otherEntryAccepted, entrySame⟩ :=
        readEntry_alike entryAlike entryAccepted
      obtain ⟨others, othersAccepted, restSame⟩ := readEntries_alike restAlike restAccepted
      rw [readEntries]
      exact ⟨otherEntry :: others,
        Except.bind_eq_ok.mpr ⟨otherEntry, otherEntryAccepted,
          Except.map_eq_ok.mpr ⟨others, othersAccepted, rfl⟩⟩,
        SameEntries.cons entrySame restSame⟩
termination_by sizeOf entries

theorem readEntry_alike {table : Table} {key : String} {value other : Value}
    (alike : EntryAlike key value other) {entry : FilterEntry}
    (accepted : readEntry table key value = .ok entry) :
    ∃ otherEntry, readEntry table key other = .ok otherEntry ∧ SameEntry entry otherEntry := by
  cases alike with
  | branch combinator branchAlike =>
      obtain ⟨entriesAlike⟩ := branchAlike
      obtain ⟨entryOf, reads, sameForm⟩ := readEntry_branch table combinator
      rw [reads] at accepted ⊢
      obtain ⟨entries, entriesAccepted, rfl⟩ := Except.map_eq_ok.mp accepted
      obtain ⟨others, othersAccepted, same⟩ := readEntries_alike entriesAlike entriesAccepted
      exact ⟨_, Except.map_eq_ok.mpr ⟨others, othersAccepted, rfl⟩, sameForm same⟩
  | branches combinator branchesAlike =>
      obtain ⟨entryOf, reads, sameForm⟩ := readEntry_branches table combinator
      rw [reads] at accepted ⊢
      obtain ⟨branches, branchesAccepted, rfl⟩ := Except.map_eq_ok.mp accepted
      obtain ⟨others, othersAccepted, same⟩ :=
        readAll_alike branchesAlike (readAll_of_readBranches branchesAccepted)
      exact ⟨_, Except.map_eq_ok.mpr ⟨others,
        readBranches_of_alike branchesAlike branchesAccepted othersAccepted, rfl⟩, sameForm same⟩
  | field field saidAlike =>
      rw [readEntry_field field] at accepted ⊢
      obtain ⟨column, columnFound, testRead⟩ := Except.bind_eq_ok.mp accepted
      obtain ⟨test, testAccepted, rfl⟩ := Except.map_eq_ok.mp testRead
      obtain ⟨otherTest, otherAccepted, sameNumber, sameClasses⟩ :=
        readTest_alike saidAlike testAccepted
      refine ⟨.test column otherTest,
        Except.bind_eq_ok.mpr ⟨column, columnFound,
          Except.map_eq_ok.mpr ⟨otherTest, otherAccepted, rfl⟩⟩,
        fun next => congrArg (FilterEntry.test column) (sameNumber next), ?_⟩
      simpa [TestsAlike, FilterEntry.tests] using sameClasses
termination_by sizeOf value

theorem readAll_alike {table : Table} {items others : List Value}
    (alike : BranchesAlike items others) {branches : List Filter}
    (accepted : readAll table items = .ok branches) :
    ∃ otherBranches, readAll table others = .ok otherBranches ∧
      SameForms branches otherBranches := by
  cases alike with
  | nil =>
      rw [readAll] at accepted
      cases accepted
      exact ⟨[], by rw [readAll], fun _ => rfl, .nil⟩
  | cons branchAlike restAlike =>
      rw [readAll] at accepted
      obtain ⟨branch, branchAccepted, restRead⟩ := Except.bind_eq_ok.mp accepted
      obtain ⟨rest, restAccepted, rfl⟩ := Except.map_eq_ok.mp restRead
      obtain ⟨otherBranch, otherAccepted, branchSame⟩ := read_alike branchAlike branchAccepted
      obtain ⟨others, othersAccepted, restSame⟩ := readAll_alike restAlike restAccepted
      rw [readAll]
      exact ⟨otherBranch :: others,
        Except.bind_eq_ok.mpr ⟨otherBranch, otherAccepted,
          Except.map_eq_ok.mpr ⟨others, othersAccepted, rfl⟩⟩,
        SameForms.cons branchSame restSame⟩
termination_by sizeOf items

end

end Filter
end SchemaStore
