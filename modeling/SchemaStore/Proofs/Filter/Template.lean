import SchemaStore.Proofs.Filter.Shape

/-!
# Templates of clauses

The clause of a numbered filter is a template: its operands are the places of leaves.
Compiling an accepted mapping is the same as filling the leaves of the mapping into the
template, so alike mappings have clauses with one text, and one list of places says for
all of them which leaves are parameters.
-/

namespace SchemaStore

/-- One text, whose parameters are the leaves at the same places before further ones. -/
structure BoundAlike (places : List Nat) (leaves others rest : List Value) (sql other : Sql) :
    Prop where
  text : sql.text = other.text
  params : sql.params.map some = places.map (leaves[·]?) ++ rest.map some
  otherParams : other.params.map some = places.map (others[·]?) ++ rest.map some

theorem ColumnTest.clauses_mapOperands (f : Value → Value) (column : ColumnRef)
    (test : ColumnTest) :
    (test.mapOperands f).clauses column = (test.clauses column).map (Clause.mapOperands f) := by
  cases test with
  | equals operand => rfl
  | among values => rfl
  | comparisons tests => simp [mapOperands, clauses, Function.comp_def, Clause.mapOperands]

namespace Filter

theorem negatedList_test_mapOperands (f : Value → Value) (column : ColumnRef)
    (test : ColumnTest) :
    ((test.mapOperands f).clauses column).map Clause.negate =
      ((test.clauses column).map Clause.negate).map (Clause.mapOperands f) := by
  rw [ColumnTest.clauses_mapOperands, List.map_map, List.map_map]
  apply List.map_congr_left
  intro clause _
  exact Clause.mapOperands_negate f clause

section Compiling

variable (f : Value → Value)

mutual

/-- Whatever stands in the places of a filter, its clause is put together in the same way. -/
theorem clause_mapOperands (filter : Filter) :
    (filter.mapOperands f).clause = filter.clause.mapOperands f := by
  cases filter with
  | ofEntries entries =>
      rw [mapOperands, clause, clause, (clauses_mapOperands entries).1,
        Clause.mapOperands_conjoin]

theorem clauses_mapOperands (entries : List FilterEntry) :
    FilterEntry.clauses (FilterEntry.mapAllOperands f entries) =
        (FilterEntry.clauses entries).map (Clause.mapOperands f) ∧
      FilterEntry.negatedList (FilterEntry.mapAllOperands f entries) =
        (FilterEntry.negatedList entries).map (Clause.mapOperands f) := by
  cases entries with
  | nil => exact ⟨rfl, rfl⟩
  | cons entry rest =>
      obtain ⟨positive, negative⟩ := clause_mapOperands_entry entry
      obtain ⟨others, negatedOthers⟩ := clauses_mapOperands rest
      constructor
      · rw [FilterEntry.mapAllOperands, FilterEntry.clauses, FilterEntry.clauses, positive, others,
          List.map_cons]
      · rw [FilterEntry.mapAllOperands, negatedList_cons, negatedList_cons entry, negative,
          negatedOthers, List.map_append]

theorem clause_mapOperands_entry (entry : FilterEntry) :
    (entry.mapOperands f).clause = entry.clause.mapOperands f ∧
      FilterEntry.negatedList [entry.mapOperands f] =
        (FilterEntry.negatedList [entry]).map (Clause.mapOperands f) := by
  cases entry with
  | all branches =>
      have whole : Clause.conjoin (clauseList (mapAllOperands f branches)) =
          (Clause.conjoin (clauseList branches)).mapOperands f := by
        rw [(clauseList_mapOperands branches).1, Clause.mapOperands_conjoin]
      exact ⟨whole, congrArg (fun clause : Clause => [clause.negate]) whole |>.trans
        (congrArg (fun clause => [clause]) (Clause.mapOperands_negate f _))⟩
  | any branches =>
      have whole : Clause.disjoin (clauseList (mapAllOperands f branches)) =
          (Clause.disjoin (clauseList branches)).mapOperands f := by
        rw [(clauseList_mapOperands branches).1, Clause.mapOperands_disjoin]
      exact ⟨whole, congrArg (fun clause : Clause => [clause.negate]) whole |>.trans
        (congrArg (fun clause => [clause]) (Clause.mapOperands_negate f _))⟩
  | none branches =>
      have whole : Clause.conjoin (negatedList (mapAllOperands f branches)) =
          (Clause.conjoin (negatedList branches)).mapOperands f := by
        rw [(clauseList_mapOperands branches).2, Clause.mapOperands_conjoin]
      exact ⟨whole, congrArg (fun clause : Clause => [clause.negate]) whole |>.trans
        (congrArg (fun clause => [clause]) (Clause.mapOperands_negate f _))⟩
  | test column test =>
      constructor
      · rw [FilterEntry.mapOperands, FilterEntry.clause, FilterEntry.clause,
          ColumnTest.clauses_mapOperands, Clause.mapOperands_conjoin]
      · simpa [FilterEntry.mapOperands, FilterEntry.negatedList]
          using negatedList_test_mapOperands f column test

theorem clauseList_mapOperands (branches : List Filter) :
    clauseList (mapAllOperands f branches) =
        (clauseList branches).map (Clause.mapOperands f) ∧
      negatedList (mapAllOperands f branches) =
        (negatedList branches).map (Clause.mapOperands f) := by
  cases branches with
  | nil => exact ⟨rfl, rfl⟩
  | cons filter rest =>
      obtain ⟨others, negatedOthers⟩ := clauseList_mapOperands rest
      have first := clause_mapOperands filter
      cases filter with
      | ofEntries entries =>
          constructor
          · rw [mapAllOperands, clauseList, clauseList, first, others, List.map_cons]
          · rw [mapAllOperands, mapOperands, negatedList, negatedList,
              (clauses_mapOperands entries).2, Clause.mapOperands_conjoin, negatedOthers,
              List.map_cons]

end

end Compiling

variable {table : Table} {value other : Value} {filter otherFilter : Filter}

/-- The clause of a filter with the places of its leaves as operands. -/
def template (filter : Filter) : Clause :=
  (filter.number 0).clause

theorem clause_eq_template (accepted : read table value = .ok filter) :
    filter.clause = filter.template.mapOperands (leafAt (leaves value)) := by
  have holds : HoldsAt (leaves value) 0 filter.tests := by
    rw [← operands_eq_leaves accepted]
    exact List.prefix_refl _
  rw [template, ← clause_mapOperands, map_number filter holds]

theorem leaves_alike (accepted : read table value = .ok filter)
    (otherAccepted : read table other = .ok otherFilter) (same : SameForm filter otherFilter) :
    List.Forall₂ SameClass (leaves value) (leaves other) := by
  rw [← operands_eq_leaves accepted, ← operands_eq_leaves otherAccepted]
  exact same.2

theorem template_alike (same : SameForm filter otherFilter) :
    filter.template = otherFilter.template :=
  congrArg clause (same.1 0)

/-- The operands of a template are places of leaves. -/
theorem exists_place_of_template (accepted : read table value = .ok filter) {operand : Value}
    (member : operand ∈ filter.template.operands) :
    ∃ place < (leaves value).length, operand = .place place := by
  obtain ⟨parameter, parameterMember, rfl⟩ := List.mem_map.mp member
  have within : parameter.value ∈ (filter.number 0).operands := by
    rw [← map_value_parameters]
    exact List.mem_map_of_mem (parameters_clause _ parameterMember)
  rw [operands, operands_number, placesFrom] at within
  obtain ⟨place, inside, isPlace⟩ := List.mem_map.mp within
  have size : sizeOfTests filter.tests = (leaves value).length := by
    rw [← operands_eq_leaves accepted]
    rfl
  refine ⟨place, ?_, isPlace.symm⟩
  rw [← size]
  simpa using (List.mem_range'_1.mp inside).2

/-- The place that a number stands for. -/
def placeOf : Value → Nat
  | .scalar (.int place) => place.toNat
  | _ => 0

theorem some_leafAt {leaves : List Value} {operand : Value}
    (placed : ∃ place < leaves.length, operand = .place place) :
    some (leafAt leaves operand) = leaves[placeOf operand]? := by
  obtain ⟨place, inside, rfl⟩ := placed
  rw [leafAt_place, List.getElem?_eq_getElem inside]
  exact (List.getElem?_eq_getElem inside).symm

/-- The places of the leaves that stand in a clause. -/
def shownPlaces (filter : Filter) : List Nat :=
  filter.template.operands.map placeOf

/-- The places of the leaves that are parameters. -/
def boundPlaces (filter : Filter) (leaves : List Value) : List Nat :=
  (filter.template.bound fun operand => (leafAt leaves operand).operandClass).map placeOf

theorem boundPlaces_sublist (filter : Filter) (leaves : List Value) :
    (filter.boundPlaces leaves).Sublist filter.shownPlaces :=
  (Clause.bound_sublist_operands _ _).1.map placeOf

theorem mem_boundPlaces (accepted : read table value = .ok filter) {place : Nat} {leaf : Value}
    (shown : place ∈ filter.shownPlaces) (found : (leaves value)[place]? = some leaf)
    (unwritten : leaf.operandClass = .other) : place ∈ filter.boundPlaces (leaves value) := by
  obtain ⟨operand, member, rfl⟩ := List.mem_map.mp shown
  have placed := exists_place_of_template accepted member
  rw [← some_leafAt placed, Option.some_inj] at found
  subst found
  exact List.mem_map_of_mem ((Clause.bound_sublist_operands _ _).2 operand member unwritten)

/-- The operands of a clause are the leaves at the shown places. -/
theorem operands_clause (accepted : read table value = .ok filter) :
    filter.clause.operands.map some = filter.shownPlaces.map ((leaves value)[·]?) := by
  rw [clause_eq_template accepted, Clause.operands_mapOperands, shownPlaces, List.map_map,
    List.map_map]
  apply List.map_congr_left
  intro operand member
  exact some_leafAt (exists_place_of_template accepted member)

theorem sameClass_leafAt {leaves others : List Value}
    (same : List.Forall₂ SameClass leaves others) (operand : Value) :
    SameClass (leafAt leaves operand) (leafAt others operand) := by
  have atPlace (place : Nat) :
      SameClass ((leaves[place]?).getD .null) ((others[place]?).getD .null) := by
    induction same generalizing place with
    | nil => rfl
    | cons leafSame _ induction =>
        cases place with
        | zero => exact leafSame
        | succ place => exact induction place
  unfold leafAt
  split
  · exact atPlace _
  · rfl

/-- Leaves of the same classes in the places of one clause. -/
theorem boundAlike_mapOperands {template : Clause} {leaves others : List Value}
    (same : List.Forall₂ SameClass leaves others)
    (placed : ∀ operand ∈ template.operands, ∃ place < leaves.length, operand = .place place)
    (dialect : Dialect) :
    BoundAlike
      ((template.bound fun operand => (leafAt leaves operand).operandClass).map placeOf)
      leaves others []
      ((template.mapOperands (leafAt leaves)).render dialect)
      ((template.mapOperands (leafAt others)).render dialect) := by
  have classes (operand : Value) : SameClass (leafAt leaves operand) (leafAt others operand) :=
    sameClass_leafAt same operand
  have sameBound : (template.bound fun operand => (leafAt others operand).operandClass) =
      template.bound fun operand => (leafAt leaves operand).operandClass :=
    Clause.bound_congr fun operand _ => (classes operand).symm
  have inside := (Clause.bound_sublist_operands
    (fun operand => (leafAt leaves operand).operandClass) template).1.subset
  constructor
  · exact Clause.text_render_mapOperands dialect template fun operand _ => classes operand
  · rw [Clause.params_render_mapOperands, List.map_nil, List.append_nil, List.map_map,
      List.map_map]
    apply List.map_congr_left
    intro operand member
    exact some_leafAt (placed operand (inside member))
  · rw [Clause.params_render_mapOperands, sameBound, List.map_nil, List.append_nil, List.map_map,
      List.map_map]
    apply List.map_congr_left
    intro operand member
    obtain ⟨place, short, isPlace⟩ := placed operand (inside member)
    exact some_leafAt ⟨place, same.length_eq ▸ short, isPlace⟩

end Filter
end SchemaStore
