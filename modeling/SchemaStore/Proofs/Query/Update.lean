import Mathlib.Data.List.Permutation
import SchemaStore.Proofs.Query.Holding
import SchemaStore.Proofs.Query.Served

/-!
# Updated rows

An update finds rows by its filter, changes the rows with their ids, and reads the rows
with these ids, or with the new one, again.  Since ids tell rows apart, the three
statements are about the same rows.  Only if the id field has the name of a combinator,
the rows are not found again, though they have been changed.
-/

namespace SchemaStore

/-- A database whose rows of a table were replaced for good. -/
def Database.withRows (database : Database) (stored : StoredTable) (rows : List CellRow) :
    Database :=
  { database with
    tables := Database.replace database.tables { stored with rows }
    pending := none }

namespace Model

/-- A row after an update of chosen rows. -/
def updatedWhere (model : Model) (chosen : CellRow → Bool) (values : Record Value) (now : Cell)
    (row : CellRow) : CellRow :=
  if chosen row then model.updatedRow values now row else row

variable {model : Model} {tables after : List StoredTable} {stored : StoredTable}
  {values : Record Value} {now : Cell} {result : Result} {filter : Value}
  {conditions : List Clause} {row : CellRow}

namespace Holds

variable (holds : model.Holds tables stored) (valid : model.entity.Valid)
  (timeless : ∀ affinity, now.prefer affinity = now)

section One

include holds valid

/-- A changed row among the others, which it can be told apart from. -/
theorem moved {next : CellRow} (sound : model.FitsRow stored.table next)
    (checked : stored.checkRow (stored.rows.filter fun other =>
      stored.keyOf other != stored.keyOf row) next = .ok ()) :
    let rows := stored.insertRow next (stored.rows.filter fun other =>
      stored.keyOf other != stored.keyOf row)
    model.Holds (Database.replace tables { stored with rows }) { stored with rows } := by
  refine holds.replaced ?_ ?_
  · intro other otherMember
    rcases List.mem_cons.mp ((stored.insertRow_perm _ _).subset otherMember) with rfl | kept
    · exact sound
    · exact holds.sound other (List.mem_of_mem_filter kept)
  · refine StoredTable.pairwise_insertRow (holds.ordered.filter _) fun other kept same => ?_
    obtain ⟨key, id⟩ := sound.id
    have otherId := holds.cell_idField valid (List.mem_of_mem_filter kept)
    have fresh := StoredTable.key_ne_of_checkRow checked
    rw [holds.fits.keyName valid, id] at fresh
    refine fresh (by rintro ⟨⟩) other kept ?_
    rw [otherId, same, holds.fits.keyOf valid id]

/-- The id by which an updated row is looked up, given or old, is compared as the row's key. -/
theorem exists_operand_of_updated (member : row ∈ stored.rows)
    (storable : Cell.isStorable (stored.keyOf row) = true)
    (single : ∀ value, values.get? model.idField = some value → ∃ s, value = .scalar s)
    (keyed : ∀ value, values.get? model.idField = some value →
      ∃ key, (⟨.plain, value⟩ : Parameter).boundCell.prefer .number = .int key) :
    ∃ s, (values.get? model.idField).getD (.int (stored.keyOf row)) = .scalar s ∧
      Clause.operandCell model.key (.operand model.key (.scalar s)) =
        .int (stored.keyOf (model.updatedRow values now row)) := by
  have id : CellRow.cell (model.updatedRow values now row) model.idField = _ :=
    id_updatedRow valid (holds.sound row member)
  cases given : values.get? model.idField with
  | none =>
      rw [given, holds.cell_idField valid member] at id
      refine ⟨.int (stored.keyOf row), rfl, ?_⟩
      rw [holds.fits.keyOf valid id]
      exact congrArg (Cell.prefer .number) (Parameter.boundCell_int storable)
  | some value =>
      obtain ⟨s, rfl⟩ := single value given
      obtain ⟨key, keyStored⟩ := keyed _ given
      rw [given] at id
      refine ⟨s, rfl, ?_⟩
      rw [holds.fits.keyOf valid (id.trans keyStored)]
      exact Parameter.operandCell_of_key rfl keyStored

include timeless

/-- An executed update of the row with an id puts the updated row into its place, or to where its
new id belongs. -/
theorem perform_one (member : row ∈ stored.rows)
    (performed : (Write.update model.table values
      (.compare .equal model.key (.int (stored.keyOf row)))).perform tables now =
        .ok (after, result)) :
    ∃ rows, after = Database.replace tables { stored with rows } ∧ result.rowCount = 1 ∧
      model.Holds after { stored with rows } ∧
      (∃ before rest, stored.rows = before ++ row :: rest ∧
        rows.Perm (before ++ model.updatedRow values now row :: rest)) ∧
      ∃ s, (values.get? model.idField).getD (.int (stored.keyOf row)) = .scalar s ∧
        Clause.operandCell model.key (.operand model.key (.scalar s)) =
          .int (stored.keyOf (model.updatedRow values now row)) := by
  obtain ⟨_, changed, found, bound, changing, rfl, rfl⟩ := Write.perform_update performed
  cases holds.found.symm.trans found
  obtain ⟨valuesBound, idBound⟩ := List.forall_mem_append.mp bound
  have storable : Cell.isStorable (stored.keyOf row) = true :=
    Parameter.isStorable_of_cell rfl (idBound _ (List.mem_singleton_self _))
  have only : stored.matching (.compare .equal model.key (.int (stored.keyOf row))) = [row] := by
    rw [holds.matching_eq, ← StoredTable.filter_keyOf holds.ordered member]
    exact List.filter_congr fun other otherMember =>
      fulfils_id storable (holds.cell_idField valid otherMember)
  rw [only] at changing ⊢
  obtain ⟨next, made, checked, rest⟩ := StoredTable.change_cons changing
  cases rest
  have sound := holds.sound row member
  have keyed : ∀ value, values.get? model.idField = some value →
      ∃ key, (⟨.plain, value⟩ : Parameter).boundCell.prefer .number = .int key :=
    fun value given => exists_key_of_changedRow valid holds.fits made given
  cases changedRow_eq valid holds.fits sound timeless made
  refine ⟨_, rfl, rfl, holds.moved valid (sound.updated valid keyed) checked, ?_, ?_⟩
  · obtain ⟨before, rest, split⟩ := List.append_of_mem member
    refine ⟨before, rest, split, (stored.insertRow_perm _ _).trans ?_⟩
    rw [StoredTable.filter_keyOf_ne holds.ordered split]
    exact List.perm_middle.symm
  · exact holds.exists_operand_of_updated valid member storable
      (fun value given => scalar_of_bound valid valuesBound given) keyed

end One

include holds valid in
/-- A row is found by its id. -/
theorem reread {s : Scalar} {items : List Row} (member : row ∈ stored.rows)
    (operand : Clause.operandCell model.key (.operand model.key (.scalar s)) =
      .int (stored.keyOf row))
    (read : (model.lookup [.compare .equal model.key (.scalar s)] false (some 1)).rows tables =
      .ok items) :
    ∃ item, model.readRow row = .ok item ∧ items = [item] := by
  have asks {other : CellRow} (otherMember : other ∈ stored.rows) :
      model.fulfils [.compare .equal model.key (.scalar s)] other =
        (stored.keyOf other == stored.keyOf row) := by
    rw [fulfils_single]
    exact eval_id operand (holds.cell_idField valid otherMember)
  rcases holds.read_first read with ⟨none, -⟩ | ⟨other, item, otherMember, found, rowRead, made⟩
  · have there : row ∈ stored.rows.filter
        (model.fulfils [.compare .equal model.key (.scalar s)]) :=
      List.mem_filter.mpr ⟨member, by simp [asks member]⟩
    rw [none] at there
    cases there
  · rw [asks otherMember, beq_iff_eq] at found
    cases StoredTable.eq_of_keyOf holds.ordered otherMember member found
    exact ⟨item, rowRead, made⟩

section Many

variable {chosen : CellRow → Bool}

section Keys

variable (absent : values.get? model.idField = none)
include holds valid absent

theorem keyOf_updatedRow (member : row ∈ stored.rows) :
    stored.keyOf (model.updatedRow values now row) = stored.keyOf row := by
  have id : CellRow.cell (model.updatedRow values now row) model.idField = _ :=
    id_updatedRow valid (holds.sound row member)
  rw [absent, holds.cell_idField valid member] at id
  exact holds.fits.keyOf valid id

theorem keyOf_updatedWhere (member : row ∈ stored.rows) :
    stored.keyOf (model.updatedWhere chosen values now row) = stored.keyOf row := by
  unfold updatedWhere
  split
  · exact holds.keyOf_updatedRow valid absent member
  · rfl

/-- Rows that are updated where they stand are rows of the model again. -/
theorem updated (chosen : CellRow → Bool) (now : Cell) : model.Holds
    (Database.replace tables
      { stored with rows := stored.rows.map (model.updatedWhere chosen values now) })
    { stored with rows := stored.rows.map (model.updatedWhere chosen values now) } := by
  refine holds.replaced ?_ ?_
  · intro other otherMember
    obtain ⟨row, member, rfl⟩ := List.mem_map.mp otherMember
    unfold updatedWhere
    split
    · refine (holds.sound row member).updated valid fun value given => ?_
      rw [absent] at given
      cases given
    · exact holds.sound row member
  · refine List.pairwise_map.mpr (holds.ordered.imp_of_mem fun first second before => ?_)
    rwa [holds.keyOf_updatedWhere valid absent first,
      holds.keyOf_updatedWhere valid absent second]

end Keys

variable {ids : List Int}
  (named : ids.Perm ((stored.rows.filter chosen).map stored.keyOf))

include holds in
theorem keyOf_mem_iff (member : row ∈ stored.rows) :
    stored.keyOf row ∈ (stored.rows.filter chosen).map stored.keyOf ↔ chosen row = true := by
  constructor
  · intro there
    obtain ⟨other, otherMember, same⟩ := List.mem_map.mp there
    obtain ⟨known, otherChosen⟩ := List.mem_filter.mp otherMember
    exact StoredTable.eq_of_keyOf holds.ordered known member same ▸ otherChosen
  · exact fun rowChosen => List.mem_map_of_mem (List.mem_filter.mpr ⟨member, rowChosen⟩)

include holds named

/-- The rows with the ids of the chosen rows are these rows. -/
theorem fulfils_ids (storable : ∀ key ∈ ids, Cell.isStorable key = true)
    (member : row ∈ stored.rows) {other : CellRow}
    (id : CellRow.cell other model.idField = .int (stored.keyOf row)) :
    model.fulfils [.member false model.key (ids.map .int)] other = chosen row := by
  rw [fulfils_single, eval_ids storable id, Bool.eq_iff_iff, decide_eq_true_iff, named.mem_iff,
    holds.keyOf_mem_iff member]

include valid timeless

/-- An executed update of the rows with the ids of the chosen rows updates them where they
stand. -/
theorem perform_many (absent : values.get? model.idField = none)
    (performed : (Write.update model.table values
      (.member false model.key (ids.map .int))).perform tables now = .ok (after, result)) :
    ∃ rows, rows = stored.rows.map (model.updatedWhere chosen values now) ∧
      after = Database.replace tables { stored with rows } ∧
      result.rowCount = (stored.rows.filter chosen).length ∧
      model.Holds after { stored with rows } ∧
      rows.filter (model.fulfils [.member false model.key (ids.map .int)]) =
        (stored.rows.filter chosen).map (model.updatedRow values now) := by
  obtain ⟨_, changed, found, bound, changing, rfl, rfl⟩ := Write.perform_update performed
  cases holds.found.symm.trans found
  have storable : ∀ key ∈ ids, Cell.isStorable key = true :=
    storable_of_ids fun parameter member => bound parameter (List.mem_append_right _ member)
  have matched : stored.matching (.member false model.key (ids.map .int)) =
      stored.rows.filter chosen := by
    rw [holds.matching_eq]
    exact List.filter_congr fun row member =>
      holds.fulfils_ids named storable member (holds.cell_idField valid member)
  have made : changed =
      { stored with rows := stored.rows.map (model.updatedWhere chosen values now) } := by
    have distinct : ((stored.rows.filter chosen).map stored.keyOf).Nodup :=
      List.pairwise_map.mpr ((holds.ordered.filter _).imp fun before => Int.ne_of_lt before)
    rw [matched] at changing
    rw [StoredTable.change_eq (f := model.updatedRow values now) holds.ordered
      (fun row member => List.mem_of_mem_filter member) distinct
      (fun row member next rowMade => changedRow_eq valid holds.fits
        (holds.sound row (List.mem_of_mem_filter member)) timeless rowMade)
      (fun row member => holds.keyOf_updatedRow valid absent (List.mem_of_mem_filter member))
      changing]
    congr 1
    refine List.map_congr_left fun row member => ?_
    rw [updatedWhere]
    simp only [holds.keyOf_mem_iff member]
  cases made
  have holdsAfter := holds.updated valid absent chosen now
  refine ⟨_, rfl, rfl, by rw [matched], holdsAfter, ?_⟩
  have asks : ∀ row ∈ stored.rows,
      (model.fulfils [.member false model.key (ids.map .int)] ∘
        model.updatedWhere chosen values now) row = chosen row := by
    intro row member
    have id := holdsAfter.cell_idField valid (List.mem_map_of_mem member)
    rw [StoredTable.keyOf_with, holds.keyOf_updatedWhere valid absent member] at id
    exact holds.fulfils_ids named storable member id
  rw [List.filter_map, List.filter_congr asks]
  exact List.map_congr_left fun row member => if_pos (List.mem_filter.mp member).2

end Many

end Holds

/-- What was written is read again; ids are refused under the name of a combinator. -/
def Rereads {α β : Type} (model : Model) (read : Except Failure α) (f : α → β)
    (outcome : Except Failure β) : Prop :=
  if Filter.isCombinator model.idField then
    outcome = .error (FilterDefect.badBranches model.idField).failure
  else ∃ a, read = .ok a ∧ outcome = .ok (f a)

/-- What an update of the first matching row comes to: if no row matches, nothing happens;
otherwise one matching row is updated, and it is read again. -/
def UpdatesOne (model : Model) (database : Database) (stored : StoredTable) (filter : Value)
    (values : Record Value) (after? : Option Database)
    (outcome : Except Failure (Updated (Option Row))) : Prop :=
  (stored.rows.filter (model.matchesRow filter) = [] ∧ after? = some database ∧
      outcome = .ok ⟨0, none⟩) ∨
    ∃ before row after rows, stored.rows = before ++ row :: after ∧
      model.matchesRow filter row = true ∧
      rows.Perm (before ++ model.updatedRow values database.now row :: after) ∧
      after? = some (database.withRows stored rows) ∧
      model.Rereads (model.readRow (model.updatedRow values database.now row))
        (fun item => ⟨1, some item⟩) outcome

/-- What an update of all matching rows comes to: if no row matches, nothing happens; otherwise
the matching rows are updated where they stand, and they are read again in their order. -/
def UpdatesMany (model : Model) (database : Database) (stored : StoredTable) (filter : Value)
    (values : Record Value) (after? : Option Database)
    (outcome : Except Failure (Updated (List Row))) : Prop :=
  let matching := stored.rows.filter (model.matchesRow filter)
  (matching = [] ∧ after? = some database ∧ outcome = .ok ⟨0, []⟩) ∨
    (matching ≠ [] ∧
      after? = some (database.withRows stored
        (stored.rows.map (model.updatedWhere (model.matchesRow filter) values database.now))) ∧
      model.Rereads ((matching.map (model.updatedRow values database.now)).mapM model.readRow)
        (fun items => ⟨matching.length, items⟩) outcome)

theorem Rereads.map {α β γ : Type} {read : Except Failure α} {f : α → β}
    {outcome : Except Failure β} (rereads : model.Rereads read f outcome) (g : β → γ) :
    model.Rereads read (fun a => g (f a)) (g <$> outcome) := by
  unfold Rereads at rereads ⊢
  cases combined : Filter.isCombinator model.idField with
  | true =>
      rw [combined, if_pos rfl] at rereads
      rw [rereads]
      rfl
  | false =>
      rw [combined] at rereads
      obtain ⟨a, known, rfl⟩ := rereads
      exact ⟨a, known, rfl⟩

section Programs

variable {State : Type} {backend : Backend State} {database? : State → Option Database}
  {database : Database} {start final : State} {events : List (Event Request Request.Reply)}
  {data : Value}

variable (valid : model.entity.Valid) (serves : Serves backend model.pool database?)
  (unfailing : ∀ event ∈ events, event.hasFailed = false)

section Rereading

include valid serves unfailing

variable (leads : database? start = some database) (holds : model.Holds database.tables stored)
include leads holds

theorem findById_rereads {s : Scalar} {outcome : Except Failure (Option Row)}
    (member : row ∈ stored.rows)
    (operand : Clause.operandCell model.key (.operand model.key (.scalar s)) =
      .int (stored.keyOf row))
    (ends : (model.findById (.scalar s)).Ends backend start outcome events final) :
    database? final = some database ∧ model.Rereads (model.readRow row) some outcome := by
  have there : (Value.scalar s).isNull = false := by
    cases s <;> first | rfl | cases operand
  have looked : model.findById (.scalar s) =
      model.findOne (.object [(model.idField, .scalar s)]) := by
    rw [Model.findById, there]
    rfl
  rw [looked] at ends
  unfold Rereads
  cases combined : Filter.isCombinator model.idField with
  | true =>
      rw [findOne_refused rfl (condition_combined combined (.inl ⟨s, rfl⟩))] at ends
      obtain ⟨rfl, rfl, -⟩ := ends.of_ofResult
      exact ⟨leads, rfl⟩
  | false =>
      obtain ⟨leadsFinal, items, read, rfl⟩ :=
        serves.findOne leads valid (condition_id valid combined s) rfl ends unfailing
      obtain ⟨item, rowRead, rfl⟩ := holds.reread valid member operand read
      exact ⟨leadsFinal, item, rowRead, rfl⟩

theorem findAllById_rereads {id : Int} {ids : List Int} {outcome : Except Failure (List Row)}
    (ends : (model.findAllById (.object [(model.idField,
      .sequence .list ((id :: ids).map .int))])).Ends backend start outcome events final) :
    database? final = some database ∧
      model.Rereads ((stored.rows.filter
        (model.fulfils [.member false model.key ((id :: ids).map .int)])).mapM model.readRow)
        (fun items => items) outcome := by
  unfold Rereads
  cases combined : Filter.isCombinator model.idField with
  | true =>
      have single : (∃ s, Value.sequence .list ((id :: ids).map .int) = .scalar s) ∨
          ∃ kind s rest, Value.sequence .list ((id :: ids).map .int) =
            .sequence kind (.scalar s :: rest) := .inr ⟨_, _, _, rfl⟩
      rw [findAllById_refused (condition_combined combined single)] at ends
      obtain ⟨rfl, rfl, -⟩ := ends.of_ofResult
      exact ⟨leads, rfl⟩
  | false =>
      obtain ⟨leadsFinal, items, read, rfl⟩ :=
        serves.findAllById leads valid (condition_ids valid combined .list _) ends unfailing
      exact ⟨leadsFinal, items, holds.read_all valid read, rfl⟩

/-- The ids of the matching rows, in some order. -/
theorem matchingIds_gives {outcome : Except Failure (List Value)}
    (stated : model.condition filter = .ok conditions)
    (ends : (model.matchingIds filter).Ends backend start outcome events final) :
    database? final = some database ∧ ∃ ids : List Int,
      ids.Perm ((stored.rows.filter (model.matchesRow filter)).map stored.keyOf) ∧
        outcome = .ok (ids.map .int) := by
  obtain ⟨leadsFinal, items, read, rfl⟩ := serves.matchingIds leads valid stated ends unfailing
  obtain ⟨visited, same, given⟩ := holds.ids_of_rows valid read
  rw [fulfils_condition stated] at same
  exact ⟨leadsFinal, visited.map stored.keyOf, same.map _, given⟩

end Rereading

variable (leads : database? start = some database) (holds : model.Holds database.tables stored)
  (accepted : model.someValuesOf data = .ok values)
  (stated : model.condition filter = .ok conditions)
include valid serves unfailing leads holds accepted stated

theorem updateOne_updates {outcome : Except Failure (Updated (Option Row))}
    (given : filter.truthy = true)
    (ends : (model.updateOne filter data).Ends backend start outcome events final) :
    model.UpdatesOne database stored filter values (database? final) outcome := by
  rcases (ends.of_ok_bind accepted).bind_cases with
    ⟨_, rfl, finding⟩ | ⟨found, between, first, second, finding, changing, rfl⟩
  · obtain ⟨-, _, -, same⟩ := serves.findOne leads valid stated given finding unfailing
    cases same
  obtain ⟨unfailingFirst, unfailingSecond⟩ := List.forall_mem_append.mp unfailing
  obtain ⟨leadsBetween, items, read, same⟩ :=
    serves.findOne leads valid stated given finding unfailingFirst
  cases same
  rcases holds.read_first read with ⟨none, rfl⟩ | ⟨row, item, member, chosen, rowRead, rfl⟩
  · cases changing
    rw [fulfils_condition stated] at none
    exact .inl ⟨none, leadsBetween, rfl⟩
  rw [fulfils_condition stated] at chosen
  have writing := (changing.of_ok_bind (holds.valueIn_idField valid member rowRead)).of_ok_bind
    (idColumn_eq valid)
  rcases writing.bind_cases with ⟨_, rfl, held⟩ | ⟨count, _, _, _, held, rereading, rfl⟩
  · obtain ⟨_, _, -, -, same⟩ := serves.write leadsBetween held unfailingSecond
    cases same
  obtain ⟨unfailingWrite, unfailingRead⟩ := List.forall_mem_append.mp unfailingSecond
  obtain ⟨_, result, performed, leadsAfter, same⟩ := serves.write leadsBetween held unfailingWrite
  cases same
  obtain ⟨rows, rfl, counted, holdsAfter, ⟨before, after, split, perm⟩, s, id, operand⟩ :=
    holds.perform_one valid database.prefer_now member performed
  obtain ⟨inner, again, rfl⟩ := rereading.exists_of_map
  rw [id] at again
  have next : model.updatedRow values database.now row ∈ rows :=
    perm.symm.subset (by simp)
  obtain ⟨leadsFinal, rereads⟩ :=
    findById_rereads valid serves unfailingRead leadsAfter holdsAfter next operand again
  rw [counted]
  exact .inr ⟨before, row, after, rows, split, chosen, perm, leadsFinal, rereads.map _⟩

theorem updateMany_updates {outcome : Except Failure (Updated (List Row))}
    (absent : values.has model.idField = false)
    (ends : (model.updateMany filter data).Ends backend start outcome events final) :
    model.UpdatesMany database stored filter values (database? final) outcome := by
  have missing : values.get? model.idField = none := by
    rwa [Record.has_eq_isSome_get?, Option.isSome_eq_false_iff, Option.isNone_iff_eq_none]
      at absent
  have finding := ends.of_ok_bind accepted
  simp only [absent] at finding
  rcases finding.bind_cases with
    ⟨_, rfl, held⟩ | ⟨ids, between, first, second, held, changing, rfl⟩
  · obtain ⟨-, _, -, same⟩ :=
      matchingIds_gives valid serves unfailing leads holds stated held
    cases same
  obtain ⟨unfailingFirst, unfailingSecond⟩ := List.forall_mem_append.mp unfailing
  obtain ⟨leadsBetween, ids, named, same⟩ :=
    matchingIds_gives valid serves unfailingFirst leads holds stated held
  cases same
  cases ids with
  | nil =>
      cases changing
      exact .inl ⟨List.map_eq_nil_iff.mp (List.nil_perm.mp named), leadsBetween, rfl⟩
  | cons id ids =>
      have occupied : stored.rows.filter (model.matchesRow filter) ≠ [] := by
        intro none
        rw [none] at named
        exact List.not_mem_nil (named.subset List.mem_cons_self)
      have writing := Program.Ends.of_ok_bind (idColumn_eq valid) changing
      rcases writing.bind_cases with ⟨_, rfl, held⟩ | ⟨count, _, _, _, held, rereading, rfl⟩
      · obtain ⟨_, _, -, -, same⟩ := serves.write leadsBetween held unfailingSecond
        cases same
      obtain ⟨unfailingWrite, unfailingRead⟩ := List.forall_mem_append.mp unfailingSecond
      obtain ⟨_, result, performed, leadsAfter, same⟩ :=
        serves.write leadsBetween held unfailingWrite
      cases same
      obtain ⟨_, rfl, rfl, counted, holdsAfter, chosen⟩ :=
        holds.perform_many valid database.prefer_now named missing performed
      obtain ⟨inner, again, rfl⟩ := rereading.exists_of_map
      obtain ⟨leadsFinal, rereads⟩ :=
        findAllById_rereads valid serves unfailingRead leadsAfter holdsAfter again
      rw [counted]
      rw [chosen] at rereads
      exact .inr ⟨occupied, leadsFinal, rereads.map _⟩

/-- If nothing fails, an update changes just what it says: one matching row or all of them, and in
these the given columns and those that are refreshed.  It gives the rows as they are then, unless
the id field has the name of a combinator; then it is refused although rows have been changed. -/
theorem updates_matching :
    (∀ outcome, filter.truthy = true →
      (model.updateOne filter data).Ends backend start outcome events final →
        model.UpdatesOne database stored filter values (database? final) outcome) ∧
      ∀ outcome, values.has model.idField = false →
        (model.updateMany filter data).Ends backend start outcome events final →
          model.UpdatesMany database stored filter values (database? final) outcome :=
  ⟨fun _ given ends =>
      updateOne_updates valid serves unfailing leads holds accepted stated given ends,
    fun _ absent ends =>
      updateMany_updates valid serves unfailing leads holds accepted stated absent ends⟩

end Programs

section Progress

variable {State : Type} {backend : Backend State} {database? : State → Option Database}
  (valid : model.entity.Valid) (serves : Serves backend model.pool database?)
  (stated : model.condition filter = .ok conditions)
include valid serves stated

/-- The one row that matches a filter is found. -/
theorem findOne_leads (database : Database) (holds : model.Holds database.tables stored)
    (given : filter.truthy = true)
    (checked : Except.Succeeds
      ((model.lookup conditions false (some 1)).check database.tables))
    (readable : ∀ row ∈ stored.rows, Except.Succeeds (model.readRow row))
    (single : stored.rows.filter (model.fulfils conditions) = [row]) :
    ∃ item, model.readRow row = .ok item ∧
      (model.findOne filter).Leads backend database? database (some item) database := by
  obtain ⟨items, read⟩ := holds.lookup_succeeds checked readable
  rw [findOne_eq valid given stated]
  rcases holds.read_first read with ⟨none, -⟩ | ⟨other, item, member, found, rowRead, rfl⟩
  · rw [single] at none
    cases none
  · have same : other ∈ [row] := single ▸ List.mem_filter.mpr ⟨member, found⟩
    cases List.mem_singleton.mp same
    exact ⟨item, rowRead, (serves.leads_fetch read).bind (Program.Leads.ofResult rfl)⟩

theorem findAllById_leads {database : Database} {items : List Row}
    (read : (model.lookup conditions true none).rows database.tables = .ok items) :
    (model.findAllById filter).Leads backend database? database items database := by
  rw [findAllById_eq valid stated]
  exact serves.leads_fetch read

theorem matchingIds_leads {database : Database} {items : List Row} {ids : List Value}
    (read : (model.idQuery conditions).rows database.tables = .ok items)
    (given : items.mapM (valueIn model.idField) = .ok ids) :
    (model.matchingIds filter).Leads backend database? database ids database :=
  (Program.Leads.ofResult (idColumn_eq valid)).bind ((Program.Leads.ofResult stated).bind
    ((serves.leads_fetch read).bind (Program.Leads.ofResult given)))

end Progress

set_option maxRecDepth 8000 in
/-- Of three notes, one is updated and gets a new id; or two are updated where they stand. -/
theorem updates_matching_notes :
    let entity : Entity :=
      ⟨"Note", [("id", { type := .int, isId := true }), ("title", { type := .string }),
        ("at", { type := .dateTime, isUpdatedAt := true })]⟩
    let model : Model := {
      schema := ⟨⟨.sqlite, "file:./dev.db", none⟩, [entity]⟩
      entity
      dialect := .sqlite
      settings := {}
      pool := 0 }
    let note (id : Int) (title time : String) : CellRow :=
      [("id", .int id), ("title", .text title), ("at", .text time)]
    let clock : Moment := ⟨2020, 1, 2, 0, 0, 0, 0, none⟩
    let stored (rows : List CellRow) : StoredTable := { table := model.table, rows }
    let old := "2020-01-01 00:00:00"
    let new := "2020-01-02 00:00:00"
    let rows := [note 1 "a" old, note 2 "b" old, note 3 "a" old]
    let database : Database := { tables := [stored rows], clock }
    let host : Host := { pools := [.memory database], clock }
    let filter (title : String) : Value := .object [("title", .text title)]
    let renumbered : Record Value := [("id", .int 7), ("title", .text "c")]
    let renamed : Record Value := [("title", .text "c")]
    (∃ outcome events final,
        (model.updateOne (filter "b") (.object renumbered)).Ends Host.backend host outcome events
          final ∧
        final.database? 0 = some { database with
          tables := [stored [note 1 "a" old, note 3 "a" old, note 7 "c" new]] } ∧
        model.UpdatesOne database (stored rows) (filter "b") renumbered (final.database? 0)
          outcome) ∧
      ∃ outcome events final,
        (model.updateMany (filter "a") (.object renamed)).Ends Host.backend host outcome events
          final ∧
        final.database? 0 = some { database with
          tables := [stored [note 1 "c" new, note 2 "b" old, note 3 "c" new]] } ∧
        model.UpdatesMany database (stored rows) (filter "a") renamed (final.database? 0)
          outcome := by
  intro entity model note clock stored old new rows database host filter renumbered renamed
  let title : ColumnRef := ⟨"notes", "title", .varchar⟩
  have table : model.table = {
      name := "notes"
      columns := [{ name := "id", type := .integer, isKey := true },
        { name := "title", type := .varchar },
        { name := "at", type := .timestamp, fallback := some .now, refreshed := true }] } := by
    decide +kernel
  have valid : entity.Valid := by
    rw [Entity.valid_iff]
    decide
  have serves : Serves Host.backend model.pool (·.database? 0) := Host.serves 0
  have sound (id : Int) (title time : String) : model.FitsRow model.table (note id title time) :=
    ⟨by rw [table]; rfl, id, rfl⟩
  have holdsAll {rows : List CellRow} (sound : ∀ row ∈ rows, model.FitsRow model.table row)
      (ordered : rows.Pairwise fun first second =>
        (stored []).keyOf first < (stored []).keyOf second) :
      model.Holds [stored rows] (stored rows) :=
    ⟨List.find?_cons_of_pos (beq_self_eq_true _), fits_table valid, sound, ordered⟩
  have holds : model.Holds database.tables (stored rows) :=
    holdsAll (by simp [rows, sound]) (by decide +kernel)
  have stated (value : String) : model.condition (filter value) =
      .ok [.compare .equal title (.text value)] := by
    have read : Filter.read model.table (filter value) =
        .ok (.ofEntries [.test title (.equals (.text value))]) := by
      rw [table]
      simp only [filter, Value.text, Filter.read, Filter.readEntries, Filter.readEntry]
      rfl
    rw [condition_of_read read]
    rfl
  have accepted : model.someValuesOf (.object renumbered) = .ok renumbered ∧
      model.someValuesOf (.object renamed) = .ok renamed := by
    unfold someValuesOf valuesOf Model.column
    rw [table]
    exact ⟨rfl, rfl⟩
  have readable : ∀ row ∈ rows, Except.Succeeds (model.readRow row) := by decide +kernel
  let one := [note 1 "a" old, note 3 "a" old, note 7 "c" new]
  let many := [note 1 "c" new, note 2 "b" old, note 3 "c" new]
  let after (rows : List CellRow) : Database := { database with tables := [stored rows] }
  have oneLeads : ∃ a, (model.updateOne (filter "b") (.object renumbered)).Leads Host.backend
      (·.database? 0) database a (after one) := by
    obtain ⟨item, rowRead, found⟩ := findOne_leads valid serves (stated "b") database holds rfl
      (by decide +kernel) readable
      (show rows.filter (model.fulfils _) = [note 2 "b" old] by decide +kernel)
    have id := holds.valueIn_idField valid (by decide +kernel) rowRead
    obtain ⟨⟨_, result⟩, performed, rfl⟩ := Except.exists_of_toOption
      (show ((Write.update model.table renumbered (.compare .equal model.key (.int 2))).perform
        database.tables database.now).toOption.map Prod.fst = some [stored one] by decide +kernel)
    have holdsAfter : model.Holds (after one).tables (stored one) :=
      holdsAll (by simp [one, sound]) (by decide +kernel)
    obtain ⟨again, -, reread⟩ := findOne_leads valid serves
      (condition_id valid (by decide) (.int 7)) (after one) holdsAfter rfl (by decide +kernel)
      (by decide +kernel)
      (show one.filter (model.fulfils _) = [note 7 "c" new] by decide +kernel)
    exact ⟨_, (Program.Leads.ofResult accepted.1).bind (found.bind
      ((Program.Leads.ofResult id).bind ((Program.Leads.ofResult (idColumn_eq valid)).bind
        ((serves.leads_write performed).bind (reread.bind (Program.Leads.ofResult rfl))))))⟩
  have manyLeads : ∃ a, (model.updateMany (filter "a") (.object renamed)).Leads Host.backend
      (·.database? 0) database a (after many) := by
    obtain ⟨visited, same, read⟩ := holds.rows_idQuery valid
      (show Except.Succeeds ((model.idQuery [.compare .equal title (.text "a")]).check
        database.tables) by decide +kernel)
    rw [show (stored rows).rows.filter (model.fulfils [.compare .equal title (.text "a")]) =
      [note 1 "a" old, note 3 "a" old] by decide +kernel] at same
    let change (ids : List Int) := Write.update model.table renamed
      (.member false model.key (ids.map .int))
    have performs {ids : List Int} (leadsTo : ((change ids).perform database.tables
        database.now).toOption.map Prod.fst = some [stored many]) :
        ∃ result, (change ids).perform database.tables database.now =
          .ok ([stored many], result) := by
      obtain ⟨⟨_, result⟩, performed, rfl⟩ := Except.exists_of_toOption leadsTo
      exact ⟨result, performed⟩
    -- The matching rows may be visited in any order.
    obtain ⟨id, ids, given, ⟨result, performed⟩, checked⟩ : ∃ id ids,
        (visited.map fun row => ([("id", .int ((stored rows).keyOf row))] : Row)).mapM
          (valueIn "id") = .ok ((id :: ids).map .int) ∧
        (∃ result, (change (id :: ids)).perform database.tables database.now =
          .ok ([stored many], result)) ∧
        Except.Succeeds ((model.lookup [.member false model.key ((id :: ids).map .int)] true
          none).check (after many).tables) := by
      rcases List.perm_pair.mp same with rfl | rfl
      · exact ⟨1, [3], rfl, performs (by decide +kernel), by decide +kernel⟩
      · exact ⟨3, [1], rfl, performs (by decide +kernel), by decide +kernel⟩
    have holdsAfter : model.Holds (after many).tables (stored many) :=
      holdsAll (by simp [many, sound]) (by decide +kernel)
    obtain ⟨items, again⟩ := holdsAfter.lookup_succeeds checked (by decide +kernel)
    have finding := matchingIds_leads valid serves (stated "a") read given
    have rereading :=
      findAllById_leads valid serves (condition_ids valid (by decide) .list _) again
    exact ⟨_, (Program.Leads.ofResult accepted.2).bind (finding.bind
      ((Program.Leads.ofResult (idColumn_eq valid)).bind
        ((serves.leads_write performed).bind (rereading.bind (Program.Leads.ofResult rfl)))))⟩
  constructor
  · obtain ⟨_, ending⟩ := oneLeads
    obtain ⟨events, final, ends, leads, unfailing⟩ := ending host rfl
    exact ⟨_, events, final, ends, leads,
      (updates_matching valid serves unfailing rfl holds accepted.1 (stated "b")).1 _ rfl ends⟩
  · obtain ⟨_, ending⟩ := manyLeads
    obtain ⟨events, final, ends, leads, unfailing⟩ := ending host rfl
    exact ⟨_, events, final, ends, leads,
      (updates_matching valid serves unfailing rfl holds accepted.2 (stated "a")).2 _ rfl ends⟩
end Model
end SchemaStore
