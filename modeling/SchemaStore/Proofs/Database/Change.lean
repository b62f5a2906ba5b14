import Mathlib.Data.List.Nodup
import SchemaStore.Database.Writing
import SchemaStore.Proofs.Outcome
import SchemaStore.Proofs.Text.Blank

/-!
# Changed rows

Rows stand in the order of their keys.  A row that is changed is taken out and put among
the others again; if it keeps its key, it comes to stand in its old place.  So a change of
several rows that keeps their keys replaces each of them where it stands.
-/

namespace SchemaStore

section Times

/-- A text with a colon is no number. -/
theorem Cell.prefer_of_colon {s : String} (colon : ':' ∈ s.toList) (affinity : Affinity) :
    (Cell.text s).prefer affinity = .text s := by
  cases affinity with
  | text => rfl
  | number =>
      have unread : readNumber? s = none := by
        have kept := Text.mem_trimWhile (p := isBlank) colon rfl
        unfold readNumber?
        dsimp only
        rw [if_pos]
        rw [Bool.not_eq_true', List.all_eq_false]
        exact ⟨':', kept, by decide⟩
      rw [prefer, unread]
      rfl

theorem Moment.colon_mem_timeText (m : Moment) (micros : Bool) :
    ':' ∈ (m.timeText micros).toList := by
  unfold timeText
  cases micros <;> simp [String.toList_append]

theorem Database.prefer_now (database : Database) (affinity : Affinity) :
    database.now.prefer affinity = database.now := by
  refine Cell.prefer_of_colon ?_ affinity
  simp [String.toList_append, Moment.colon_mem_timeText]

theorem Moment.colon_mem_display (m : Moment) (separator : String) :
    ':' ∈ (m.display separator).toList := by
  simp [display, String.toList_append, colon_mem_timeText]

end Times

namespace StoredTable

variable {stored changed : StoredTable} {given : Record Cell} {rows : List CellRow}

/-- A changed row that keeps its key comes to stand where it stood. -/
theorem insertRow_replaced {row next : CellRow}
    (ordered : rows.Pairwise fun first second => stored.keyOf first < stored.keyOf second)
    (member : row ∈ rows) (same : stored.keyOf next = stored.keyOf row) :
    stored.insertRow next (rows.filter fun other => stored.keyOf other != stored.keyOf row) =
      rows.map fun other => if stored.keyOf other = stored.keyOf row then next else other := by
  induction rows with
  | nil => cases member
  | cons head rest induction =>
      obtain ⟨first, restOrdered⟩ := List.pairwise_cons.mp ordered
      by_cases here : stored.keyOf head = stored.keyOf row
      · have apart : ∀ other ∈ rest, stored.keyOf other ≠ stored.keyOf row := by
          intro other otherMember
          have later := first other otherMember
          omega
        have kept : rest.filter (fun other => stored.keyOf other != stored.keyOf row) = rest :=
          List.filter_eq_self.mpr fun other otherMember => by simp [apart other otherMember]
        have unchanged : (rest.map fun other =>
            if stored.keyOf other = stored.keyOf row then next else other) = rest :=
          (List.map_congr_left fun other otherMember => if_neg (apart other otherMember)).trans
            (List.map_id' rest)
        rw [List.filter_cons_of_neg (by simp [here]), List.map_cons, if_pos here, kept, unchanged]
        cases rest with
        | nil => rfl
        | cons second others =>
            have before := first second List.mem_cons_self
            rw [insertRow, if_pos (by omega)]
      · have later : row ∈ rest := by
          rcases List.mem_cons.mp member with rfl | later
          · exact absurd rfl here
          · exact later
        have before := first row later
        rw [List.filter_cons_of_pos (by simp [here]), List.map_cons, if_neg here, insertRow,
          if_neg (by omega), induction restOrdered later]

/-- Keys tell the rows of a table apart. -/
theorem eq_of_keyOf
    (ordered : rows.Pairwise fun first second => stored.keyOf first < stored.keyOf second)
    {row other : CellRow} (member : row ∈ rows) (otherMember : other ∈ rows)
    (same : stored.keyOf row = stored.keyOf other) : row = other := by
  have distinct : (rows.map stored.keyOf).Nodup :=
    List.pairwise_map.mpr (ordered.imp fun before => Int.ne_of_lt before)
  exact List.inj_on_of_nodup_map distinct member otherMember same

theorem keyCell_eq_ok {cell : Cell} {key : Int} :
    keyCell cell = .ok key ↔ cell.prefer .number = .int key := by
  unfold keyCell
  split
  · next n same => rw [same, Except.ok.injEq, Cell.int.injEq]
  · next other => exact iff_of_false (by rintro ⟨⟩) (other key)

/-- The cell of a column of a changed row. -/
def changedCell (stored : StoredTable) (given : Record Cell) (key : Int) (name : String)
    (old : Cell) : Cell :=
  match stored.table.column? name with
  | none => old
  | some column =>
      if column.isKey then .int key
      else ((given.get? name).map (·.prefer column.type.affinity)).getD old

/-- A changed row has the key that is given, else its own. -/
theorem changedRow_eq_map (stored : StoredTable) (given : Record Cell) (row : CellRow) :
    stored.changedRow given row =
      (fun key => row.map fun entry =>
          (entry.1, stored.changedCell given key entry.1 entry.2)) <$>
        (given.get? stored.keyName).elim (.ok (stored.keyOf row)) keyCell := by
  rw [map_eq_pure_bind]
  unfold changedRow
  -- Whatever the key comes from, the cells are made with it in the same way.
  cases given.get? stored.keyName
  all_goals
    refine congrArg (bind _)
      (funext fun key => congrArg Except.ok (List.map_congr_left fun entry _ => ?_))
    unfold changedCell
    dsimp only
    cases stored.table.column? entry.1 with
    | none => rfl
    | some column =>
        dsimp only
        cases column.isKey <;> cases given.get? entry.1 <;> rfl

/-- What a changed row is made of. -/
theorem exists_of_changedRow {row next : CellRow}
    (done : stored.changedRow given row = .ok next) :
    ∃ key, (given.get? stored.keyName = none → key = stored.keyOf row) ∧
      (∀ cell, given.get? stored.keyName = some cell → keyCell cell = .ok key) ∧
      next = row.map fun entry => (entry.1, stored.changedCell given key entry.1 entry.2) := by
  rw [changedRow_eq_map] at done
  obtain ⟨key, keyed, rfl⟩ := Except.map_eq_ok.mp done
  refine ⟨key, fun absent => ?_, fun cell there => ?_, rfl⟩
  · rw [absent] at keyed
    cases keyed
    rfl
  · rw [there] at keyed
    exact keyed

/-- What an added row is made of; its key is the one that is given, unless that is null. -/
theorem exists_of_add {next : StoredTable} {clock : Cell} {key : Int}
    (done : stored.add clock given = .ok (next, key)) :
    ∃ row, row = stored.table.columns.map (fun column =>
        (column.name, if column.isKey then .int key else newCell clock given column)) ∧
      (∀ cell, given.get? stored.keyName = some cell → cell ≠ .null →
        cell.prefer .number = .int key) ∧
      stored.checkRow stored.rows row = .ok () ∧
      next = { stored with rows := stored.insertRow row stored.rows } := by
  have keyed : ∃ n, (∀ cell, given.get? stored.keyName = some cell → cell ≠ .null →
        keyCell cell = .ok n) ∧ (do
      let row : CellRow := stored.table.columns.map fun column =>
        (column.name, if column.isKey then .int n else newCell clock given column)
      stored.checkRow stored.rows row
      return ({ stored with rows := stored.insertRow row stored.rows }, n) :
        Except Failure (StoredTable × Int)) = .ok (next, key) := by
    unfold add at done
    split at done
    · next null =>
      obtain ⟨n, -, made⟩ := Except.bind_eq_ok.mp done
      refine ⟨n, fun cell known other => ?_, made⟩
      rw [known] at null
      exact absurd null other
    · next given _ =>
      obtain ⟨n, keyed, made⟩ := Except.bind_eq_ok.mp done
      refine ⟨n, fun cell known _ => ?_, made⟩
      rwa [known] at keyed
  obtain ⟨n, keyed, made⟩ := keyed
  obtain ⟨⟨⟩, checked, rest⟩ := Except.bind_eq_ok.mp made
  cases rest
  exact ⟨_, rfl, fun cell known other => keyCell_eq_ok.mp (keyed cell known other), checked, rfl⟩

/-- What one step of a change did. -/
theorem change_cons {row : CellRow} (done : stored.change given (row :: rows) = .ok changed) :
    ∃ next, stored.changedRow given row = .ok next ∧
      stored.checkRow (stored.rows.filter fun other => stored.keyOf other != stored.keyOf row)
        next = .ok () ∧
      ({ stored with rows := stored.insertRow next (stored.rows.filter fun other =>
          stored.keyOf other != stored.keyOf row) } : StoredTable).change given rows =
        .ok changed := by
  obtain ⟨next, made, rest⟩ := Except.bind_eq_ok.mp done
  obtain ⟨⟨⟩, checked, rest⟩ := Except.bind_eq_ok.mp rest
  exact ⟨next, made, checked, rest⟩

/-- What a change of rows did that keeps their keys: it replaced them where they stand. -/
theorem change_eq {f : CellRow → CellRow}
    (ordered : stored.rows.Pairwise fun first second => stored.keyOf first < stored.keyOf second)
    (members : rows ⊆ stored.rows) (distinct : (rows.map stored.keyOf).Nodup)
    (changes : ∀ row ∈ rows, ∀ next, stored.changedRow given row = .ok next → next = f row)
    (keeps : ∀ row ∈ rows, stored.keyOf (f row) = stored.keyOf row)
    (done : stored.change given rows = .ok changed) :
    changed = { stored with
      rows := stored.rows.map fun row =>
        if stored.keyOf row ∈ rows.map stored.keyOf then f row else row } := by
  induction rows generalizing stored with
  | nil =>
      cases done
      simp
  | cons row rest induction =>
      obtain ⟨next, made, -, others⟩ := change_cons done
      obtain ⟨own, restMembers⟩ := List.cons_subset.mp members
      obtain ⟨fresh, restDistinct⟩ := List.nodup_cons.mp distinct
      obtain ⟨-, restChanges⟩ := List.forall_mem_cons.mp changes
      obtain ⟨same, restKeeps⟩ := List.forall_mem_cons.mp keeps
      cases changes row List.mem_cons_self next made
      rw [insertRow_replaced ordered own same] at others
      let replace (other : CellRow) : CellRow :=
        if stored.keyOf other = stored.keyOf row then f row else other
      let between : StoredTable := { stored with rows := stored.rows.map replace }
      have keyed (other : CellRow) : stored.keyOf (replace other) = stored.keyOf other := by
        dsimp only [replace]
        split
        · next here => rw [same, here]
        · rfl
      have betweenOrdered : between.rows.Pairwise fun first second =>
          between.keyOf first < between.keyOf second :=
        List.pairwise_map.mpr (ordered.imp fun before => by
          change stored.keyOf (replace _) < stored.keyOf (replace _)
          rwa [keyed, keyed])
      have apart : ∀ other ∈ rest, stored.keyOf other ≠ stored.keyOf row :=
        fun other later here => fresh (here ▸ List.mem_map_of_mem later)
      have betweenMembers : rest ⊆ between.rows := fun other later =>
        List.mem_map.mpr ⟨other, restMembers later, if_neg (apart other later)⟩
      have made := @induction between betweenOrdered betweenMembers restDistinct restChanges
        restKeeps others
      rw [made]
      congr 1
      rw [List.map_map]
      refine List.map_congr_left fun other otherMember => ?_
      rw [Function.comp_apply]
      by_cases here : stored.keyOf other = stored.keyOf row
      · have replaced : replace other = f row := if_pos here
        cases eq_of_keyOf ordered otherMember own here
        have done : between.keyOf (f row) ∉ rest.map between.keyOf := same ▸ fresh
        rw [replaced, if_neg done, if_pos (by simp)]
      · have kept : replace other = other := if_neg here
        rw [kept]
        simp only [List.map_cons, List.mem_cons, here, false_or]
        rfl

theorem keyOf_ne_of_split {before after : List CellRow} {row : CellRow}
    (ordered : rows.Pairwise fun first second => stored.keyOf first < stored.keyOf second)
    (split : rows = before ++ row :: after) :
    ∀ other ∈ before ++ after, stored.keyOf other ≠ stored.keyOf row := by
  rw [split] at ordered
  obtain ⟨-, rest, apart⟩ := List.pairwise_append.mp ordered
  obtain ⟨later, -⟩ := List.pairwise_cons.mp rest
  refine List.forall_mem_append.mpr ⟨fun other member => ?_, fun other member => ?_⟩
  · exact Int.ne_of_lt (apart other member row List.mem_cons_self)
  · exact Int.ne_of_gt (later other member)

/-- One row has the key of a row. -/
theorem filter_keyOf {row : CellRow}
    (ordered : rows.Pairwise fun first second => stored.keyOf first < stored.keyOf second)
    (member : row ∈ rows) :
    (rows.filter fun other => stored.keyOf other == stored.keyOf row) = [row] := by
  obtain ⟨before, after, split⟩ := List.append_of_mem member
  have apart : ∀ other ∈ before ++ after, ¬(stored.keyOf other == stored.keyOf row) = true :=
    fun other otherMember => by simpa using keyOf_ne_of_split ordered split other otherMember
  obtain ⟨apartBefore, apartAfter⟩ := List.forall_mem_append.mp apart
  rw [split, List.filter_append, List.filter_cons_of_pos (by simp),
    List.filter_eq_nil_iff.mpr apartBefore, List.filter_eq_nil_iff.mpr apartAfter]
  rfl

theorem filter_keyOf_ne {before after : List CellRow} {row : CellRow}
    (ordered : rows.Pairwise fun first second => stored.keyOf first < stored.keyOf second)
    (split : rows = before ++ row :: after) :
    (rows.filter fun other => stored.keyOf other != stored.keyOf row) = before ++ after := by
  have apart := keyOf_ne_of_split ordered split
  rw [split, List.filter_append, List.filter_cons_of_neg (by simp), ← List.filter_append]
  exact List.filter_eq_self.mpr fun other member => by simpa using apart other member

/-- Among the others, no row has the key of a row that may stand there. -/
theorem key_ne_of_checkRow {others : List CellRow} {row : CellRow}
    (checked : stored.checkRow others row = .ok ())
    (present : CellRow.cell row stored.keyName ≠ .null) :
    ∀ other ∈ others, CellRow.cell other stored.keyName ≠ CellRow.cell row stored.keyName := by
  intro other member same
  have taken : (CellRow.cell row stored.keyName != .null &&
      others.any fun other =>
        CellRow.cell other stored.keyName == CellRow.cell row stored.keyName) = true := by
    simp only [Bool.and_eq_true, bne_iff_ne, List.any_eq_true, beq_iff_eq]
    exact ⟨present, other, member, same⟩
  unfold checkRow at checked
  dsimp only at checked
  split at checked
  · cases checked
  · rw [if_pos taken] at checked
    cases checked

end StoredTable
end SchemaStore
