import SchemaStore.Proofs.Database.Writing
import SchemaStore.Query.Include

/-!
# Nested rows

A row of a search has its own columns and those of the included rows under their labels.  The
included rows are nested one after the other, each of them taking the columns whose labels begin
with its key.  If the keys and labels are kept apart, nothing is lost or put elsewhere.  If every
included row is there, only then.
-/

namespace SchemaStore

namespace Record

variable {α : Type} {record entries : Record α} {key : String} {value : α}

theorem keys_append (record entries : Record α) :
    (record ++ entries).keys = record.keys ++ entries.keys :=
  List.map_append

theorem mem_keys_of_get? (known : record.get? key = some value) : key ∈ record.keys := by
  rw [← has_eq_true_iff, has_eq_isSome_get?, known]
  rfl

theorem put_of_fresh (fresh : key ∉ record.keys) (value : α) :
    record.put key value = record ++ [(key, value)] :=
  if_neg (mt has_eq_true_iff.mp fresh)

theorem mem_keys_put {name : String} (member : name ∈ (record.put key value).keys) :
    name ∈ record.keys ∨ name = key := by
  rw [keys_put] at member
  split at member
  · exact .inl member
  · simpa using member

theorem keys_put_nodup (distinct : record.keys.Nodup) (key : String) (value : α) :
    (record.put key value).keys.Nodup := by
  rw [keys_put]
  split
  · exact distinct
  · next fresh =>
    rw [has_eq_true_iff] at fresh
    exact distinct.append (List.nodup_singleton key) (by simpa using fresh)

theorem keys_putAll_nodup (distinct : record.keys.Nodup) (entries : Record α) :
    (record.putAll entries).keys.Nodup := by
  induction entries generalizing record with
  | nil => exact distinct
  | cons entry rest induction => exact induction (keys_put_nodup distinct entry.1 entry.2)

theorem keys_putAll_nil_nodup (entries : Record α) : (Record.putAll [] entries).keys.Nodup :=
  keys_putAll_nodup (show (keys ([] : Record α)).Nodup from List.nodup_nil) entries

theorem mem_keys_putAll {name : String} (member : name ∈ (record.putAll entries).keys) :
    name ∈ record.keys ∨ name ∈ entries.keys := by
  induction entries generalizing record with
  | nil => exact .inl member
  | cons entry rest induction =>
      rcases induction member with put | later
      · rcases mem_keys_put put with known | rfl
        · exact .inl known
        · exact .inr List.mem_cons_self
      · exact .inr (List.mem_cons_of_mem _ later)

theorem putAll_append (record first second : Record α) :
    record.putAll (first ++ second) = (record.putAll first).putAll second :=
  List.foldl_append

/-- Entries with new names are put at the end. -/
theorem putAll_eq_append (distinct : (record ++ entries).keys.Nodup) :
    record.putAll entries = record ++ entries := by
  induction entries generalizing record with
  | nil => exact (List.append_nil record).symm
  | cons entry rest induction =>
      have fresh : entry.1 ∉ record.keys := by
        rw [keys_append] at distinct
        exact fun known => List.disjoint_of_nodup_append distinct known List.mem_cons_self
      have split : record ++ entry :: rest = record ++ [entry] ++ rest := by simp
      rw [putAll, List.foldl_cons, put_of_fresh fresh, split]
      exact induction (split ▸ distinct)

end Record

namespace Include

/-- The columns of an included row under their labels. -/
def labelled (included : Include) (row : Row) : Row :=
  row.map fun (name, value) => (included.label name, value)

/-- Whether there is an included row; only then it has an id. -/
def isFound (included : Include) (row : Row) : Bool :=
  !((row.get? included.idField).getD .null).isNull

/-- What stands under the key of an included row. -/
def entry (included : Include) (row : Row) : String × Value :=
  (included.key, if included.isFound row then .object row else .null)

/-- The labels of the own columns, the keys and the names of the included columns are such that
everything has a place of its own.  The included rows are nested in the order in which they are
listed. -/
structure Separate (labels : List String) (included : List (Include × List String)) : Prop where
  distinct : labels.Nodup
  own : ∀ part ∈ included, ∀ label ∈ labels, label ≠ part.1.key ∧ part.1.columnOf? label = none
  apart : included.Pairwise fun first second =>
    first.1.key ≠ second.1.key ∧ second.1.columnOf? first.1.key = none ∧
      ∀ name ∈ second.2, first.1.columnOf? (second.1.label name) = none

section Single

variable {included : Include} {label name : String} {row : Row}

theorem columnOf?_eq_some_iff :
    included.columnOf? label = some name ↔ label = included.label name := by
  have whole : (included.label name).toList = included.labelStart.toList ++ name.toList :=
    String.toList_append ..
  unfold columnOf?
  constructor
  · intro taken
    dsimp only at taken
    split at taken
    · next begins =>
      cases taken
      obtain ⟨rest, same⟩ := List.isPrefixOf_iff_prefix.mp begins
      apply String.toList_injective
      rw [Include.label, String.toList_append, ← same, List.drop_left, String.toList_ofList]
    · cases taken
  · rintro rfl
    have begins := List.isPrefixOf_iff_prefix.mpr ⟨name.toList, whole.symm⟩
    rw [if_pos begins, whole, List.drop_left, String.ofList_toList]

theorem columnOf?_label : included.columnOf? (included.label name) = some name :=
  columnOf?_eq_some_iff.mpr rfl

theorem columnOf?_eq_none_iff :
    included.columnOf? label = none ↔ ¬included.labelStart.toList <+: label.toList := by
  rw [columnOf?]
  split
  · next begins => simpa using List.isPrefixOf_iff_prefix.mp begins
  · next differs => simpa [List.isPrefixOf_iff_prefix] using differs

theorem label_injective : Function.Injective included.label := by
  intro first second same
  have taken : included.columnOf? (included.label first) = some first := columnOf?_label
  rw [same, columnOf?_label] at taken
  exact (Option.some.inj taken).symm

theorem keys_labelled (included : Include) (row : Row) :
    (included.labelled row).keys = row.keys.map included.label := by
  simp [labelled, Record.keys, Function.comp_def]

theorem rowOf_eq_nil (spared : ∀ name ∈ row.keys, included.columnOf? name = none) :
    included.rowOf row = [] := by
  refine List.filterMap_eq_nil_iff.mpr fun (name, value) member => ?_
  dsimp only
  rw [spared name (List.mem_map_of_mem member)]
  rfl

theorem restOf_eq_self (spared : ∀ name ∈ row.keys, included.columnOf? name = none) :
    included.restOf row = row := by
  refine List.filter_eq_self.mpr fun entry member => ?_
  rw [spared entry.1 (List.mem_map_of_mem member)]
  rfl

theorem rowOf_labelled (included : Include) (row : Row) :
    included.rowOf (included.labelled row) = row := by
  simp [rowOf, labelled, List.filterMap_map, columnOf?_label]

theorem restOf_labelled (included : Include) (row : Row) :
    included.restOf (included.labelled row) = [] := by
  refine List.filter_eq_nil_iff.mpr fun entry member => ?_
  obtain ⟨⟨name, value⟩, -, rfl⟩ := List.mem_map.mp member
  simp [columnOf?_label]

theorem label_mem_of_mem_rowOf (member : name ∈ (included.rowOf row).keys) :
    included.label name ∈ row.keys := by
  obtain ⟨⟨_, value⟩, entryMember, rfl⟩ := List.mem_map.mp member
  obtain ⟨⟨label, _⟩, known, taken⟩ := List.mem_filterMap.mp entryMember
  obtain ⟨name, named, same⟩ := Option.map_eq_some_iff.mp taken
  cases same
  rw [← columnOf?_eq_some_iff.mp named]
  exact List.mem_map_of_mem known

/-- Labelled columns among others are nested in an entry of their own. -/
theorem nest_labelled (row : Row) {before after : Row}
    (spared : ∀ name ∈ (before ++ after).keys, name ≠ included.key ∧
      included.columnOf? name = none) :
    included.nest (before ++ included.labelled row ++ after) =
      before ++ after ++ [included.entry row] := by
  rw [Record.keys_append, List.forall_mem_append] at spared
  obtain ⟨first, last⟩ := spared
  have nested : included.rowOf (before ++ included.labelled row ++ after) = row := by
    have none : included.rowOf before = [] := rowOf_eq_nil fun name member => (first name member).2
    have others : included.rowOf after = [] := rowOf_eq_nil fun name member => (last name member).2
    have one := rowOf_labelled included row
    unfold rowOf at none others one ⊢
    rw [List.filterMap_append, List.filterMap_append, none, others, one, List.append_nil,
      List.nil_append]
  have rest : included.restOf (before ++ included.labelled row ++ after) = before ++ after := by
    have all : included.restOf before = before :=
      restOf_eq_self fun name member => (first name member).2
    have others : included.restOf after = after :=
      restOf_eq_self fun name member => (last name member).2
    have none := restOf_labelled included row
    unfold restOf at all others none ⊢
    rw [List.filter_append, List.filter_append, all, others, none, List.append_nil]
  have fresh : included.key ∉ (before ++ after).keys := by
    rw [Record.keys_append, List.mem_append]
    rintro (member | member)
    · exact (first _ member).1 rfl
    · exact (last _ member).1 rfl
  rw [nest, nested, rest, Record.put_of_fresh fresh]
  rfl

/-- Only names of the row that are not taken and the key are left. -/
theorem mem_keys_nest (member : name ∈ (included.nest row).keys) :
    name = included.key ∨ name ∈ row.keys ∧ included.columnOf? name = none := by
  rcases Record.mem_keys_put member with left | same
  · obtain ⟨entry, entryMember, rfl⟩ := List.mem_map.mp left
    obtain ⟨known, spared⟩ := List.mem_filter.mp entryMember
    exact .inr ⟨List.mem_map_of_mem known, Option.isNone_iff_eq_none.mp spared⟩
  · exact .inl same

theorem keys_nest_nodup (distinct : row.keys.Nodup) : (included.nest row).keys.Nodup := by
  refine Record.keys_put_nodup ?_ _ _
  exact distinct.sublist (List.filter_sublist.map _)

theorem get?_nest (other : name ≠ included.key) (spared : included.columnOf? name = none) :
    (included.nest row).get? name = row.get? name := by
  rw [nest, Record.get?_put, if_neg other, Record.get?, Record.get?, restOf, List.find?_filter]
  congr 2
  funext entry
  by_cases same : entry.1 = name
  · simp [same, spared]
  · simp [same]

end Single

section Several

variable {includes : List Include} {parts : List (Include × Row)} {name : String} {row : Row}

/-- Names that are left are keys, or names of the row that no included row takes. -/
theorem mem_keys_nestAll (member : name ∈ (nestAll includes row).keys)
    (other : name ∉ includes.map key) :
    name ∈ row.keys ∧ ∀ included ∈ includes, included.columnOf? name = none := by
  induction includes generalizing row with
  | nil => exact ⟨member, by simp⟩
  | cons included rest induction =>
      obtain ⟨here, later⟩ := not_or.mp (mt List.mem_cons.mpr other)
      obtain ⟨left, spared⟩ := induction member later
      obtain ⟨known, untaken⟩ := (mem_keys_nest left).resolve_left here
      exact ⟨known, List.forall_mem_cons.mpr ⟨untaken, spared⟩⟩

theorem keys_nestAll_nodup (distinct : row.keys.Nodup) : (nestAll includes row).keys.Nodup := by
  induction includes generalizing row with
  | nil => exact distinct
  | cons included rest induction => exact induction (keys_nest_nodup distinct)

theorem get?_nestAll (other : name ∉ includes.map key)
    (spared : ∀ included ∈ includes, included.columnOf? name = none) :
    (nestAll includes row).get? name = row.get? name := by
  induction includes generalizing row with
  | nil => rfl
  | cons included rest induction =>
      obtain ⟨here, later⟩ := not_or.mp (mt List.mem_cons.mpr other)
      obtain ⟨untaken, others⟩ := List.forall_mem_cons.mp spared
      exact (induction later others).trans (get?_nest here untaken)

/-- Rows that are kept apart are nested at the end. -/
theorem nestAll_labelled (done : Row)
    (own : ∀ part ∈ parts, ∀ name ∈ (row ++ done).keys,
      name ≠ part.1.key ∧ part.1.columnOf? name = none)
    (apart : parts.Pairwise fun first second =>
      first.1.key ≠ second.1.key ∧ second.1.columnOf? first.1.key = none ∧
        ∀ name ∈ second.2.keys, first.1.columnOf? (second.1.label name) = none) :
    nestAll (parts.map (·.1)) (row ++ (parts.flatMap fun part => part.1.labelled part.2) ++ done) =
      row ++ done ++ parts.map fun part => part.1.entry part.2 := by
  induction parts generalizing done with
  | nil => simp [nestAll]
  | cons part rest induction =>
      obtain ⟨here, later⟩ := List.forall_mem_cons.mp own
      obtain ⟨first, others⟩ := List.pairwise_cons.mp apart
      let following := rest.flatMap fun part => part.1.labelled part.2
      have spared : ∀ name ∈ (row ++ (following ++ done)).keys,
          name ≠ part.1.key ∧ part.1.columnOf? name = none := by
        intro name member
        simp only [Record.keys_append, List.mem_append] at member here
        rcases member with known | labelled | known
        · exact here name (.inl known)
        · obtain ⟨entry, entryMember, rfl⟩ := List.mem_map.mp labelled
          obtain ⟨other, otherMember, itself⟩ := List.mem_flatMap.mp entryMember
          obtain ⟨⟨name, value⟩, nameMember, rfl⟩ := List.mem_map.mp itself
          obtain ⟨-, free, untaken⟩ := first other otherMember
          refine ⟨fun same => ?_, untaken name (List.mem_map_of_mem nameMember)⟩
          rw [← same, columnOf?_label] at free
          cases free
        · exact here name (.inr known)
      have nested : part.1.nest
          (row ++ ((part :: rest).flatMap fun part => part.1.labelled part.2) ++ done) =
            row ++ following ++ (done ++ [part.1.entry part.2]) := by
        have step := nest_labelled part.2 spared
        simpa [following] using step
      have goesOn : ∀ other ∈ rest, ∀ name ∈ (row ++ (done ++ [part.1.entry part.2])).keys,
          name ≠ other.1.key ∧ other.1.columnOf? name = none := by
        intro other otherMember name member
        rw [← List.append_assoc, Record.keys_append, List.mem_append] at member
        rcases member with known | itself
        · exact later other otherMember name known
        · obtain ⟨differs, free, -⟩ := first other otherMember
          rw [List.mem_singleton.mp itself]
          exact ⟨differs, free⟩
      rw [List.map_cons, nestAll, List.foldl_cons, nested]
      refine (induction _ goesOn others).trans ?_
      simp

/-- Columns that are kept apart have different labels. -/
theorem keys_labelled_nodup (names : ∀ part ∈ parts, part.2.keys.Nodup)
    (own : ∀ part ∈ parts, ∀ label ∈ row.keys, part.1.columnOf? label = none)
    (apart : parts.Pairwise fun first second =>
      ∀ name ∈ second.2.keys, first.1.columnOf? (second.1.label name) = none)
    (distinct : row.keys.Nodup) :
    (row ++ parts.flatMap fun part => part.1.labelled part.2).keys.Nodup := by
  have labels : Record.keys (parts.flatMap fun part => part.1.labelled part.2) =
      parts.flatMap fun part => part.2.keys.map part.1.label := by
    rw [Record.keys, List.map_flatMap]
    exact congrArg (parts.flatMap ·) (funext fun part => keys_labelled part.1 part.2)
  rw [Record.keys_append, labels]
  refine distinct.append (List.nodup_flatMap.mpr ⟨fun part member => ?_, ?_⟩) ?_
  · exact (names part member).map label_injective
  · refine apart.imp fun {first second} untaken => ?_
    intro label firstMember secondMember
    obtain ⟨name, -, rfl⟩ := List.mem_map.mp firstMember
    obtain ⟨other, otherMember, same⟩ := List.mem_map.mp secondMember
    have taken := untaken other otherMember
    rw [same, columnOf?_label] at taken
    cases taken
  · intro label known member
    obtain ⟨part, partMember, labelled⟩ := List.mem_flatMap.mp member
    obtain ⟨name, -, rfl⟩ := List.mem_map.mp labelled
    have taken := own part partMember _ known
    rw [columnOf?_label] at taken
    cases taken

/-- Included rows that are kept apart are nested, and the own columns stay as they are. -/
theorem Separate.nestAll_eq
    (separate : Separate row.keys (parts.map fun part => (part.1, part.2.keys)))
    (names : ∀ part ∈ parts, part.2.keys.Nodup) :
    nestAll (parts.map (·.1)) (row.putAll (parts.flatMap fun part => part.1.labelled part.2)) =
      row ++ parts.map fun part => part.1.entry part.2 := by
  have own := List.forall_mem_map.mp separate.own
  have apart := List.pairwise_map.mp separate.apart
  have distinct := keys_labelled_nodup names (fun part member label known =>
    (own part member label known).2) (apart.imp fun both => both.2.2) separate.distinct
  rw [Record.putAll_eq_append distinct]
  have nested := nestAll_labelled [] (by simpa using own) apart
  simpa using nested

/-- Rows that were found are nested as they are only if none of them takes what belongs to another
one. -/
theorem apart_of_nestAll (keys : (parts.map (·.1.key)).Nodup)
    (nested : ∀ part ∈ parts,
      (nestAll (parts.map (·.1)) row).get? part.1.key = some (.object part.2)) :
    (parts.Pairwise fun first second =>
      first.1.key ≠ second.1.key ∧ second.1.columnOf? first.1.key = none ∧
        ∀ name ∈ second.2.keys, first.1.columnOf? (second.1.label name) = none) ∧
      ∀ part ∈ parts, ∀ name ∈ part.2.keys, part.1.label name ∈ row.keys := by
  induction parts generalizing row with
  | nil => exact ⟨.nil, by simp⟩
  | cons part rest induction =>
      obtain ⟨fresh, restKeys⟩ := List.nodup_cons.mp keys
      obtain ⟨here, later⟩ := List.forall_mem_cons.mp nested
      obtain ⟨apart, present⟩ := @induction (part.1.nest row) restKeys later
      have other : part.1.key ∉ (rest.map (·.1)).map Include.key := by simpa using fresh
      have left : part.1.key ∈ (nestAll (rest.map (·.1)) (part.1.nest row)).keys :=
        Record.mem_keys_of_get? here
      have free := List.forall_mem_map.mp (mem_keys_nestAll left other).2
      have labels : ∀ second ∈ rest, ∀ name ∈ second.2.keys,
          second.1.label name ∈ row.keys ∧ part.1.columnOf? (second.1.label name) = none := by
        intro second member name known
        refine (mem_keys_nest (present second member name known)).resolve_left fun same => ?_
        have taken := free second member
        rw [← same, columnOf?_label] at taken
        cases taken
      refine ⟨List.pairwise_cons.mpr ⟨fun second member => ⟨?_, free second member, ?_⟩, apart⟩, ?_⟩
      · exact fun same => fresh (List.mem_map.mpr ⟨second, member, same.symm⟩)
      · exact fun name known => (labels second member name known).2
      · have gathered : part.1.rowOf row = part.2 := by
          have untouched : (part.1.nest row).get? part.1.key = some (.object part.2) :=
            (get?_nestAll other (List.forall_mem_map.mpr free)).symm.trans here
          rw [nest, Record.get?_put, if_pos rfl] at untouched
          split at untouched
          · exact Value.object.inj (Option.some.inj untouched)
          · cases untouched
        refine List.forall_mem_cons.mpr ⟨fun name known => ?_, fun second member name known =>
          (labels second member name known).1⟩
        rw [← gathered] at known
        exact label_mem_of_mem_rowOf known

/-- If all rows were found and are nested with nothing lost, their labels and keys are kept
apart. -/
theorem separate_of_nestAll {own : Row} (distinct : row.keys.Nodup)
    (found : ∀ part ∈ parts, part.1.isFound part.2 = true)
    (nested : nestAll (parts.map (·.1)) row = own ++ parts.map fun part => part.1.entry part.2) :
    Separate own.keys (parts.map fun part => (part.1, part.2.keys)) := by
  have distinctEnd : (nestAll (parts.map (·.1)) row).keys.Nodup := keys_nestAll_nodup distinct
  have entryKeys : Record.keys (parts.map fun part => part.1.entry part.2) =
      parts.map (·.1.key) := by
    simp [Record.keys, entry, Function.comp_def]
  have keysEnd : (nestAll (parts.map (·.1)) row).keys = own.keys ++ parts.map (·.1.key) := by
    rw [nested, Record.keys_append, entryKeys]
  rw [keysEnd] at distinctEnd
  obtain ⟨ownDistinct, keys, disjoint⟩ := List.nodup_append'.mp distinctEnd
  have there : ∀ part ∈ parts,
      (nestAll (parts.map (·.1)) row).get? part.1.key = some (.object part.2) := by
    intro part member
    refine Record.get?_of_mem (by rwa [keysEnd]) ?_
    have made : part.1.entry part.2 = (part.1.key, .object part.2) := by
      rw [entry, if_pos (found part member)]
    rw [nested, ← made]
    exact List.mem_append_right own (List.mem_map_of_mem member)
  obtain ⟨apart, -⟩ := apart_of_nestAll keys there
  refine ⟨ownDistinct, List.forall_mem_map.mpr fun part member label known => ?_,
    List.pairwise_map.mpr apart⟩
  have other : label ∉ (parts.map (·.1)).map Include.key := by
    rw [List.map_map]
    exact disjoint known
  have left : label ∈ (nestAll (parts.map (·.1)) row).keys := by
    rw [keysEnd]
    exact List.mem_append_left _ known
  refine ⟨?_, (mem_keys_nestAll left other).2 part.1 (List.mem_map_of_mem member)⟩
  rintro rfl
  exact disjoint known (List.mem_map_of_mem member)

end Several

end Include
end SchemaStore
