import Mathlib.Data.List.Nodup
import Mathlib.Data.List.Pairwise
import SchemaStore.Database.Altering
import SchemaStore.Proofs.Dsl.Valid
import SchemaStore.Proofs.Schema.Order
import SchemaStore.Proofs.Text.Case

/-!
# Names of constraints

A constraint has the name of its table and of its field with an underscore between them.  Both
may have underscores of their own, and a name that can be taken apart at two of them belongs to
constraints on two tables.
-/

namespace SchemaStore

/-- The table of an entity with each of its fields. -/
def Entity.places (entity : Entity) : List (String × String) :=
  entity.fields.keys.map fun field => (entity.tableName, field)

def Schema.places (schema : Schema) : List (String × String) :=
  schema.entities.flatMap Entity.places

def namesAt (place : String × String) : List String :=
  [uniqueName place.1 place.2, foreignKeyName place.1 place.2]

def constraintNames (places : List (String × String)) : List String :=
  places.flatMap namesAt

/-- A table continues the name of another one with what a field of the other begins with, and
has a field of the name that is left. -/
def NamesMeet (places : List (String × String)) : Prop :=
  ∃ table part field,
    (table, part ++ "_" ++ field) ∈ places ∧ (table ++ "_" ++ part, field) ∈ places

/-- A text that is taken apart at two places has a part between them. -/
theorem append_cons_eq_iff {α : Type} {separator : α} {first rest other otherRest : List α} :
    first ++ separator :: rest = other ++ separator :: otherRest ↔
      (first = other ∧ rest = otherRest) ∨
      (∃ part, other = first ++ separator :: part ∧ rest = part ++ separator :: otherRest) ∨
      (∃ part, first = other ++ separator :: part ∧ otherRest = part ++ separator :: rest) := by
  constructor
  · intro same
    rcases List.append_eq_append_iff.mp same with ⟨between, longer, left⟩ | ⟨between, longer, left⟩
    · cases between with
      | nil => simp_all
      | cons c part =>
          obtain ⟨rfl, rfl⟩ := List.cons.inj left
          exact .inr (.inl ⟨part, longer, rfl⟩)
    · cases between with
      | nil => simp_all
      | cons c part =>
          obtain ⟨rfl, rfl⟩ := List.cons.inj left
          exact .inr (.inr ⟨part, longer, rfl⟩)
  · rintro (⟨rfl, rfl⟩ | ⟨part, rfl, rfl⟩ | ⟨part, rfl, rfl⟩)
    · rfl
    · simp
    · simp

theorem joined_eq_iff {table field other otherField : String} :
    table ++ "_" ++ field = other ++ "_" ++ otherField ↔
      (table = other ∧ field = otherField) ∨
      (∃ part, other = table ++ "_" ++ part ∧ field = part ++ "_" ++ otherField) ∨
      (∃ part, table = other ++ "_" ++ part ∧ otherField = part ++ "_" ++ field) := by
  have onLists : table.toList ++ '_' :: field.toList = other.toList ++ '_' :: otherField.toList ↔ _ :=
    append_cons_eq_iff
  have written (P : List Char → Prop) : (∃ part : String, P part.toList) ↔ ∃ part, P part :=
    ⟨fun ⟨part, holds⟩ => ⟨part.toList, holds⟩,
      fun ⟨part, holds⟩ => ⟨String.ofList part, by rwa [String.toList_ofList]⟩⟩
  simpa [← String.toList_inj, ← written] using onLists

theorem ne_continued (table part : String) : table ≠ table ++ "_" ++ part := by
  intro same
  have longer := congrArg String.length same
  simp only [String.length_append] at longer
  have : "_".length = 1 := rfl
  omega

theorem uniqueName_eq_iff {table field other otherField : String} :
    uniqueName table field = uniqueName other otherField ↔
      table ++ "_" ++ field = other ++ "_" ++ otherField :=
  String.append_left_inj "_unique"

theorem foreignKeyName_eq_iff {table field other otherField : String} :
    foreignKeyName table field = foreignKeyName other otherField ↔
      table ++ "_" ++ field = other ++ "_" ++ otherField :=
  String.append_left_inj "_foreign"

theorem uniqueName_ne_foreignKeyName (table field other otherField : String) :
    uniqueName table field ≠ foreignKeyName other otherField := by
  intro same
  have last := congrArg (fun name => name.toList.reverse.head?) same
  simp [uniqueName, foreignKeyName] at last

variable {places : List (String × String)}

theorem namesAt_nodup (place : String × String) : (namesAt place).Nodup := by
  simp [namesAt, uniqueName_ne_foreignKeyName]

/-- Two fields have no name in common exactly when the texts that make their names differ. -/
theorem disjoint_namesAt_iff {table field other otherField : String} :
    List.Disjoint (namesAt (table, field)) (namesAt (other, otherField)) ↔
      table ++ "_" ++ field ≠ other ++ "_" ++ otherField := by
  constructor
  · intro disjoint same
    have shared : uniqueName table field = uniqueName other otherField :=
      uniqueName_eq_iff.mpr same
    exact disjoint (List.mem_cons_self) (shared ▸ List.mem_cons_self)
  · intro differ name first second
    simp only [namesAt, List.mem_cons, List.not_mem_nil, or_false] at first second
    rcases first with rfl | rfl <;> rcases second with same | same
    · exact differ (uniqueName_eq_iff.mp same)
    · exact uniqueName_ne_foreignKeyName _ _ _ _ same
    · exact uniqueName_ne_foreignKeyName _ _ _ _ same.symm
    · exact differ (foreignKeyName_eq_iff.mp same)

theorem constraintNames_nodup_iff (distinct : places.Nodup) :
    (constraintNames places).Nodup ↔ ¬NamesMeet places := by
  have symmetric : Std.Symm (Function.onFun List.Disjoint namesAt) :=
    ⟨fun _ _ disjoint _ first second => disjoint second first⟩
  rw [constraintNames, List.nodup_flatMap]
  constructor
  · rintro ⟨-, apart⟩ ⟨table, part, field, first, second⟩
    have different : (table, part ++ "_" ++ field) ≠ (table ++ "_" ++ part, field) :=
      fun same => ne_continued table part (Prod.mk.inj same).1
    exact disjoint_namesAt_iff.mp (apart.forall first second different) (by
      simp [String.append_assoc])
  · intro apart
    refine ⟨fun place _ => namesAt_nodup place, distinct.pairwise_of_forall_ne ?_⟩
    rintro ⟨table, field⟩ first ⟨other, otherField⟩ second different
    refine disjoint_namesAt_iff.mpr fun same => ?_
    rcases joined_eq_iff.mp same with ⟨rfl, rfl⟩ | ⟨part, rfl, rfl⟩ | ⟨part, rfl, rfl⟩
    · exact different rfl
    · exact apart ⟨table, part, otherField, first, second⟩
    · exact apart ⟨other, part, field, second, first⟩

theorem not_namesMeet_places (entity : Entity) : ¬NamesMeet entity.places := by
  rintro ⟨table, part, field, first, second⟩
  simp only [Entity.places, List.mem_map, Prod.mk.injEq] at first second
  obtain ⟨-, -, here, -⟩ := first
  obtain ⟨-, -, there, -⟩ := second
  exact ne_continued table part (here.symm.trans there)

/-- Fields of different tables, and different fields of one table, are different places. -/
theorem Schema.places_nodup {schema : Schema} (fold : String → String)
    (tables : (schema.entities.map Entity.tableName).Nodup)
    (fields : ∀ entity ∈ schema.entities, (entity.fields.keys.map fold).Nodup) :
    (schema.places.map (Prod.map id fold)).Nodup := by
  rw [places, List.map_flatMap, List.nodup_flatMap]
  constructor
  · intro entity member
    rw [Entity.places, List.map_map]
    refine List.Nodup.of_map Prod.snd ?_
    rw [List.map_map]
    exact fields entity member
  · refine (List.pairwise_map.mp tables).imp ?_
    intro entity other differ place first second
    simp only [Entity.places, List.map_map, List.mem_map] at first second
    obtain ⟨_, -, here⟩ := first
    obtain ⟨_, -, there⟩ := second
    exact differ (Prod.mk.inj (here.trans there.symm)).1

namespace Database

theorem map_namesAt (place : String × String) :
    (namesAt place).map (String.map Char.toLower) =
      namesAt (place.map (String.map Char.toLower) (String.map Char.toLower)) := by
  simp [namesAt, uniqueName, foreignKeyName, ← String.toList_inj]

theorem map_constraintNames (places : List (String × String)) :
    (constraintNames places).map (String.map Char.toLower) =
      constraintNames (places.map
        (Prod.map (String.map Char.toLower) (String.map Char.toLower))) := by
  simp only [constraintNames, List.map_flatMap, List.flatMap_map, map_namesAt]

end Database

/-- A table has a name in small letters. -/
theorem Entity.map_places (entity : Entity) :
    entity.places.map (Prod.map (String.map Char.toLower) (String.map Char.toLower)) =
      entity.places.map (Prod.map id (String.map Char.toLower)) := by
  have small : entity.tableName.map Char.toLower = entity.tableName := by
    rw [← String.toList_inj, String.toList_map, Entity.tableName, String.toList_append,
      List.map_append, ← String.toList_map, Text.map_toLower_lower]
    simp
  simp [Entity.places, small]

theorem Schema.map_places (schema : Schema) :
    schema.places.map (Prod.map (String.map Char.toLower) (String.map Char.toLower)) =
      schema.places.map (Prod.map id (String.map Char.toLower)) := by
  simp only [Schema.places, List.map_flatMap, Entity.map_places]

namespace Dsl

/-- Constraints of a schema that was read have different names exactly when no table and field
can be taken for another table and field: on one table they always have.  A database that leaves
letter case out takes no constraint for another one under the same condition on folded names. -/
theorem constraintNames_distinct_iff {env : Record String} {text : String} {parsed : Parsed}
    (accepted : parse env text = .ok parsed) :
    let schema := parsed.schema
    let folded := schema.places.map (Prod.map (String.map Char.toLower) (String.map Char.toLower))
    (∀ entity ∈ schema.entities, (constraintNames entity.places).Nodup) ∧
      ((constraintNames schema.places).Nodup ↔ ¬NamesMeet schema.places) ∧
      ((∀ entity ∈ schema.entities, (entity.fields.keys.map (String.map Char.toLower)).Nodup) →
        ((constraintNames schema.places).Pairwise
            (fun first second => Database.sameName first second = false) ↔
          ¬NamesMeet folded)) := by
  intro schema folded
  have valid := parse_valid accepted
  have tables := (Schema.defect?_eq_none_iff_wellOrdered.mp valid.references).tables_nodup
  have fields (entity : Entity) (member : entity ∈ schema.entities) :
      (entity.fields.keys.map id).Nodup := by
    rw [List.map_id]
    exact (valid.entities entity member).distinct
  refine ⟨fun entity member => ?_, ?_, fun caseless => ?_⟩
  · refine (constraintNames_nodup_iff ?_).mpr (not_namesMeet_places entity)
    exact (valid.entities entity member).distinct.map fun _ _ same => (Prod.mk.inj same).2
  · refine constraintNames_nodup_iff ?_
    simpa using Schema.places_nodup id tables fields
  · have distinct : folded.Nodup := by
      rw [show folded = _ from schema.map_places]
      exact Schema.places_nodup _ tables caseless
    rw [← constraintNames_nodup_iff distinct, ← Database.map_constraintNames]
    simp only [List.Nodup, List.pairwise_map, Database.sameName, beq_eq_false_iff_ne]

/-- The unique `posts_key` of the users and the unique `key` of their posts. -/
theorem constraintNames_users_posts :
    let text := "datasource db \x7b\nprovider = \"sqlite\"\nurl = \"file:./dev.db\"\n\x7d\n" ++
      "model User \x7b\nid Int @id\nposts_key Int? @unique\n\x7d\n" ++
      "model Users_Post \x7b\nid Int @id\nkey Int? @unique\n\x7d\n"
    let key : Field := { type := .int, isUnique := true, isOptional := true }
    let schema : Schema :=
      { datasource := { provider := .sqlite, url := "file:./dev.db" }
        entities :=
          [⟨"User", [("id", { type := .int, isId := true }), ("posts_key", key)]⟩,
            ⟨"Users_Post", [("id", { type := .int, isId := true }), ("key", key)]⟩] }
    parse [] text = .ok ⟨schema, []⟩ ∧
      (∀ entity ∈ schema.entities, (entity.fields.keys.map (String.map Char.toLower)).Nodup) ∧
      NamesMeet schema.places ∧ ¬(constraintNames schema.places).Nodup ∧
      ¬(constraintNames schema.places).Pairwise
        fun first second => Database.sameName first second = false := by
  intro text key schema
  have accepted : parse [] text = .ok ⟨schema, []⟩ := by decide +kernel
  have caseless : ∀ entity ∈ schema.entities,
      (entity.fields.keys.map (String.map Char.toLower)).Nodup := by
    decide +kernel
  have meet : NamesMeet schema.places := ⟨"users", "posts", "key", by decide +kernel⟩
  have foldedMeet : NamesMeet (schema.places.map
      (Prod.map (String.map Char.toLower) (String.map Char.toLower))) :=
    ⟨"users", "posts", "key", by decide +kernel⟩
  obtain ⟨-, exact, folded⟩ := constraintNames_distinct_iff accepted
  refine ⟨accepted, caseless, meet, fun distinct => exact.mp distinct meet, fun distinct => ?_⟩
  exact (folded caseless).mp distinct foldedMeet

end Dsl
end SchemaStore
