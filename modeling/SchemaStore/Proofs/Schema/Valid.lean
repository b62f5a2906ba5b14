import SchemaStore.Ddl.Render
import SchemaStore.Proofs.Outcome
import SchemaStore.Schema.Check

/-!
# Valid schemas

`Field.Valid`, `Entity.Valid` and `Schema.Valid` say what the checks of a schema
establish, with one named fact for each rule.  In a valid schema the tables of
two entities have different names, so that a table leads back to its entity, and
every reference finds the entity that the check found.
-/

namespace SchemaStore

/-- What the checks of a field establish. -/
structure Field.Valid (field : Field) : Prop where
  referenceInt : field.reference.isSome → field.type = .int
  policyReference : field.onDelete.isSome → field.reference.isSome
  updatedAtDateTime : field.isUpdatedAt = true → field.type = .dateTime
  textString : field.isText = true → field.type = .string
  nowDateTime : field.defaultText = some nowDefault → field.type = .dateTime
  idInt : field.isId = true → field.type = .int

/-- What the checks of an entity establish. -/
structure Entity.Valid (entity : Entity) : Prop where
  distinct : entity.fields.keys.Nodup
  fields : ∀ name field, (name, field) ∈ entity.fields → field.Valid
  oneId : entity.idFields.length = 1

/-- What the checks of a schema establish. -/
structure Schema.Valid (schema : Schema) : Prop where
  address : ∃ url, schema.datasource.connection = .ok url
  entities : ∀ entity ∈ schema.entities, entity.Valid
  references : schema.defect? = none

private theorem check_eq_none_iff {δ : Type} {broken : Prop} [Decidable broken] {defect : δ}
    {others : Option δ} :
    (if broken then some defect else others) = none ↔ ¬broken ∧ others = none := by
  by_cases fails : broken <;> simp [fails]

theorem Field.defect?_eq_none_iff {field : Field} :
    field.defect? = none ↔ field.Valid := by
  simp only [Field.defect?, check_eq_none_iff]
  constructor
  · rintro ⟨reference, policy, updatedAt, text, now, id, -⟩
    constructor
    · intro set
      exact Decidable.byContradiction fun other => reference ⟨set, other⟩
    · intro set
      cases target : field.reference with
      | none => exact absurd ⟨set, by simp [target]⟩ policy
      | some reference => rfl
    · intro set
      exact Decidable.byContradiction fun other => updatedAt ⟨set, other⟩
    · intro set
      exact Decidable.byContradiction fun other => text ⟨set, other⟩
    · intro set
      exact Decidable.byContradiction fun other => now ⟨set, other⟩
    · intro set
      exact Decidable.byContradiction fun other => id ⟨set, other⟩
  · intro valid
    refine ⟨?_, ?_, ?_, ?_, ?_, ?_, trivial⟩
    · rintro ⟨set, other⟩
      exact other (valid.referenceInt set)
    · rintro ⟨set, missing⟩
      have target := valid.policyReference set
      rw [Option.isNone_iff_eq_none.mp missing] at target
      cases target
    · rintro ⟨set, other⟩
      exact other (valid.updatedAtDateTime set)
    · rintro ⟨set, other⟩
      exact other (valid.textString set)
    · rintro ⟨set, other⟩
      exact other (valid.nowDateTime set)
    · rintro ⟨set, other⟩
      exact other (valid.idInt set)

theorem Entity.defect?_eq_none_iff {entity : Entity} :
    entity.defect? = none ↔ entity.idFields.length = 1 := by
  unfold Entity.defect?
  split <;> simp_all

/-- An entity is valid exactly when it passes its check and its fields pass theirs. -/
theorem Entity.valid_iff {entity : Entity} :
    entity.Valid ↔ entity.fields.keys.Nodup ∧
      (∀ entry ∈ entity.fields, entry.2.defect? = none) ∧ entity.defect? = none := by
  constructor
  · intro valid
    refine ⟨valid.distinct, ?_, Entity.defect?_eq_none_iff.mpr valid.oneId⟩
    rintro ⟨name, field⟩ declared
    exact Field.defect?_eq_none_iff.mpr (valid.fields name field declared)
  · rintro ⟨distinct, fieldsSound, sound⟩
    refine ⟨distinct, ?_, Entity.defect?_eq_none_iff.mp sound⟩
    intro name field declared
    exact Field.defect?_eq_none_iff.mp (fieldsSound (name, field) declared)

theorem Schema.valid_iff {schema : Schema} :
    schema.Valid ↔ schema.datasource.connection.toOption.isSome = true ∧
      (∀ entity ∈ schema.entities, entity.fields.keys.Nodup ∧
        (∀ entry ∈ entity.fields, entry.2.defect? = none) ∧ entity.defect? = none) ∧
      schema.defect? = none := by
  have address : (∃ url, schema.datasource.connection = .ok url) ↔
      schema.datasource.connection.toOption.isSome = true := by
    cases schema.datasource.connection <;> simp [Except.toOption]
  simp only [← address, ← Entity.valid_iff]
  exact ⟨fun valid => ⟨valid.address, valid.entities, valid.references⟩,
    fun ⟨address, entities, references⟩ => ⟨address, entities, references⟩⟩

instance (schema : Schema) : Decidable schema.Valid :=
  decidable_of_iff _ Schema.valid_iff.symm

namespace Field.Valid

variable {field : Field}

theorem isId_eq_false (valid : field.Valid) (other : field.type ≠ .int) :
    field.isId = false := by
  apply Bool.eq_false_iff.mpr
  intro id
  exact other (valid.idInt id)

theorem isText_eq_false (valid : field.Valid) (other : field.type ≠ .string) :
    field.isText = false := by
  apply Bool.eq_false_iff.mpr
  intro large
  exact other (valid.textString large)

theorem reference_eq_none (valid : field.Valid) (other : field.type ≠ .int) :
    field.reference = none := by
  apply Decidable.byContradiction
  intro refers
  exact other (valid.referenceInt (Option.isSome_iff_ne_none.mpr refers))

end Field.Valid

/-- The item that has a distinguishing mark is found by the mark. -/
theorem find?_eq_some_of_nodup {α β : Type} [BEq β] [LawfulBEq β] (mark : α → β)
    {items : List α} (distinct : (items.map mark).Nodup) {item : α} (member : item ∈ items) :
    items.find? (fun other => mark other == mark item) = some item := by
  induction items with
  | nil => cases member
  | cons head rest induction =>
      obtain ⟨fresh, restDistinct⟩ := List.nodup_cons.mp distinct
      rcases List.mem_cons.mp member with rfl | later
      · simp
      · have different : mark head ≠ mark item := by
          intro same
          exact fresh (List.mem_map.mpr ⟨item, later, same.symm⟩)
        simp [different, induction restDistinct later]

theorem keys_nodup_append_singleton {known : List Entity} {entity : Entity}
    (distinct : (known.map Entity.key).Nodup) (fresh : entity.key ∉ known.map Entity.key) :
    ((known ++ [entity]).map Entity.key).Nodup := by
  rw [List.map_append, List.map_singleton, List.nodup_append]
  refine ⟨distinct, List.pairwise_singleton _ _, ?_⟩
  rintro key taken _ single rfl
  rw [List.mem_singleton.mp single] at taken
  exact fresh taken

/-- Entities pass after others exactly when all keys differ and the references of each one pass
among the entities up to it. -/
theorem entitiesDefect?_eq_none_iff {known entities : List Entity}
    (distinct : (known.map Entity.key).Nodup) :
    entitiesDefect? known entities = none ↔
      ((known ++ entities).map Entity.key).Nodup ∧
        ∀ (i : Nat) (entity : Entity), entities[i]? = some entity →
          entity.referenceDefect? (known ++ entities.take (i + 1)) = none := by
  induction entities generalizing known with
  | nil => simpa [entitiesDefect?] using distinct
  | cons entity rest induction =>
      rw [entitiesDefect?]
      by_cases taken : entity.key ∈ known.map Entity.key
      · have refused : (known.any fun other => other.key == entity.key) = true := by
          simpa [List.any_eq_true] using taken
        rw [if_pos refused]
        constructor
        · intro sound
          cases sound
        · rintro ⟨allDistinct, -⟩
          rw [List.map_append, List.nodup_append] at allDistinct
          exact absurd rfl (allDistinct.2.2 entity.key taken entity.key (by simp))
      · have passed : ¬(known.any fun other => other.key == entity.key) = true := by
          simpa [List.any_eq_true] using taken
        rw [if_neg passed]
        cases checked : entity.referenceDefect? (known ++ [entity]) with
        | some defect =>
            constructor
            · intro sound
              cases sound
            · rintro ⟨-, sound⟩
              have first := sound 0 entity rfl
              rw [List.take_succ_cons, List.take_zero, checked] at first
              cases first
        | none =>
            have moved : known ++ entity :: rest = (known ++ [entity]) ++ rest := by simp
            simp only [induction (keys_nodup_append_singleton distinct taken), moved]
            refine and_congr_right fun _ => ⟨fun sound i => ?_, fun sound i => ?_⟩
            · cases i with
              | zero =>
                  rintro _ ⟨⟩
                  exact checked
              | succ i => simpa using sound i
            · simpa using sound (i + 1)

/-- A reference that passed the checks leads to an entity that was known. -/
theorem target_of_referenceDefect? {known : List Entity} {entity : Entity}
    (sound : entity.referenceDefect? known = none) {name : String} {field : Field}
    (declared : (name, field) ∈ entity.fields) {reference : Reference}
    (refers : field.reference = some reference) :
    ∃ target, known.find? (fun other => other.key == Text.lower reference.entity) = some target ∧
      target.fields.has reference.field = true := by
  have fieldSound := List.findSome?_eq_none_iff.mp sound _ declared
  simp only [refers] at fieldSound
  split at fieldSound
  · cases fieldSound
  · next target found =>
    split at fieldSound
    · next has => exact ⟨target, found, has⟩
    · cases fieldSound

theorem Entity.columns_table (entity : Entity) (schema : Schema) (traits : BackendTraits) :
    (entity.table schema traits).columns.map Column.name = entity.fields.keys := by
  simp only [Entity.table, Record.keys, List.map_map]
  refine List.map_congr_left fun entry _ => ?_
  dsimp only [Function.comp_apply]
  unfold Field.column
  split <;> rfl

theorem Field.foreignKey?_eq_some {field : Field} {schema : Schema} {table name : String}
    {key : ForeignKey} (made : field.foreignKey? schema table name = some key) :
    ∃ reference target, field.reference = some reference ∧
      schema.entity? reference.entity = some target ∧
      key =
        { name := foreignKeyName table name
          column := name
          targetTable := target.tableName
          targetColumn := reference.field
          onDelete := field.onDelete } := by
  unfold foreignKey? at made
  split at made
  · cases made
  · simp only [bind, pure, Option.bind_eq_some_iff, Option.some.injEq] at made
    obtain ⟨reference, refers, target, found, rfl⟩ := made
    exact ⟨reference, target, refers, found, rfl⟩

/-- The check of a schema starts with no entity known. -/
theorem Schema.defect?_eq_none_iff {schema : Schema} :
    schema.defect? = none ↔ (schema.entities.map Entity.key).Nodup ∧
      ∀ (i : Nat) (entity : Entity), schema.entities[i]? = some entity →
        entity.referenceDefect? (schema.entities.take (i + 1)) = none := by
  rw [defect?, entitiesDefect?_eq_none_iff (by simp)]
  simp only [List.nil_append]

namespace Schema.Valid

variable {schema : Schema}

theorem keys_nodup (valid : schema.Valid) : (schema.entities.map Entity.key).Nodup :=
  (defect?_eq_none_iff.mp valid.references).1

/-- A table leads back to the entity that is kept in it. -/
theorem entityOf_tableName (valid : schema.Valid) {entity : Entity}
    (member : entity ∈ schema.entities) :
    DdlAction.entityOf schema entity.tableName = .ok entity := by
  have sameTable (other : Entity) :
      (other.tableName == entity.tableName) = (other.key == entity.key) := by
    rw [Bool.eq_iff_iff]
    simp [Entity.tableName, Entity.key, String.append_left_inj]
  have found := find?_eq_some_of_nodup Entity.key valid.keys_nodup member
  simp only [DdlAction.entityOf, sameTable, found]

/-- A table and a name lead back to the field declared under the name. -/
theorem fieldOf_tableName (valid : schema.Valid) {entity : Entity}
    (member : entity ∈ schema.entities) {name : String} {field : Field}
    (declared : (name, field) ∈ entity.fields) :
    DdlAction.fieldOf schema entity.tableName name = .ok field := by
  have distinct := (valid.entities entity member).distinct
  have found : entity.fields.get? name = some field := by
    rw [Record.get?, find?_eq_some_of_nodup Prod.fst distinct declared]
    rfl
  apply Except.bind_eq_ok.mpr
  exact ⟨entity, valid.entityOf_tableName member, by simp only [found]⟩

/-- Every reference leads to an entity that has the field referred to. -/
theorem target_of_reference (valid : schema.Valid) {entity : Entity}
    (member : entity ∈ schema.entities) {name : String} {field : Field}
    (declared : (name, field) ∈ entity.fields) {reference : Reference}
    (refers : field.reference = some reference) :
    ∃ target, schema.entity? reference.entity = some target ∧
      target.fields.has reference.field = true := by
  obtain ⟨i, declaredAt⟩ := List.mem_iff_getElem?.mp member
  have sound := (defect?_eq_none_iff.mp valid.references).2 i entity declaredAt
  obtain ⟨target, found, has⟩ := target_of_referenceDefect? sound declared refers
  refine ⟨target, ?_, has⟩
  rw [Schema.entity?, ← List.take_append_drop (i + 1) schema.entities, List.find?_append]
  exact Option.or_eq_some_iff.mpr (Or.inl found)

end Schema.Valid

end SchemaStore
