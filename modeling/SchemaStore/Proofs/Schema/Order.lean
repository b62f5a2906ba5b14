import SchemaStore.Proofs.Schema.Input

/-!
# The order of declarations

The check of a schema goes through the entities once, with the ones that it has
passed.  `WellOrdered` says what it decides without the passage: names differ in
more than letter case, and a reference leads to an entity that stands at or
before its own place.  Look-ups in an accepted schema are made elsewhere, over
all entities; `Schema.Resolved` says that they agree with the check.
-/

namespace SchemaStore

/-- The reference names one of the entities, in any letter case, and a field declared there. -/
def Reference.LeadsInto (reference : Reference) (entities : List Entity) : Prop :=
  ∃ target ∈ entities, Text.lower target.name = Text.lower reference.entity ∧
    reference.field ∈ target.fields.keys

/-- Entities whose names differ, and whose references lead back in the list or to the entity
itself. -/
structure WellOrdered (entities : List Entity) : Prop where
  distinct : entities.Pairwise fun entity other => Text.lower entity.name ≠ Text.lower other.name
  backward : ∀ (i : Nat) (entity : Entity), entities[i]? = some entity →
    ∀ (name : String) (field : Field) (reference : Reference),
      (name, field) ∈ entity.fields → field.reference = some reference →
        reference.LeadsInto (entities.take (i + 1))

/-- Look-ups in a schema find the entities that its check found. -/
structure Schema.Resolved (schema : Schema) : Prop where
  tables : (schema.entities.map Entity.tableName).Nodup
  known : ∀ (name : String) (entity : Entity), schema.entity name = .ok entity ↔
    entity ∈ schema.entities ∧ Text.lower entity.name = Text.lower name
  unknown : ∀ (name : String) (error : StoreError), schema.entity name = .error error ↔
    error = .schema ("Unknown model: " ++ name) ∧
      ∀ entity ∈ schema.entities, Text.lower entity.name ≠ Text.lower name
  references : ∀ (i : Nat) (entity : Entity), schema.entities[i]? = some entity →
    ∀ (name : String) (field : Field) (reference : Reference),
      (name, field) ∈ entity.fields → field.reference = some reference →
        ∃ target, (schema.entities.take (i + 1)).find?
            (fun other => other.key == Text.lower reference.entity) = some target ∧
          schema.entity reference.entity = .ok target ∧ reference.field ∈ target.fields.keys
  /-- Every table can be created after the ones before it. -/
  creation : ∀ (i : Nat) (entity : Entity), schema.entities[i]? = some entity →
    ∀ (traits : BackendTraits), ∀ key ∈ (entity.table schema traits).foreignKeys,
      ∃ target ∈ schema.entities.take (i + 1), key.targetTable = target.tableName ∧
        key.targetColumn ∈ (target.table schema traits).columns.map Column.name

variable {known entities : List Entity} {entity : Entity}

/-- The references of an entity pass exactly when they lead to entities known so far. -/
theorem Entity.referenceDefect?_eq_none_iff (distinct : (known.map Entity.key).Nodup) :
    entity.referenceDefect? known = none ↔
      ∀ (name : String) (field : Field) (reference : Reference),
        (name, field) ∈ entity.fields → field.reference = some reference →
          reference.LeadsInto known := by
  constructor
  · intro sound name field reference declared refers
    obtain ⟨target, found, has⟩ := target_of_referenceDefect? sound declared refers
    have same := List.find?_some found
    exact ⟨target, List.mem_of_find?_eq_some found, beq_iff_eq.mp same,
      Record.has_eq_true_iff.mp has⟩
  · intro leads
    refine List.findSome?_eq_none_iff.mpr ?_
    rintro ⟨name, field⟩ declared
    cases refers : field.reference with
    | none => simp only [refers]
    | some reference =>
        obtain ⟨target, member, same, has⟩ := leads name field reference declared refers
        -- names differ, so the first entity of the name is the one that the reference means
        have found : known.find? (fun other => other.key == Text.lower reference.entity) =
            some target := by
          rw [← same]
          exact find?_eq_some_of_nodup Entity.key distinct member
        simp only [refers, found, Record.has_eq_true_iff.mpr has, if_true]

/-- Names that differ in more than letter case are different keys. -/
theorem keys_nodup_iff : (entities.map Entity.key).Nodup ↔
    entities.Pairwise fun entity other => Text.lower entity.name ≠ Text.lower other.name :=
  List.pairwise_map

theorem keys_nodup_take (distinct : (entities.map Entity.key).Nodup) (count : Nat) :
    ((entities.take count).map Entity.key).Nodup :=
  distinct.sublist ((List.take_sublist count entities).map Entity.key)

theorem Schema.defect?_eq_none_iff_wellOrdered {schema : Schema} :
    schema.defect? = none ↔ WellOrdered schema.entities := by
  rw [defect?_eq_none_iff]
  constructor
  · rintro ⟨distinct, sound⟩
    refine ⟨keys_nodup_iff.mp distinct, fun i entity declaredAt => ?_⟩
    exact (Entity.referenceDefect?_eq_none_iff (keys_nodup_take distinct _)).mp
      (sound i entity declaredAt)
  · intro ordered
    have distinct := keys_nodup_iff.mpr ordered.distinct
    refine ⟨distinct, fun i entity declaredAt => ?_⟩
    exact (Entity.referenceDefect?_eq_none_iff (keys_nodup_take distinct _)).mpr
      (ordered.backward i entity declaredAt)

namespace WellOrdered

variable {schema : Schema}

theorem keys_nodup (ordered : WellOrdered entities) : (entities.map Entity.key).Nodup :=
  keys_nodup_iff.mpr ordered.distinct

/-- An entity is found by its name in any letter case. -/
theorem entity?_eq_some_iff (ordered : WellOrdered schema.entities) {name : String} :
    schema.entity? name = some entity ↔
      entity ∈ schema.entities ∧ Text.lower entity.name = Text.lower name := by
  constructor
  · intro found
    have same := List.find?_some found
    exact ⟨List.mem_of_find?_eq_some found, beq_iff_eq.mp same⟩
  · rintro ⟨member, same⟩
    rw [Schema.entity?, ← same]
    exact find?_eq_some_of_nodup Entity.key ordered.keys_nodup member

theorem tables_nodup (ordered : WellOrdered entities) :
    (entities.map Entity.tableName).Nodup := by
  refine List.pairwise_map.mpr (ordered.distinct.imp fun differ same => differ ?_)
  exact (String.append_left_inj "s").mp same

/-- A reference is found among the entities up to its own, and again among all of them. -/
theorem target_found (ordered : WellOrdered schema.entities) {i : Nat}
    (declaredAt : schema.entities[i]? = some entity) {name : String} {field : Field}
    (declared : (name, field) ∈ entity.fields) {reference : Reference}
    (refers : field.reference = some reference) :
    ∃ target, (schema.entities.take (i + 1)).find?
        (fun other => other.key == Text.lower reference.entity) = some target ∧
      schema.entity? reference.entity = some target ∧ reference.field ∈ target.fields.keys := by
  obtain ⟨target, member, same, has⟩ :=
    ordered.backward i entity declaredAt name field reference declared refers
  refine ⟨target, ?_, ?_, has⟩
  · rw [← same]
    exact find?_eq_some_of_nodup Entity.key (keys_nodup_take ordered.keys_nodup _) member
  · exact ordered.entity?_eq_some_iff.mpr ⟨List.mem_of_mem_take member, same⟩

theorem foreignKey_target (ordered : WellOrdered schema.entities) {i : Nat}
    (declaredAt : schema.entities[i]? = some entity) (traits : BackendTraits) {key : ForeignKey}
    (member : key ∈ (entity.table schema traits).foreignKeys) :
    ∃ target ∈ schema.entities.take (i + 1), key.targetTable = target.tableName ∧
      key.targetColumn ∈ (target.table schema traits).columns.map Column.name := by
  obtain ⟨⟨name, field⟩, declared, made⟩ := List.mem_filterMap.mp member
  obtain ⟨reference, target, refers, found, rfl⟩ := Field.foreignKey?_eq_some made
  obtain ⟨earlier, first, again, has⟩ := ordered.target_found declaredAt declared refers
  obtain rfl : earlier = target := Option.some.inj (again.symm.trans found)
  refine ⟨earlier, List.mem_of_find?_eq_some first, rfl, ?_⟩
  rwa [Entity.columns_table]

theorem resolved (ordered : WellOrdered schema.entities) : schema.Resolved where
  tables := ordered.tables_nodup
  known name entity := by
    rw [← ordered.entity?_eq_some_iff, Schema.entity]
    cases schema.entity? name <;> simp
  unknown name error := by
    have absent : schema.entity? name = none ↔
        ∀ entity ∈ schema.entities, Text.lower entity.name ≠ Text.lower name := by
      simp [Schema.entity?, List.find?_eq_none, Entity.key]
    rw [← absent, Schema.entity]
    cases schema.entity? name <;> simp [eq_comm]
  references i entity declaredAt name field reference declared refers := by
    obtain ⟨target, first, again, has⟩ := ordered.target_found declaredAt declared refers
    exact ⟨target, first, by rw [Schema.entity, again], has⟩
  creation i entity declaredAt traits key member :=
    ordered.foreignKey_target declaredAt traits member

end WellOrdered

namespace Schema

theorem defect?_of_ofInput {value : Value} {schema : Schema}
    (accepted : ofInput value = .ok schema) : schema.defect? = none := by
  obtain ⟨input, -, accepted⟩ := Except.bind_eq_ok.mp accepted
  obtain ⟨address, -, accepted⟩ := Except.bind_eq_ok.mp accepted
  obtain ⟨datasource, -, accepted⟩ := Except.bind_eq_ok.mp accepted
  obtain ⟨declared, -, accepted⟩ := Except.bind_eq_ok.mp accepted
  obtain ⟨entities, -, accepted⟩ := Except.bind_eq_ok.mp accepted
  cases checked : defect? ⟨datasource, entities⟩ with
  | none =>
      simp only [checked] at accepted
      cases accepted
      exact checked
  | some defect =>
      simp only [checked] at accepted
      cases accepted

/-- A sound datasource and sound entities make a schema exactly when the entities are well
ordered, and in every schema the look-ups agree with the check. -/
theorem ofInput_iff_wellOrdered :
    (∀ schema : Schema, (∃ url, schema.datasource.connection = .ok url) →
      (∀ entity ∈ schema.entities, entity.Valid) →
        ∀ accepted, ofInput (.object schema.toRecord) = .ok accepted ↔
          accepted = schema ∧ WellOrdered schema.entities) ∧
      ∀ (value : Value) (schema : Schema), ofInput value = .ok schema →
        WellOrdered schema.entities ∧ schema.Resolved := by
  constructor
  · intro schema address sound accepted
    rw [ofInput_toRecord address sound, ← defect?_eq_none_iff_wellOrdered]
    cases schema.defect? <;> simp [eq_comm]
  · intro value schema accepted
    have ordered := defect?_eq_none_iff_wellOrdered.mp (defect?_of_ofInput accepted)
    exact ⟨ordered, ordered.resolved⟩

/-- Posts that refer to users, in another letter case, and to one another. -/
private def threads : Schema :=
  { datasource := { provider := .sqlite, url := "file:./dev.db" }
    entities :=
      [{ name := "User", fields := [("id", { type := .int, isId := true })] },
        { name := "Post"
          fields :=
            [("id", { type := .int, isId := true }),
              ("author", { type := .int, reference := some ⟨"USER", "id"⟩ }),
              ("parent",
                { type := .int, isOptional := true, reference := some ⟨"post", "id"⟩ })] }] }

theorem ofInput_threads :
    ofInput (.object threads.toRecord) = .ok threads ∧ WellOrdered threads.entities ∧
      threads.Resolved := by
  have valid : threads.Valid := by decide +kernel
  have read : ofInput (.object threads.toRecord) = .ok threads := by
    rw [ofInput_toRecord valid.address valid.entities, valid.references]
  have ordered := ((ofInput_iff_wellOrdered.1 threads valid.address valid.entities threads).mp
    read).2
  exact ⟨read, ordered, (ofInput_iff_wellOrdered.2 _ threads read).2⟩

end Schema

end SchemaStore
