import SchemaStore.Schema.Output
import SchemaStore.Proofs.Schema.Valid

/-!
# Schemas that are read again

A record that a sound part of a schema is written as is read as that part.  Only the check of
the schema as a whole is left, since it is about parts together.
-/

namespace SchemaStore

theorem Field.ofInput_toRecord {field : Field} (valid : field.Valid) :
    Field.ofInput (.object field.toRecord) = .ok field := by
  have typeRead : Reader.choice FieldType.all FieldType.label (.text field.type.label) =
      .ok field.type := by
    cases field.type <;> rfl
  have textRead : Reader.optional Reader.text (.optionalText field.defaultText) =
      .ok field.defaultText := by
    cases field.defaultText <;> rfl
  have referenceRead : Reader.optional Reference.ofInput
      (.optional (fun reference => .object reference.toRecord) field.reference) =
        .ok field.reference := by
    cases field.reference <;> rfl
  have policyRead : Reader.optional (Reader.choice DeletePolicy.all DeletePolicy.label)
      (.optionalText (field.onDelete.map DeletePolicy.label)) = .ok field.onDelete := by
    rcases field.onDelete with _ | policy
    · rfl
    · cases policy <;> rfl
  have checked : InputDefect.checkRule FieldDefect.message field.defect? = .ok () := by
    rw [Field.defect?_eq_none_iff.mpr valid]
    rfl
  unfold Field.ofInput
  refine Except.bind_eq_ok.mpr ⟨field.toRecord, rfl, ?_⟩
  refine Except.bind_eq_ok.mpr ⟨field.type, typeRead, ?_⟩
  refine Except.bind_eq_ok.mpr ⟨field.isId, rfl, ?_⟩
  refine Except.bind_eq_ok.mpr ⟨field.isUnique, rfl, ?_⟩
  refine Except.bind_eq_ok.mpr ⟨field.isOptional, rfl, ?_⟩
  refine Except.bind_eq_ok.mpr ⟨field.isText, rfl, ?_⟩
  refine Except.bind_eq_ok.mpr ⟨field.isUpdatedAt, rfl, ?_⟩
  refine Except.bind_eq_ok.mpr ⟨field.defaultText, textRead, ?_⟩
  refine Except.bind_eq_ok.mpr ⟨field.reference, referenceRead, ?_⟩
  refine Except.bind_eq_ok.mpr ⟨field.onDelete, policyRead, ?_⟩
  exact Except.bind_eq_ok.mpr ⟨(), checked, rfl⟩

theorem Entity.ofInput_toRecord {entity : Entity} (valid : entity.Valid) :
    Entity.ofInput (.object entity.toRecord) = .ok entity := by
  have fieldsRead : Reader.record Field.ofInput
      (.object (entity.fields.mapValues fun field => .object field.toRecord)) =
        .ok entity.fields := by
    refine Except.mapM_eq_ok.mpr ?_
    rw [Record.mapValues, List.map_map]
    refine List.map_congr_left fun entry declared => ?_
    have fieldRead := Field.ofInput_toRecord (valid.fields entry.1 entry.2 declared)
    exact congrArg (Functor.map (entry.1, ·)) fieldRead
  have checked : InputDefect.checkRule EntityDefect.message entity.defect? = .ok () := by
    rw [Entity.defect?_eq_none_iff.mpr valid.oneId]
    rfl
  refine Except.bind_eq_ok.mpr ⟨entity.toRecord, rfl, ?_⟩
  refine Except.bind_eq_ok.mpr ⟨entity.name, rfl, ?_⟩
  refine Except.bind_eq_ok.mpr ⟨entity.fields, fieldsRead, ?_⟩
  exact Except.bind_eq_ok.mpr ⟨(), checked, rfl⟩

theorem Datasource.ofInput_toRecord {datasource : Datasource}
    (address : ∃ url, datasource.connection = .ok url) :
    Datasource.ofInput (.object datasource.toRecord) = .ok datasource := by
  have providerRead : Reader.choice Provider.all Provider.label (.text datasource.provider.label) =
      .ok datasource.provider := by
    cases datasource.provider <;> rfl
  have sslRead : Reader.optional Reader.text (.optionalText datasource.ssl) =
      .ok datasource.ssl := by
    cases datasource.ssl <;> rfl
  have fieldsRead : Datasource.fieldsOfInput.run (.object datasource.toRecord) =
      .ok datasource := by
    refine Except.mapError_eq_ok.mpr ?_
    refine Except.bind_eq_ok.mpr ⟨datasource.toRecord, rfl, ?_⟩
    refine Except.bind_eq_ok.mpr ⟨datasource.provider, providerRead, ?_⟩
    refine Except.bind_eq_ok.mpr ⟨datasource.url, rfl, ?_⟩
    exact Except.bind_eq_ok.mpr ⟨datasource.ssl, sslRead, rfl⟩
  obtain ⟨url, built⟩ := address
  refine Except.bind_eq_ok.mpr ⟨datasource, fieldsRead, ?_⟩
  rw [checked, built]

/-- A schema that is put together from sound parts is checked as a whole. -/
theorem Schema.ofInput_toRecord {schema : Schema}
    (address : ∃ url, schema.datasource.connection = .ok url)
    (sound : ∀ entity ∈ schema.entities, entity.Valid) :
    Schema.ofInput (.object schema.toRecord) =
      match schema.defect? with
      | none => .ok schema
      | some defect => .error (.badInput defect.message) := by
  have entitiesRead : (Reader.sequence "tuple" Entity.ofInput).run
      (.list (schema.entities.map fun entity => .object entity.toRecord)) =
        .ok schema.entities := by
    refine Except.mapError_eq_ok.mpr (Except.mapM_eq_ok.mpr ?_)
    rw [List.map_map]
    exact List.map_congr_left fun entity member => Entity.ofInput_toRecord (sound entity member)
  have datasourceRead := Datasource.ofInput_toRecord address
  calc Schema.ofInput (.object schema.toRecord)
      = (do
          let datasource ← Datasource.ofInput (.object schema.datasource.toRecord)
          let entities ← (Reader.sequence "tuple" Entity.ofInput).run
            (.list (schema.entities.map fun entity => .object entity.toRecord))
          match Schema.defect? ⟨datasource, entities⟩ with
          | none => return ⟨datasource, entities⟩
          | some defect => .error (.badInput defect.message)) := rfl
    _ = _ := by
      rw [datasourceRead, Except.ok_bind, entitiesRead, Except.ok_bind]
      rfl

end SchemaStore
