import SchemaStore.Proofs.Dsl.Declaration

/-!
# Schemas of texts are valid

Reading a text makes every check of a schema, so that a text that is read gives
a valid schema.  The invariant of the run over the blocks is `Draft.Sound`: what
was declared so far passed its checks.
-/

namespace SchemaStore.Dsl

/-- An entity that was read has fields of different names that pass their checks. -/
theorem readModel_valid {name : String} {block : Block} {entity : Entity}
    (accepted : readModel name block = .ok entity) : entity.Valid := by
  obtain ⟨-, fieldsRead, sound⟩ := readModel_eq_ok accepted
  obtain ⟨declared, fields, forms, distinct⟩ := readFields_eq_ok fieldsRead
  refine ⟨distinct (by simp [Record.keys]), ?_, Entity.defect?_eq_none_iff.mp sound⟩
  intro fieldName field member
  rw [fields] at member
  obtain ⟨line, -, form⟩ := exists_of_mem_right forms member
  exact form.valid

/-- What was declared so far passed its checks. -/
structure Draft.Sound (draft : Draft) : Prop where
  address : ∀ datasource, draft.datasource = some datasource →
    ∃ url, datasource.connection = .ok url
  entities : ∀ entity ∈ draft.entities, entity.Valid

theorem readBlock_sound {env : Record String} (draft : Draft) (block : Block) (next : Draft)
    (sound : draft.Sound) (accepted : readBlock env draft block = .ok next) : next.Sound := by
  rcases readBlock_cases accepted with ⟨-, -, datasource, ignored, datasourceRead, rfl⟩ |
    ⟨-, name, entity, -, entityRead, rfl⟩
  · obtain ⟨-, -, -, address⟩ := readDatasource_eq_ok datasourceRead
    refine ⟨?_, sound.entities⟩
    rintro _ ⟨⟩
    exact address
  · refine ⟨sound.address, ?_⟩
    intro other member
    rcases List.mem_append.mp member with before | last
    · exact sound.entities other before
    · rw [List.mem_singleton.mp last]
      exact readModel_valid entityRead

/-- A text that is read gives a valid schema. -/
theorem parse_valid {env : Record String} {text : String} {parsed : Parsed}
    (accepted : parse env text = .ok parsed) : parsed.schema.Valid := by
  obtain ⟨-, draft, blocksRead, given, entities, -, references⟩ := parse_eq_ok accepted
  have sound : draft.Sound :=
    Except.foldlM_invariant readBlock_sound ⟨by simp, by simp⟩ blocksRead
  exact ⟨sound.address _ given, entities ▸ sound.entities, references⟩

end SchemaStore.Dsl
