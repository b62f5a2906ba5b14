import SchemaStore.Proofs.Dsl.Declaration

/-!
# What the lines of a text are read as

No significant line of a text that is read is passed over: it opens or closes a
block, gives a key of the datasource, or declares a field of one of the entities.
-/

namespace SchemaStore.Dsl

/-- A line with something on it is significant. -/
theorem exists_mem_significantFrom (number : Nat) {lines : List (List Char)} {line : List Char}
    (member : line ∈ lines) (shown : significantText line ≠ []) :
    ∃ n, ⟨n, significantText line⟩ ∈ significantFrom number lines := by
  obtain ⟨position, found⟩ := List.mem_iff_getElem?.mp member
  refine ⟨number + position, ?_⟩
  exact mem_significantFrom_iff.mpr ⟨shown, position, line, rfl, found, rfl⟩

/-- The lines of whole blocks are headers, closing braces and lines of bodies. -/
theorem Consists.line_cases {lines : List Line} {blocks : List Block} {line : Line}
    (whole : Consists lines blocks) (member : line ∈ lines) :
    (∃ header, readHeader? line.text = some header) ∨ line.text = ['\x7d'] ∨
      ∃ block ∈ blocks, line ∈ block.body := by
  induction whole with
  | nil => cases member
  | @cons block own rest blocks fills later induction =>
      rcases List.mem_append.mp member with inBlock | inRest
      · obtain ⟨⟨header, -, -⟩, brace⟩ := fills
        rcases List.mem_append.mp inBlock with opened | last
        · rcases List.mem_cons.mp opened with rfl | inBody
          · exact .inl ⟨block.header, readHeader?_eq_some_iff.mpr header⟩
          · exact .inr (.inr ⟨block, List.mem_cons_self, inBody⟩)
        · rw [List.mem_singleton.mp last]
          exact .inr (.inl brace)
      · rcases induction inRest with header | brace | ⟨found, inBlocks, inBody⟩
        · exact .inl header
        · exact .inr (.inl brace)
        · exact .inr (.inr ⟨found, List.mem_cons_of_mem _ inBlocks, inBody⟩)

/-- What a line in the body of a block is read as. -/
def BodyRead (entities : List Entity) (line : Line) : Prop :=
  (∃ assignment, readAssignment? line.text = some assignment) ∨
    ∃ entity ∈ entities, ∃ entry ∈ entity.fields, readField line.text = .ok entry

theorem Declares.bodyRead {env : Record String} {lines : List Line} {blocks : List Block}
    {source block : Block} {parsed : Parsed} {line : Line}
    (declares : Declares env lines blocks source parsed) (member : block ∈ blocks)
    (inBody : line ∈ block.body) : BodyRead parsed.schema.entities line := by
  rcases declares.kinds block member with isDatasource | isModel
  · have isSource : block ∈ blocks.filter Block.isDatasource :=
      List.mem_filter.mpr ⟨member, isDatasource⟩
    rw [declares.single, List.mem_singleton] at isSource
    obtain ⟨entries, given, -⟩ := declares.datasource.entries
    obtain ⟨entry, -, form⟩ := exists_of_mem_left given (isSource ▸ inBody)
    cases form with
    | known form | unknown form => exact .inl ⟨_, readAssignment?_eq_some_iff.mpr form⟩
  · obtain ⟨entity, inSchema, ofBlock⟩ :=
      exists_of_mem_left declares.entities (List.mem_filter.mpr ⟨member, isModel⟩)
    obtain ⟨entry, declared, form⟩ := exists_of_mem_left ofBlock.fields inBody
    exact .inr ⟨entity, inSchema, entry, declared, readField_eq_ok_iff.mpr form⟩

/-- Every significant line of a text that is read is a header, a closing brace, or read in the
body of its block. -/
theorem parse_mem {env : Record String} {text : String} {parsed : Parsed}
    (accepted : parse env text = .ok parsed) :
    ∀ line ∈ significantLines text, (∃ header, readHeader? line.text = some header) ∨
      line.text = ['\x7d'] ∨ BodyRead parsed.schema.entities line := by
  obtain ⟨blocks, source, declares⟩ := declares_of_parse accepted
  intro line member
  rcases declares.whole.line_cases member with header | brace | ⟨block, inBlocks, inBody⟩
  · exact .inl header
  · exact .inr (.inl brace)
  · exact .inr (.inr (declares.bodyRead inBlocks inBody))

end SchemaStore.Dsl
