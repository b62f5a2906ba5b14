import SchemaStore.Proofs.Dsl.Form

/-!
# Division into blocks

Significant lines are divided into whole blocks, one after the other, and a rest at which
they break off.  `Consists` says what whole blocks are made of and `BreaksOff` what the rest
can be and which line is to blame; scanning finds such a division.
-/

namespace SchemaStore.Dsl

/-- A line that can stand in the body of a block. -/
structure Line.Inner (line : Line) : Prop where
  noBrace : '\x7d' ∉ line.text
  opensNone : line.text.getLast? ≠ some '\x7b'

/-- The lines of a block that is still open: its header and its body so far. -/
inductive Block.Opens (block : Block) : List Line → Prop where
  | begun {opening : Line} (header : HeaderForm opening.text block.header)
      (start : opening.number = block.start) (inner : ∀ line ∈ block.body, line.Inner) :
      Opens block (opening :: block.body)

/-- The lines of a whole block: its header, its body, and a closing brace. -/
inductive Block.Fills (block : Block) : List Line → Prop where
  | closed {lines : List Line} {closing : Line} (opens : block.Opens lines)
      (brace : closing.text = ['\x7d']) : Fills block (lines ++ [closing])

/-- Lines that are whole blocks, one after the other. -/
inductive Consists : List Line → List Block → Prop where
  | nil : Consists [] []
  | cons {block : Block} {lines rest : List Line} {blocks : List Block}
      (fills : block.Fills lines) (later : Consists rest blocks) :
      Consists (lines ++ rest) (block :: blocks)

/-- How lines go on after whole blocks: not at all, or with a defect at the number of the line
that has it.  A block that is never closed has it at its header. -/
inductive BreaksOff : List Line → Option (Nat × ScanDefect) → Prop where
  | done : BreaksOff [] none
  | notBlock {line : Line} (rest : List Line)
      (noHeader : ∀ header, ¬HeaderForm line.text header) :
      BreaksOff (line :: rest) (some (line.number, .notBlock line.text))
  | nestedBlock {block : Block} {lines : List Line} {line : Line} (opens : block.Opens lines)
      (rest : List Line) (last : line.text.getLast? = some '\x7b') :
      BreaksOff (lines ++ line :: rest) (some (line.number, .nestedBlock))
  | braceNotAlone {block : Block} {lines : List Line} {line : Line} (opens : block.Opens lines)
      (rest : List Line) (brace : '\x7d' ∈ line.text) (others : line.text ≠ ['\x7d'])
      (last : line.text.getLast? ≠ some '\x7b') :
      BreaksOff (lines ++ line :: rest) (some (line.number, .braceNotAlone))
  | neverClosed {block : Block} {lines : List Line} (opens : block.Opens lines) :
      BreaksOff lines (some (block.start, .neverClosed))

theorem Block.Opens.append {block : Block} {lines : List Line} {line : Line}
    (opens : block.Opens lines) (inner : line.Inner) :
    Block.Opens { block with body := block.body ++ [line] } (lines ++ [line]) := by
  obtain ⟨header, start, innerBody⟩ := opens
  refine .begun header start ?_
  intro other member
  rcases List.mem_append.mp member with earlier | last
  · exact innerBody other earlier
  · rwa [List.mem_singleton.mp last]

/-- The lines before those that are still to be scanned, since the last whole block. -/
inductive Pending : Option Block → List Line → Prop where
  | outside : Pending none []
  | inside {block : Block} {lines : List Line} (opens : block.Opens lines) :
      Pending (some block) lines

/-- Scanning divides the lines that are still to be scanned, with those of a block that is open
before them. -/
theorem scanFrom_divides {opened : Option Block} {before : List Line}
    (pending : Pending opened before) (lines : List Line) :
    ∃ front rest, before ++ lines = front ++ rest ∧
      Consists front (scanFrom opened lines).blocks ∧
      BreaksOff rest (scanFrom opened lines).defect := by
  induction lines generalizing opened before with
  | nil =>
      cases pending with
      | outside => exact ⟨[], [], rfl, .nil, .done⟩
      | inside opens => exact ⟨[], before, by simp, .nil, .neverClosed opens⟩
  | cons line rest induction =>
      cases pending with
      | outside =>
          rw [scanFrom]
          cases read : readHeader? line.text with
          | none =>
              refine ⟨[], line :: rest, rfl, .nil, .notBlock rest fun header form => ?_⟩
              rw [readHeader?_eq_some_iff.mpr form] at read
              cases read
          | some header =>
              let block : Block := ⟨header, line.number, []⟩
              have opens : block.Opens [line] :=
                .begun (readHeader?_eq_some_iff.mp read) rfl (by simp [block])
              exact induction (.inside opens)
      | @inside block _ opens =>
          rw [scanFrom]
          split
          · next brace =>
            obtain ⟨front, left, split, consists, breaks⟩ := induction .outside
            refine ⟨before ++ [line] ++ front, left, ?_, .cons (.closed opens brace) consists,
              breaks⟩
            rw [List.append_assoc _ front, ← split, List.append_assoc]
            rfl
          · next others =>
            split
            · next last => exact ⟨[], _, rfl, .nil, .nestedBlock opens rest last⟩
            · next last =>
              split
              · next brace =>
                exact ⟨[], _, rfl, .nil,
                  .braceNotAlone opens rest (List.contains_iff_mem.mp brace) others last⟩
              · next noBrace =>
                have inner : line.Inner := ⟨mt List.contains_iff_mem.mpr noBrace, last⟩
                obtain ⟨front, left, split, divided⟩ := induction (.inside (opens.append inner))
                refine ⟨front, left, ?_, divided⟩
                rw [← split, List.append_assoc]
                rfl

/-- The lines of a text are divided into blocks up to where they break off. -/
theorem scan_divides (lines : List Line) :
    ∃ front rest, lines = front ++ rest ∧ Consists front (scan lines).blocks ∧
      BreaksOff rest (scan lines).defect :=
  scanFrom_divides .outside lines

section Number

/-- The significant lines among those from a number on are those that say something. -/
theorem mem_significantFrom_iff {number : Nat} {lines : List (List Char)} {line : Line} :
    line ∈ significantFrom number lines ↔ line.text ≠ [] ∧ ∃ position raw,
      line.number = number + position ∧ lines[position]? = some raw ∧
      line.text = significantText raw := by
  induction lines generalizing number with
  | nil => simp [significantFrom]
  | cons first rest induction =>
      -- The line is the first one, or it is at the position before in the rest.
      have positions : (∃ position raw, line.number = number + position ∧
          (first :: rest)[position]? = some raw ∧ line.text = significantText raw) ↔
          line = ⟨number, significantText first⟩ ∨ ∃ position raw,
            line.number = number + 1 + position ∧ rest[position]? = some raw ∧
            line.text = significantText raw := by
        constructor
        · rintro ⟨position, raw, place, found, same⟩
          cases position with
          | zero =>
              cases found
              exact .inl (congrArg₂ Line.mk place same)
          | succ position => exact .inr ⟨position, raw, by omega, found, same⟩
        · rintro (rfl | ⟨position, raw, place, found, same⟩)
          · exact ⟨0, first, rfl, rfl, rfl⟩
          · exact ⟨position + 1, raw, by omega, found, same⟩
      rw [positions, significantFrom]
      split
      · next silent =>
        rw [induction]
        refine and_congr_right fun shown => ⟨.inr, fun either => either.resolve_left ?_⟩
        rintro rfl
        exact shown (List.isEmpty_iff.mp silent)
      · next shown =>
        rw [List.mem_cons, induction, and_or_left]
        refine or_congr_left ⟨fun same => ⟨?_, same⟩, And.right⟩
        rw [same]
        exact mt List.isEmpty_iff.mpr shown

/-- A significant line of a text stands in it under its number, counted from one. -/
theorem mem_significantLines_iff {text : String} {line : Line} :
    line ∈ significantLines text ↔ line.text ≠ [] ∧ 1 ≤ line.number ∧ ∃ raw,
      (Text.splitLines text.toList)[line.number - 1]? = some raw ∧
      line.text = significantText raw := by
  rw [significantLines, mem_significantFrom_iff]
  refine and_congr_right fun _ => ⟨?_, ?_⟩
  · rintro ⟨position, raw, place, found, same⟩
    refine ⟨by omega, raw, ?_, same⟩
    rwa [place, Nat.add_sub_cancel_left]
  · rintro ⟨positive, raw, found, same⟩
    exact ⟨line.number - 1, raw, by omega, found, same⟩

end Number

end SchemaStore.Dsl
