import SchemaStore.Dsl.Block
import SchemaStore.Proofs.Dsl.Token

/-!
# Lines of printed texts

A plain text is kept when comments are removed, and holds neither a line end nor
a closing brace: ordinary characters, blanks and quotations are plain, and so
are plain texts one after the other.  A text of significant lines is read as
these lines, and lines that form a block are scanned as this block.
-/

namespace SchemaStore.Dsl

theorem significantLines_ofList (chars : List Char) :
    significantLines (String.ofList chars) = significantFrom 1 (Text.splitLines chars) := by
  rw [significantLines, String.toList_ofList]

/-- A text that comments do not cut and that ends no line and no block. -/
structure Plain (text : List Char) : Prop where
  uncut : ∀ rest, stripCommentFrom none (text ++ rest) = text ++ stripCommentFrom none rest
  inLine : ∀ c ∈ text, Text.isLineBreak c = false
  inBlock : '\x7d' ∉ text

namespace Plain

theorem nil : Plain [] :=
  ⟨fun _ => rfl, by simp, by simp⟩

theorem append {text other : List Char} (plain : Plain text) (otherPlain : Plain other) :
    Plain (text ++ other) := by
  constructor
  · intro rest
    rw [List.append_assoc, plain.uncut, otherPlain.uncut, List.append_assoc]
  · intro c member
    rcases List.mem_append.mp member with inText | inOther
    · exact plain.inLine c inText
    · exact otherPlain.inLine c inOther
  · intro member
    rcases List.mem_append.mp member with inText | inOther
    · exact plain.inBlock inText
    · exact otherPlain.inBlock inOther

theorem of_char {c : Char} (noQuote : isQuote c = false) (noSlash : c ≠ '/')
    (unbroken : Text.isLineBreak c = false) (noBrace : c ≠ '\x7d') : Plain [c] := by
  constructor
  · intro rest
    simp [stripCommentFrom, noQuote, noSlash]
  · intro other member
    rw [List.mem_singleton.mp member]
    exact unbroken
  · simpa using noBrace.symm

theorem of_ordinary {text : List Char} (ordinary : ∀ c ∈ text, isOrdinary c = true) :
    Plain text := by
  induction text with
  | nil => exact nil
  | cons c rest induction =>
      have first := ordinary c List.mem_cons_self
      simp only [isOrdinary, Bool.and_eq_true, Bool.not_eq_true', bne_iff_ne] at first
      obtain ⟨⟨⟨⟨⟨-, unbroken⟩, noQuote⟩, noSlash⟩, -⟩, noBrace⟩ := first
      exact append (of_char noQuote noSlash unbroken noBrace)
        (induction fun other later => ordinary other (List.mem_cons_of_mem _ later))

theorem blank : Plain [' '] :=
  of_char rfl (by decide) rfl (by decide)

theorem openingBrace : Plain ['\x7b'] :=
  of_char rfl (by decide) rfl (by decide)

private theorem stripCommentFrom_quoted {text : List Char} (unquoted : doubleQuote ∉ text)
    (rest : List Char) :
    stripCommentFrom (some doubleQuote) (text ++ doubleQuote :: rest) =
      text ++ doubleQuote :: stripCommentFrom none rest := by
  induction text with
  | nil => simp [stripCommentFrom]
  | cons c others induction =>
      have different : c ≠ doubleQuote := by
        rintro rfl
        exact unquoted List.mem_cons_self
      simp only [List.cons_append, stripCommentFrom, if_neg different]
      rw [induction fun later => unquoted (List.mem_cons_of_mem _ later)]

theorem quotedText {text : String} (quotable : isQuotable text = true) :
    Plain (quotedText text) := by
  simp only [isQuotable, List.all_eq_true, Bool.and_eq_true, bne_iff_ne,
    Bool.not_eq_true'] at quotable
  have unquoted : doubleQuote ∉ text.toList := fun member => (quotable _ member).1.1 rfl
  constructor
  · intro rest
    have opens : isQuote doubleQuote = true := rfl
    simp only [Dsl.quotedText, List.cons_append, List.append_assoc, List.nil_append,
      stripCommentFrom, opens, if_true]
    rw [stripCommentFrom_quoted unquoted]
  · intro c member
    simp only [Dsl.quotedText, List.mem_append, List.mem_cons, List.not_mem_nil, or_false] at member
    rcases member with (rfl | inside) | rfl
    · rfl
    · exact (quotable c inside).2
    · rfl
  · intro member
    simp only [Dsl.quotedText, List.mem_append, List.mem_cons, List.not_mem_nil, or_false] at member
    rcases member with (quote | inside) | quote
    · cases quote
    · exact (quotable _ inside).1.2 rfl
    · cases quote

end Plain

/-- A line that is read as it is written. -/
structure Significant (line : List Char) : Prop where
  unbroken : ∀ c ∈ line, Text.isLineBreak c = false
  kept : significantText line = line
  nonempty : line ≠ []

theorem Plain.significant {line : List Char} (plain : Plain line)
    (starts : ∃ c rest, line = c :: rest ∧ Text.isBlank c = false)
    (ends : ∀ c, line.getLast? = some c → Text.isBlank c = false) : Significant line := by
  obtain ⟨c, rest, same, visible⟩ := starts
  refine ⟨plain.inLine, ?_, by simp [same]⟩
  have uncut : stripComment line = line := by
    simpa [stripComment, stripCommentFrom] using plain.uncut []
  rw [significantText, uncut]
  apply Text.trim_eq_self
  · intro first firstOf
    rw [same] at firstOf
    cases firstOf
    exact visible
  · exact ends

theorem splitLines_append {line : List Char}
    (unbroken : ∀ c ∈ line, Text.isLineBreak c = false) (rest : List Char) :
    Text.splitLines (line ++ '\n' :: rest) = line :: Text.splitLines rest := by
  induction line with
  | nil =>
      have ends : Text.isLineBreak '\n' = true := rfl
      simp [Text.splitLines, ends]
  | cons c others induction =>
      have kept := unbroken c List.mem_cons_self
      rw [List.cons_append, Text.splitLines, kept,
        induction fun other later => unbroken other (List.mem_cons_of_mem _ later)]
      · rfl
      · rintro tail rfl
        cases kept

/-- Lines with their numbers. -/
def numbered : Nat → List (List Char) → List Line
  | _, [] => []
  | number, line :: rest => ⟨number, line⟩ :: numbered (number + 1) rest

theorem numbered_append (number : Nat) (lines others : List (List Char)) :
    numbered number (lines ++ others) =
      numbered number lines ++ numbered (number + lines.length) others := by
  induction lines generalizing number with
  | nil => rfl
  | cons line rest induction =>
      simp only [List.cons_append, numbered, induction, List.length_cons]
      rw [Nat.add_assoc, Nat.add_comm 1]

theorem significantFrom_eq_numbered (number : Nat) {lines : List (List Char)}
    (significant : ∀ line ∈ lines, Significant line) :
    significantFrom number lines = numbered number lines := by
  induction lines generalizing number with
  | nil => rfl
  | cons line rest induction =>
      obtain ⟨-, kept, nonempty⟩ := significant line List.mem_cons_self
      have visible : line.isEmpty = false := by simpa using nonempty
      simp only [significantFrom, kept, visible, numbered]
      rw [induction _ fun other later => significant other (List.mem_cons_of_mem _ later)]
      rfl

/-- A text of significant lines is read as these lines. -/
theorem significantLines_ofLines {lines : List (List Char)}
    (significant : ∀ line ∈ lines, Significant line) :
    significantLines (String.ofList (lines.flatMap (· ++ ['\n']))) = numbered 1 lines := by
  have split : Text.splitLines (lines.flatMap (· ++ ['\n'])) = lines := by
    induction lines with
    | nil => rfl
    | cons line rest induction =>
        have unbroken := (significant line List.mem_cons_self).unbroken
        rw [List.flatMap_cons, List.append_assoc, List.singleton_append,
          splitLines_append unbroken,
          induction fun other later => significant other (List.mem_cons_of_mem _ later)]
  rw [significantLines, String.toList_ofList, split, significantFrom_eq_numbered 1 significant]

/-- A line that stands in the body of a block. -/
structure BodyLine (line : List Char) : Prop where
  significant : Significant line
  inBlock : '\x7d' ∉ line
  opensNone : line.getLast? ≠ some '\x7b'

theorem scanFrom_body (block : Block) {body : List (List Char)}
    (bodyLines : ∀ line ∈ body, BodyLine line) (number : Nat) (rest : List Line) :
    scanFrom (some block) (numbered number body ++ rest) =
      scanFrom (some { block with body := block.body ++ numbered number body }) rest := by
  induction body generalizing block number with
  | nil => simp [numbered]
  | cons line others induction =>
      obtain ⟨-, inBlock, opensNone⟩ := bodyLines line List.mem_cons_self
      have notClosing : line ≠ ['\x7d'] := by
        rintro rfl
        exact inBlock List.mem_cons_self
      have contains : line.contains '\x7d' = false := by simpa using inBlock
      rw [numbered, List.cons_append, scanFrom, if_neg notClosing, if_neg opensNone, contains,
        if_neg (by simp),
        induction _ fun other later => bodyLines other (List.mem_cons_of_mem _ later)]
      simp

/-- The lines of a block are scanned as this block. -/
theorem scanFrom_printBlock {header : List Char} {read : Header}
    (headerRead : readHeader? header = some read) {body : List (List Char)}
    (bodyLines : ∀ line ∈ body, BodyLine line) (number : Nat) (rest : List Line) :
    scanFrom none (numbered number (printBlock header body) ++ rest) =
      ⟨⟨read, number, numbered (number + 1) body⟩ :: (scanFrom none rest).blocks,
        (scanFrom none rest).defect⟩ := by
  have lines : numbered number (printBlock header body) ++ rest =
      ⟨number, header⟩ :: (numbered (number + 1) body ++
        ⟨number + 1 + body.length, ['\x7d']⟩ :: rest) := by
    simp [printBlock, numbered, numbered_append]
  rw [lines, scanFrom, headerRead]
  simp only [scanFrom_body _ bodyLines, scanFrom, if_true, List.nil_append]

end SchemaStore.Dsl
