import Mathlib.Data.List.Basic
import SchemaStore.Proofs.Dsl.Numbering
import SchemaStore.Proofs.Text.Blank

/-!
# Edits that leave what a text says

White space at the ends of lines, comments and blank lines say nothing.  `Edits`
tells which lines arise from others when any number of such edits is made, and
where lines were inserted.  What is read from a text stays the same, and an error
moves with its line: by one for each line that was inserted above it.
-/

namespace SchemaStore.Dsl

/-- The quotation mark that is open where a line, or what is before its comment, ends; `quote`
is the one that is open before it. -/
def openQuoteFrom : Option Char → List Char → Option Char
  | quote, [] => quote
  | some quote, c :: rest => openQuoteFrom (if c = quote then none else some quote) rest
  | none, c :: rest =>
      if isQuote c then openQuoteFrom (some c) rest
      else if c = '/' ∧ rest.head? = some '/' then none
      else openQuoteFrom none rest

/-- A change of a line that leaves what it says. -/
inductive LineEdit : List Char → List Char → Prop where
  /-- White space is added or removed at the ends. -/
  | ends (before newBefore line after newAfter : List Char)
      (blankBefore : ∀ c ∈ before, Text.isBlank c = true)
      (blankNewBefore : ∀ c ∈ newBefore, Text.isBlank c = true)
      (blankAfter : ∀ c ∈ after, Text.isBlank c = true)
      (blankNewAfter : ∀ c ∈ newAfter, Text.isBlank c = true) :
      LineEdit (before ++ line ++ after) (newBefore ++ line ++ newAfter)
  /-- A comment is appended, with white space before it unless no slash ends the line. -/
  | comment (line blanks comment : List Char) (closed : openQuoteFrom none line = none)
      (blank : ∀ c ∈ blanks, Text.isBlank c = true)
      (apart : blanks = [] → line.getLast? ≠ some '/') :
      LineEdit line (line ++ (blanks ++ '/' :: '/' :: comment))

/-- A line that says nothing. -/
inductive Silent : List Char → Prop where
  | blank (blanks : List Char) (blank : ∀ c ∈ blanks, Text.isBlank c = true) : Silent blanks
  | comment (blanks comment : List Char) (blank : ∀ c ∈ blanks, Text.isBlank c = true) :
      Silent (blanks ++ '/' :: '/' :: comment)

/-- Edits of lines, one after the other, that lead from the first lines to the last ones.  The
numbers tell of every line that was inserted how many lines were above it then. -/
inductive Edits : List (List Char) → List Nat → List (List Char) → Prop where
  | done (lines : List (List Char)) : Edits lines [] lines
  | change (above below : List (List Char)) {line changed : List Char} {inserted : List Nat}
      {final : List (List Char)} (edit : LineEdit line changed)
      (later : Edits (above ++ changed :: below) inserted final) :
      Edits (above ++ line :: below) inserted final
  | insert (above below : List (List Char)) {line : List Char} {inserted : List Nat}
      {final : List (List Char)} (silent : Silent line)
      (later : Edits (above ++ line :: below) inserted final) :
      Edits (above ++ below) (above.length :: inserted) final

/-- How many lines were inserted above the line of a number. -/
def insertedAbove : List Nat → Nat → Nat
  | [], _ => 0
  | above :: later, number =>
      if above < number then insertedAbove later (number + 1) + 1
      else insertedAbove later number

section Line

theorem not_isQuote_of_isBlank {c : Char} (blank : Text.isBlank c = true) :
    isQuote c = false ∧ c ≠ '/' := by
  constructor
  · apply Bool.eq_false_iff.mpr
    intro quote
    simp only [isQuote, Bool.or_eq_true, beq_iff_eq] at quote
    rcases quote with rfl | rfl <;> cases blank
  · rintro rfl
    cases blank

theorem stripCommentFrom_none_append {blanks : List Char}
    (blank : ∀ c ∈ blanks, Text.isBlank c = true) (rest : List Char) :
    stripCommentFrom none (blanks ++ rest) = blanks ++ stripCommentFrom none rest := by
  induction blanks with
  | nil => rfl
  | cons c others induction =>
      obtain ⟨first, later⟩ := List.forall_mem_cons.mp blank
      obtain ⟨noQuote, noSlash⟩ := not_isQuote_of_isBlank first
      simp [stripCommentFrom, noQuote, noSlash, induction later]

/-- White space is not cut, whatever quotation mark is open before it. -/
theorem stripCommentFrom_blanks (quote : Option Char) {blanks : List Char}
    (blank : ∀ c ∈ blanks, Text.isBlank c = true) : stripCommentFrom quote blanks = blanks := by
  induction blanks generalizing quote with
  | nil => cases quote <;> rfl
  | cons c others induction =>
      obtain ⟨first, later⟩ := List.forall_mem_cons.mp blank
      cases quote with
      | some quote => simp [stripCommentFrom, induction _ later]
      | none =>
          obtain ⟨noQuote, noSlash⟩ := not_isQuote_of_isBlank first
          simp [stripCommentFrom, noQuote, noSlash, induction none later]

theorem stripCommentFrom_comment {blanks : List Char}
    (blank : ∀ c ∈ blanks, Text.isBlank c = true) (comment : List Char) :
    stripCommentFrom none (blanks ++ '/' :: '/' :: comment) = blanks := by
  rw [stripCommentFrom_none_append blank]
  simp [stripCommentFrom, isQuote, doubleQuote, singleQuote]

/-- A tail of which only white space is left says nothing.  It must not make a comment together
with the end of the line. -/
theorem stripCommentFrom_append (quote : Option Char) {line tail : List Char}
    (apart : line.getLast? = some '/' → tail.head? ≠ some '/')
    (blank : ∀ c ∈ stripCommentFrom (openQuoteFrom quote line) tail, Text.isBlank c = true) :
    ∃ after, stripCommentFrom quote (line ++ tail) = stripCommentFrom quote line ++ after ∧
      ∀ c ∈ after, Text.isBlank c = true := by
  induction line generalizing quote with
  | nil =>
      have kept : stripCommentFrom quote [] = [] := by cases quote <;> rfl
      have still : openQuoteFrom quote [] = quote := by cases quote <;> rfl
      rw [still] at blank
      exact ⟨stripCommentFrom quote tail, by rw [kept]; rfl, blank⟩
  | cons c rest induction =>
      have restApart : rest.getLast? = some '/' → tail.head? ≠ some '/' := by
        intro last
        apply apart
        rw [List.getLast?_cons, last]
        rfl
      cases quote with
      | some quote =>
          simp only [openQuoteFrom] at blank
          obtain ⟨after, same, blankAfter⟩ := induction _ restApart blank
          exact ⟨after, by simp [stripCommentFrom, same], blankAfter⟩
      | none =>
          by_cases opens : isQuote c = true
          · simp only [openQuoteFrom, opens, if_true] at blank
            obtain ⟨after, same, blankAfter⟩ := induction _ restApart blank
            exact ⟨after, by simp [stripCommentFrom, opens, same], blankAfter⟩
          · by_cases cut : c = '/' ∧ rest.head? = some '/'
            · have stillCut : (rest ++ tail).head? = some '/' := by
                rw [List.head?_append, cut.2]
                rfl
              have whole : stripCommentFrom none (c :: (rest ++ tail)) = [] := by
                rw [stripCommentFrom, if_neg opens, if_pos ⟨cut.1, stillCut⟩]
              have alone : stripCommentFrom none (c :: rest) = [] := by
                rw [stripCommentFrom, if_neg opens, if_pos cut]
              exact ⟨[], by rw [List.cons_append, whole, alone]; rfl, by simp⟩
            · have stillUncut : ¬(c = '/' ∧ (rest ++ tail).head? = some '/') := by
                rintro ⟨slash, first⟩
                cases rest with
                | nil => exact apart (by rw [slash]; rfl) first
                | cons other others => exact cut ⟨slash, first⟩
              rw [openQuoteFrom, if_neg opens, if_neg cut] at blank
              obtain ⟨after, same, blankAfter⟩ := induction none restApart blank
              refine ⟨after, ?_, blankAfter⟩
              rw [List.cons_append, stripCommentFrom, if_neg opens, if_neg stillUncut, same,
                stripCommentFrom, if_neg opens, if_neg cut, List.cons_append]

theorem significantText_append {line tail : List Char}
    (apart : line.getLast? = some '/' → tail.head? ≠ some '/')
    (blank : ∀ c ∈ stripCommentFrom (openQuoteFrom none line) tail, Text.isBlank c = true) :
    significantText (line ++ tail) = significantText line := by
  obtain ⟨after, same, blankAfter⟩ := stripCommentFrom_append none apart blank
  have nothing : ∀ c ∈ ([] : List Char), Text.isBlank c = true := by simp
  calc
    significantText (line ++ tail) = Text.trim ([] ++ stripComment line ++ after) := by
      rw [significantText, stripComment, same]
      rfl
    _ = significantText line := Text.trim_spaced _ nothing blankAfter

theorem significantText_spaced (line : List Char) {before after : List Char}
    (blankBefore : ∀ c ∈ before, Text.isBlank c = true)
    (blankAfter : ∀ c ∈ after, Text.isBlank c = true) :
    significantText (before ++ line ++ after) = significantText line := by
  have nothing : ∀ c ∈ ([] : List Char), Text.isBlank c = true := by simp
  have apart : line.getLast? = some '/' → after.head? ≠ some '/' := by
    intro _ first
    exact (not_isQuote_of_isBlank (blankAfter _ (List.mem_of_head? first))).2 rfl
  calc
    significantText (before ++ line ++ after) =
        Text.trim (before ++ stripComment (line ++ after) ++ []) := by
      rw [significantText, stripComment, List.append_assoc,
        stripCommentFrom_none_append blankBefore, List.append_nil]
      rfl
    _ = significantText (line ++ after) := Text.trim_spaced _ blankBefore nothing
    _ = significantText line :=
      significantText_append apart (by rwa [stripCommentFrom_blanks _ blankAfter])

/-- A line says the same after an edit. -/
theorem LineEdit.significantText_eq {line changed : List Char} (edit : LineEdit line changed) :
    significantText changed = significantText line := by
  cases edit with
  | ends before newBefore line after newAfter blankBefore blankNewBefore blankAfter blankNewAfter =>
      rw [significantText_spaced line blankNewBefore blankNewAfter,
        significantText_spaced line blankBefore blankAfter]
  | comment line blanks comment closed blank apart =>
      apply significantText_append
      · intro last
        cases blanks with
        | nil => exact absurd last (apart rfl)
        | cons c others =>
            intro first
            cases first
            exact (not_isQuote_of_isBlank (blank '/' List.mem_cons_self)).2 rfl
      · rwa [closed, stripCommentFrom_comment blank]

theorem Silent.significantText_eq {line : List Char} (silent : Silent line) :
    significantText line = [] := by
  have trimmed {blanks : List Char} (blank : ∀ c ∈ blanks, Text.isBlank c = true) :
      Text.trim blanks = [] := by
    have nothing : ∀ c ∈ ([] : List Char), Text.isBlank c = true := by simp
    have spaced := Text.trim_spaced [] blank nothing
    rwa [List.append_nil, List.append_nil] at spaced
  cases silent with
  | blank blanks blank =>
      rw [significantText, stripComment, stripCommentFrom_blanks none blank, trimmed blank]
  | comment blanks comment blank =>
      rw [significantText, stripComment, stripCommentFrom_comment blank, trimmed blank]

end Line

section Lines

theorem significantFrom_change (number : Nat) (above below : List (List Char))
    {line changed : List Char} (same : significantText changed = significantText line) :
    significantFrom number (above ++ changed :: below) =
      significantFrom number (above ++ line :: below) := by
  induction above generalizing number with
  | nil => simp only [List.nil_append, significantFrom, same]
  | cons first rest induction => simp only [List.cons_append, significantFrom, induction]

theorem significantFrom_succ {least number : Nat} (reached : least ≤ number)
    (lines : List (List Char)) :
    significantFrom (number + 1) lines = (significantFrom number lines).map (Line.renumber fun n =>
      if least ≤ n then n + 1 else n) := by
  induction lines generalizing number with
  | nil => rfl
  | cons line rest induction =>
      simp only [significantFrom, induction (Nat.le_succ_of_le reached)]
      split
      · rfl
      · rw [List.map_cons, Line.renumber, if_pos reached]

/-- A line that says nothing moves the lines from its place on. -/
theorem significantFrom_insert (number : Nat) (above below : List (List Char)) {line : List Char}
    (silent : significantText line = []) :
    significantFrom number (above ++ line :: below) =
      (significantFrom number (above ++ below)).map (Line.renumber fun n =>
        if number + above.length ≤ n then n + 1 else n) := by
  induction above generalizing number with
  | nil =>
      simp only [List.nil_append, significantFrom, silent, List.isEmpty_nil, if_true,
        List.length_nil, Nat.add_zero]
      exact significantFrom_succ (Nat.le_refl number) below
  | cons first rest induction =>
      have stays : ¬number + (first :: rest).length ≤ number := by simp
      have count : number + 1 + rest.length = number + (first :: rest).length := by
        simp only [List.length_cons]
        omega
      have others := induction (number + 1)
      rw [count] at others
      simp only [List.cons_append, significantFrom, others]
      split
      · rfl
      · rw [List.map_cons, Line.renumber, if_neg stays]

/-- After any number of edits the same is said, in lines that moved by what was inserted. -/
theorem Edits.significantFrom_eq {lines final : List (List Char)} {inserted : List Nat}
    (edits : Edits lines inserted final) :
    significantFrom 1 final = (significantFrom 1 lines).map (Line.renumber fun number =>
      number + insertedAbove inserted number) := by
  induction edits with
  | done lines => exact (List.map_id _).symm
  | change above below edit later induction =>
      rw [induction, significantFrom_change 1 above below edit.significantText_eq]
  | @insert above below line inserted final silent later induction =>
      rw [induction, significantFrom_insert 1 above below silent.significantText_eq, List.map_map]
      congr 1
      funext shown
      simp only [Function.comp_apply, Line.renumber, insertedAbove, Line.mk.injEq, and_true]
      split
      · next below => rw [if_pos (by omega)]; omega
      · next above => rw [if_neg (by omega)]

/-- Reading gives the same after edits of white space and comments, or fails with the same error,
at a number that is greater by how many lines were inserted above its line. -/
theorem parse_edited {text edited : String} {inserted : List Nat}
    (edits : Edits (Text.splitLines text.toList) inserted (Text.splitLines edited.toList))
    (env : Record String) :
    parse env edited = (parse env text).mapError (ParseError.renumber fun number =>
      number + insertedAbove inserted number) :=
  parse_renumber _ env edits.significantFrom_eq

/-- A comment above and a blank line between move the error of a line from 2 to 4. -/
theorem parse_edited_users :
    let text := "model User \x7b\n  id Int @key\n\x7d\n"
    let edited := "// It\x27s \x22all\nmodel User \x7b\t// \x22here\n\n\tid Int @key\n\x7d\n"
    let defect := Defect.unknownAttribute "key".toList
    Edits (Text.splitLines text.toList) [0, 2] (Text.splitLines edited.toList) ∧
      parse [] text = .error (.atLine 2 defect) ∧
      parse [] edited = .error (.atLine 4 defect) := by
  intro text edited defect
  let comment := "// It\x27s \x22all".toList
  let header := "model User \x7b".toList
  let noted := "model User \x7b\t// \x22here".toList
  let field := "  id Int @key".toList
  let closing := "\x7d".toList
  have tab : ∀ c ∈ "\t".toList, Text.isBlank c = true := List.all_eq_true.mp rfl
  have indented : ∀ c ∈ "  ".toList, Text.isBlank c = true := List.all_eq_true.mp rfl
  have nothing : ∀ c ∈ ([] : List Char), Text.isBlank c = true := List.all_eq_true.mp rfl
  have top : Silent comment := .comment [] " It\x27s \x22all".toList nothing
  have headerEdit : LineEdit header noted :=
    .comment header "\t".toList " \x22here".toList (by decide) tab (by decide)
  have fieldEdit : LineEdit field "\tid Int @key".toList :=
    .ends "  ".toList "\t".toList "id Int @key".toList [] [] indented tab nothing nothing
  have lines : Text.splitLines text.toList = [header, field, closing] := by decide
  have final : Text.splitLines edited.toList =
      [comment, noted, [], "\tid Int @key".toList, closing] := by decide
  have edits : Edits (Text.splitLines text.toList) [0, 2] (Text.splitLines edited.toList) := by
    rw [lines, final]
    apply Edits.insert [] [header, field, closing] top
    apply Edits.change [comment] [field, closing] headerEdit
    apply Edits.insert [comment, noted] [field, closing] (.blank [] nothing)
    apply Edits.change [comment, noted, []] [closing] fieldEdit
    exact .done _
  have failed : parse [] text = .error (.atLine 2 defect) := by decide +kernel
  refine ⟨edits, failed, ?_⟩
  rw [parse_edited edits, failed]
  rfl

end Lines

end SchemaStore.Dsl
