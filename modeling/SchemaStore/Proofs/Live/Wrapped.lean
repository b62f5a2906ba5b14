import SchemaStore.Proofs.Live.Literal

/-!
# Literals that are reported in parentheses

A backend may report a literal between parentheses, with white space inside and
outside of each pair.  `normalizeDefault` takes all of it away and stops at the
literal, whatever its text starts and ends with.  So two reported defaults are the
same after it exactly if they stand for the same text.
-/

namespace SchemaStore

/-- A text with white space or a pair of parentheses around it, any number of times. -/
inductive Wrapped (text : List Char) : List Char → Prop where
  | bare : Wrapped text text
  | spaced (before : List Char) {inner : List Char} (after : List Char)
      (within : Wrapped text inner)
      (blankBefore : ∀ c ∈ before, Text.isBlank c = true)
      (blankAfter : ∀ c ∈ after, Text.isBlank c = true) :
      Wrapped text (before ++ inner ++ after)
  | parens {inner : List Char} (within : Wrapped text inner) :
      Wrapped text ('(' :: inner ++ [')'])

/-- Only the trimmed form of a text counts for its parentheses. -/
theorem stripParens_congr {cs others : List Char} (same : Text.trim cs = Text.trim others) :
    stripParens cs = stripParens others := by
  cases found : innerText? (Text.trim others) with
  | some inner => rw [stripParens_of_some found, stripParens_of_some (same ▸ found)]
  | none => rw [stripParens_of_none found, stripParens_of_none (same ▸ found), same]

theorem stripParens_spaced {before after : List Char} (cs : List Char)
    (blankBefore : ∀ c ∈ before, Text.isBlank c = true)
    (blankAfter : ∀ c ∈ after, Text.isBlank c = true) :
    stripParens (before ++ cs ++ after) = stripParens cs :=
  stripParens_congr (Text.trim_spaced cs blankBefore blankAfter)

theorem stripParens_parens (cs : List Char) :
    stripParens ('(' :: cs ++ [')']) = stripParens cs := by
  have trimmed : Text.trim ('(' :: cs ++ [')']) = '(' :: cs ++ [')'] := by
    apply Text.trim_eq_self
    · intro c first
      cases first
      rfl
    · intro c last
      rw [List.getLast?_concat] at last
      cases last
      rfl
  apply stripParens_of_some
  rw [trimmed]
  exact innerText?_eq_some_iff.mpr rfl

/-- What stands around a text does not count for what is left without parentheses. -/
theorem Wrapped.stripParens_eq {text cs : List Char} (wrapped : Wrapped text cs) :
    stripParens cs = stripParens text := by
  induction wrapped with
  | bare => rfl
  | spaced before after within blankBefore blankAfter induction =>
      rw [stripParens_spaced _ blankBefore blankAfter, induction]
  | parens within induction => rw [stripParens_parens, induction]

/-- A wrapped literal is read as the text that it was written for. -/
theorem Wrapped.normalizeDefault_eq {text : String} {cs : List Char}
    (wrapped : Wrapped (quotedLiteral text).toList cs) :
    normalizeDefault (String.ofList cs) = text := by
  calc
    normalizeDefault (String.ofList cs) =
        String.ofList (readLiteral (stripParens (quotedLiteral text).toList)) := by
      rw [normalizeDefault, String.toList_ofList, wrapped.stripParens_eq]
    _ = normalizeDefault (quotedLiteral text) := rfl
    _ = text := normalizeDefault_quotedLiteral text

/-- Reading takes back the writing of a literal and whatever was put around it, so wrapped
literals are read alike exactly if they were written for the same text. -/
theorem normalizeDefault_wrapped {text other : String} {cs others : List Char}
    (wrapped : Wrapped (quotedLiteral text).toList cs)
    (otherWrapped : Wrapped (quotedLiteral other).toList others) :
    normalizeDefault (String.ofList cs) = text ∧
      (normalizeDefault (String.ofList cs) = normalizeDefault (String.ofList others) ↔
        text = other) := by
  have read := wrapped.normalizeDefault_eq
  have otherRead := otherWrapped.normalizeDefault_eq
  refine ⟨read, ?_⟩
  rw [read, otherRead]

/-- Quotes, parentheses and blanks at the ends of a text are its own. -/
theorem normalizeDefault_wrapped_quotes :
    Wrapped (quotedLiteral "(it\x27s) ").toList "\t( (\x27(it\x27\x27s) \x27)\u00a0)".toList ∧
      Wrapped (quotedLiteral "\x27").toList "\x27\x27\x27\x27".toList ∧
      normalizeDefault "\t( (\x27(it\x27\x27s) \x27)\u00a0)" = "(it\x27s) " ∧
      ¬normalizeDefault "\t( (\x27(it\x27\x27s) \x27)\u00a0)" =
        normalizeDefault "\x27\x27\x27\x27" := by
  have literal : (quotedLiteral "(it\x27s) ").toList = "\x27(it\x27\x27s) \x27".toList := by decide
  have inner : Wrapped (quotedLiteral "(it\x27s) ").toList "(\x27(it\x27\x27s) \x27)".toList := by
    rw [literal]
    exact .parens .bare
  have spaced : Wrapped (quotedLiteral "(it\x27s) ").toList
      " (\x27(it\x27\x27s) \x27)\u00a0".toList :=
    .spaced " ".toList "\u00a0".toList inner (List.all_eq_true.mp rfl) (List.all_eq_true.mp rfl)
  have whole : Wrapped (quotedLiteral "(it\x27s) ").toList
      "\t( (\x27(it\x27\x27s) \x27)\u00a0)".toList :=
    .spaced "\t".toList [] spaced.parens (List.all_eq_true.mp rfl) (List.all_eq_true.mp rfl)
  have other : Wrapped (quotedLiteral "\x27").toList "\x27\x27\x27\x27".toList := by
    have same : (quotedLiteral "\x27").toList = "\x27\x27\x27\x27".toList := by decide
    rw [same]
    exact .bare
  obtain ⟨read, alike⟩ := normalizeDefault_wrapped whole other
  rw [String.ofList_toList] at read alike
  exact ⟨whole, other, read, fun same => absurd (alike.mp same) (by decide)⟩

end SchemaStore
