import Mathlib.Data.List.Basic
import SchemaStore.Live.Default
import SchemaStore.Proofs.Text.Blank
import SchemaStore.Sql.Dialect

/-!
# Defaults written as literals

A literal is a text between single quotes in which every single quote is written
twice.  `normalizeDefault` reads it back, whatever characters the text holds.
-/

namespace SchemaStore

def quotedLiteral (text : String) : String :=
  String.ofList ('\x27' :: Dialect.doubled (· == '\x27') text.toList ++ ['\x27'])

theorem textLiteral_sqlite (text : String) :
    Dialect.sqlite.textLiteral text = quotedLiteral text := by
  have other : (Dialect.sqlite == Dialect.mysql) = false := rfl
  simp [Dialect.textLiteral, quotedLiteral, other]

theorem undoubleQuotes_doubled (cs : List Char) :
    undoubleQuotes (Dialect.doubled (· == '\x27') cs) = cs := by
  induction cs with
  | nil => rfl
  | cons c rest induction =>
      have unfolded : Dialect.doubled (· == '\x27') (c :: rest) =
          (if c == '\x27' then [c, c] else [c]) ++ Dialect.doubled (· == '\x27') rest := by
        simp [Dialect.doubled]
      rw [unfolded]
      by_cases quote : c = '\x27'
      · subst quote
        simp [undoubleQuotes, induction]
      · simp [quote, undoubleQuotes, induction]

theorem innerText?_eq_some_iff {cs inner : List Char} :
    innerText? cs = some inner ↔ cs = '(' :: inner ++ [')'] := by
  constructor
  · intro found
    unfold innerText? at found
    split at found
    · next second rest =>
      split at found
      · next last =>
        cases found
        rw [List.cons_append, List.dropLast_append_getLast? _ last]
      · cases found
    · cases found
  · rintro rfl
    cases inner with
    | nil => rfl
    | cons c rest =>
        have last : (c :: (rest ++ [')'])).getLast? = some ')' := by
          rw [← List.cons_append, List.getLast?_concat]
        have within : (c :: (rest ++ [')'])).dropLast = c :: rest := by
          rw [← List.cons_append, List.dropLast_concat]
        simp only [List.cons_append, innerText?, last, within, if_true]

theorem stripParens_of_some {cs inner : List Char}
    (found : innerText? (Text.trim cs) = some inner) : stripParens cs = stripParens inner := by
  rw [stripParens]
  split
  · next other same =>
    cases found.symm.trans same
    rfl
  · next none => cases found.symm.trans none

theorem stripParens_of_none {cs : List Char} (none : innerText? (Text.trim cs) = none) :
    stripParens cs = Text.trim cs := by
  rw [stripParens]
  split
  · next inner found => cases none.symm.trans found
  · rfl

/-- There are no parentheses around a literal. -/
theorem stripParens_literal (cs : List Char) :
    stripParens ('\x27' :: cs ++ ['\x27']) = '\x27' :: cs ++ ['\x27'] := by
  have trimmed : Text.trim ('\x27' :: cs ++ ['\x27']) = '\x27' :: cs ++ ['\x27'] := by
    apply Text.trim_eq_self
    · intro c first
      cases first
      rfl
    · intro c last
      rw [List.getLast?_concat] at last
      cases last
      rfl
  have noParens : innerText? ('\x27' :: cs ++ ['\x27']) = none := by
    unfold innerText?
    split
    · next parens => cases parens
    · rfl
  rw [stripParens_of_none (by rw [trimmed, noParens]), trimmed]

theorem readLiteral_quoted {quote : Char} (isQuote : quote = '\x27' ∨ quote = '\x22')
    (cs : List Char) : readLiteral (quote :: cs ++ [quote]) = undoubleQuotes cs := by
  cases cs with
  | nil => simp [readLiteral, isQuote]
  | cons c rest =>
      have last : (c :: (rest ++ [quote])).getLast? = some quote := by
        rw [← List.cons_append, List.getLast?_concat]
      have inner : (c :: (rest ++ [quote])).dropLast = c :: rest := by
        rw [← List.cons_append, List.dropLast_concat]
      simp only [List.cons_append, readLiteral, last, inner, isQuote, and_self, if_true]

/-- A default that is reported as a literal is the text of the literal. -/
theorem normalizeDefault_quotedLiteral (text : String) :
    normalizeDefault (quotedLiteral text) = text := by
  unfold normalizeDefault quotedLiteral
  rw [String.toList_ofList, stripParens_literal, readLiteral_quoted (.inl rfl),
    undoubleQuotes_doubled, String.ofList_toList]

end SchemaStore
