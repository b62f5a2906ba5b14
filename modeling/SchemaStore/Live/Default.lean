import SchemaStore.Text.Percent

/-!
# Reported defaults

Backends report the default of a column as text, between parentheses or quotes
of their own.  `normalizeDefault` takes those away, so that the text can be
compared with a declared default.
-/

namespace SchemaStore

/-- The text inside a pair of outer parentheses. -/
def innerText? (cs : List Char) : Option (List Char) :=
  match cs with
  | '(' :: second :: rest =>
      if (second :: rest).getLast? = some ')' then some (second :: rest).dropLast else none
  | _ => none

theorem innerText?_length {cs inner : List Char} (found : innerText? cs = some inner) :
    inner.length < cs.length := by
  unfold innerText? at found
  split at found
  · split at found
    · cases found
      simp only [List.length_dropLast, List.length_cons]
      omega
    · cases found
  · cases found

theorem trim_length_le (cs : List Char) : (Text.trim cs).length ≤ cs.length := by
  have dropEnd (p : Char → Bool) (line : List Char) :
      (Text.dropEndWhile p line).length ≤ line.length := by
    unfold Text.dropEndWhile
    rw [List.length_reverse]
    exact Nat.le_trans (List.dropWhile_sublist p).length_le (Nat.le_of_eq List.length_reverse)
  exact Nat.le_trans (dropEnd _ _) (List.dropWhile_sublist _).length_le

/-- Remove outer parentheses and the white space around and inside each pair. -/
def stripParens (cs : List Char) : List Char :=
  match _found : innerText? (Text.trim cs) with
  | some inner => stripParens inner
  | none => Text.trim cs
termination_by cs.length
decreasing_by
  exact Nat.lt_of_lt_of_le (innerText?_length _found) (trim_length_le cs)

/-- Replace every two single quotes in a row by one. -/
def undoubleQuotes : List Char → List Char
  | '\x27' :: '\x27' :: rest => '\x27' :: undoubleQuotes rest
  | c :: rest => c :: undoubleQuotes rest
  | [] => []

/-- The text between two equal quotes, in which single quotes are written twice. -/
def readLiteral (cs : List Char) : List Char :=
  match cs with
  | quote :: second :: rest =>
      if (quote = '\x27' ∨ quote = '\x22') ∧ (second :: rest).getLast? = some quote then
        undoubleQuotes (second :: rest).dropLast
      else
        cs
  | _ => cs

/-- A reported default without outer parentheses and quotes. -/
def normalizeDefault (text : String) : String :=
  String.ofList (readLiteral (stripParens text.toList))

end SchemaStore
