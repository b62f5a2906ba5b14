import SchemaStore.Text.Blank
import SchemaStore.Text.Class

/-!
# Tokens of a field line

A token is a run without white space, except that an attribute `@name( … )` ends
with its closing parenthesis and may hold white space and one level of inner
parentheses before it.  Parentheses that do not close belong to the next token.
-/

namespace SchemaStore.Dsl

/-- Characters of an attribute name. -/
def isNameChar (c : Char) : Bool :=
  Text.isWord c || c == '.'

/-- Letters and the underscore, which may start an identifier. -/
def isIdentifierStart (c : Char) : Bool :=
  c.isAlpha || c == '_'

def isIdentifierChar (c : Char) : Bool :=
  c.isAlphanum || c == '_'

/-- Whether a text is an identifier. -/
def isIdentifier : List Char → Bool
  | [] => false
  | c :: rest => isIdentifierStart c && rest.all isIdentifierChar

/-- The identifier at the start of a text, and the rest; there is none if the first part is
empty. -/
def takeIdentifier : List Char → List Char × List Char
  | [] => ([], [])
  | c :: rest =>
      if isIdentifierStart c then
        (c :: rest.takeWhile isIdentifierChar, rest.dropWhile isIdentifierChar)
      else
        ([], c :: rest)

/-- The text up to and including the parenthesis that closes an open one, and the rest.
`inner` tells whether a second one is open; a third one is not allowed. -/
def closeParen : Bool → List Char → Option (List Char × List Char)
  | _, [] => none
  | inner, c :: rest =>
      if c = ')' ∧ ¬inner then
        some ([c], rest)
      else if c = '(' ∧ inner then
        none
      else
        let inner := if c = '(' then true else if c = ')' then false else inner
        (closeParen inner rest).map fun (taken, left) => (c :: taken, left)

/-- The argument list at the start of a text with its parentheses, and the rest. -/
def takeArgument : List Char → List Char × List Char
  | '(' :: rest =>
      match closeParen false rest with
      | some (taken, left) => ('(' :: taken, left)
      | none => ([], '(' :: rest)
  | cs => ([], cs)

/-- A run without white space, and the rest. -/
def takeRun (cs : List Char) : List Char × List Char :=
  (cs.takeWhile (!Text.isBlank ·), cs.dropWhile (!Text.isBlank ·))

/-- The token at the start of a text that does not start with white space, and the rest. -/
def takeToken : List Char → List Char × List Char
  | '@' :: rest =>
      let name := rest.takeWhile isNameChar
      if name.isEmpty then
        takeRun ('@' :: rest)
      else
        let argument := takeArgument (rest.dropWhile isNameChar)
        ('@' :: name ++ argument.1, argument.2)
  | cs => takeRun cs

theorem takeRun_append (cs : List Char) : (takeRun cs).1 ++ (takeRun cs).2 = cs :=
  List.takeWhile_append_dropWhile

theorem closeParen_append {inner : Bool} {cs taken left : List Char}
    (closed : closeParen inner cs = some (taken, left)) : taken ++ left = cs := by
  induction cs generalizing inner taken left with
  | nil => simp [closeParen] at closed
  | cons c rest ih =>
      rw [closeParen] at closed
      split at closed
      · cases closed
        rfl
      · split at closed
        · cases closed
        · simp only [Option.map_eq_some_iff, Prod.mk.injEq] at closed
          obtain ⟨⟨innerTaken, innerLeft⟩, innerClosed, rfl, rfl⟩ := closed
          simp [ih innerClosed]

theorem takeArgument_append (cs : List Char) :
    (takeArgument cs).1 ++ (takeArgument cs).2 = cs := by
  unfold takeArgument
  split
  · next rest =>
      split
      · next taken left closed => simp [closeParen_append closed]
      · rfl
  · rfl

/-- A token and what follows it make up the text. -/
theorem takeToken_append (cs : List Char) :
    (takeToken cs).1 ++ (takeToken cs).2 = cs := by
  unfold takeToken
  split
  · next rest =>
      dsimp only
      split
      · exact takeRun_append _
      · have parts := takeArgument_append (rest.dropWhile isNameChar)
        simp only [List.cons_append, List.append_assoc, parts,
          List.takeWhile_append_dropWhile]
  · exact takeRun_append _

theorem takeToken_ne_nil {c : Char} {rest : List Char} (visible : Text.isBlank c = false) :
    (takeToken (c :: rest)).1 ≠ [] := by
  have run : (takeRun (c :: rest)).1 ≠ [] := by
    simp [takeRun, visible]
  unfold takeToken
  split
  · next heq =>
      cases heq
      dsimp only
      split
      · exact run
      · simp
  · exact run

def tokens (cs : List Char) : List (List Char) :=
  match _visible : cs.dropWhile Text.isBlank with
  | [] => []
  | c :: rest => (takeToken (c :: rest)).1 :: tokens (takeToken (c :: rest)).2
termination_by cs.length
decreasing_by
  have whole := congrArg List.length (takeToken_append (c :: rest))
  have shorter : (c :: rest).length ≤ cs.length :=
    _visible ▸ (List.dropWhile_sublist Text.isBlank).length_le
  have head : Text.isBlank c = false := by
    have remains : cs.dropWhile Text.isBlank ≠ [] := by simp [_visible]
    have found := List.head_dropWhile_not Text.isBlank remains
    simpa [_visible] using found
  have used : 0 < (takeToken (c :: rest)).1.length :=
    List.length_pos_iff.mpr (takeToken_ne_nil head)
  simp only [List.length_append] at whole
  omega

end SchemaStore.Dsl
