/-!
# White space and lines

White space is the Unicode class together with the four information separators.
`trim` removes it at both ends of a text, and `splitLines` cuts a text at every
character that ends a line; a carriage return and a following line feed end one
line together.
-/

namespace SchemaStore.Text

/-- White space, including the information separators U+001C to U+001F. -/
def isBlank (c : Char) : Bool :=
  let code := c.toNat
  (0x9 ≤ code && code ≤ 0xD) || (0x1C ≤ code && code ≤ 0x20) || code == 0x85 ||
    code == 0xA0 || code == 0x1680 || (0x2000 ≤ code && code ≤ 0x200A) ||
    code == 0x2028 || code == 0x2029 || code == 0x202F || code == 0x205F || code == 0x3000

/-- White space of ASCII is white space. -/
theorem isBlank_of_isWhitespace {c : Char} (white : c.isWhitespace = true) :
    isBlank c = true := by
  simp only [Char.isWhitespace, Bool.or_eq_true, decide_eq_true_eq] at white
  rcases white with ((rfl | rfl) | rfl) | rfl <;> rfl

/-- White space without the information separators. -/
def isPlainBlank (c : Char) : Bool :=
  isBlank c && !(0x1C ≤ c.toNat && c.toNat ≤ 0x1F)

def isLineBreak (c : Char) : Bool :=
  let code := c.toNat
  (0xA ≤ code && code ≤ 0xD) || (0x1C ≤ code && code ≤ 0x1E) || code == 0x85 ||
    code == 0x2028 || code == 0x2029

/-- Remove the characters of a class at the end. -/
def dropEndWhile (p : Char → Bool) (cs : List Char) : List Char :=
  (cs.reverse.dropWhile p).reverse

/-- Remove the characters of a class at both ends. -/
def trimWhile (p : Char → Bool) (cs : List Char) : List Char :=
  dropEndWhile p (cs.dropWhile p)

/-- Remove white space at both ends. -/
def trim (cs : List Char) : List Char :=
  trimWhile isBlank cs

/-- The lines of a text without their line ends; a final line end adds no line. -/
def splitLines : List Char → List (List Char)
  | [] => []
  | '\r' :: '\n' :: rest => [] :: splitLines rest
  | c :: rest =>
      if isLineBreak c then
        [] :: splitLines rest
      else
        match splitLines rest with
        | [] => [[c]]
        | line :: lines => (c :: line) :: lines

/-- A run of white space as one line keeps it: with a line feed in it, it is a single blank. -/
def flattenRun (run : List Char) : List Char :=
  if run.contains '\n' then [' '] else run

/-- Bring a text on one line; `run` is the white space right before it. -/
def flattenFrom (run : List Char) : List Char → List Char
  | [] => flattenRun run
  | c :: rest =>
      if isBlank c then flattenFrom (run ++ [c]) rest
      else flattenRun run ++ c :: flattenFrom [] rest

/-- A text on one line: line feeds with the white space around them are single blanks, and
there is no white space at the ends. -/
def oneLine (s : String) : String :=
  String.ofList (trim (flattenFrom [] s.toList))

/-- Whether one text occurs inside another. -/
def occursIn (word : List Char) : List Char → Bool
  | [] => word.isEmpty
  | c :: rest => word.isPrefixOf (c :: rest) || occursIn word rest

/-- Join texts with a separator between them. -/
def joinWith (separator : String) (parts : List String) : String :=
  String.intercalate separator parts

end SchemaStore.Text
