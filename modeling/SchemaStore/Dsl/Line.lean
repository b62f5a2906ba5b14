import SchemaStore.Text.Blank

/-!
# Significant lines

A schema text is read line by line.  A comment starts with two slashes outside
quotes and reaches to the end of its line.  What is left of a line after its
comment and the white space at its ends are removed is significant unless it is
empty; significant lines keep their numbers in the text.
-/

namespace SchemaStore.Dsl

abbrev doubleQuote : Char := '\x22'

abbrev singleQuote : Char := '\x27'

/-- Quotation marks, either of which a value may stand between. -/
def isQuote (c : Char) : Bool :=
  c == doubleQuote || c == singleQuote

/-- Remove the comment of a line; `quote` is the quotation mark that is open before it. -/
def stripCommentFrom : Option Char → List Char → List Char
  | _, [] => []
  | some quote, c :: rest =>
      c :: stripCommentFrom (if c = quote then none else some quote) rest
  | none, c :: rest =>
      if isQuote c then c :: stripCommentFrom (some c) rest
      else if c = '/' ∧ rest.head? = some '/' then []
      else c :: stripCommentFrom none rest

def stripComment (line : List Char) : List Char :=
  stripCommentFrom none line

/-- A line of a schema text with its number, counted from one. -/
structure Line where
  number : Nat
  text : List Char
deriving DecidableEq, Repr

/-- What is left of a line without its comment and the white space at its ends. -/
def significantText (line : List Char) : List Char :=
  Text.trim (stripComment line)

/-- The significant lines among those that start at the given number. -/
def significantFrom : Nat → List (List Char) → List Line
  | _, [] => []
  | number, line :: rest =>
      let text := significantText line
      if text.isEmpty then significantFrom (number + 1) rest
      else ⟨number, text⟩ :: significantFrom (number + 1) rest

def significantLines (text : String) : List Line :=
  significantFrom 1 (Text.splitLines text.toList)

end SchemaStore.Dsl
