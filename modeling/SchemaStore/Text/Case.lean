import SchemaStore.Text.Class
import SchemaStore.Text.CaseTable

/-!
# Letter case

`lower` and `upper` are the full Unicode mappings: a letter may become several,
and a capital sigma at the end of a word takes its final form.  `foldSimple`
identifies the letters that a caseless search for an ASCII text identifies.
-/

namespace SchemaStore.Text

/-- The shift that a table of runs gives to a code point. -/
def shiftOf (runs : Array (Nat × Nat × Nat × Int)) (code : Nat) : Int :=
  match runs.find? fun (first, count, step, _) =>
      first ≤ code && code ≤ first + step * (count - 1) && (code - first) % step == 0 with
  | some (_, _, _, shift) => shift
  | none => 0

/-- The small letter of one character. -/
def lowerChar (c : Char) : Char :=
  if c.toNat < 0x80 then c.toLower else Char.ofNat (c.toNat + shiftOf lowerRuns c.toNat).toNat

/-- The capital letters of one character. -/
def upperChars (c : Char) : List Char :=
  if c.toNat < 0x80 then
    [c.toUpper]
  else
    match upperExpansions.find? (·.1 == c.toNat) with
    | some (_, codes) => codes.map Char.ofNat
    | none => [Char.ofNat (c.toNat + shiftOf upperRuns c.toNat).toNat]

/-- Letters that have a case. -/
def isCased (c : Char) : Bool :=
  if c.toNat < 0x80 then c.isAlpha else inRanges casedRanges c.toNat

/-- Marks that a neighbouring sigma looks through. -/
def isCaseIgnorable (c : Char) : Bool :=
  inRanges ignorableRanges c.toNat

/-- Whether the nearest character that is not looked through has a case. -/
def nextIsCased (cs : List Char) : Bool :=
  match cs.dropWhile isCaseIgnorable with
  | [] => false
  | c :: _ => isCased c

/-- Lower a text whose preceding characters, nearest first, are `before`. -/
def lowerFrom (before : List Char) : List Char → List Char
  | [] => []
  | c :: rest =>
      let image :=
        if c = 'Σ' then
          if nextIsCased before && !nextIsCased rest then ['ς'] else ['σ']
        else if c = 'İ' then
          ['i', '\u0307']
        else
          [lowerChar c]
      image ++ lowerFrom (c :: before) rest

/-- The text in small letters. -/
def lower (s : String) : String :=
  String.ofList (lowerFrom [] s.toList)

/-- The text in capitals. -/
def upper (s : String) : String :=
  String.ofList (s.toList.flatMap upperChars)

/-- Equality of texts up to letter case. -/
def sameFolded (s t : String) : Bool :=
  lower s == lower t

/-- The ASCII letter that a caseless search takes a character for. -/
def foldSimple (c : Char) : Char :=
  match c with
  | 'ſ' => 's'
  | 'ı' => 'i'
  | 'İ' => 'i'
  | 'K' => 'k'
  | _ => c.toLower

/-- Whether an ASCII text occurs in another one up to letter case. -/
def occursCaseless (word text : String) : Bool :=
  let pattern := word.toList.map foldSimple
  let rec search : List Char → Bool
    | [] => pattern.isEmpty
    | c :: rest => pattern.isPrefixOf (c :: rest) || search rest
  search (text.toList.map foldSimple)

end SchemaStore.Text
