import SchemaStore.Proofs.Dsl.Printer
import SchemaStore.Proofs.Text.Blank

/-!
# Tokens of printed lines

A token is solid if it is taken whole from the start of a text in which it is
followed by a blank or by nothing.  The tokens of solid texts with blanks before
them are these texts; words, attributes, and attributes with properly nested
arguments are solid.
-/

namespace SchemaStore.Dsl

theorem isIdentifier_cons {word : List Char} (identifier : isIdentifier word = true) :
    ∃ c rest, word = c :: rest ∧ isIdentifierStart c = true ∧
      ∀ other ∈ rest, isIdentifierChar other = true := by
  cases word with
  | nil => cases identifier
  | cons c rest =>
      simp only [isIdentifier, Bool.and_eq_true, List.all_eq_true] at identifier
      exact ⟨c, rest, rfl, identifier.1, identifier.2⟩

theorem takeIdentifier_append {word rest : List Char} (identifier : isIdentifier word = true)
    (stops : ∀ c, rest.head? = some c → isIdentifierChar c = false) :
    takeIdentifier (word ++ rest) = (word, rest) := by
  obtain ⟨c, others, rfl, starts, inside⟩ := isIdentifier_cons identifier
  rw [List.cons_append, takeIdentifier, if_pos starts, Text.takeWhile_append_stop inside stops,
    Text.dropWhile_append_stop inside stops]

/-- Characters that mean nothing but themselves outside of quotations. -/
def isOrdinary (c : Char) : Bool :=
  !Text.isBlank c && !Text.isLineBreak c && !isQuote c && c != '/' && c != '\x7b' && c != '\x7d'

theorem code_of_isIdentifierChar {c : Char} (inside : isIdentifierChar c = true) :
    (48 ≤ c.toNat ∧ c.toNat ≤ 57) ∨ (65 ≤ c.toNat ∧ c.toNat ≤ 90) ∨ c.toNat = 95 ∨
      (97 ≤ c.toNat ∧ c.toNat ≤ 122) := by
  have letter : (c.isUpper || c.isLower || c.isDigit || c == '_') = true := inside
  simp only [Bool.or_eq_true, beq_iff_eq] at letter
  rcases letter with ((upper | lower) | digit) | rfl
  · right; left
    exact of_decide_eq_true upper
  · right; right; right
    obtain ⟨least, most⟩ := Bool.and_eq_true_iff.mp lower
    exact ⟨of_decide_eq_true least, of_decide_eq_true most⟩
  · left
    obtain ⟨least, most⟩ := Bool.and_eq_true_iff.mp digit
    exact ⟨of_decide_eq_true least, of_decide_eq_true most⟩
  · decide

theorem isOrdinary_of_isIdentifierChar {c : Char} (inside : isIdentifierChar c = true) :
    isOrdinary c = true := by
  have code := code_of_isIdentifierChar inside
  have differs (other : Char) (codes : c.toNat ≠ other.toNat) : c ≠ other :=
    fun same => codes (congrArg Char.toNat same)
  have notDouble : c ≠ doubleQuote := differs _ (by simp [doubleQuote]; omega)
  have notSingle : c ≠ singleQuote := differs _ (by simp [singleQuote]; omega)
  have notSlash : c ≠ '/' := differs _ (by simp; omega)
  have notOpening : c ≠ '\x7b' := differs _ (by simp; omega)
  have notClosing : c ≠ '\x7d' := differs _ (by simp; omega)
  have visible : Text.isBlank c = false := by
    simp [Text.isBlank]
    omega
  have unbroken : Text.isLineBreak c = false := by
    simp [Text.isLineBreak]
    omega
  simp [isOrdinary, isQuote, notDouble, notSingle, notSlash, notOpening, notClosing, visible,
    unbroken]

theorem isNameChar_of_isIdentifierChar {c : Char} (inside : isIdentifierChar c = true) :
    isNameChar c = true := by
  have code := code_of_isIdentifierChar inside
  have ascii : c.toNat < 0x80 := by omega
  have word : Text.isWord c = true := by
    rw [Text.isWord, if_pos ascii]
    exact inside
  rw [isNameChar, word]
  rfl

theorem isIdentifierChar_of_isIdentifierStart {c : Char} (starts : isIdentifierStart c = true) :
    isIdentifierChar c = true := by
  simp only [isIdentifierStart, isIdentifierChar, Char.isAlphanum, Bool.or_eq_true] at starts ⊢
  rcases starts with letter | underscore
  · exact .inl (.inl letter)
  · exact .inr underscore

theorem isIdentifierChar_of_isIdentifier {word : List Char} (identifier : isIdentifier word = true)
    {c : Char} (member : c ∈ word) : isIdentifierChar c = true := by
  obtain ⟨first, rest, rfl, starts, inside⟩ := isIdentifier_cons identifier
  rcases List.mem_cons.mp member with rfl | later
  · exact isIdentifierChar_of_isIdentifierStart starts
  · exact inside c later

theorem isBlank_of_isOrdinary {c : Char} (ordinary : isOrdinary c = true) :
    Text.isBlank c = false := by
  simp only [isOrdinary, Bool.and_eq_true, Bool.not_eq_true'] at ordinary
  exact ordinary.1.1.1.1.1

/-- A token that is taken whole where a blank or nothing follows it. -/
structure Solid (token : List Char) : Prop where
  starts : ∃ c rest, token = c :: rest ∧ Text.isBlank c = false
  taken : ∀ rest, (∀ c, rest.head? = some c → c = ' ') →
    takeToken (token ++ rest) = (token, rest)

theorem tokens_of_dropWhile {cs : List Char} {c : Char} {rest : List Char}
    (visible : cs.dropWhile Text.isBlank = c :: rest) :
    tokens cs = (takeToken (c :: rest)).1 :: tokens (takeToken (c :: rest)).2 := by
  rw [tokens]
  split
  · next blank =>
    rw [visible] at blank
    cases blank
  · next other others found =>
    rw [visible] at found
    cases found
    rfl

theorem tokens_of_all_blank {cs : List Char} (blank : cs.dropWhile Text.isBlank = []) :
    tokens cs = [] := by
  rw [tokens]
  split
  · rfl
  · next found =>
    rw [blank] at found
    cases found

theorem Solid.tokens_append {token rest : List Char} (solid : Solid token)
    (stops : ∀ c, rest.head? = some c → c = ' ') :
    tokens (token ++ rest) = token :: tokens rest := by
  obtain ⟨c, others, rfl, visible⟩ := solid.starts
  have kept : (c :: others ++ rest).dropWhile Text.isBlank = c :: (others ++ rest) := by
    simp [visible]
  rw [tokens_of_dropWhile kept, ← List.cons_append, solid.taken rest stops]

theorem tokens_cons_blank (cs : List Char) : tokens (' ' :: cs) = tokens cs := by
  have dropped : (' ' :: cs).dropWhile Text.isBlank = cs.dropWhile Text.isBlank := rfl
  cases visible : cs.dropWhile Text.isBlank with
  | nil => rw [tokens_of_all_blank visible, tokens_of_all_blank (dropped.trans visible)]
  | cons c rest => rw [tokens_of_dropWhile visible, tokens_of_dropWhile (dropped.trans visible)]

theorem spaced_head (texts : List (List Char)) {c : Char}
    (first : (spaced texts).head? = some c) : c = ' ' := by
  cases texts with
  | nil => cases first
  | cons text rest =>
      cases first
      rfl

/-- The tokens of solid texts with blanks before them are these texts. -/
theorem tokens_spaced {texts : List (List Char)} (solid : ∀ text ∈ texts, Solid text) :
    tokens (spaced texts) = texts := by
  induction texts with
  | nil => exact tokens_of_all_blank rfl
  | cons text rest induction =>
      have unfolded : spaced (text :: rest) = ' ' :: (text ++ spaced rest) := rfl
      rw [unfolded, tokens_cons_blank,
        (solid text List.mem_cons_self).tokens_append fun c first => spaced_head rest first,
        induction fun other later => solid other (List.mem_cons_of_mem _ later)]

theorem solid_word {c : Char} {rest : List Char}
    (visible : ∀ other ∈ c :: rest, Text.isBlank other = false) (plain : c ≠ '@') :
    Solid (c :: rest) := by
  refine ⟨⟨c, rest, rfl, visible c List.mem_cons_self⟩, ?_⟩
  intro tail stops
  have ends : ∀ other, tail.head? = some other → Text.isBlank other = true := by
    intro other first
    rw [stops other first]
    rfl
  unfold takeToken
  split
  · next same =>
    exact absurd (List.cons.inj same).1 plain
  · exact Text.cut_append_stop visible ends

section Attribute

variable {name : List Char}

theorem isNameChar_of_isIdentifier (named : isIdentifier name = true) :
    ∀ c ∈ name, isNameChar c = true := by
  intro c member
  exact isNameChar_of_isIdentifierChar (isIdentifierChar_of_isIdentifier named member)

theorem takeToken_name (given : name ≠ []) (named : ∀ c ∈ name, isNameChar c = true)
    {rest : List Char} (ends : ∀ c, rest.head? = some c → isNameChar c = false) :
    takeToken ('@' :: (name ++ rest)) =
      ('@' :: name ++ (takeArgument rest).1, (takeArgument rest).2) := by
  have nonempty : ¬name.isEmpty = true := by simpa using given
  rw [takeToken, Text.takeWhile_append_stop named ends, Text.dropWhile_append_stop named ends,
    if_neg nonempty]

theorem takeToken_attribute (named : isIdentifier name = true) {rest : List Char}
    (stops : ∀ c, rest.head? = some c → isNameChar c = false) :
    takeToken ('@' :: (name ++ rest)) =
      ('@' :: name ++ (takeArgument rest).1, (takeArgument rest).2) := by
  obtain ⟨c, others, same, -, -⟩ := isIdentifier_cons named
  have given : name ≠ [] := same ▸ List.cons_ne_nil c others
  exact takeToken_name given (isNameChar_of_isIdentifier named) stops

theorem solid_attribute (named : isIdentifier name = true) : Solid ('@' :: name) := by
  refine ⟨⟨'@', name, rfl, rfl⟩, ?_⟩
  intro tail stops
  have noArgument : takeArgument tail = ([], tail) := by
    unfold takeArgument
    split
    · next rest =>
      have first := stops '(' rfl
      cases first
    · rfl
  have notNamed : ∀ c, tail.head? = some c → isNameChar c = false := by
    intro c first
    rw [stops c first]
    rfl
  rw [List.cons_append, takeToken_attribute named notNamed, noArgument, List.append_nil]

/-- The parenthesis after properly nested ones closes the open one. -/
theorem closeParen_nested {inner : Bool} {argument : List Char}
    (nested : isNested inner argument = true) (rest : List Char) :
    closeParen inner (argument ++ ')' :: rest) = some (argument ++ [')'], rest) := by
  induction argument generalizing inner with
  | nil =>
      have closed : inner = false := by simpa [isNested] using nested
      simp [closeParen, closed]
  | cons c others induction =>
      rw [isNested] at nested
      rw [List.cons_append, closeParen]
      by_cases opens : c = '('
      · simp only [opens, if_true, Bool.and_eq_true, Bool.not_eq_true'] at nested
        simp [opens, nested.1, induction nested.2]
      · by_cases closes : c = ')'
        · rw [if_neg opens, if_pos closes, Bool.and_eq_true] at nested
          simp [closes, nested.1, induction nested.2]
        · rw [if_neg opens, if_neg closes] at nested
          simp [opens, closes, induction nested]

/-- What a closing parenthesis closes is properly nested. -/
theorem isNested_of_closeParen {inner : Bool} {cs taken left : List Char}
    (closed : closeParen inner cs = some (taken, left)) :
    ∃ within, taken = within ++ [')'] ∧ isNested inner within = true := by
  induction cs generalizing inner taken with
  | nil => cases closed
  | cons c rest induction =>
      rw [closeParen] at closed
      split at closed
      · next closes =>
        cases closed
        refine ⟨[], by rw [closes.1]; rfl, ?_⟩
        simpa [isNested] using closes.2
      · split at closed
        · cases closed
        · next notLast notThird =>
          obtain ⟨⟨innerTaken, innerLeft⟩, innerClosed, same⟩ := Option.map_eq_some_iff.mp closed
          cases same
          obtain ⟨within, rfl, nested⟩ := induction innerClosed
          refine ⟨c :: within, rfl, ?_⟩
          rw [isNested]
          by_cases opens : c = '('
          · have outer : inner = false := by simpa [opens] using notThird
            simpa [opens, outer] using nested
          · by_cases closes : c = ')'
            · have open_ : inner = true := by simpa [closes] using notLast
              simpa [closes, open_] using nested
            · simpa [opens, closes] using nested

theorem solid_attributeToken {name : String} (named : isIdentifier name.toList = true)
    {argument : List Char} (nested : isNested false argument = true) :
    Solid (attributeToken name argument) := by
  refine ⟨⟨'@', name.toList ++ '(' :: argument ++ [')'], by simp [attributeToken], rfl⟩, ?_⟩
  intro tail _
  have token : attributeToken name argument ++ tail =
      '@' :: (name.toList ++ '(' :: (argument ++ ')' :: tail)) := by
    simp [attributeToken]
  have taken : takeArgument ('(' :: (argument ++ ')' :: tail)) =
      ('(' :: (argument ++ [')']), tail) := by
    simp only [takeArgument, closeParen_nested nested]
  have notNamed : ∀ c, ('(' :: (argument ++ ')' :: tail)).head? = some c →
      isNameChar c = false := by
    intro c first
    cases first
    rfl
  rw [token, takeToken_attribute named notNamed, taken]
  simp [attributeToken]

end Attribute

end SchemaStore.Dsl
