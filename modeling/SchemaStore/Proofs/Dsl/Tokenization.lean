import Mathlib.Data.List.TakeWhile
import SchemaStore.Proofs.Dsl.Form

/-!
# How a line is divided into tokens

`TokenForm` says which token stands before a rest: an attribute with its argument if the argument is
closed, else its name alone, and a run without white space where no attribute starts.  The tokens of
a line are the ones of these forms with white space before, between and after them, so that every
other character of the line belongs to one of them, and white space only to an argument.
-/

namespace SchemaStore.Dsl

section Blank

/-- No run of word characters holds white space. -/
theorem wordRanges_apart : ∀ range ∈ Text.wordRanges.toList,
    (∀ code ∈ [0x85, 0xA0, 0x1680, 0x2028, 0x2029, 0x202F, 0x205F, 0x3000],
      code < range.1 ∨ range.2 < code) ∧ (0x200A < range.1 ∨ range.2 < 0x2000) := by
  decide +kernel

theorem isBlank_of_isNameChar {c : Char} (named : isNameChar c = true) :
    Text.isBlank c = false := by
  rcases Bool.or_eq_true_iff.mp named with word | dot
  · unfold Text.isWord at word
    split at word
    · exact isBlank_of_isOrdinary (isOrdinary_of_isIdentifierChar word)
    · next large =>
      obtain ⟨range, member, inside⟩ := Array.any_eq_true'.mp word
      obtain ⟨single, row⟩ := wordRanges_apart range (Array.mem_toList_iff.mpr member)
      simp only [Bool.and_eq_true, decide_eq_true_eq] at inside
      simp only [List.forall_mem_cons, List.not_mem_nil, false_implies, implies_true,
        and_true] at single
      simp [Text.isBlank]
      omega
  · rw [beq_iff_eq.mp dot]
    rfl

theorem isNameChar_of_isBlank {c : Char} (blank : Text.isBlank c = true) :
    isNameChar c = false := by
  apply Bool.eq_false_iff.mpr
  intro named
  rw [isBlank_of_isNameChar named] at blank
  cases blank

end Blank

section Nesting

/-- Parentheses are properly nested, and no pair stands inside of another one. -/
structure Nested (cs : List Char) : Prop where
  closed : cs.count '(' = cs.count ')'
  ordered : ∀ before, before <+: cs → before.count ')' ≤ before.count '('
  shallow : ∀ before, before <+: cs → before.count '(' ≤ before.count ')' + 1

theorem forall_prefix_cons {P : List Char → Prop} {c : Char} {cs : List Char} :
    (∀ before, before <+: c :: cs → P before) ↔
      P [] ∧ ∀ before, before <+: cs → P (c :: before) := by
  constructor
  · intro all
    exact ⟨all [] List.nil_prefix,
      fun before starts => all _ (List.cons_prefix_cons.mpr ⟨rfl, starts⟩)⟩
  · rintro ⟨none, some⟩ before starts
    rcases List.prefix_cons_iff.mp starts with rfl | ⟨rest, rfl, restStarts⟩
    · exact none
    · exact some rest restStarts

/-- The pair that is open before a text counts like one that it opens. -/
theorem isNested_iff_counts {inner : Bool} {cs : List Char} :
    isNested inner cs = true ↔ cs.count '(' + inner.toNat = cs.count ')' ∧
      ∀ before, before <+: cs →
        before.count ')' ≤ before.count '(' + inner.toNat ∧
          before.count '(' + inner.toNat ≤ before.count ')' + 1 := by
  induction cs generalizing inner with
  | nil => cases inner <;> simp [isNested]
  | cons c rest induction =>
      rw [isNested, forall_prefix_cons]
      by_cases opens : c = '('
      · subst c
        cases inner with
        | false => simp [induction]
        | true =>
            -- Two pairs are open after the parenthesis.
            simp only [if_true, Bool.not_true, Bool.false_and, Bool.false_eq_true, false_iff]
            rintro ⟨-, -, open_⟩
            have deep := (open_ [] List.nil_prefix).2
            simp at deep
      · by_cases closes : c = ')'
        · subst c
          cases inner with
          | false =>
              -- There is no pair that the parenthesis could close.
              simp only [if_neg opens, if_true, Bool.false_and, Bool.false_eq_true, false_iff]
              rintro ⟨-, -, open_⟩
              have early := (open_ [] List.nil_prefix).1
              simp at early
          | true => simp [induction]
        · have nothing : inner.toNat ≤ 1 := Bool.toNat_le inner
          simp [opens, closes, induction, nothing]

theorem isNested_iff_nested {cs : List Char} : isNested false cs = true ↔ Nested cs := by
  rw [isNested_iff_counts]
  constructor
  · rintro ⟨closed, open_⟩
    exact ⟨closed, fun before starts => (open_ before starts).1,
      fun before starts => (open_ before starts).2⟩
  · rintro ⟨closed, ordered, shallow⟩
    exact ⟨closed, fun before starts => ⟨ordered before starts, shallow before starts⟩⟩

end Nesting

section Token

/-- The form of a token that stands before a rest. -/
inductive TokenForm : List Char → List Char → Prop where
  /-- An attribute with its argument, which ends with the parenthesis that closes it. -/
  | applied {name argument : List Char} (rest : List Char) (given : name ≠ [])
      (named : ∀ c ∈ name, isNameChar c = true) (nested : Nested argument) :
      TokenForm ('@' :: (name ++ '(' :: (argument ++ [')']))) rest
  /-- The whole name of an attribute that has no closed argument. -/
  | plain {name rest : List Char} (given : name ≠ []) (named : ∀ c ∈ name, isNameChar c = true)
      (ends : ∀ c, rest.head? = some c → isNameChar c = false)
      (unclosed : ∀ argument after, Nested argument → rest ≠ '(' :: (argument ++ ')' :: after)) :
      TokenForm ('@' :: name) rest
  /-- A whole run without white space that does not start with the name of an attribute. -/
  | run {token rest : List Char} (given : token ≠ [])
      (visible : ∀ c ∈ token, Text.isBlank c = false)
      (unnamed : ∀ c after, token = '@' :: c :: after → isNameChar c = false)
      (ends : ∀ c, rest.head? = some c → Text.isBlank c = true) : TokenForm token rest

theorem closeParen_eq_some_iff {cs taken left : List Char} :
    closeParen false cs = some (taken, left) ↔
      ∃ argument, Nested argument ∧ taken = argument ++ [')'] ∧ cs = argument ++ ')' :: left := by
  constructor
  · intro closed
    obtain ⟨argument, rfl, nested⟩ := isNested_of_closeParen closed
    have whole := closeParen_append closed
    rw [List.append_assoc, List.singleton_append] at whole
    exact ⟨argument, isNested_iff_nested.mp nested, rfl, whole.symm⟩
  · rintro ⟨argument, nested, rfl, rfl⟩
    exact closeParen_nested (isNested_iff_nested.mpr nested) left

theorem takeArgument_nested {argument : List Char} (nested : Nested argument)
    (rest : List Char) :
    takeArgument ('(' :: (argument ++ ')' :: rest)) = ('(' :: (argument ++ [')']), rest) := by
  rw [takeArgument, closeParen_eq_some_iff.mpr ⟨argument, nested, rfl, rfl⟩]

theorem takeArgument_unclosed {cs : List Char}
    (unclosed : ∀ argument after, Nested argument → cs ≠ '(' :: (argument ++ ')' :: after)) :
    takeArgument cs = ([], cs) := by
  unfold takeArgument
  split
  · next rest =>
    cases closed : closeParen false rest with
    | none => rfl
    | some parts =>
        obtain ⟨argument, nested, -, rfl⟩ := closeParen_eq_some_iff.mp closed
        exact absurd rfl (unclosed argument parts.2 nested)
  · rfl

/-- Where no name follows an at-sign, it starts a run like any other character. -/
theorem takeToken_unnamed {cs : List Char}
    (unnamed : ∀ rest, cs = '@' :: rest → rest.takeWhile isNameChar = []) :
    takeToken cs = takeRun cs := by
  unfold takeToken
  split
  · next rest =>
    rw [unnamed rest rfl]
    rfl
  · rfl

theorem TokenForm.takeToken_eq {token rest : List Char} (form : TokenForm token rest) :
    takeToken (token ++ rest) = (token, rest) := by
  cases form with
  | @applied name argument _ given named nested =>
      have whole : '@' :: (name ++ '(' :: (argument ++ [')'])) ++ rest =
          '@' :: (name ++ '(' :: (argument ++ ')' :: rest)) := by simp
      have opens : ∀ c, ('(' :: (argument ++ ')' :: rest)).head? = some c →
          isNameChar c = false := by
        rintro c ⟨⟩
        rfl
      rw [whole, takeToken_name given named opens, takeArgument_nested nested]
      rfl
  | @plain name _ given named ends unclosed =>
      rw [List.cons_append, takeToken_name given named ends, takeArgument_unclosed unclosed,
        List.append_nil]
  | run given visible unnamed ends =>
      have noName : ∀ others, token ++ rest = '@' :: others →
          others.takeWhile isNameChar = [] := by
        intro others whole
        cases others with
        | nil => rfl
        | cons c after =>
            have notNamed : isNameChar c = false := by
              cases token with
              | nil => exact absurd rfl given
              | cons first tail =>
                  cases tail with
                  | nil =>
                      cases whole
                      exact isNameChar_of_isBlank (ends c rfl)
                  | cons second more =>
                      cases whole
                      exact unnamed c more rfl
            simp [notNamed]
      rw [takeToken_unnamed noName]
      exact Text.cut_append_stop visible ends

theorem tokenForm_takeRun {c : Char} {rest : List Char} (visible : Text.isBlank c = false)
    (unnamed : ∀ d after, c :: rest = '@' :: d :: after → isNameChar d = false) :
    TokenForm (takeRun (c :: rest)).1 (takeRun (c :: rest)).2 := by
  have first : (!Text.isBlank c) = true := by
    rw [visible, Bool.not_false]
  have token : (takeRun (c :: rest)).1 = c :: rest.takeWhile (!Text.isBlank ·) :=
    List.takeWhile_cons_of_pos (p := (!Text.isBlank ·)) first
  refine .run ?_ ?_ ?_ ?_
  · rw [token]
    exact List.cons_ne_nil _ _
  · intro d member
    have shown := List.all_eq_true.mp List.all_takeWhile d member
    simpa using shown
  · intro d after same
    rw [token] at same
    cases rest with
    | nil => cases same
    | cons e others =>
        by_cases shown : (!Text.isBlank e) = true
        · rw [List.takeWhile_cons_of_pos (p := (!Text.isBlank ·)) shown] at same
          cases same
          exact unnamed d others rfl
        · rw [List.takeWhile_cons_of_neg (p := (!Text.isBlank ·)) shown] at same
          cases same
  · intro d head
    have hidden := Text.head_dropWhile head
    simpa using hidden

/-- At any character but white space one of the forms applies. -/
theorem tokenForm_takeToken {c : Char} {rest : List Char} (visible : Text.isBlank c = false) :
    TokenForm (takeToken (c :: rest)).1 (takeToken (c :: rest)).2 := by
  by_cases marked : c = '@'
  · subst c
    have whole : rest.takeWhile isNameChar ++ rest.dropWhile isNameChar = rest :=
      List.takeWhile_append_dropWhile
    have ends : ∀ c, (rest.dropWhile isNameChar).head? = some c → isNameChar c = false :=
      fun c first => Text.head_dropWhile first
    have named : ∀ c ∈ rest.takeWhile isNameChar, isNameChar c = true :=
      List.all_eq_true.mp List.all_takeWhile
    by_cases given : rest.takeWhile isNameChar = []
    · have noName : ∀ others, '@' :: rest = '@' :: others → others.takeWhile isNameChar = [] := by
        rintro others ⟨⟩
        exact given
      rw [takeToken_unnamed noName]
      apply tokenForm_takeRun visible
      rintro d after ⟨⟩
      apply Bool.eq_false_iff.mpr
      intro nameChar
      rw [List.takeWhile_cons_of_pos nameChar] at given
      cases given
    · have taken := takeToken_name given named ends
      rw [whole] at taken
      rw [taken]
      by_cases closes : ∃ argument after, Nested argument ∧
          rest.dropWhile isNameChar = '(' :: (argument ++ ')' :: after)
      · obtain ⟨argument, after, nested, argued⟩ := closes
        rw [argued, takeArgument_nested nested]
        exact .applied after given named nested
      · have unclosed : ∀ argument after, Nested argument →
            rest.dropWhile isNameChar ≠ '(' :: (argument ++ ')' :: after) :=
          fun argument after nested argued => closes ⟨argument, after, nested, argued⟩
        rw [takeArgument_unclosed unclosed, List.append_nil]
        exact .plain given named ends unclosed
  · have noName : ∀ others, c :: rest = '@' :: others → others.takeWhile isNameChar = [] := by
      rintro others ⟨⟩
      exact absurd rfl marked
    rw [takeToken_unnamed noName]
    apply tokenForm_takeRun visible
    rintro d after ⟨⟩
    exact absurd rfl marked

end Token

section Line

/-- A line is divided into tokens, each in its form before what comes after it. -/
inductive Tokenizes : List Char → List (List Char) → Prop where
  | done {blanks : List Char} (blank : ∀ c ∈ blanks, Text.isBlank c = true) : Tokenizes blanks []
  | next {blanks token rest : List Char} {later : List (List Char)}
      (blank : ∀ c ∈ blanks, Text.isBlank c = true) (form : TokenForm token rest)
      (others : Tokenizes rest later) : Tokenizes (blanks ++ (token ++ rest)) (token :: later)

theorem TokenForm.exists_cons {token rest : List Char} (form : TokenForm token rest) :
    ∃ c others, token = c :: others ∧ Text.isBlank c = false := by
  cases form with
  | applied | plain => exact ⟨'@', _, rfl, rfl⟩
  | run given visible =>
      obtain ⟨c, others, rfl⟩ := List.exists_cons_of_ne_nil given
      exact ⟨c, others, rfl, visible c List.mem_cons_self⟩

theorem Tokenizes.tokens_eq {line : List Char} {found : List (List Char)}
    (divided : Tokenizes line found) : tokens line = found := by
  induction divided with
  | done blank =>
      apply tokens_of_all_blank
      exact List.dropWhile_eq_nil_iff.mpr blank
  | next blank form _ induction =>
      obtain ⟨c, others, rfl, visible⟩ := form.exists_cons
      have taken := form.takeToken_eq
      rw [List.cons_append] at taken ⊢
      rw [tokens_of_dropWhile (dropWhile_blanks_append blank visible _), taken, induction]

theorem tokenizes_tokens (line : List Char) : Tokenizes line (tokens line) := by
  induction size : line.length using Nat.strongRecOn generalizing line with
  | ind size induction =>
      subst size
      obtain ⟨blanks, blank, split⟩ := exists_blanks_append line
      cases shown : line.dropWhile Text.isBlank with
      | nil =>
          rw [shown, List.append_nil] at split
          rw [tokens_of_all_blank shown, split]
          exact .done blank
      | cons c rest =>
          have visible : Text.isBlank c = false :=
            Text.head_dropWhile (by rw [shown, List.head?_cons])
          have used : 0 < (takeToken (c :: rest)).1.length :=
            List.length_pos_iff.mpr (takeToken_ne_nil visible)
          rw [shown, ← takeToken_append (c :: rest)] at split
          have shorter : (takeToken (c :: rest)).2.length < line.length := by
            have lengths := congrArg List.length split
            rw [List.length_append, List.length_append] at lengths
            omega
          have divided := Tokenizes.next blank (tokenForm_takeToken visible)
            (induction _ shorter _ rfl)
          rwa [← split, ← tokens_of_dropWhile shown] at divided

/-- There is exactly one way to divide a line, and the tokens of the line are found by it. -/
theorem tokens_eq_iff {line : List Char} {found : List (List Char)} :
    tokens line = found ↔ Tokenizes line found := by
  constructor
  · rintro rfl
    exact tokenizes_tokens line
  · exact Tokenizes.tokens_eq

/-- A text is made of parts in order, with nothing but white space before, between and after
them. -/
def MadeOf (parts : List (List Char)) (text : List Char) : Prop :=
  ∃ gaps last, gaps.length = parts.length ∧ (∀ gap ∈ gaps, ∀ c ∈ gap, Text.isBlank c = true) ∧
    (∀ c ∈ last, Text.isBlank c = true) ∧
    text = (List.zipWith (· ++ ·) gaps parts).flatten ++ last

theorem Tokenizes.madeOf {line : List Char} {found : List (List Char)}
    (divided : Tokenizes line found) : MadeOf found line := by
  induction divided with
  | @done blanks blank => exact ⟨[], blanks, rfl, nofun, blank, rfl⟩
  | @next blanks token rest later blank _ _ induction =>
      obtain ⟨gaps, last, number, blankGaps, blankLast, rfl⟩ := induction
      refine ⟨blanks :: gaps, last, by rw [List.length_cons, List.length_cons, number],
        List.forall_mem_cons.mpr ⟨blank, blankGaps⟩, blankLast, ?_⟩
      simp

theorem Tokenizes.exists_form {line : List Char} {found : List (List Char)}
    (divided : Tokenizes line found) {token : List Char} (member : token ∈ found) :
    ∃ rest, TokenForm token rest := by
  induction divided with
  | done => cases member
  | next _ form _ induction =>
      rcases List.mem_cons.mp member with rfl | later
      · exact ⟨_, form⟩
      · exact induction later

theorem Tokenizes.length_le {line : List Char} {found : List (List Char)}
    (divided : Tokenizes line found) {token : List Char} (member : token ∈ found) :
    token.length ≤ line.length := by
  induction divided with
  | done => cases member
  | next _ _ _ induction =>
      simp only [List.length_append]
      rcases List.mem_cons.mp member with rfl | later
      · omega
      · have shorter := induction later
        omega

/-- White space in a token stands in the argument of an attribute. -/
theorem TokenForm.applied_of_blank {token rest : List Char} (form : TokenForm token rest)
    {c : Char} (member : c ∈ token) (blank : Text.isBlank c = true) :
    ∃ name argument, token = '@' :: (name ++ '(' :: (argument ++ [')'])) ∧ name ≠ [] ∧
      (∀ d ∈ name, isNameChar d = true ∧ Text.isBlank d = false) ∧ c ∈ argument ∧
      Nested argument := by
  have differs (mark : Char) (visible : Text.isBlank mark = false) : c ≠ mark := by
    rintro rfl
    rw [visible] at blank
    cases blank
  have notNamed {name : List Char} (named : ∀ d ∈ name, isNameChar d = true) : c ∉ name :=
    fun inName => differs c (isBlank_of_isNameChar (named c inName)) rfl
  cases form with
  | @applied name argument _ given named nested =>
      have inArgument : c ∈ argument := by
        simpa [differs '@' rfl, differs '(' rfl, differs ')' rfl, notNamed named] using member
      have visible : ∀ d ∈ name, isNameChar d = true ∧ Text.isBlank d = false := fun d inName =>
        ⟨named d inName, isBlank_of_isNameChar (named d inName)⟩
      exact ⟨name, argument, rfl, given, visible, inArgument, nested⟩
  | plain _ named _ _ =>
      rcases List.mem_cons.mp member with same | inName
      · exact absurd same (differs '@' rfl)
      · exact absurd inName (notNamed named)
  | run _ visible _ _ => exact absurd rfl (differs c (visible c member))

/-- Nothing of a line is lost when it is divided into tokens: it is made of them and of white space,
and white space that they hold stands in a properly nested argument.  So a line that is read as a
field is made of a name, a type, and attributes that each say something about the field, and the
field is what they say. -/
theorem tokens_cover (line : List Char) :
    (∀ found, tokens line = found ↔ Tokenizes line found) ∧ MadeOf (tokens line) line ∧
      (∀ token ∈ tokens line, token ≠ [] ∧
        ∀ c ∈ token, Text.isBlank c = true →
          ∃ name argument, token = '@' :: (name ++ '(' :: (argument ++ [')'])) ∧ name ≠ [] ∧
            (∀ d ∈ name, isNameChar d = true ∧ Text.isBlank d = false) ∧ c ∈ argument ∧
            Nested argument) ∧
      ∀ name field, readField line = .ok (name, field) →
        ∃ type isOptional attributes said,
          tokens line = name.toList :: typeToken { type, isOptional } :: attributes ∧
          MadeOf (name.toList :: typeToken { type, isOptional } :: attributes) line ∧
          List.Forall₂ (Attribute.Says type) attributes said ∧
          field = said.foldl Attribute.apply { type, isOptional } := by
  have divided := tokenizes_tokens line
  refine ⟨fun found => tokens_eq_iff, divided.madeOf, ?_, ?_⟩
  · intro token member
    obtain ⟨rest, form⟩ := divided.exists_form member
    refine ⟨?_, fun c inToken blank => form.applied_of_blank inToken blank⟩
    obtain ⟨c, others, rfl, -⟩ := form.exists_cons
    exact List.cons_ne_nil c others
  · intro name field read
    obtain ⟨type, isOptional, attributes, said, found, meant, same⟩ :=
      (readField_eq_ok_iff.mp read).spelled
    have made := divided.madeOf
    rw [found] at made
    exact ⟨type, isOptional, attributes, said, found, made, meant, same⟩

/-- An attribute may hold white space and parentheses, and the next one may follow right after
it. -/
theorem tokens_cover_bio :
    let line := "  bio String? @default( \x22a (b)\x22 )@unique ".toList
    let field : Field :=
      { type := .string, isOptional := true, isUnique := true, defaultText := some "a (b)" }
    readField line = .ok ("bio", field) ∧
      MadeOf ["bio".toList, "String?".toList, "@default( \x22a (b)\x22 )".toList,
        "@unique".toList] line ∧
      ∃ type isOptional attributes said,
        tokens line = "bio".toList :: typeToken { type, isOptional } :: attributes ∧
        List.Forall₂ (Attribute.Says type) attributes said ∧
        field = said.foldl Attribute.apply { type, isOptional } := by
  intro line field
  have read : readField line = .ok ("bio", field) := by decide +kernel
  have found : tokens line = ["bio".toList, "String?".toList,
      "@default( \x22a (b)\x22 )".toList, "@unique".toList] := by decide +kernel
  obtain ⟨-, made, -, accepted⟩ := tokens_cover line
  rw [found] at made
  obtain ⟨type, isOptional, attributes, said, split, -, meant, same⟩ := accepted "bio" field read
  exact ⟨read, made, type, isOptional, attributes, said, split, meant, same⟩

end Line

end SchemaStore.Dsl
