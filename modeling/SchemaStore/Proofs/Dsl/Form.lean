import Mathlib.Data.List.Forall2
import SchemaStore.Dsl.Parser
import SchemaStore.Proofs.Dsl.Field
import SchemaStore.Proofs.Outcome

/-!
# Forms of lines

How a header, an assignment, an attribute and a field are written, said by the text that
they are made of.  A line is read as one of them exactly when it has its form.
-/

namespace SchemaStore.Dsl

section Identifier

theorem isIdentifierChar_of_isBlank {c : Char} (blank : Text.isBlank c = true) :
    isIdentifierChar c = false := by
  apply Bool.eq_false_iff.mpr
  intro inside
  have visible := isBlank_of_isOrdinary (isOrdinary_of_isIdentifierChar inside)
  rw [blank] at visible
  cases visible

/-- What an identifier ends before: nothing, or a character that cannot belong to it. -/
def EndsIdentifier (rest : List Char) : Prop :=
  ∀ c, rest.head? = some c → isIdentifierChar c = false

theorem EndsIdentifier.blanks_append {blanks rest : List Char}
    (blank : ∀ c ∈ blanks, Text.isBlank c = true) (ends : EndsIdentifier rest) :
    EndsIdentifier (blanks ++ rest) := by
  intro c first
  cases blanks with
  | nil => exact ends c first
  | cons other others =>
      cases first
      exact isIdentifierChar_of_isBlank (blank c List.mem_cons_self)

/-- The longest identifier at the start of a text is taken. -/
theorem takeIdentifier_eq_iff {cs word rest : List Char} (nonempty : word ≠ []) :
    takeIdentifier cs = (word, rest) ↔
      cs = word ++ rest ∧ isIdentifier word = true ∧ EndsIdentifier rest := by
  constructor
  · intro taken
    cases cs with
    | nil =>
        cases taken
        exact absurd rfl nonempty
    | cons c others =>
        rw [takeIdentifier] at taken
        split at taken
        · next starts =>
          cases taken
          refine ⟨?_, ?_, fun other first => Text.head_dropWhile first⟩
          · rw [List.cons_append, List.takeWhile_append_dropWhile]
          · rw [isIdentifier, starts, List.all_takeWhile, Bool.and_self]
        · cases taken
          exact absurd rfl nonempty
  · rintro ⟨rfl, named, ends⟩
    exact takeIdentifier_append named ends

theorem isIdentifier_ne_nil {word : List Char} (named : isIdentifier word = true) : word ≠ [] := by
  rintro rfl
  cases named

theorem takeIdentifier_of_not_start {c : Char} (rest : List Char)
    (starts : isIdentifierStart c = false) : takeIdentifier (c :: rest) = ([], c :: rest) := by
  rw [takeIdentifier, starts, if_neg Bool.false_ne_true]

end Identifier

/-- A text is white space followed by a rest that does not start with any. -/
theorem exists_blanks_append (cs : List Char) :
    ∃ blanks, (∀ c ∈ blanks, Text.isBlank c = true) ∧ cs = blanks ++ cs.dropWhile Text.isBlank :=
  ⟨cs.takeWhile Text.isBlank, List.all_eq_true.mp List.all_takeWhile,
    List.takeWhile_append_dropWhile.symm⟩

theorem dropWhile_blanks_append {blanks : List Char} (blank : ∀ c ∈ blanks, Text.isBlank c = true)
    {c : Char} (visible : Text.isBlank c = false) (rest : List Char) :
    (blanks ++ c :: rest).dropWhile Text.isBlank = c :: rest := by
  rw [List.dropWhile_append_of_pos blank, List.dropWhile_cons_of_neg (by simp [visible])]

/-- The form of a line that opens a block: its kind, perhaps a name, and a brace. -/
inductive HeaderForm : List Char → Header → Prop where
  | unnamed {kind blanks : List Char} (kindNamed : isIdentifier kind = true)
      (blank : ∀ c ∈ blanks, Text.isBlank c = true) :
      HeaderForm (kind ++ (blanks ++ ['\x7b'])) ⟨String.ofList kind, none⟩
  | named {kind between name blanks : List Char} (kindNamed : isIdentifier kind = true)
      (apart : between ≠ []) (blankBetween : ∀ c ∈ between, Text.isBlank c = true)
      (named : isIdentifier name = true) (blank : ∀ c ∈ blanks, Text.isBlank c = true) :
      HeaderForm (kind ++ (between ++ (name ++ (blanks ++ ['\x7b']))))
        ⟨String.ofList kind, some (String.ofList name)⟩

theorem headerForm_of_readHeader? {line : List Char} {header : Header}
    (read : readHeader? line = some header) : HeaderForm line header := by
  rcases kindTaken : takeIdentifier line with ⟨kind, afterKind⟩
  rcases nameTaken : takeIdentifier (afterKind.dropWhile Text.isBlank) with ⟨name, afterName⟩
  obtain ⟨between, blankBetween, split⟩ := exists_blanks_append afterKind
  simp only [readHeader?, kindTaken, nameTaken] at read
  split at read
  · cases read
  · next kindGiven =>
    obtain ⟨rfl, kindNamed, kindEnds⟩ :=
      (takeIdentifier_eq_iff (mt List.isEmpty_iff.mpr kindGiven)).mp kindTaken
    split at read
    · split at read
      · next brace =>
        cases read
        rw [split, brace]
        exact .unnamed kindNamed blankBetween
      · cases read
    · next nameGiven =>
      split at read
      · next brace =>
        cases read
        obtain ⟨rest, named, -⟩ :=
          (takeIdentifier_eq_iff (mt List.isEmpty_iff.mpr nameGiven)).mp nameTaken
        obtain ⟨blanks, blank, same⟩ := exists_blanks_append afterName
        have apart : between ≠ [] := by
          rintro rfl
          obtain ⟨c, others, rfl, starts, -⟩ := isIdentifier_cons named
          have continues := isIdentifierChar_of_isIdentifierStart starts
          rw [kindEnds c (by rw [split, rest]; rfl)] at continues
          cases continues
        rw [split, rest, same, brace]
        exact .named kindNamed apart blankBetween named blank
      · cases read

theorem readHeader?_eq_some_iff {line : List Char} {header : Header} :
    readHeader? line = some header ↔ HeaderForm line header := by
  refine ⟨headerForm_of_readHeader?, ?_⟩
  have braceEnds : EndsIdentifier ['\x7b'] := by
    rintro c ⟨⟩
    rfl
  rintro (⟨kindNamed, blank⟩ | ⟨kindNamed, apart, blankBetween, named, blank⟩)
  · rw [readHeader?, takeIdentifier_append kindNamed (braceEnds.blanks_append blank)]
    dsimp only
    rw [dropWhile_blanks_append blank rfl, takeIdentifier_of_not_start [] rfl]
    simp [isIdentifier_ne_nil kindNamed]
  · rename_i kind between name blanks
    have nameEnds : EndsIdentifier (blanks ++ ['\x7b']) := braceEnds.blanks_append blank
    obtain ⟨c, others, rfl, starts, -⟩ := isIdentifier_cons named
    have visible : Text.isBlank c = false :=
      isBlank_of_isOrdinary (isOrdinary_of_isIdentifierChar
        (isIdentifierChar_of_isIdentifierStart starts))
    have kindEnds : EndsIdentifier (between ++ (c :: others ++ (blanks ++ ['\x7b']))) := by
      intro other first
      cases between with
      | nil => exact absurd rfl apart
      | cons space spaces =>
          cases first
          exact isIdentifierChar_of_isBlank (blankBetween other List.mem_cons_self)
    rw [readHeader?, takeIdentifier_append kindNamed kindEnds]
    dsimp only
    rw [List.cons_append, dropWhile_blanks_append blankBetween visible, ← List.cons_append,
      takeIdentifier_append named nameEnds]
    dsimp only
    rw [dropWhile_blanks_append blank rfl]
    simp [isIdentifier_ne_nil kindNamed]

/-- The form of a line that gives a key its value. -/
structure AssignmentForm (line : List Char) (key : String) (value : List Char) : Prop where
  named : isIdentifier key.toList = true
  spelled : ∃ blanks tail, (∀ c ∈ blanks, Text.isBlank c = true) ∧
    line = key.toList ++ (blanks ++ '=' :: tail) ∧ value = Text.trim tail
  given : value ≠ []

theorem readAssignment?_eq_some_iff {line : List Char} {key : String} {value : List Char} :
    readAssignment? line = some (key, value) ↔ AssignmentForm line key value := by
  constructor
  · intro read
    rcases taken : takeIdentifier line with ⟨word, rest⟩
    obtain ⟨blanks, blank, split⟩ := exists_blanks_append rest
    simp only [readAssignment?, taken] at read
    split at read
    · next tail equals =>
      split at read
      · cases read
      · next given =>
        cases read
        rw [not_or] at given
        obtain ⟨rfl, named, -⟩ :=
          (takeIdentifier_eq_iff (mt List.isEmpty_iff.mpr given.1)).mp taken
        refine ⟨by rwa [String.toList_ofList], ⟨blanks, tail, blank, ?_, rfl⟩,
          mt List.isEmpty_iff.mpr given.2⟩
        rw [String.toList_ofList, split, equals]
    · cases read
  · rintro ⟨named, ⟨blanks, tail, blank, rfl, rfl⟩, given⟩
    have ends : EndsIdentifier (blanks ++ '=' :: tail) := by
      apply EndsIdentifier.blanks_append blank
      rintro c ⟨⟩
      rfl
    rw [readAssignment?, takeIdentifier_append named ends]
    dsimp only
    rw [dropWhile_blanks_append blank rfl]
    simp [isIdentifier_ne_nil named, given]

section Attribute

/-- The form of an attribute: its name after an at-sign, and perhaps an argument in
parentheses. -/
inductive AttributeForm : List Char → List Char → Option (List Char) → Prop where
  | plain {name : List Char} (given : name ≠ []) (named : ∀ c ∈ name, isNameChar c = true) :
      AttributeForm ('@' :: name) name none
  | applied {name : List Char} (argument : List Char) (given : name ≠ [])
      (named : ∀ c ∈ name, isNameChar c = true) :
      AttributeForm ('@' :: (name ++ ('(' :: (argument ++ [')'])))) name (some argument)

theorem splitAttribute?_eq_some_iff {token name : List Char} {argument : Option (List Char)} :
    splitAttribute? token = some (name, argument) ↔ AttributeForm token name argument := by
  constructor
  · intro split
    unfold splitAttribute? at split
    split at split
    · next rest =>
      have whole : rest.takeWhile isNameChar ++ rest.dropWhile isNameChar = rest :=
        List.takeWhile_append_dropWhile
      have named : ∀ c ∈ rest.takeWhile isNameChar, isNameChar c = true :=
        List.all_eq_true.mp List.all_takeWhile
      dsimp only at split
      split at split
      · next ends =>
        split at split
        · cases split
        · next given =>
          cases split
          rw [ends, List.append_nil] at whole
          have form := AttributeForm.plain (mt List.isEmpty_iff.mpr given) named
          rwa [whole] at form ⊢
      · next tail opens =>
        split at split
        · cases split
        · next given =>
          cases split
          rw [not_or] at given
          have closes : tail.dropLast ++ [')'] = tail :=
            List.dropLast_append_getLast? _ (Decidable.of_not_not given.2)
          have form :=
            AttributeForm.applied tail.dropLast (mt List.isEmpty_iff.mpr given.1) named
          rwa [closes, ← opens, whole] at form
      · cases split
    · cases split
  · rintro (⟨given, named⟩ | ⟨argument, given, named⟩)
    · have stops : ∀ c, ([] : List Char).head? = some c → isNameChar c = false := by simp
      have taken := Text.takeWhile_append_stop named stops
      have dropped := Text.dropWhile_append_stop named stops
      rw [List.append_nil] at taken dropped
      rw [splitAttribute?, taken, dropped]
      simp [given]
    · have stops : ∀ c, ('(' :: (argument ++ [')'])).head? = some c → isNameChar c = false := by
        rintro c ⟨⟩
        rfl
      rw [splitAttribute?, Text.takeWhile_append_stop named stops,
        Text.dropWhile_append_stop named stops]
      simp [given]

/-- The form of a reference to a field of an entity. -/
structure ReferenceForm (text : List Char) (reference : Reference) : Prop where
  entity : isIdentifier reference.entity.toList = true
  field : isIdentifier reference.field.toList = true
  spelled : text = reference.entity.toList ++ '.' :: reference.field.toList

theorem readReference?_eq_some_iff {text : List Char} {reference : Reference} :
    readReference? text = some reference ↔ ReferenceForm text reference := by
  constructor
  · intro read
    rcases taken : takeIdentifier text with ⟨entity, rest⟩
    simp only [readReference?, taken] at read
    split at read
    · split at read
      · cases read
      · next valid =>
        cases read
        simp only [Bool.or_eq_true, Bool.not_eq_true', not_or, Bool.not_eq_false] at valid
        obtain ⟨spelled, named, -⟩ :=
          (takeIdentifier_eq_iff (mt List.isEmpty_iff.mpr valid.1)).mp taken
        exact ⟨by rwa [String.toList_ofList], by simpa using valid.2,
          by rwa [String.toList_ofList, String.toList_ofList]⟩
    · cases read
  · rintro ⟨entityNamed, fieldNamed, rfl⟩
    rw [readReference?_printed entityNamed fieldNamed, String.ofList_toList, String.ofList_toList]

/-- What an attribute says by its name and by the text of its argument. -/
def Attribute.Means (type : FieldType) (name : String) (body : List Char) : Attribute → Prop
  | .optional => False
  | .id => name = "id"
  | .unique => name = "unique"
  | .text => name = "text" ∨ name = "db.Text"
  | .updatedAt => name = "updatedAt"
  | .default value => name = "default" ∧ unquote body = value.toList ∧
      value ≠ "autoincrement()" ∧ (type = .int → isIntegerText value.toList = true)
  | .autoIncrement => name = "default" ∧ unquote body = "autoincrement()".toList
  | .references reference => name = "references" ∧ ReferenceForm body reference
  | .onDelete policy => name = "onDelete" ∧ readPolicy? body = some policy

/-- A token is an attribute of a field: a question mark, or an attribute by name. -/
inductive Attribute.Says (type : FieldType) : List Char → Attribute → Prop where
  | optional : Says type ['?'] .optional
  | byName {token name : List Char} {argument : Option (List Char)} {said : Attribute}
      (form : AttributeForm token name argument)
      (means : said.Means type (String.ofList name) (Text.trim (argument.getD []))) :
      Says type token said

theorem AttributeForm.ne_optional {token name : List Char} {argument : Option (List Char)}
    (form : AttributeForm token name argument) : token ≠ ['?'] := by
  cases form <;> simp

theorem readAttribute_eq_ok_iff {type : FieldType} {token : List Char} {said : Attribute} :
    readAttribute type token = .ok said ↔ said.Says type token := by
  constructor
  · intro read
    unfold readAttribute at read
    split at read
    · next mark =>
      cases read
      rw [mark]
      exact .optional
    · split at read
      · cases read
      · next name argument split =>
        refine .byName (splitAttribute?_eq_some_iff.mp split) ?_
        dsimp only at read
        split at read
        · next named =>
          cases read
          exact named
        · next named =>
          cases read
          exact named
        · next named =>
          cases read
          exact .inl named
        · next named =>
          cases read
          exact .inr named
        · next named =>
          cases read
          exact named
        · next named =>
          split at read
          · next counts =>
            cases read
            exact ⟨named, counts⟩
          · next other =>
            split at read
            · cases read
            · next allowed =>
              cases read
              refine ⟨named, (String.toList_ofList).symm, ?_, ?_⟩
              · rintro same
                exact other (String.ofList_injective (same.trans String.ofList_toList.symm))
              · rintro rfl
                simpa using allowed
        · next named =>
          split at read
          · next reference found =>
            cases read
            exact ⟨named, readReference?_eq_some_iff.mp found⟩
          · cases read
        · next named =>
          split at read
          · next policy found =>
            cases read
            exact ⟨named, found⟩
          · cases read
        · cases read
  · rintro (_ | ⟨form, means⟩)
    · rfl
    · rw [readAttribute, if_neg form.ne_optional, splitAttribute?_eq_some_iff.mpr form]
      dsimp only
      cases said with
      | optional => cases means
      | id | unique | updatedAt =>
          simp only [Attribute.Means] at means
          simp only [means]
      | text => rcases means with named | named <;> simp only [named]
      | «default» value =>
          obtain ⟨named, body, apart, integer⟩ := means
          have other : value.toList ≠ "autoincrement()".toList := fun same =>
            apart (String.toList_inj.mp same)
          have allowed : ¬(type = .int ∧ (!isIntegerText value.toList) = true) := by
            rintro ⟨int, refused⟩
            rw [integer int] at refused
            cases refused
          simp only [named, body, if_neg other, if_neg allowed, String.ofList_toList]
      | autoIncrement =>
          obtain ⟨named, body⟩ := means
          simp only [named, body, if_true]
      | references reference =>
          obtain ⟨named, reference⟩ := means
          simp only [named, readReference?_eq_some_iff.mpr reference]
      | onDelete policy =>
          obtain ⟨named, found⟩ := means
          simp only [named, found]

/-- Every token says one attribute, and nothing else changes the field. -/
theorem readAttributes_eq_ok_iff {field declared : Field} {attributes : List (List Char)} :
    readAttributes field attributes = .ok declared ↔
      ∃ said, List.Forall₂ (Attribute.Says field.type) attributes said ∧
        declared = said.foldl Attribute.apply field := by
  induction attributes generalizing field with
  | nil =>
      constructor
      · rintro ⟨⟩
        exact ⟨[], .nil, rfl⟩
      · rintro ⟨_, ⟨⟩, rfl⟩
        rfl
  | cons token rest induction =>
      rw [readAttributes, Except.bind_eq_ok]
      constructor
      · rintro ⟨said, tokenRead, others⟩
        obtain ⟨later, meant, rfl⟩ := induction.mp others
        rw [Attribute.apply_type] at meant
        exact ⟨said :: later, .cons (readAttribute_eq_ok_iff.mp tokenRead) meant, rfl⟩
      · rintro ⟨_, ⟨⟩, rfl⟩
        next said later meantFirst meant =>
        refine ⟨said, readAttribute_eq_ok_iff.mpr meantFirst, induction.mpr ⟨later, ?_, rfl⟩⟩
        rwa [Attribute.apply_type]

end Attribute

section Field

/-- The form of a line that declares a field: its name, its type, and attributes of which each
says one thing about it. -/
structure FieldForm (line : List Char) (name : String) (field : Field) : Prop where
  named : isIdentifier name.toList = true
  spelled : ∃ type isOptional attributes said,
    tokens line = name.toList :: typeToken { type, isOptional } :: attributes ∧
    List.Forall₂ (Attribute.Says type) attributes said ∧
    field = said.foldl Attribute.apply { type, isOptional }
  valid : field.Valid

theorem typeToken_of_splitType {token typeName : List Char} {isOptional : Bool} {type : FieldType}
    (split : splitType token = (typeName, isOptional))
    (known : FieldType.ofLabel? (String.ofList typeName) = some type) :
    token = typeToken { type, isOptional } := by
  have label : typeName = type.label.toList := by
    have same := List.find?_some known
    rw [beq_iff_eq] at same
    rw [same, String.toList_ofList]
  rw [splitType] at split
  split at split
  · next last =>
    cases split
    exact (List.dropLast_append_getLast? _ last).symm.trans (by rw [label]; rfl)
  · cases split
    rw [label]
    exact (List.append_nil _).symm

theorem readField_eq_ok_iff {line : List Char} {name : String} {field : Field} :
    readField line = .ok (name, field) ↔ FieldForm line name field := by
  constructor
  · intro read
    unfold readField at read
    split at read
    · next word token attributes split =>
      split at read
      · next named =>
        rcases typeSplit : splitType token with ⟨typeName, isOptional⟩
        rw [typeSplit] at read
        dsimp only at read
        split at read
        · cases read
        · next type known =>
          obtain ⟨declared, attributesRead, checked⟩ := Except.bind_eq_ok.mp read
          obtain ⟨said, meant, rfl⟩ := readAttributes_eq_ok_iff.mp attributesRead
          split at checked
          · next sound =>
            cases checked
            refine ⟨by rwa [String.toList_ofList], ⟨type, isOptional, attributes, said, ?_, meant,
              rfl⟩, Field.defect?_eq_none_iff.mp sound⟩
            rw [split, typeToken_of_splitType typeSplit known, String.toList_ofList]
          · cases checked
      · cases read
    · cases read
  · rintro ⟨named, ⟨type, isOptional, attributes, said, split, meant, rfl⟩, valid⟩
    have attributesRead : readAttributes { type, isOptional } attributes = _ :=
      readAttributes_eq_ok_iff.mpr ⟨said, meant, rfl⟩
    rw [readField, split]
    simp only [named, if_true, splitType_typeToken, String.ofList_toList, ofLabel?_label,
      attributesRead, Except.ok_bind, Field.defect?_eq_none_iff.mpr valid]

end Field
end SchemaStore.Dsl
