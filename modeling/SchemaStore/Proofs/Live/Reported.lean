import SchemaStore.Live.State
import SchemaStore.Proofs.Live.Literal
import SchemaStore.Proofs.Text.Blank
import SchemaStore.Proofs.Text.Occurrence
import SchemaStore.Text.Case

/-!
# What a server reports about columns

A MySQL server reports the type and the default of a column as texts.  In the forms that it gives
them, the words that are looked for in the texts say what the column is: which type it has, whether
it is unsigned, and whether its default is the current time.
-/

namespace SchemaStore

/-- The types of a server, apart from enumerations and sets, which list their members. -/
def serverTypes : List String :=
  ["tinyint", "smallint", "mediumint", "int", "bigint", "decimal", "float", "double", "bit", "year",
    "date", "time", "datetime", "timestamp", "char", "varchar", "binary", "varbinary", "tinyblob",
    "blob", "mediumblob", "longblob", "tinytext", "text", "mediumtext", "longtext", "json",
    "geometry", "point", "linestring", "polygon", "geomcollection", "multipoint",
    "multilinestring", "multipolygon", "vector"]

/-- The types of text of any length. -/
def textTypes : List String :=
  ["tinytext", "text", "mediumtext", "longtext"]

/-- A type as a server reports it, such as "decimal(10,2) unsigned". -/
structure ServerType where
  word : String
  arguments : Option String := none
  unsigned : Bool := false
  zerofill : Bool := false
  known : word ∈ serverTypes
  numeric : ∀ c ∈ (arguments.getD "").toList, c ∈ "0123456789,".toList

namespace ServerType

def argumentText (type : ServerType) : List Char :=
  match type.arguments with
  | none => []
  | some inside => '(' :: inside.toList ++ [')']

def attributeText (given : Bool) (name : String) : List Char :=
  if given then ' ' :: name.toList else []

def text (type : ServerType) : String :=
  String.ofList (type.word.toList ++ type.argumentText ++
    attributeText type.unsigned "unsigned" ++ attributeText type.zerofill "zerofill")

variable {type : ServerType} {words : List Char}

theorem infix_attributeText_iff (oneWord : ' ' ∉ words) (before : List Char) (given : Bool) (name : String) :
    words <:+: before ++ attributeText given name ↔
      words <:+: before ∨ given = true ∧ words <:+: name.toList := by
  unfold attributeText
  cases given with
  | false => simp
  | true => simp [Text.infix_append_cons_iff oneWord]

theorem infix_argumentText_iff (opens : '(' ∉ words) {c : Char} (inWord : c ∈ words)
    (letter : c ∉ "0123456789,)".toList) :
    words <:+: type.word.toList ++ type.argumentText ↔ words <:+: type.word.toList := by
  unfold argumentText
  cases arguments : type.arguments with
  | none => simp
  | some inside =>
      have numeric := type.numeric
      rw [arguments] at numeric
      have missing : c ∉ inside.toList ++ [')'] := by
        intro member
        refine absurd ?_ letter
        rcases List.mem_append.mp member with inInside | last
        · exact List.mem_append_left [')'] (numeric c inInside)
        · exact List.mem_append_right "0123456789,".toList last
      dsimp only
      rw [List.cons_append, Text.infix_append_cons_iff opens]
      exact or_iff_left (Text.not_infix_of_not_mem inWord missing)

/-- Words without blanks and parentheses are found in the word of a type or in its attributes. -/
theorem mentions_text_iff {words : String} (oneWord : ' ' ∉ words.toList)
    (opens : '(' ∉ words.toList) {c : Char} (inWord : c ∈ words.toList)
    (letter : c ∉ "0123456789,)".toList) :
    LiveColumn.mentions type.text words = true ↔
      (LiveColumn.mentions type.word words = true ∨
        type.unsigned = true ∧ LiveColumn.mentions "unsigned" words = true) ∨
        type.zerofill = true ∧ LiveColumn.mentions "zerofill" words = true := by
  simp only [LiveColumn.mentions, Text.occursIn_iff, text, String.toList_ofList,
    infix_attributeText_iff oneWord, infix_argumentText_iff opens inWord letter]

theorem mentions_text (type : ServerType) :
    LiveColumn.mentions type.text "text" = true ↔ type.word ∈ textTypes := by
  have words : ∀ word ∈ serverTypes,
      LiveColumn.mentions word "text" = true ↔ word ∈ textTypes := by
    decide +kernel
  rw [mentions_text_iff (by decide) (by decide) (List.mem_cons_self) (by decide),
    words type.word type.known]
  have unsigned : LiveColumn.mentions "unsigned" "text" = false := by decide
  have zerofill : LiveColumn.mentions "zerofill" "text" = false := by decide
  simp [unsigned, zerofill]

theorem mentions_unsigned (type : ServerType) :
    LiveColumn.mentions type.text "unsigned" = true ↔ type.unsigned = true := by
  have words : ∀ word ∈ serverTypes, LiveColumn.mentions word "unsigned" = false := by
    decide +kernel
  rw [mentions_text_iff (by decide) (by decide) (List.mem_cons_self) (by decide),
    words type.word type.known]
  have unsigned : LiveColumn.mentions "unsigned" "unsigned" = true := by decide
  have zerofill : LiveColumn.mentions "zerofill" "unsigned" = false := by decide
  simp [unsigned, zerofill]

end ServerType

/-- The default of a column of times as a server reports it. -/
inductive TimeDefault where
  /-- The current time, with the number of digits of its fraction if that is given. -/
  | current (precision : Option (Fin 7))
  /-- A moment that is written in digits. -/
  | moment (written : List Char) (plain : ∀ c ∈ written, c ∈ "0123456789-:. ".toList)

namespace TimeDefault

def text : TimeDefault → String
  | .current none => "CURRENT_TIMESTAMP"
  | .current (some digits) => "CURRENT_TIMESTAMP(" ++ toString digits.val ++ ")"
  | .moment written _ => String.ofList written

theorem lowerFrom_eq_self {cs : List Char} (plain : ∀ c ∈ cs, c ∈ "0123456789-:. ".toList)
    (before : List Char) : Text.lowerFrom before cs = cs := by
  have caseless : ∀ c ∈ "0123456789-:. ".toList,
      (c != 'Σ' && c != 'İ' && Text.lowerChar c == c) = true :=
    List.all_eq_true.mp (by decide +kernel)
  simp only [Bool.and_eq_true, bne_iff_ne, beq_iff_eq] at caseless
  induction cs generalizing before with
  | nil => rfl
  | cons c rest induction =>
      obtain ⟨here, others⟩ := List.forall_mem_cons.mp plain
      obtain ⟨⟨noSigma, noDot⟩, same⟩ := caseless c here
      rw [Text.lowerFrom, if_neg noSigma, if_neg noDot, same, induction others]
      rfl

/-- A written moment mentions no words with a letter. -/
theorem not_mentions_moment {written : List Char}
    (plain : ∀ c ∈ written, c ∈ "0123456789-:. ".toList) {words : String} {c : Char}
    (inWord : c ∈ words.toList) (letter : c ∉ "0123456789-:. ".toList) :
    LiveColumn.mentions (Text.lower (String.ofList written)) words = false := by
  rw [Text.lower, String.toList_ofList, lowerFrom_eq_self plain, ← Bool.not_eq_true,
    LiveColumn.mentions, Text.occursIn_iff, String.toList_ofList]
  exact Text.not_infix_of_not_mem inWord fun member => letter (plain c member)

theorem smallDefault_eq {column : LiveColumn} {default : TimeDefault}
    (reported : column.default = some default.text) :
    column.smallDefault = Text.lower default.text := by
  rw [LiveColumn.smallDefault, reported]
  rfl

theorem isCurrent_of_hasNowDefault {column : LiveColumn} {default : TimeDefault}
    (reported : column.default = some default.text) (mentioned : column.hasNowDefault = true) :
    ∃ precision, default = .current precision := by
  cases default with
  | current precision => exact ⟨precision, rfl⟩
  | moment written plain =>
      have small := smallDefault_eq reported
      have noStamp : LiveColumn.mentions column.smallDefault "current_timestamp" = false := by
        rw [small]
        exact not_mentions_moment plain (show 'c' ∈ _ by decide) (by decide)
      have noCall : LiveColumn.mentions column.smallDefault "now()" = false := by
        rw [small]
        exact not_mentions_moment plain (show 'n' ∈ _ by decide) (by decide)
      rw [LiveColumn.hasNowDefault, noStamp, noCall] at mentioned
      cases mentioned

theorem not_mentions_onUpdate (default : TimeDefault) :
    LiveColumn.mentions (Text.lower default.text) "on update" = false := by
  cases default with
  | current precision =>
      cases precision with
      | none => decide +kernel
      | some digits =>
          revert digits
          decide +kernel
  | moment written plain =>
      exact not_mentions_moment plain (show 'o' ∈ _ by decide) (by decide)

/-- The default of a column of times does not refresh it, so that what else the server says about
the column does. -/
theorem extra_of_hasOnUpdate {column : LiveColumn} {default : TimeDefault}
    (reported : column.default = some default.text) (refreshed : column.hasOnUpdate = true) :
    LiveColumn.mentions (Text.lower column.extra) "on update" = true := by
  rwa [LiveColumn.hasOnUpdate, smallDefault_eq reported, not_mentions_onUpdate,
    Bool.or_false] at refreshed

end TimeDefault

/-- A reported default stands for a text: it is the text, or stands for it within blanks,
parentheses, or quotes. -/
inductive Denotes : List Char → List Char → Prop where
  | bare (text : List Char) : Denotes text text
  | blank {before written after text : List Char} (blankBefore : ∀ c ∈ before, Text.isBlank c)
      (blankAfter : ∀ c ∈ after, Text.isBlank c) (denotes : Denotes written text) :
      Denotes (before ++ written ++ after) text
  | parens {written text : List Char} (denotes : Denotes written text) :
      Denotes ('(' :: written ++ [')']) text
  /-- Between quotes, two single quotes in a row stand for one. -/
  | quoted {quote : Char} (isQuote : quote = '\x27' ∨ quote = '\x22') (body : List Char) :
      Denotes (quote :: body ++ [quote]) (undoubleQuotes body)

namespace Denotes

theorem of_trim {cs text : List Char} (denotes : Denotes (Text.trim cs) text) :
    Denotes cs text := by
  obtain ⟨before, after, split, blankBefore, blankAfter⟩ := Text.exists_trimWhile Text.isBlank cs
  rw [← split]
  exact .blank blankBefore blankAfter denotes

theorem of_stripParens {cs text : List Char} (denotes : Denotes (stripParens cs) text) :
    Denotes cs text := by
  induction cs using stripParens.induct with
  | case1 cs inner found induction =>
      rw [stripParens_of_some found] at denotes
      apply of_trim
      rw [innerText?_eq_some_iff.mp found]
      exact .parens (induction denotes)
  | case2 cs found =>
      rw [stripParens_of_none found] at denotes
      exact of_trim denotes

theorem readLiteral (cs : List Char) : Denotes cs (readLiteral cs) := by
  unfold SchemaStore.readLiteral
  split
  · next quote second rest =>
    split
    · next quotes =>
      obtain ⟨isQuote, last⟩ := quotes
      have whole : quote :: second :: rest = quote :: (second :: rest).dropLast ++ [quote] := by
        rw [List.cons_append, List.dropLast_append_getLast? _ last]
      rw [whole]
      exact .quoted isQuote _
    · exact .bare _
  · exact .bare _

/-- What is made of a reported default is what it stands for. -/
theorem normalizeDefault (reported : String) :
    Denotes reported.toList (normalizeDefault reported).toList := by
  rw [SchemaStore.normalizeDefault, String.toList_ofList]
  exact of_stripParens (readLiteral _)

end Denotes
end SchemaStore
