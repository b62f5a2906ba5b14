import SchemaStore.Sql.Clause

/-!
# Tokens of written conditions

A `Scanner` goes through the text of a condition one character after the other
and gives its tokens.  A word without quotes is a name unless the dialect
reserves it, a quoted name may hold any character, and every mark takes the next
parameter.  What the writer of names, columns, and marks writes is scanned as
the tokens that it stands for.
-/

namespace SchemaStore

namespace Dialect

/-- A name that is written without quotes is not read as a reserved word. -/
def Legible (dialect : Dialect) (name : String) : Prop :=
  dialect.needsQuotes name = false →
    dialect.reservedWords.contains (Text.lower (dialect.readName name)) = false

instance (dialect : Dialect) (name : String) : Decidable (dialect.Legible name) :=
  inferInstanceAs (Decidable (_ → _))

theorem toList_eq_withoutLineFeed (name : String) :
    name.toList = withoutLineFeed name ∨ name.toList = withoutLineFeed name ++ ['\n'] := by
  unfold withoutLineFeed
  split
  · next fed =>
      obtain ⟨others, whole⟩ := List.getLast?_eq_some_iff.mp (beq_iff_eq.mp fed)
      right
      rw [whole, List.dropLast_concat]
  · exact .inl rfl

/-- A name that needs no quotes is a word that does not start with a digit. -/
theorem word_of_needsQuotes {dialect : Dialect} {name : String}
    (plain : dialect.needsQuotes name = false) :
    (∃ c rest, withoutLineFeed name = c :: rest ∧ c.isDigit = false) ∧
      ∀ c ∈ withoutLineFeed name, isNameChar c = true := by
  simp only [needsQuotes, Bool.or_eq_false_iff, Bool.not_eq_false'] at plain
  obtain ⟨⟨⟨-, starts⟩, inside⟩, -⟩ := plain
  refine ⟨?_, List.all_eq_true.mp inside⟩
  cases word : withoutLineFeed name with
  | nil => simp [word] at starts
  | cons c rest =>
      simp only [word, List.head?_cons, Option.any_some, Bool.and_eq_true,
        Bool.not_eq_true'] at starts
      exact ⟨c, rest, rfl, starts.1⟩

end Dialect

namespace Sql

/-- The parts that the text of a condition is made of. -/
inductive Token where
  /-- A reserved word, in small letters. -/
  | keyword (word : String)
  | name (text : String)
  | number (n : Nat)
  /-- A mark with the value that it stands for. -/
  | parameter (value : Value)
  | sign (comparison : Comparison)
  | opening
  | closing
  | comma
  | dot

namespace Token

/-- The token of a word without quotes. -/
def ofWord (dialect : Dialect) (cs : List Char) : Token :=
  let word := Text.lower (String.ofList cs)
  if cs.all Char.isDigit then .number (Text.asciiDigitsValue cs)
  else if dialect.reservedWords.contains word then .keyword word
  else .name (String.ofList cs)

end Token

/-- The token under way, with what has been read of it. -/
inductive ScanMode where
  | between
  | word (read : List Char)
  | quoted (read : List Char)
  /-- In a quoted name, after a character that has to be doubled there. -/
  | halved (special : Char) (read : List Char)
  /-- After the first character of a sign that may have two. -/
  | sign (first : Char)
  /-- After the first character of a mark that has two. -/
  | mark
deriving DecidableEq

/-- A reading of tokens that has got to some character of a text. -/
structure Scanner where
  mode : ScanMode
  /-- The parameters that no mark has taken. -/
  params : List Value
  tokens : List Token

namespace Scanner

def idle (params : List Value) (tokens : List Token) : Scanner :=
  ⟨.between, params, tokens⟩

def enter (scanner : Scanner) (mode : ScanMode) : Scanner :=
  { scanner with mode }

def emit (scanner : Scanner) (token : Token) : Scanner :=
  idle scanner.params (scanner.tokens ++ [token])

/-- End a mark with the next parameter. -/
def take (scanner : Scanner) : Option Scanner :=
  match scanner.params with
  | [] => none
  | value :: rest => some (idle rest (scanner.tokens ++ [.parameter value]))

def start (dialect : Dialect) (scanner : Scanner) (c : Char) : Option Scanner :=
  if c = ' ' ∨ c = '\n' then some (scanner.enter .between)
  else if Dialect.isNameChar c then some (scanner.enter (.word [c]))
  else if c = dialect.quoteMark then some (scanner.enter (.quoted []))
  else
    match c with
    | '(' => some (scanner.emit .opening)
    | ')' => some (scanner.emit .closing)
    | ',' => some (scanner.emit .comma)
    | '.' => some (scanner.emit .dot)
    | '=' => some (scanner.emit (.sign .equal))
    | '!' | '<' | '>' => some (scanner.enter (.sign c))
    | '?' => if dialect = .sqlite then scanner.take else none
    | '%' => if dialect = .mysql then some (scanner.enter .mark) else none
    | _ => none

/-- Whether a character of a quoted name has to be doubled. -/
def isSpecial (dialect : Dialect) (c : Char) : Bool :=
  c == dialect.quoteMark || (dialect == .mysql && c == '%')

def step (dialect : Dialect) (scanner : Scanner) (c : Char) : Option Scanner :=
  match scanner.mode with
  | .between => scanner.start dialect c
  | .word read =>
      if Dialect.isNameChar c then some (scanner.enter (.word (read ++ [c])))
      else (scanner.emit (.ofWord dialect read)).start dialect c
  | .quoted read =>
      if isSpecial dialect c then some (scanner.enter (.halved c read))
      else some (scanner.enter (.quoted (read ++ [c])))
  | .halved special read =>
      if c = special then some (scanner.enter (.quoted (read ++ [c])))
      else if special = dialect.quoteMark then
        (scanner.emit (.name (String.ofList read))).start dialect c
      else none
  | .sign '!' => if c = '=' then some (scanner.emit (.sign .notEqual)) else none
  | .sign '<' =>
      if c = '=' then some (scanner.emit (.sign .lessEqual))
      else (scanner.emit (.sign .less)).start dialect c
  | .sign _ =>
      if c = '=' then some (scanner.emit (.sign .greaterEqual))
      else (scanner.emit (.sign .greater)).start dialect c
  | .mark => if c = 's' then scanner.take else none

def scan (dialect : Dialect) (scanner : Scanner) (text : List Char) : Option Scanner :=
  text.foldlM (step dialect) scanner

/-- The tokens that have been read, if none is under way and every parameter is taken. -/
def finish (scanner : Scanner) : Option (List Token) :=
  match scanner.mode, scanner.params with
  | .between, [] => some scanner.tokens
  | _, _ => none

end Scanner

/-- The tokens of a written condition; a blank after it ends the last one. -/
def tokens (dialect : Dialect) (sql : Sql) : Option (List Token) :=
  ((Scanner.idle sql.params []).scan dialect (sql.text.toList ++ [' '])).bind Scanner.finish

/-! ### Texts and their tokens -/

section

variable {dialect : Dialect} {params : List Value} {before read : List Token}
  {rest : List Char}

open Scanner

theorem scan_cons (scanner : Scanner) (c : Char) (rest : List Char) :
    scan dialect scanner (c :: rest) =
      (step dialect scanner c).bind fun next => scan dialect next rest := rfl

/-- A text that starts with the end of a word, or of a quoted name, before it. -/
def Breaks (text : List Char) : Prop :=
  ∃ c rest, text = c :: rest ∧ c ∈ [' ', '\n', ')', '.']

theorem breaks_cons {c : Char} (ending : c ∈ [' ', '\n', ')', '.']) :
    Breaks (c :: rest) :=
  ⟨c, rest, rfl, ending⟩

def Unconstrained (_ : List Char) : Prop :=
  True

/-- A text that is scanned as the given tokens if what follows it is as demanded. -/
def Spells (dialect : Dialect) (follows : List Char → Prop) (sql : Sql) (read : List Token) :
    Prop :=
  ∀ params before rest, follows rest →
    scan dialect (idle (sql.params ++ params) before) (sql.text.toList ++ rest) =
      scan dialect (idle params (before ++ read)) rest

theorem Spells.tokens_eq {sql : Sql} (spells : Spells dialect Breaks sql read) :
    tokens dialect sql = some read := by
  have scanned := spells [] [] [' '] (breaks_cons (by simp))
  rw [List.append_nil] at scanned
  rw [tokens, scanned]
  rfl

theorem Spells.weaken {follows : List Char → Prop} {sql : Sql}
    (spells : Spells dialect Unconstrained sql read) : Spells dialect follows sql read :=
  fun params before rest _ => spells params before rest trivial

theorem Spells.append {demand follows : List Char → Prop} {first second : Sql}
    {others : List Token} (spells : Spells dialect demand first read)
    (otherSpells : Spells dialect follows second others)
    (meets : ∀ rest, follows rest → demand (second.text.toList ++ rest)) :
    Spells dialect follows (first ++ second) (read ++ others) := by
  intro params before rest allowed
  have texts : (first ++ second).text.toList = first.text.toList ++ second.text.toList :=
    String.toList_append
  have given : (first ++ second).params = first.params ++ second.params := rfl
  rw [texts, given, List.append_assoc, List.append_assoc, spells _ _ _ (meets rest allowed),
    otherSpells _ _ _ allowed, List.append_assoc]

/-- A text that demands nothing of what follows it can stand before any other. -/
theorem Spells.followedBy {follows : List Char → Prop} {first second : Sql} {others : List Token}
    (spells : Spells dialect Unconstrained first read)
    (otherSpells : Spells dialect follows second others) :
    Spells dialect follows (first ++ second) (read ++ others) :=
  spells.append otherSpells fun _ _ => trivial

/-! ### Words and names -/

theorem scan_word {word : List Char} (inside : ∀ c ∈ word, Dialect.isNameChar c = true)
    (started : List Char) :
    scan dialect ⟨.word started, params, before⟩ (word ++ rest) =
      scan dialect ⟨.word (started ++ word), params, before⟩ rest := by
  induction word generalizing started with
  | nil => simp
  | cons c others induction =>
      have first : Dialect.isNameChar c = true := inside c (by simp)
      rw [List.cons_append, scan_cons]
      simp only [step, first, if_true, Option.bind_some, enter]
      rw [induction fun other member => inside other (by simp [member])]
      simp

theorem scan_word_ends {word : List Char} (breaks : Breaks rest) :
    scan dialect ⟨.word word, params, before⟩ rest =
      scan dialect (idle params (before ++ [.ofWord dialect word])) rest := by
  obtain ⟨c, others, rfl, ending⟩ := breaks
  have outside : Dialect.isNameChar c = false := by
    simp only [List.mem_cons, List.not_mem_nil, or_false] at ending
    rcases ending with rfl | rfl | rfl | rfl <;> decide
  rw [scan_cons, scan_cons]
  simp only [step, outside, idle, emit, Bool.false_eq_true, if_false]

theorem scan_words {word : List Char} (nonempty : word ≠ [])
    (inside : ∀ c ∈ word, Dialect.isNameChar c = true) (breaks : Breaks rest) :
    scan dialect (idle params before) (word ++ rest) =
      scan dialect (idle params (before ++ [.ofWord dialect word])) rest := by
  cases word with
  | nil => exact absurd rfl nonempty
  | cons c others =>
      have first : Dialect.isNameChar c = true := inside c (by simp)
      have visible : ¬(c = ' ' ∨ c = '\n') := by
        rintro (rfl | rfl) <;> cases first
      have started : step dialect (idle params before) c = some ⟨.word [c], params, before⟩ := by
        simp only [step, idle, start, visible, first, if_false, if_true, enter]
      rw [List.cons_append, scan_cons, started, Option.bind_some,
        scan_word (fun other member => inside other (by simp [member])), scan_word_ends breaks]
      rfl

theorem scan_doubled (cs started : List Char) :
    scan dialect ⟨.quoted started, params, before⟩
        (Dialect.doubled (isSpecial dialect) cs ++ rest) =
      scan dialect ⟨.quoted (started ++ cs), params, before⟩ rest := by
  induction cs generalizing started with
  | nil => simp [Dialect.doubled]
  | cons c others induction =>
      have unfolded : Dialect.doubled (isSpecial dialect) (c :: others) =
          (if isSpecial dialect c then [c, c] else [c]) ++
            Dialect.doubled (isSpecial dialect) others := rfl
      have further := induction (started ++ [c])
      rw [List.append_assoc, List.singleton_append] at further
      rw [unfolded]
      by_cases special : isSpecial dialect c = true
      · simp only [special, if_true, List.cons_append, List.nil_append, scan_cons, step, enter,
          Option.bind_some]
        exact further
      · simp only [special, if_false, List.cons_append, List.nil_append, scan_cons, step, enter,
          Option.bind_some, Bool.false_eq_true]
        exact further

theorem scan_quote (name : String) (breaks : Breaks rest) :
    scan dialect (idle params before) ((dialect.quote name).toList ++ rest) =
      scan dialect (idle params (before ++ [Token.name name])) rest := by
  obtain ⟨c, others, rfl, ending⟩ := breaks
  have text : (dialect.quote name).toList ++ c :: others =
      dialect.quoteMark :: (Dialect.doubled (isSpecial dialect) name.toList ++
        dialect.quoteMark :: c :: others) := by
    simp only [Dialect.quote, String.toList_ofList, List.cons_append, List.append_assoc,
      List.nil_append]
    rfl
  have opened : step dialect (idle params before) dialect.quoteMark =
      some ⟨.quoted [], params, before⟩ := by
    cases dialect <;> rfl
  have marked : isSpecial dialect dialect.quoteMark = true := by simp [isSpecial]
  have single : c ≠ dialect.quoteMark := by
    rintro rfl
    cases dialect <;> simp [Dialect.quoteMark] at ending
  -- Only the next character tells the closing mark from one that is doubled.
  have closed : step dialect ⟨.quoted name.toList, params, before⟩ dialect.quoteMark =
      some ⟨.halved dialect.quoteMark name.toList, params, before⟩ := by
    simp only [step, marked, if_true, enter]
  have ended : step dialect ⟨.halved dialect.quoteMark name.toList, params, before⟩ c =
      step dialect (idle params (before ++ [Token.name name])) c := by
    simp only [step, single, if_false, if_true, emit, idle, String.ofList_toList]
  rw [text, scan_cons, opened, Option.bind_some, scan_doubled, List.nil_append, scan_cons,
    closed, Option.bind_some, scan_cons, ended, scan_cons]

/-- A name that the end of a word follows is read as the database reads it. -/
theorem scan_name {name : String} (legible : dialect.Legible name) (breaks : Breaks rest) :
    scan dialect (idle params before) ((dialect.name name).toList ++ rest) =
      scan dialect (idle params (before ++ [Token.name (dialect.readName name)])) rest := by
  by_cases quoted : dialect.needsQuotes name = true
  · rw [Dialect.name, if_pos quoted, Dialect.readName, if_pos quoted, scan_quote name breaks]
  · have plain : dialect.needsQuotes name = false := by simpa using quoted
    have free := legible plain
    rw [Dialect.name, if_neg quoted]
    rw [Dialect.readName, if_neg quoted] at free ⊢
    obtain ⟨starts, inside⟩ := Dialect.word_of_needsQuotes plain
    generalize word : Dialect.withoutLineFeed name = cs at *
    obtain ⟨c, others, rfl, digit⟩ := starts
    have token : Token.ofWord dialect (c :: others) = .name (String.ofList (c :: others)) := by
      simp only [Token.ofWord, List.all_cons, digit, Bool.false_and, free, if_false,
        Bool.false_eq_true]
    rcases Dialect.toList_eq_withoutLineFeed name with whole | fed
    · rw [whole, word, scan_words (by simp) inside breaks, token]
    · -- The line feed is written as it is, and skipped like any blank.
      have feed : Breaks ('\n' :: rest) := breaks_cons (by simp)
      rw [fed, word, List.append_assoc, List.singleton_append, scan_words (by simp) inside feed,
        token]
      rfl

/-! ### Columns, marks and parentheses -/

theorem raw_append (first second : String) : raw (first ++ second) = raw first ++ raw second :=
  rfl

/-- A text whose tokens are given one by one. -/
theorem spells_text {text : String}
    (scanned : ∀ params before rest, scan dialect (idle params before) (text.toList ++ rest) =
      scan dialect (idle params (read.foldl (fun tokens token => tokens ++ [token]) before)) rest) :
    Spells dialect Unconstrained (.raw text) read := by
  intro params before rest _
  have collected (others tokens : List Token) :
      others.foldl (fun tokens token => tokens ++ [token]) tokens = tokens ++ others := by
    induction others generalizing tokens with
    | nil => simp
    | cons token rest induction =>
        rw [List.foldl_cons, induction, List.append_assoc, List.singleton_append]
  rw [← collected]
  exact scanned params before rest

theorem spells_opening : Spells dialect Unconstrained (.raw "(") [.opening] :=
  spells_text fun _ _ _ => by cases dialect <;> rfl

theorem spells_closing : Spells dialect Unconstrained (.raw ")") [.closing] :=
  spells_text fun _ _ _ => by cases dialect <;> rfl

theorem Spells.parens {part : Sql} (spells : Spells dialect Breaks part read) :
    Spells dialect Unconstrained part.parens (Token.opening :: read ++ [Token.closing]) :=
  (spells_opening.followedBy spells).append spells_closing fun _ _ =>
    breaks_cons (c := ')') (by simp)

theorem spells_param (value : Value) :
    Spells dialect Unconstrained (dialect.param value) [.parameter value] := by
  intro params before rest _
  have taken : take (idle (value :: params) before) =
      some (idle params (before ++ [Token.parameter value])) := rfl
  have given : (dialect.param value).params ++ params = value :: params := rfl
  rw [given]
  cases dialect with
  | sqlite =>
      have text : (Dialect.sqlite.param value).text.toList = ['?'] := by
        change "?".toList = _
        rfl
      have mark : step .sqlite (idle (value :: params) before) '?' =
          take (idle (value :: params) before) := rfl
      rw [text, List.singleton_append, scan_cons, mark, taken, Option.bind_some]
  | mysql =>
      have text : (Dialect.mysql.param value).text.toList = ['%', 's'] := by
        change "%s".toList = _
        rfl
      have first : step .mysql (idle (value :: params) before) '%' =
          some ⟨.mark, value :: params, before⟩ := rfl
      have second : step .mysql ⟨.mark, value :: params, before⟩ 's' =
          take (idle (value :: params) before) := rfl
      rw [text, List.cons_append, List.singleton_append, scan_cons, first, Option.bind_some,
        scan_cons, second, taken, Option.bind_some]

theorem spells_params {values : List Value} (nonempty : values ≠ []) :
    Spells dialect Unconstrained (Sql.join ", " (values.map dialect.param))
      ((values.map .parameter).intersperse .comma) := by
  have comma : Spells dialect Unconstrained (.raw ", ") [.comma] :=
    spells_text fun _ _ _ => by cases dialect <;> rfl
  induction values with
  | nil => exact absurd rfl nonempty
  | cons value others induction =>
      cases others with
      | nil => exact spells_param value
      | cons next rest =>
          exact ((spells_param value).followedBy comma).followedBy (induction (by simp))

/-- The tokens of a column: the names of its source and its own, as the database reads them. -/
def columnTokens (dialect : Dialect) (column : ColumnRef) : List Token :=
  [.name (dialect.readName column.source), .dot, .name (dialect.readName column.name)]

theorem spells_column {column : ColumnRef} (source : dialect.Legible column.source)
    (name : dialect.Legible column.name) :
    Spells dialect Breaks (.raw (dialect.column column)) (columnTokens dialect column) := by
  intro params before rest breaks
  have dotted : Breaks ('.' :: ((dialect.name column.name).toList ++ rest)) :=
    breaks_cons (by simp)
  have text : (dialect.column column).toList ++ rest = (dialect.name column.source).toList ++
      '.' :: ((dialect.name column.name).toList ++ rest) := by
    simp [Dialect.column, String.toList_append]
  have dot (before : List Token) :
      step dialect (idle params before) '.' = some (idle params (before ++ [.dot])) := by
    cases dialect <;> rfl
  change scan dialect (idle params before) ((dialect.column column).toList ++ rest) = _
  rw [text, scan_name source dotted, scan_cons, dot, Option.bind_some, scan_name name breaks]
  simp [columnTokens]

end

end Sql
end SchemaStore
