import SchemaStore.Dsl.Parser
import SchemaStore.Proofs.Outcome

/-!
# Numbers of lines

The number of a line is shown when something is wrong with it and is used for
nothing else.  So significant lines that differ in their numbers only are read
alike, and an error names the number under which its line stands.
-/

namespace SchemaStore.Dsl

/-- A line under another number. -/
def Line.renumber (move : Nat → Nat) (line : Line) : Line :=
  { line with number := move line.number }

/-- A block whose lines stand under other numbers. -/
def Block.renumber (move : Nat → Nat) (block : Block) : Block :=
  { block with start := move block.start, body := block.body.map (Line.renumber move) }

def Scan.renumber (move : Nat → Nat) (scan : Scan) : Scan :=
  { blocks := scan.blocks.map (Block.renumber move)
    defect := scan.defect.map fun (number, defect) => (move number, defect) }

/-- An error at the new number of its line. -/
def ParseError.renumber (move : Nat → Nat) : ParseError → ParseError
  | .atLine line defect => .atLine (move line) defect
  | .missingDatasource => .missingDatasource
  | .invalidSchema defect => .invalidSchema defect
  | .unusableUrl defect => .unusableUrl defect

variable (move : Nat → Nat)

theorem scanFrom_renumber (block : Option Block) (lines : List Line) :
    scanFrom (block.map (Block.renumber move)) (lines.map (Line.renumber move)) =
      (scanFrom block lines).renumber move := by
  induction lines generalizing block with
  | nil => cases block <;> rfl
  | cons line rest induction =>
      have text : (line.renumber move).text = line.text := rfl
      cases block with
      | none =>
          rw [List.map_cons, Option.map_none, scanFrom, scanFrom, text]
          cases readHeader? line.text with
          | none => rfl
          | some header => exact induction (some ⟨header, line.number, []⟩)
      | some block =>
          rw [List.map_cons, Option.map_some, scanFrom, scanFrom, text]
          have closed := induction none
          have extended := induction (some { block with body := block.body ++ [line] })
          have added : (Block.renumber move { block with body := block.body ++ [line] }) =
              { block.renumber move with
                body := (block.renumber move).body ++ [line.renumber move] } := by
            simp [Block.renumber]
          rw [Option.map_none] at closed
          rw [Option.map_some, added] at extended
          split
          · simp [closed, Scan.renumber]
          · split
            · rfl
            · split
              · rfl
              · exact extended

theorem atLine_renumber {α : Type} (number : Nat) (result : Except Defect α) :
    atLine (move number) result = (atLine number result).mapError (ParseError.renumber move) := by
  cases result <;> rfl

theorem readFields_renumber (model : String) (known : Record Field) (lines : List Line) :
    readFields model known (lines.map (Line.renumber move)) =
      (readFields model known lines).mapError (ParseError.renumber move) := by
  induction lines generalizing known with
  | nil => rfl
  | cons line rest induction =>
      have placed : atLine (line.renumber move).number (readField (line.renumber move).text) =
          (atLine line.number (readField line.text)).mapError (ParseError.renumber move) :=
        atLine_renumber move line.number (readField line.text)
      rw [List.map_cons, readFields, readFields, placed, Except.mapError_bind]
      congr 1
      funext ⟨name, field⟩
      dsimp only
      split
      · rfl
      · exact induction _

theorem readModel_renumber (name : String) (block : Block) :
    readModel name (block.renumber move) =
      (readModel name block).mapError (ParseError.renumber move) := by
  have fields : readFields name [] (block.renumber move).body =
      (readFields name [] block.body).mapError (ParseError.renumber move) :=
    readFields_renumber move name [] block.body
  rw [readModel, readModel, fields, Except.mapError_bind]
  congr 1
  funext fields
  dsimp only
  split <;> rfl

theorem readValues_renumber (env values : Record String) (ignored : List String)
    (lines : List Line) :
    readValues env values ignored (lines.map (Line.renumber move)) =
      (readValues env values ignored lines).mapError (ParseError.renumber move) := by
  induction lines generalizing values ignored with
  | nil => rfl
  | cons line rest induction =>
      have text : (line.renumber move).text = line.text := rfl
      rw [List.map_cons, readValues, readValues, text]
      split
      · rfl
      · next key value _ =>
        split
        · have placed : atLine (line.renumber move).number (readValue env value) =
              (atLine line.number (readValue env value)).mapError (ParseError.renumber move) :=
            atLine_renumber move line.number (readValue env value)
          rw [placed, Except.mapError_bind]
          congr 1
          funext value
          exact induction _ _
        · exact induction _ _

theorem requireValue_renumber (values : Record String) (block : Block) (key : String) :
    requireValue values (block.renumber move) key =
      (requireValue values block key).mapError (ParseError.renumber move) := by
  unfold requireValue
  split <;> rfl

theorem readDatasource_renumber (env : Record String) (block : Block) :
    readDatasource env (block.renumber move) =
      (readDatasource env block).mapError (ParseError.renumber move) := by
  have values : readValues env [] [] (block.renumber move).body =
      (readValues env [] [] block.body).mapError (ParseError.renumber move) :=
    readValues_renumber move env [] [] block.body
  rw [readDatasource, readDatasource, values, Except.mapError_bind]
  congr 1
  funext ⟨values, ignored⟩
  dsimp only
  rw [requireValue_renumber, Except.mapError_bind]
  congr 1
  funext provider
  rw [requireValue_renumber, Except.mapError_bind]
  congr 1
  funext url
  split
  · rfl
  · split <;> rfl

theorem readBlock_renumber (env : Record String) (draft : Draft) (block : Block) :
    readBlock env draft (block.renumber move) =
      (readBlock env draft block).mapError (ParseError.renumber move) := by
  have header : (block.renumber move).header = block.header := rfl
  unfold readBlock
  rw [header]
  split
  · split
    · rfl
    · rw [readDatasource_renumber, Except.mapError_bind]
      rfl
  · split
    · rfl
    · rw [readModel_renumber, Except.mapError_bind]
      rfl
  · rfl

theorem readBlocks_renumber (env : Record String) (draft : Draft) (blocks : List Block) :
    (blocks.map (Block.renumber move)).foldlM (readBlock env) draft =
      (blocks.foldlM (readBlock env) draft).mapError (ParseError.renumber move) := by
  induction blocks generalizing draft with
  | nil => rfl
  | cons block rest induction =>
      rw [List.map_cons, List.foldlM_cons, List.foldlM_cons, readBlock_renumber,
        Except.mapError_bind]
      congr 1
      funext next
      exact induction next

/-- Texts whose significant lines differ in their numbers only are read alike. -/
theorem parse_renumber (env : Record String) {text other : String}
    (lines : significantLines other = (significantLines text).map (Line.renumber move)) :
    parse env other = (parse env text).mapError (ParseError.renumber move) := by
  have scanned : scan (significantLines other) = (scan (significantLines text)).renumber move := by
    rw [lines]
    exact scanFrom_renumber move none (significantLines text)
  rw [parse, parse, scanned]
  simp only [Scan.renumber]
  rw [readBlocks_renumber, Except.mapError_bind]
  congr 1
  funext draft
  cases (scan (significantLines text)).defect with
  | some found => rfl
  | none =>
      dsimp only [Option.map_none]
      split
      · rfl
      · split <;> rfl

end SchemaStore.Dsl
