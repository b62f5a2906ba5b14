import SchemaStore.Live.Reflection
import SchemaStore.Proofs.Ddl.Distinct
import SchemaStore.Proofs.Dsl.Valid
import SchemaStore.Proofs.Text.Blank

/-!
# Defaults that a server reports as they are

A MySQL server reports the default of a column without quotes.  Blanks, parentheses and quotes are
taken away from it nevertheless, so that it is compared as it is only if there are none.
-/

namespace SchemaStore

/-- A text that does not look like one that was written with blanks, parentheses or quotes
around. -/
structure Bare (cs : List Char) : Prop where
  starts : ∀ c, cs.head? = some c → Text.isBlank c = false
  ends : ∀ c, cs.getLast? = some c → Text.isBlank c = false
  parens : ∀ inner, cs ≠ '(' :: inner ++ [')']
  quotes : ∀ quote inner, quote = '\x27' ∨ quote = '\x22' → cs ≠ quote :: inner ++ [quote]

namespace Text

/-- Only a text that neither starts nor ends with white space is its own trimmed form. -/
theorem ends_of_trim_eq_self {cs : List Char} (same : trim cs = cs) :
    (∀ c, cs.head? = some c → isBlank c = false) ∧
      ∀ c, cs.getLast? = some c → isBlank c = false := by
  have start : cs.dropWhile isBlank = cs := by
    apply (List.dropWhile_sublist isBlank).antisymm
    calc
      cs.Sublist (trim cs) := by rw [same]
      (trim cs).Sublist (cs.dropWhile isBlank) := dropEndWhile_sublist isBlank _
  constructor
  · intro c first
    rw [← start] at first
    exact head_dropWhile first
  · intro c last
    rw [← same, trim, trimWhile, dropEndWhile, List.getLast?_reverse] at last
    exact head_dropWhile last

end Text

theorem undoubleQuotes_length_le (cs : List Char) : (undoubleQuotes cs).length ≤ cs.length := by
  induction cs using undoubleQuotes.induct with
  | case1 rest induction =>
      rw [undoubleQuotes, List.length_cons, List.length_cons, List.length_cons]
      omega
  | case2 c rest single induction =>
      rw [undoubleQuotes, List.length_cons, List.length_cons]
      · omega
      · exact single
  | case3 => exact Nat.le_refl _

theorem readLiteral_length_le (cs : List Char) : (readLiteral cs).length ≤ cs.length := by
  unfold readLiteral
  split
  · next quote second rest =>
    split
    · calc
        (undoubleQuotes (second :: rest).dropLast).length ≤ (second :: rest).dropLast.length :=
          undoubleQuotes_length_le _
        _ ≤ (second :: rest).length := List.dropLast_sublist _ |>.length_le
        _ ≤ (quote :: second :: rest).length := Nat.le_succ _
    · exact Nat.le_refl _
  · exact Nat.le_refl _

theorem stripParens_length_le (cs : List Char) :
    (stripParens cs).length ≤ (Text.trim cs).length := by
  induction cs using stripParens.induct with
  | case1 cs inner found induction =>
      rw [stripParens_of_some found]
      calc
        (stripParens inner).length ≤ (Text.trim inner).length := induction
        _ ≤ inner.length := trim_length_le inner
        _ ≤ (Text.trim cs).length := Nat.le_of_lt (innerText?_length found)
  | case2 cs found => exact Nat.le_of_eq (congrArg List.length (stripParens_of_none found))

/-- Nothing is taken away from a text exactly if it is bare. -/
theorem readLiteral_stripParens_eq_self_iff {cs : List Char} :
    readLiteral (stripParens cs) = cs ↔ Bare cs := by
  constructor
  · intro same
    -- What is taken away would be missing from the length.
    have kept : cs.length ≤ (stripParens cs).length := by
      calc
        cs.length = (readLiteral (stripParens cs)).length := by rw [same]
        _ ≤ (stripParens cs).length := readLiteral_length_le _
    have trimmed : Text.trim cs = cs :=
      (Text.trim_sublist cs).eq_of_length_le (Nat.le_trans kept (stripParens_length_le cs))
    have noParens : innerText? cs = none := by
      cases found : innerText? cs with
      | none => rfl
      | some inner =>
          rw [← trimmed] at found
          have shorter := innerText?_length found
          rw [stripParens_of_some found] at kept
          have bound := Nat.le_trans (stripParens_length_le inner) (trim_length_le inner)
          rw [trimmed] at shorter
          omega
    have stripped : stripParens cs = cs := by
      rw [stripParens_of_none (by rwa [trimmed]), trimmed]
    obtain ⟨starts, ends⟩ := Text.ends_of_trim_eq_self trimmed
    refine ⟨starts, ends, ?_, ?_⟩
    · intro inner within
      cases noParens.symm.trans (innerText?_eq_some_iff.mpr within)
    · intro quote inner isQuote within
      rw [stripped, within, readLiteral_quoted isQuote] at same
      have shorter := undoubleQuotes_length_le inner
      rw [same] at shorter
      simp only [List.length_append, List.length_cons, List.length_nil] at shorter
      omega
  · intro bare
    have trimmed : Text.trim cs = cs := Text.trim_eq_self bare.starts bare.ends
    have noParens : innerText? (Text.trim cs) = none := by
      rw [trimmed, Option.eq_none_iff_forall_ne_some]
      exact fun inner found => bare.parens inner (innerText?_eq_some_iff.mp found)
    rw [stripParens_of_none noParens, trimmed]
    unfold readLiteral
    split
    · next quote second rest =>
      apply if_neg
      rintro ⟨isQuote, last⟩
      apply bare.quotes quote (second :: rest).dropLast isQuote
      rw [List.cons_append, List.dropLast_append_getLast? _ last]
    · rfl

theorem normalizeDefault_eq_self_iff {text : String} :
    normalizeDefault text = text ↔ Bare text.toList := by
  rw [← readLiteral_stripParens_eq_self_iff, ← String.toList_inj, normalizeDefault,
    String.toList_ofList]

/-- The default of a column is the one in its row of the catalogue. -/
theorem catalogueColumn_default {row : Value} {column : LiveColumn} {reported : String}
    (read : Reflection.catalogueColumn row = .ok column)
    (shown : row.items[2]? = some (.text reported)) : column.default = some reported := by
  unfold Reflection.catalogueColumn at read
  split at read
  · next name type default extra nullable more items =>
    rw [items] at shown
    obtain rfl : default = .text reported := Option.some.inj shown
    obtain ⟨columnName, -, rest⟩ := Except.bind_eq_ok.mp read
    obtain ⟨kept, keptRead, rest⟩ := Except.bind_eq_ok.mp rest
    cases keptRead
    dsimp only at rest
    split at rest
    · obtain ⟨more, -, same⟩ := Except.bind_eq_ok.mp rest
      cases same
      rfl
    · cases rest
      rfl
  · cases read

namespace Field

variable {field : Field} {schema : Schema} {table name : String} {live : TableState}
  {traits : BackendTraits}

/-- The default of a plain string is set if the reported one stands for another text. -/
theorem setDefault_mem_columnChanges_iff (string : field.type = .string)
    (short : field.isText = false) {text : String} (kept : field.defaultText = some text)
    (column : LiveColumn) :
    .setDefault table name ∈ field.columnChanges table name column traits ↔
      column.normalizedDefault ≠ some text := by
  simp [columnChanges, string, short, kept]

theorem setDefault_mem_findings_iff (schema : Schema) (table : String)
    (alters : traits.alterColumn = true) (string : field.type = .string)
    (short : field.isText = false) {text : String} (kept : field.defaultText = some text)
    {column : LiveColumn}
    (found : live.columns.get? name = some column) :
    .setDefault table name ∈ Finding.changes (field.findings schema table name live traits) ↔
      column.normalizedDefault ≠ some text := by
  rw [findings_of_column found, Finding.changes_append, changes_columnFindings, if_pos alters,
    List.mem_append, setDefault_mem_columnChanges_iff string short kept]
  apply or_iff_left
  intro constraint
  cases (field.changes_constraintFindings schema table name live traits).2 _ constraint

end Field

/-- The default of a plain string is set unless what is made of the reported default is the
declared one.  That compares the two texts exactly if the reported one is bare, or differs from
the declared one before and after; a default that was set as declared is set again exactly if it
is not bare. -/
theorem planEntity_setsDefault_iff {entity : Entity} (valid : entity.Valid) {name : String}
    {field : Field} (declared : (name, field) ∈ entity.fields) (string : field.type = .string)
    (short : field.isText = false) {text : String} (kept : field.defaultText = some text)
    (schema : Schema) {live : TableState} (present : live.present = true) {column : LiveColumn}
    (found : live.columns.get? name = some column) {row : Value} {reported : String}
    (read : Reflection.catalogueColumn row = .ok column)
    (shown : row.items[2]? = some (.text reported)) :
    let plan := planEntity entity schema live (BackendTraits.ofName "mysql")
    let sets := DdlAction.setDefault entity.tableName name ∈ plan.actions
    (sets ↔ normalizeDefault reported ≠ text) ∧
      ((sets ↔ reported ≠ text) ↔
        Bare reported.toList ∨ reported ≠ text ∧ normalizeDefault reported ≠ text) ∧
      (reported = text → (sets ↔ ¬Bare text.toList)) := by
  intro plan sets
  have alters : (BackendTraits.ofName "mysql").alterColumn = true := rfl
  have planned : sets ↔ normalizeDefault reported ≠ text := by
    have compared := Field.setDefault_mem_findings_iff schema entity.tableName alters string short
      kept found
    rw [LiveColumn.normalizedDefault, catalogueColumn_default read shown, Option.map_some,
      ne_eq, Option.some_inj] at compared
    exact (mem_actions_iff valid.distinct present declared .setDefault).trans compared
  refine ⟨planned, ?_, ?_⟩
  · rw [planned, ← normalizeDefault_eq_self_iff]
    by_cases bare : normalizeDefault reported = reported
    · simp [bare]
    · by_cases same : reported = text
      · subst same
        simp [bare]
      · simp [bare, same]
  · rintro rfl
    rw [planned, ← normalizeDefault_eq_self_iff]

/-- A default in parentheses is set again although it is there. -/
theorem planEntity_setsDefault_users :
    let name : Field := { type := .string, defaultText := some "(none)" }
    let user : Entity :=
      { name := "User", fields := [("id", { type := .int, isId := true }), ("name", name)] }
    let schema : Schema :=
      { datasource := { provider := .mysql, url := "mysql://u:p@h/d" }, entities := [user] }
    let row : Value := .list [.text "name", .text "varchar(255)", .text "(none)", .text "",
      .text "NO"]
    let column : LiveColumn :=
      { name := "name", type := "varchar(255)", default := some "(none)", nullable := false }
    let live : TableState :=
      { name := "users"
        present := true
        columns := [("id", { name := "id", type := "int unsigned" }), ("name", column)] }
    user.Valid ∧ Reflection.catalogueColumn row = .ok column ∧
      .setDefault "users" "name" ∈
        (planEntity user schema live (BackendTraits.ofName "mysql")).actions := by
  intro name user schema row column live
  have valid : user.Valid := Entity.valid_iff.mpr (by decide +kernel)
  have declared : ("name", name) ∈ user.fields := by decide
  have present : live.present = true := rfl
  have found : live.columns.get? "name" = some column := rfl
  have read : Reflection.catalogueColumn row = .ok column := rfl
  obtain ⟨-, -, again⟩ := planEntity_setsDefault_iff valid declared rfl rfl rfl schema present
    found read rfl
  have table : user.tableName = "users" := by decide +kernel
  rw [table] at again
  exact ⟨valid, read, (again rfl).mpr fun bare => bare.parens "none".toList (by decide)⟩

end SchemaStore
