import SchemaStore.Proofs.Dsl.Form

/-!
# Steps of reading

What each step of reading a text has done if it succeeds, and what stopped it if it fails.
The readers of later modules are taken apart by these lemmas and not by their definitions.
-/

namespace SchemaStore.Dsl

variable {env : Record String} {error : ParseError}

theorem atLine_eq_error {α : Type} {number : Nat} {result : Except Defect α}
    (failed : atLine number result = .error error) :
    ∃ defect, result = .error defect ∧ error = .atLine number defect := by
  cases result with
  | ok a => cases failed
  | error defect =>
      cases failed
      exact ⟨defect, rfl, rfl⟩

section Fields

variable {model : String} {known fields : Record Field} {lines : List Line}

/-- The fields that lines declare, one each. -/
def DeclareFields (lines : List Line) (fields : Record Field) : Prop :=
  List.Forall₂ (fun line entry => FieldForm line.text entry.1 entry.2) lines fields

/-- What was read is declared line by line, under names of its own. -/
theorem readFields_eq_ok (read : readFields model known lines = .ok fields) :
    ∃ declared, fields = known ++ declared ∧ DeclareFields lines declared ∧
      (known.keys.Nodup → fields.keys.Nodup) := by
  induction lines generalizing known with
  | nil =>
      cases read
      exact ⟨[], (List.append_nil _).symm, .nil, id⟩
  | cons line rest induction =>
      rw [readFields] at read
      obtain ⟨entry, lineRead, others⟩ := Except.bind_eq_ok.mp read
      dsimp only at others
      split at others
      · cases others
      · next fresh =>
        obtain ⟨declared, rfl, later, distinct⟩ := induction others
        have form := readField_eq_ok_iff.mp (Except.mapError_eq_ok.mp lineRead)
        refine ⟨entry :: declared, List.append_assoc .., .cons form later, ?_⟩
        intro knownDistinct
        apply distinct
        rw [Record.keys, List.map_append]
        refine List.nodup_append.mpr ⟨knownDistinct, by simp, ?_⟩
        rintro key member _ single rfl
        rw [List.map_singleton, List.mem_singleton] at single
        exact fresh (Record.has_eq_true_iff.mpr (single ▸ member))

/-- Fields are read up to the first line that declares none, or one that is already known. -/
theorem readFields_eq_error (failed : readFields model known lines = .error error) :
    ∃ earlier line later declared, lines = earlier ++ line :: later ∧
      DeclareFields earlier declared ∧
      ((∃ defect, readField line.text = .error defect ∧ error = .atLine line.number defect) ∨
        ∃ name field, FieldForm line.text name field ∧
          Record.has (known ++ declared) name = true ∧
          error = .atLine line.number (.fieldTwice name model)) := by
  induction lines generalizing known with
  | nil => cases failed
  | cons line rest induction =>
      rw [readFields] at failed
      rcases Except.bind_eq_error.mp failed with lineFailed | ⟨⟨name, field⟩, lineRead, others⟩
      · exact ⟨[], line, rest, [], rfl, .nil, .inl (atLine_eq_error lineFailed)⟩
      · have form := readField_eq_ok_iff.mp (Except.mapError_eq_ok.mp lineRead)
        dsimp only at others
        split at others
        · next twice =>
          cases others
          refine ⟨[], line, rest, [], rfl, .nil, .inr ⟨name, field, form, ?_, rfl⟩⟩
          rwa [List.append_nil]
        · obtain ⟨earlier, stopped, later, declared, rfl, read, why⟩ := induction others
          refine ⟨line :: earlier, stopped, later, (name, field) :: declared, rfl,
            .cons form read, ?_⟩
          rwa [List.append_assoc] at why

end Fields

section Values

variable {values result : Record String} {ignored unknown : List String} {lines : List Line}

theorem readValue_eq_error {value : List Char} {defect : Defect}
    (failed : readValue env value = .error defect) :
    ∃ name, readVariable? value = some name ∧ env.get? name = none ∧
      defect = .unsetVariable name := by
  unfold readValue at failed
  split at failed
  · next name variable_ =>
    split at failed
    · cases failed
    · next unset =>
      cases failed
      exact ⟨name, variable_, unset, rfl⟩
  · cases failed

/-- The key and the value of a line of a datasource.  The value of an unknown key is not looked
at. -/
inductive ValueForm (env : Record String) (line : List Char) : String × String → Prop where
  | known {key value : String} {written : List Char} (form : AssignmentForm line key written)
      (known : key ∈ datasourceKeys) (read : readValue env written = .ok value) :
      ValueForm env line (key, value)
  | unknown {key : String} {written : List Char} (form : AssignmentForm line key written)
      (unknown : key ∉ datasourceKeys) : ValueForm env line (key, String.ofList written)

/-- The entries that the lines of a datasource give, one each. -/
def GiveEntries (env : Record String) (lines : List Line) (entries : Record String) : Prop :=
  List.Forall₂ (fun line => ValueForm env line.text) lines entries

/-- The names of entries that a datasource does not have. -/
def unknownKeys (entries : Record String) : List String :=
  entries.keys.filter (!datasourceKeys.contains ·)

theorem unknownKeys_cons (entry : String × String) (entries : Record String) :
    unknownKeys (entry :: entries) =
      if datasourceKeys.contains entry.1 then unknownKeys entries
      else entry.1 :: unknownKeys entries := by
  simp only [unknownKeys, Record.keys, List.map_cons, List.filter_cons]
  cases datasourceKeys.contains entry.1 <;> rfl

/-- An entry counts under its name unless a later one has the same name. -/
theorem get?_reverse_cons (entry : String × String) (entries : Record String) (key : String) :
    Record.get? (entry :: entries).reverse key =
      (Record.get? entries.reverse key).or (if key = entry.1 then some entry.2 else none) := by
  simp only [Record.get?, List.reverse_cons, List.find?_append, Option.map_or, eq_comm (a := key)]
  by_cases same : entry.1 = key <;> simp [same]

/-- A known key has the value of the last line that gives it, and unknown keys are kept apart. -/
theorem readValues_eq_ok (read : readValues env values ignored lines = .ok (result, unknown)) :
    ∃ entries, GiveEntries env lines entries ∧ unknown = ignored ++ unknownKeys entries ∧
      ∀ key ∈ datasourceKeys,
        result.get? key = (Record.get? entries.reverse key).or (values.get? key) := by
  induction lines generalizing values ignored with
  | nil =>
      cases read
      exact ⟨[], .nil, (List.append_nil _).symm, fun _ _ => rfl⟩
  | cons line rest induction =>
      rw [readValues] at read
      split at read
      · cases read
      · next key written assigns =>
        have form := readAssignment?_eq_some_iff.mp assigns
        split at read
        · next known =>
          obtain ⟨value, valueRead, others⟩ := Except.bind_eq_ok.mp read
          obtain ⟨entries, given, rfl, last⟩ := induction others
          have entryForm : ValueForm env line.text (key, value) :=
            .known form (List.contains_iff_mem.mp known) (Except.mapError_eq_ok.mp valueRead)
          refine ⟨(key, value) :: entries, .cons entryForm given, ?_, ?_⟩
          · rw [unknownKeys_cons, if_pos known]
          · intro other member
            rw [last other member, Record.get?_put, get?_reverse_cons, Option.or_assoc]
            by_cases same : other = key <;> simp [same]
        · next unknownKey =>
          obtain ⟨entries, given, rfl, last⟩ := induction read
          have notKnown : key ∉ datasourceKeys := mt List.contains_iff_mem.mpr unknownKey
          refine ⟨(key, String.ofList written) :: entries, .cons (.unknown form notKnown) given,
            ?_, ?_⟩
          · rw [unknownKeys_cons, if_neg unknownKey, List.append_assoc]
            rfl
          · intro other member
            have different : other ≠ key := fun same => notKnown (same ▸ member)
            rw [last other member, get?_reverse_cons, if_neg different, Option.or_none]

/-- What is wrong with a line of a datasource: it gives no key, or names a variable that is not
set. -/
inductive ValueFault (env : Record String) (line : List Char) : Defect → Prop where
  | noKey (none : ∀ key value, ¬AssignmentForm line key value) :
      ValueFault env line (.notAssignment line)
  | unset {key name : String} {value : List Char} (assigns : AssignmentForm line key value)
      (known : key ∈ datasourceKeys) (named : readVariable? value = some name)
      (missing : env.get? name = none) : ValueFault env line (.unsetVariable name)

/-- Values are read up to the first line with which something is wrong. -/
theorem readValues_eq_error (failed : readValues env values ignored lines = .error error) :
    ∃ earlier line later entries defect, lines = earlier ++ line :: later ∧
      GiveEntries env earlier entries ∧ ValueFault env line.text defect ∧
      error = .atLine line.number defect := by
  induction lines generalizing values ignored with
  | nil => cases failed
  | cons line rest induction =>
      have further {values : Record String} {ignored : List String} {entry : String × String}
          (form : ValueForm env line.text entry)
          (others : readValues env values ignored rest = .error error) :
          ∃ earlier stopped later entries defect, line :: rest = earlier ++ stopped :: later ∧
            GiveEntries env earlier entries ∧ ValueFault env stopped.text defect ∧
            error = .atLine stopped.number defect := by
        obtain ⟨earlier, stopped, later, entries, defect, rfl, given, fault⟩ := induction others
        exact ⟨line :: earlier, stopped, later, entry :: entries, defect, rfl, .cons form given,
          fault⟩
      rw [readValues] at failed
      split at failed
      · next unread =>
        cases failed
        refine ⟨[], line, rest, [], _, rfl, .nil, .noKey fun key value form => ?_, rfl⟩
        rw [readAssignment?_eq_some_iff.mpr form] at unread
        cases unread
      · next key written assigns =>
        have form := readAssignment?_eq_some_iff.mp assigns
        split at failed
        · next known =>
          have member := List.contains_iff_mem.mp known
          rcases Except.bind_eq_error.mp failed with valueFailed | ⟨value, valueRead, others⟩
          · obtain ⟨defect, refused, rfl⟩ := atLine_eq_error valueFailed
            obtain ⟨name, named, missing, rfl⟩ := readValue_eq_error refused
            exact ⟨[], line, rest, [], _, rfl, .nil, .unset form member named missing, rfl⟩
          · exact further (.known form member (Except.mapError_eq_ok.mp valueRead)) others
        · next unknownKey =>
          exact further (.unknown form (mt List.contains_iff_mem.mpr unknownKey)) failed

theorem requireValue_eq_ok {block : Block} {key value : String}
    (required : requireValue values block key = .ok value) : values.get? key = some value := by
  unfold requireValue at required
  split at required
  · next found =>
    cases required
    exact found
  · cases required

theorem requireValue_eq_error {block : Block} {key : String}
    (failed : requireValue values block key = .error error) :
    values.get? key = none ∧ error = .atLine block.start (.missingKey key) := by
  unfold requireValue at failed
  split at failed
  · cases failed
  · next missing =>
    cases failed
    exact ⟨missing, rfl⟩

theorem label_of_ofLabel? {text : String} {provider : Provider}
    (known : Provider.ofLabel? text = some provider) : text = provider.label := by
  have same := List.find?_some known
  rw [beq_iff_eq] at same
  exact same.symm

/-- A datasource has the values of its keys. -/
structure HasValues (values : Record String) (datasource : Datasource) : Prop where
  provider : values.get? "provider" = some datasource.provider.label
  url : values.get? "url" = some datasource.url
  ssl : values.get? "ssl" = datasource.ssl

theorem readDatasource_eq_ok {block : Block} {datasource : Datasource} {ignored : List String}
    (read : readDatasource env block = .ok (datasource, ignored)) :
    ∃ values, readValues env [] [] block.body = .ok (values, ignored) ∧
      HasValues values datasource ∧ ∃ address, datasource.connection = .ok address := by
  obtain ⟨⟨values, keys⟩, valuesRead, rest⟩ := Except.bind_eq_ok.mp read
  obtain ⟨provider, providerGiven, rest⟩ := Except.bind_eq_ok.mp rest
  obtain ⟨url, urlGiven, rest⟩ := Except.bind_eq_ok.mp rest
  split at rest
  · cases rest
  · next kind known =>
    dsimp only at rest
    split at rest
    · next address built =>
      cases rest
      refine ⟨values, valuesRead, ⟨?_, requireValue_eq_ok urlGiven, rfl⟩, address, built⟩
      rw [requireValue_eq_ok providerGiven, label_of_ofLabel? known]
    · cases rest
    · cases rest

/-- A block gives no datasource because of one of its lines, of a key that is missing, of its
provider, or because its address cannot be built. -/
theorem readDatasource_eq_error {block : Block}
    (failed : readDatasource env block = .error error) :
    readValues env [] [] block.body = .error error ∨
      ∃ values ignored, readValues env [] [] block.body = .ok (values, ignored) ∧
        ((∃ key, (key = "provider" ∨ key = "url") ∧ values.get? key = none ∧
            error = .atLine block.start (.missingKey key)) ∨
          (∃ provider, values.get? "provider" = some provider ∧
            Provider.ofLabel? provider = none ∧ error = .atLine block.start .unknownProvider) ∨
          ∃ datasource, HasValues values datasource ∧ ∃ defect,
            datasource.connection = .error defect ∧
            ((∃ text port, defect = .badPort text port ∧
                error = .atLine block.start (.badPort text port)) ∨
              (∀ text port, defect ≠ .badPort text port) ∧ error = .unusableUrl defect)) := by
  rcases Except.bind_eq_error.mp failed with valuesFailed | ⟨⟨values, ignored⟩, valuesRead, rest⟩
  · exact .inl valuesFailed
  · refine .inr ⟨values, ignored, valuesRead, ?_⟩
    rcases Except.bind_eq_error.mp rest with missing | ⟨provider, providerGiven, rest⟩
    · exact .inl ⟨"provider", .inl rfl, requireValue_eq_error missing⟩
    rcases Except.bind_eq_error.mp rest with missing | ⟨url, urlGiven, rest⟩
    · exact .inl ⟨"url", .inr rfl, requireValue_eq_error missing⟩
    split at rest
    · next unknown =>
      cases rest
      exact .inr (.inl ⟨provider, requireValue_eq_ok providerGiven, unknown, rfl⟩)
    · next kind known =>
      have has : HasValues values { provider := kind, url, ssl := values.get? "ssl" } := by
        refine ⟨?_, requireValue_eq_ok urlGiven, rfl⟩
        rw [requireValue_eq_ok providerGiven, label_of_ofLabel? known]
      refine .inr (.inr ⟨_, has, ?_⟩)
      dsimp only at rest
      split at rest
      · cases rest
      · next text port refused =>
        cases rest
        exact ⟨_, refused, .inl ⟨text, port, rfl, rfl⟩⟩
      · next defect notPort refused =>
        cases rest
        refine ⟨defect, refused, .inr ⟨?_, rfl⟩⟩
        rintro text port rfl
        exact notPort text port rfl

end Values

section Blocks

variable {block : Block} {draft next : Draft} {name : String} {entity : Entity}

theorem readModel_eq_ok (read : readModel name block = .ok entity) :
    entity.name = name ∧ readFields name [] block.body = .ok entity.fields ∧
      entity.defect? = none := by
  obtain ⟨fields, fieldsRead, checked⟩ := Except.bind_eq_ok.mp read
  dsimp only at checked
  split at checked
  · next sound =>
    cases checked
    exact ⟨rfl, fieldsRead, sound⟩
  · cases checked

theorem readModel_eq_error (failed : readModel name block = .error error) :
    readFields name [] block.body = .error error ∨
      ∃ fields defect, readFields name [] block.body = .ok fields ∧
        Entity.defect? ⟨name, fields⟩ = some defect ∧
        error = .atLine block.start (.invalidEntity defect) := by
  rcases Except.bind_eq_error.mp failed with fieldsFailed | ⟨fields, fieldsRead, checked⟩
  · exact .inl fieldsFailed
  · dsimp only at checked
    split at checked
    · cases checked
    · next defect found =>
      cases checked
      exact .inr ⟨fields, defect, fieldsRead, found, rfl⟩

/-- A block gives the datasource, if there is none yet, or one more entity. -/
theorem readBlock_cases (read : readBlock env draft block = .ok next) :
    (block.header.kind = "datasource" ∧ draft.datasource = none ∧ ∃ datasource ignored,
        readDatasource env block = .ok (datasource, ignored) ∧
        next = { draft with datasource := some datasource, ignoredKeys := ignored }) ∨
      block.header.kind = "model" ∧ ∃ name entity, block.header.name = some name ∧
        readModel name block = .ok entity ∧
        next = { draft with entities := draft.entities ++ [entity] } := by
  unfold readBlock at read
  split at read
  · next kind =>
    split at read
    · cases read
    · next fresh =>
      obtain ⟨⟨datasource, ignored⟩, datasourceRead, rfl⟩ := Except.map_eq_ok.mp read
      exact .inl ⟨kind, Option.not_isSome_iff_eq_none.mp fresh, datasource, ignored,
        datasourceRead, rfl⟩
  · next kind =>
    split at read
    · cases read
    · next name named =>
      obtain ⟨entity, entityRead, rfl⟩ := Except.map_eq_ok.mp read
      exact .inr ⟨kind, name, entity, named, entityRead, rfl⟩
  · cases read

/-- Why a block cannot be read after others. -/
theorem readBlock_eq_error (failed : readBlock env draft block = .error error) :
    (block.header.kind = "datasource" ∧
        (draft.datasource.isSome = true ∧ error = .atLine block.start .secondDatasource ∨
          draft.datasource = none ∧ readDatasource env block = .error error)) ∨
      (block.header.kind = "model" ∧
        (block.header.name = none ∧ error = .atLine block.start .unnamedModel ∨
          ∃ name, block.header.name = some name ∧ readModel name block = .error error)) ∨
      (block.header.kind ≠ "datasource" ∧ block.header.kind ≠ "model") ∧
        error = .atLine block.start (.unknownBlock block.header.kind) := by
  unfold readBlock at failed
  split at failed
  · next kind =>
    refine .inl ⟨kind, ?_⟩
    split at failed
    · next second =>
      cases failed
      exact .inl ⟨second, rfl⟩
    · next fresh =>
      refine .inr ⟨Option.not_isSome_iff_eq_none.mp fresh, ?_⟩
      rcases Except.bind_eq_error.mp failed with stopped | ⟨_, -, done⟩
      · exact stopped
      · cases done
  · next kind =>
    refine .inr (.inl ⟨kind, ?_⟩)
    split at failed
    · next unnamed =>
      cases failed
      exact .inl ⟨unnamed, rfl⟩
    · next name named =>
      refine .inr ⟨name, named, ?_⟩
      rcases Except.bind_eq_error.mp failed with stopped | ⟨_, -, done⟩
      · exact stopped
      · cases done
  · next notDatasource notModel =>
    cases failed
    exact .inr (.inr ⟨⟨notDatasource, notModel⟩, rfl⟩)

end Blocks

section Text

variable {text : String}

/-- What was done when a text was read. -/
theorem parse_eq_ok {parsed : Parsed} (accepted : parse env text = .ok parsed) :
    (scan (significantLines text)).defect = none ∧ ∃ draft,
      (scan (significantLines text)).blocks.foldlM (readBlock env) {} = .ok draft ∧
      draft.datasource = some parsed.schema.datasource ∧
      draft.entities = parsed.schema.entities ∧ draft.ignoredKeys = parsed.ignoredKeys ∧
      parsed.schema.defect? = none := by
  obtain ⟨draft, blocksRead, rest⟩ := Except.bind_eq_ok.mp accepted
  split at rest
  · cases rest
  · next whole =>
    split at rest
    · cases rest
    · next datasource declared =>
      dsimp only at rest
      split at rest
      · cases rest
      · next sound =>
        cases rest
        exact ⟨whole, draft, blocksRead, declared, rfl, rfl, sound⟩

/-- Why a text cannot be read. -/
theorem parse_eq_error (failed : parse env text = .error error) :
    (scan (significantLines text)).blocks.foldlM (readBlock env) {} = .error error ∨
      ∃ draft, (scan (significantLines text)).blocks.foldlM (readBlock env) {} = .ok draft ∧
        ((∃ line defect, (scan (significantLines text)).defect = some (line, defect) ∧
            error = .atLine line (.scan defect)) ∨
          (scan (significantLines text)).defect = none ∧
            (draft.datasource = none ∧ error = .missingDatasource ∨
              ∃ datasource defect, draft.datasource = some datasource ∧
                Schema.defect? { datasource, entities := draft.entities } = some defect ∧
                error = .invalidSchema defect)) := by
  rcases Except.bind_eq_error.mp failed with stopped | ⟨draft, blocksRead, rest⟩
  · exact .inl stopped
  · refine .inr ⟨draft, blocksRead, ?_⟩
    split at rest
    · next line defect broken =>
      cases rest
      exact .inl ⟨line, defect, broken, rfl⟩
    · next whole =>
      refine .inr ⟨whole, ?_⟩
      split at rest
      · next missing =>
        cases rest
        exact .inl ⟨missing, rfl⟩
      · next datasource declared =>
        dsimp only at rest
        split at rest
        · next defect found =>
          cases rest
          exact .inr ⟨datasource, defect, declared, found, rfl⟩
        · cases rest

end Text

end SchemaStore.Dsl
