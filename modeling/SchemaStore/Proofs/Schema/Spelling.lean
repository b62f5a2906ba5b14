import SchemaStore.Proofs.Schema.Input
import SchemaStore.Proofs.Text.Blank
import SchemaStore.Proofs.Text.Percent

/-!
# Spellings of an embedded database

The address of an embedded database is its path, the path after `file:`, or the path after
`sqlite:///`.  The first two are taken as they are.  The last one is an address like that of a
server, in which escapes are decoded: it names the same database unless the path has an escape, and
always does so if the percent signs of the path are escaped.
-/

namespace SchemaStore

namespace Url

/-- An address without a server and without a query is its driver and its decoded path, whatever
characters these are. -/
theorem parse_rooted {text : String} {name path : List Char} (given : name ≠ [])
    (named : ∀ c ∈ name, isDriverChar c = true) (noQuery : '?' ∉ path)
    (spelled : text.toList = name ++ ':' :: '/' :: '/' :: '/' :: path) :
    parse text = .ok { driver := String.ofList name, database := some (unescaped path) } := by
  have nameCut : cutBefore (!isDriverChar ·) text.toList =
      (name, ':' :: '/' :: '/' :: '/' :: path) := by
    rw [spelled]
    apply Text.cut_append_stop
    · intro c member
      rw [named c member, Bool.not_true]
    · rintro c ⟨⟩
      decide
  have noUser : userPart ('/' :: path) = (none, none, '/' :: path) := rfl
  have noHost : hostPart ('/' :: path) = (none, '/' :: path) := rfl
  have noPort : portPart ('/' :: path) = (none, '/' :: path) := rfl
  have database : databasePart ('/' :: path) = (some path, []) := by
    have cut : cutBefore (· == '?') (path ++ []) = (path, []) := by
      apply Text.cut_append_stop
      · intro c member
        apply beq_false_of_ne
        rintro rfl
        exact noQuery member
      · exact nofun
    rw [List.append_nil] at cut
    rw [databasePart, cut]
  obtain ⟨c, others, rfl⟩ := List.exists_cons_of_ne_nil given
  rw [parse, nameCut]
  simp only [noUser, noHost, noPort, database]
  rfl

theorem unescaped_ne_empty {cs : List Char} (given : cs ≠ []) : unescaped cs ≠ "" := by
  intro empty
  have none : Text.unescape cs = [] := by
    simpa [unescaped] using congrArg String.toList empty
  exact Text.unescape_ne_nil given none

theorem unescaped_eq_iff {path : String} :
    unescaped path.toList = path ↔ ¬Text.HasEscape path.toList := by
  rw [← Text.unescape_eq_self_iff, unescaped, ← String.toList_inj, String.toList_ofList]

end Url

namespace Datasource

/-- The record of an embedded database with an address is accepted, and the database is opened at
a path, with nothing else to connect to. -/
structure Opens (ssl : Option String) (url path : String) : Prop where
  accepted : ofInput (.object (toRecord { provider := .sqlite, url, ssl })) =
    .ok { provider := .sqlite, url, ssl }
  connects : connection { provider := .sqlite, url, ssl } =
    .ok { driver := "sqlite+aiosqlite", database := some path }

variable {ssl : Option String} {url path : String}

theorem opens_of_filePath (found : filePath url = .ok (some path)) (given : path ≠ "") :
    Opens ssl url path := by
  have connects : connection { provider := .sqlite, url, ssl } =
      .ok { driver := "sqlite+aiosqlite", database := some path } := by
    have nonempty : path.isEmpty = false := by simpa using given
    simp only [connection, found, Except.ok_bind, Option.getD_some, nonempty]
    rfl
  exact ⟨ofInput_toRecord ⟨_, connects⟩, connects⟩

theorem Opens.unique {other : String} (opens : Opens ssl url path)
    (opensOther : Opens ssl url other) : path = other := by
  have same := opens.connects.symm.trans opensOther.connects
  simpa using same

theorem filePath_file (path : String) : filePath ("file:" ++ path) = .ok (some path) := by
  have spelled : ("file:" ++ path).toList = "file:".toList ++ path.toList := by simp
  have starts : "file:".toList.isPrefixOf ("file:".toList ++ path.toList) = true := by simp
  rw [filePath, spelled, if_pos starts]
  simp

theorem filePath_plain (notFile : ¬"file:".toList <+: path.toList)
    (notSqlite : ¬"sqlite".toList <+: path.toList) : filePath path = .ok (some path) := by
  rw [← List.isPrefixOf_iff_prefix] at notFile notSqlite
  rw [filePath, if_neg notFile, if_neg notSqlite]

theorem filePath_sqlite (noQuery : '?' ∉ path.toList) :
    filePath ("sqlite:///" ++ path) = .ok (some (Url.unescaped path.toList)) := by
  have spelled : ("sqlite:///" ++ path).toList =
      "sqlite".toList ++ ':' :: '/' :: '/' :: '/' :: path.toList := by simp
  have notFile : ¬"file:".toList.isPrefixOf ("sqlite:///" ++ path).toList = true := by
    simp
  have starts : "sqlite".toList.isPrefixOf ("sqlite:///" ++ path).toList = true := by
    simp
  have driver : ∀ c ∈ "sqlite".toList, Url.isDriverChar c = true := List.all_eq_true.mp rfl
  rw [filePath, if_neg notFile, if_pos starts,
    Url.parse_rooted (by decide) driver noQuery spelled]

/-- A path is opened by any of its three spellings.  Only a path that starts like another spelling
is not one by itself, and only escapes are not taken as they are after `sqlite:///`. -/
theorem opens_spellings (given : path ≠ "") (noQuery : '?' ∉ path.toList) (ssl : Option String) :
    Opens ssl ("file:" ++ path) path ∧
      (¬"file:".toList <+: path.toList → ¬"sqlite".toList <+: path.toList → Opens ssl path path) ∧
      Opens ssl ("sqlite:///" ++ path) (Url.unescaped path.toList) ∧
      (Url.unescaped path.toList = path ↔ ¬Text.HasEscape path.toList) ∧
      Opens ssl ("sqlite:///" ++ String.ofList (Text.escapePercent path.toList)) path := by
  have nonempty : path.toList ≠ [] := by simpa using given
  have noQueryEscaped :
      '?' ∉ (String.ofList (Text.escapePercent path.toList)).toList := by
    rw [String.toList_ofList]
    intro member
    obtain ⟨c, inPath, inEscape⟩ := List.mem_flatMap.mp member
    by_cases percent : c = '%'
    · rw [if_pos percent] at inEscape
      exact absurd inEscape (by decide)
    · rw [if_neg percent, List.mem_singleton] at inEscape
      exact noQuery (inEscape ▸ inPath)
  have escaped := filePath_sqlite noQueryEscaped
  rw [String.toList_ofList, Url.unescaped, Text.unescape_escapePercent, String.ofList_toList]
    at escaped
  refine ⟨opens_of_filePath (filePath_file path) given, ?_, ?_, Url.unescaped_eq_iff,
    opens_of_filePath escaped given⟩
  · intro notFile notSqlite
    exact opens_of_filePath (filePath_plain notFile notSqlite) given
  · exact opens_of_filePath (filePath_sqlite noQuery) (Url.unescaped_ne_empty nonempty)

/-- Colons, at-signs and escapes are part of a path, and after `sqlite:///` an escape is decoded. -/
theorem opens_spellings_notes :
    let path := "notes:50%25@home.db"
    path ≠ "" ∧ '?' ∉ path.toList ∧ ¬"file:".toList <+: path.toList ∧
      ¬"sqlite".toList <+: path.toList ∧ Opens none ("file:" ++ path) path ∧
      Opens none path path ∧ Opens none ("sqlite:///" ++ path) "notes:50%@home.db" ∧
      Opens none "sqlite:///notes:50%2525@home.db" path := by
  intro path
  have given : path ≠ "" := by decide
  have noQuery : '?' ∉ path.toList := by decide
  have notFile : ¬"file:".toList <+: path.toList := by decide
  have notSqlite : ¬"sqlite".toList <+: path.toList := by decide
  have decoded : Url.unescaped path.toList = "notes:50%@home.db" := by decide +kernel
  have escaped : "sqlite:///" ++ String.ofList (Text.escapePercent path.toList) =
      "sqlite:///notes:50%2525@home.db" := by decide
  obtain ⟨afterFile, bare, asAddress, -, asEscaped⟩ := opens_spellings given noQuery none
  rw [decoded] at asAddress
  rw [escaped] at asEscaped
  exact ⟨given, noQuery, notFile, notSqlite, afterFile, bare notFile notSqlite, asAddress,
    asEscaped⟩

/-- A path that is neither after `file:` nor in an address by itself. -/
structure IsBarePath (path : String) : Prop where
  given : path ≠ ""
  noQuery : '?' ∉ path.toList
  notFile : ¬"file:".toList <+: path.toList
  noScheme : ¬"://".toList <:+: path.toList

/-- A bare path with an escape is another one after `sqlite:///`, and a bare path that starts like
that address is refused. -/
theorem spellings_differ_escaped :
    (IsBarePath "50%25.db" ∧ Opens none "50%25.db" "50%25.db" ∧
      Opens none "sqlite:///50%25.db" "50%.db" ∧ ¬Opens none "sqlite:///50%25.db" "50%25.db") ∧
    (IsBarePath "sqlite3.db" ∧ Opens none "file:sqlite3.db" "sqlite3.db" ∧
      ofInput (.object (toRecord { provider := .sqlite, url := "sqlite3.db" })) =
        .error DatasourceDefect.unreadableUrl.failure) := by
  constructor
  · have bare : IsBarePath "50%25.db" := ⟨by decide, by decide, by decide, by decide⟩
    have found := filePath_sqlite bare.noQuery
    have decoded : Url.unescaped "50%25.db".toList = "50%.db" := by decide +kernel
    rw [decoded] at found
    have opens : Opens none "sqlite:///50%25.db" "50%.db" := opens_of_filePath found (by decide)
    refine ⟨bare, opens_of_filePath (filePath_plain bare.notFile (by decide)) bare.given, opens, ?_⟩
    intro other
    exact absurd (opens.unique other) (by decide)
  · have bare : IsBarePath "sqlite3.db" := ⟨by decide, by decide, by decide, by decide⟩
    exact ⟨bare, opens_of_filePath (filePath_file "sqlite3.db") bare.given, rfl⟩

end Datasource
end SchemaStore
