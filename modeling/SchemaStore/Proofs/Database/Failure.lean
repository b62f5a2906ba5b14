import SchemaStore.Database.Host
import SchemaStore.Proofs.Outcome

/-!
# Failures of readings

Three codes of backends say that a value is bad, and no words stand for one of them.  The
embedded database has none of these codes: whatever a reading fails with, it is not
reported as bad input.
-/

namespace SchemaStore

/-- The codes by which a backend refuses a value. -/
def valueCodes : List String := ["1264", "1366", "1292"]

theorem mem_valueCodes_of_infoOfCode? {code : String} {info : ErrorInfo}
    (known : infoOfCode? code = some info) (bad : info.kind = .validation) : code ∈ valueCodes := by
  unfold infoOfCode? at known
  -- Only the codes of the list have that kind.
  split at known <;> first
    | (cases known; cases bad; done)
    | (cases known; done)
    | simp [valueCodes]

namespace Failure

theorem kind_of_codeOfText? {text code : String} (found : codeOfText? text = some code)
    {info : ErrorInfo} (known : infoOfCode? code = some info) : info.kind ≠ .validation := by
  have listed : code ∈ textPatterns.map (·.2) := by
    obtain ⟨entry, there, rfl⟩ := Option.map_eq_some_iff.mp found
    exact List.mem_map_of_mem (List.mem_of_find?_eq_some there)
  have harmless : ∀ code ∈ textPatterns.map (·.2), code ∉ valueCodes := by decide
  exact fun bad => harmless code listed (mem_valueCodes_of_infoOfCode? known bad)

theorem kind_classifyBackend {failure : Failure}
    (coded : ∀ code, failure.code? = some code → code ∉ valueCodes) :
    failure.classifyBackend.kind ≠ .validation := by
  unfold classifyBackend
  split
  · next info found =>
    obtain ⟨code, given, known⟩ := Option.bind_eq_some_iff.mp found
    exact fun bad => coded code given (mem_valueCodes_of_infoOfCode? known bad)
  · split
    · simp [unknownInfo]
    · next text _ =>
      cases found : (codeOfText? text).bind infoOfCode? with
      | some info =>
          obtain ⟨code, given, known⟩ := Option.bind_eq_some_iff.mp found
          exact kind_of_codeOfText? given known
      | none =>
          rw [Option.getD_none]
          unfold fallbackInfo
          split
          · split <;> simp [unreachableInfo, unknownInfo]
          · simp [unknownInfo]

/-- A failure of something outside the store that does not refuse a value. -/
structure Impersonal (failure : Failure) : Prop where
  foreign : ∀ error, failure ≠ .own error
  code : ∀ code, failure.code? = some code → code ∉ valueCodes

theorem Impersonal.family {failure : Failure} (impersonal : failure.Impersonal) :
    failure.toStoreError.family ≠ .validation := by
  have kind : failure.classify.kind ≠ .validation := by
    have backend := kind_classifyBackend impersonal.code
    cases failure with
    | own error => exact absurd rfl (impersonal.foreign error)
    | access error =>
        rw [classify]
        split
        · simp [poolTimeoutInfo]
        · exact backend
    | _ => exact backend
  have made : failure.toStoreError = .ofInfo failure.classify := by
    cases failure with
    | own error => exact absurd rfl (impersonal.foreign error)
    | _ => rfl
  rw [made, StoreError.ofInfo]
  cases family : failure.classify.kind <;>
    first | exact absurd family kind | simp [ErrorFamily.ofKind]

theorem impersonal_of_code {failure : Failure} (foreign : ∀ error, failure ≠ .own error)
    {known : Option String} (code : failure.code? = known)
    (harmless : ∀ code ∈ known, code ∉ valueCodes) : failure.Impersonal :=
  ⟨foreign, fun given same => harmless given (code ▸ same)⟩

theorem impersonal_uncoded {failure : Failure} (foreign : ∀ error, failure ≠ .own error)
    (uncoded : failure.code? = none) : failure.Impersonal :=
  impersonal_of_code foreign uncoded (by simp)

theorem impersonal_statement (message : String) : (Failure.statement message).Impersonal :=
  impersonal_uncoded (by rintro error ⟨⟩) rfl

theorem impersonal_operational (text : String) : (Database.operational text).Impersonal :=
  impersonal_of_code (by rintro error ⟨⟩) rfl
    (show ∀ code ∈ some "SQLITE_ERROR", code ∉ valueCodes by decide)

end Failure

namespace Conversion

theorem impersonal_readReal {s : String} {failure : Failure}
    (failed : readReal s = .error failure) :
    failure.Impersonal := by
  unfold readReal at failed
  split at failed
  · cases failed
  · cases failed
    exact Failure.impersonal_statement _

theorem impersonal_convert {conversion : Conversion} {value : Value} {failure : Failure}
    (failed : conversion.convert value = .error failure) : failure.Impersonal := by
  unfold convert at failed
  split at failed <;> first
    | cases failed; done
    | exact impersonal_readReal failed
    | (cases failed; exact Failure.impersonal_statement _)
    | (split at failed <;> first
        | cases failed; done
        | (cases failed; exact Failure.impersonal_statement _))

end Conversion

theorem Value.impersonal_bind {value : Value} {failure : Failure}
    (failed : value.bind = .error failure) : failure.Impersonal := by
  unfold Value.bind at failed
  split at failed
  case h_3 =>
    split at failed
    · cases failed
    · cases failed
      exact Failure.impersonal_uncoded (by rintro error ⟨⟩) rfl
  case h_8 =>
    cases failed
    exact Failure.impersonal_uncoded (by rintro error ⟨⟩) rfl
  all_goals cases failed

namespace Parameter

theorem impersonal_cell {parameter : Parameter} {failure : Failure}
    (failed : parameter.cell = .error failure) : failure.Impersonal := by
  rcases Except.bind_eq_error.mp failed with unconverted | ⟨value, -, unbound⟩
  · exact Conversion.impersonal_convert unconverted
  · exact Value.impersonal_bind unbound

theorem impersonal_checkConversions {parameters : List Parameter} {failure : Failure}
    (failed : checkConversions parameters = .error failure) : failure.Impersonal := by
  induction parameters with
  | nil => cases failed
  | cons parameter rest induction =>
      rcases Except.bind_eq_error.mp failed with unconverted | ⟨_, -, later⟩
      · exact Conversion.impersonal_convert unconverted
      · exact induction later

theorem impersonal_checkBindings {parameters : List Parameter} {failure : Failure}
    (failed : checkBindings parameters = .error failure) : failure.Impersonal := by
  induction parameters with
  | nil => cases failed
  | cons parameter rest induction =>
      rcases Except.bind_eq_error.mp failed with unbound | ⟨_, -, later⟩
      · exact impersonal_cell unbound
      · exact induction later

end Parameter

theorem ColumnType.impersonal_read {type : ColumnType} {cell : Cell} {failure : Failure}
    (failed : type.read cell = .error failure) : failure.Impersonal := by
  unfold ColumnType.read at failed
  split at failed
  case h_2 =>
    split at failed
    · cases failed
    · cases failed
      exact Failure.impersonal_uncoded (by rintro error ⟨⟩) rfl
  case h_3 =>
    cases failed
    exact Failure.impersonal_uncoded (by rintro error ⟨⟩) rfl
  all_goals cases failed

namespace Select

variable {query : Select} {tables : List StoredTable} {failure : Failure}

theorem impersonal_checkNames (failed : query.checkNames tables = .error failure) :
    failure.Impersonal := by
  rcases Except.bind_eq_error.mp failed with missing | ⟨stored, -, rest⟩
  · obtain ⟨source, -, unfound⟩ := Except.exists_of_mapM_eq_error missing
    rcases Except.bind_eq_error.mp unfound with absent | ⟨_, -, done⟩
    · unfold Database.require at absent
      split at absent <;> cases absent
      exact Failure.impersonal_operational _
    · cases done
  · dsimp only at rest
    split at rest
    · cases rest
      exact Failure.impersonal_operational _
    · split at rest <;> cases rest
      exact Failure.impersonal_operational _

theorem impersonal_check (failed : query.check tables = .error failure) : failure.Impersonal := by
  rcases Except.bind_eq_error.mp failed with unconverted | ⟨_, -, rest⟩
  · exact Parameter.impersonal_checkConversions unconverted
  rcases Except.bind_eq_error.mp rest with unnamed | ⟨_, -, unbound⟩
  · exact impersonal_checkNames unnamed
  · exact Parameter.impersonal_checkBindings unbound

/-- Whatever a reading fails with, it is not reported as bad input. -/
theorem impersonal_rows (failed : query.rows tables = .error failure) : failure.Impersonal := by
  rcases Except.bind_eq_error.mp failed with unchecked | ⟨_, -, rest⟩
  · exact impersonal_check unchecked
  · obtain ⟨scope, -, unread⟩ := Except.exists_of_mapM_eq_error rest
    rcases Except.bind_eq_error.mp unread with unread | ⟨_, -, done⟩
    · obtain ⟨output, -, unread⟩ := Except.exists_of_mapM_eq_error unread
      exact ColumnType.impersonal_read unread
    · cases done

end Select
end SchemaStore
