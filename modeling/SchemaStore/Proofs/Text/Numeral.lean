import SchemaStore.Dsl.Parser
import SchemaStore.Proofs.Text.Blank

/-!
# Digits that are read as integers

A row of decimal digits, with or without a minus sign, is read as an integer unless
it is too long.
-/

namespace SchemaStore.Text

/-- No run of ten digits holds white space. -/
theorem digitZeros_apart : ∀ first ∈ digitZeros,
    (∀ code ∈ [0x85, 0xA0, 0x1680, 0x2028, 0x2029, 0x202F, 0x205F, 0x3000],
      code < first ∨ first + 10 ≤ code) ∧ (0x200A < first ∨ first + 10 ≤ 0x2000) := by
  decide

theorem isBlank_of_isDecimal {c : Char} (decimal : isDecimal c = true) : isBlank c = false := by
  unfold isDecimal digitValue? at decimal
  split at decimal
  · split at decimal
    · next digit =>
      have code : 48 ≤ c.toNat ∧ c.toNat ≤ 57 := by
        simpa [Char.isDigit, UInt32.le_iff_toNat_le] using digit
      simp [isBlank]
      omega
    · cases decimal
  · next large =>
    rw [Option.isSome_map] at decimal
    obtain ⟨first, found⟩ := Option.isSome_iff_exists.mp decimal
    have inside : first ≤ c.toNat ∧ c.toNat < first + 10 := by
      simpa using Array.find?_some found
    obtain ⟨single, row⟩ := digitZeros_apart first (Array.mem_of_find?_eq_some found)
    simp only [List.forall_mem_cons, List.not_mem_nil, false_implies, implies_true,
      and_true] at single
    simp [isBlank]
    omega

/-- A row of digits without underscores is read digit by digit. -/
theorem readDigits?_of_all {value? : Char → Option Nat} {cs : List Char} (nonempty : cs ≠ [])
    (digits : ∀ c ∈ cs, (value? c).isSome = true) (plain : value? '_' = none) :
    ∃ values, readDigits? value? cs = some values ∧ values.length = cs.length := by
  have noUnderscore : '_' ∉ cs := by
    intro member
    have read := digits '_' member
    rw [plain] at read
    cases read
  fun_induction readDigits? value? cs with
  | case1 => exact absurd rfl nonempty
  | case2 c =>
      obtain ⟨value, read⟩ := Option.isSome_iff_exists.mp (digits c List.mem_cons_self)
      exact ⟨[value], by simp [read], rfl⟩
  | case3 | case4 => exact absurd (by simp) noUnderscore
  | case5 c rest more _ value values restRead read induction =>
      obtain ⟨others, othersRead, length⟩ := induction more
        (fun other later => digits other (List.mem_cons_of_mem _ later))
        (fun later => noUnderscore (List.mem_cons_of_mem _ later))
      rw [restRead] at othersRead
      cases othersRead
      exact ⟨_, rfl, by rw [List.length_cons, List.length_cons, length]⟩
  | case6 c rest more _ unread induction =>
      obtain ⟨value, read⟩ := Option.isSome_iff_exists.mp (digits c List.mem_cons_self)
      obtain ⟨others, othersRead, -⟩ := induction more
        (fun other later => digits other (List.mem_cons_of_mem _ later))
        (fun later => noUnderscore (List.mem_cons_of_mem _ later))
      exact (unread value others read othersRead).elim

theorem isPlainBlank_of_isDecimal {c : Char} (decimal : isDecimal c = true) :
    isPlainBlank c = false := by
  rw [isPlainBlank, isBlank_of_isDecimal decimal]
  rfl

/-- The digits of an integer text: what is left of it without its sign. -/
theorem splitSign_of_isIntegerText {cs : List Char} (written : Dsl.isIntegerText cs = true) :
    ∃ negative body, splitSign cs = (negative, body) ∧ body ≠ [] ∧
      (∀ c ∈ body, isDecimal c = true) ∧ cs.filter isDecimal = body ∧
      ∀ c ∈ cs, isPlainBlank c = false := by
  have noDigit (c : Char) (sign : c = '-' ∨ c = '+') : isDecimal c = false := by
    rcases sign with rfl | rfl <;> decide
  unfold Dsl.isIntegerText at written
  dsimp only at written
  split at written
  · next rest =>
    simp only [Bool.and_eq_true, Bool.not_eq_true', List.isEmpty_eq_false_iff,
      List.all_eq_true] at written
    obtain ⟨nonempty, digits⟩ := written
    refine ⟨true, rest, rfl, nonempty, digits, ?_, ?_⟩
    · rw [List.filter_cons_of_neg (by simp [noDigit]), List.filter_eq_self]
      exact digits
    · intro c member
      rcases List.mem_cons.mp member with rfl | later
      · decide
      · exact isPlainBlank_of_isDecimal (digits c later)
  · next unsigned =>
    simp only [Bool.and_eq_true, Bool.not_eq_true', List.isEmpty_eq_false_iff,
      List.all_eq_true] at written
    obtain ⟨nonempty, digits⟩ := written
    refine ⟨false, cs, ?_, nonempty, digits, List.filter_eq_self.mpr digits,
      fun c member => isPlainBlank_of_isDecimal (digits c member)⟩
    unfold splitSign
    split
    · next rest => exact absurd rfl (unsigned rest)
    · next rest =>
      have digit := digits '+' List.mem_cons_self
      rw [noDigit '+' (.inr rfl)] at digit
      cases digit
    · rfl

/-- An integer in digits is read unless it is too long. -/
theorem readInteger_of_isIntegerText {text : String}
    (written : Dsl.isIntegerText text.toList = true)
    (short : (text.toList.filter isDecimal).length ≤ maxDigits) :
    ∃ n, readInteger text = .ok n := by
  obtain ⟨negative, body, sign, nonempty, decimal, digits, visible⟩ :=
    splitSign_of_isIntegerText written
  have trimmed : trimWhile isPlainBlank text.toList = text.toList :=
    trimWhile_eq_self (fun c first => visible c (List.mem_of_head? first))
      (fun c last => visible c (List.mem_of_getLast? last))
  obtain ⟨values, read, length⟩ := readDigits?_of_all nonempty decimal (by decide)
  have fits : ¬values.length > maxDigits := by
    rw [length, ← digits]
    omega
  exact ⟨signed negative (digitsValue values), by
    simp only [readInteger, trimmed, sign, read, fits, if_false]⟩

end SchemaStore.Text
