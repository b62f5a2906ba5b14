import Mathlib
import SchemaStore.Text.Case

/-!
# Texts in small letters

A text in small letters has no ASCII capital, so that a comparison which takes ASCII capitals for
small letters tells such texts apart.
-/

namespace SchemaStore.Text

/-- No letter is lowered to an ASCII capital. -/
theorem lowerRuns_above : ∀ run ∈ lowerRuns, (90 : Int) < run.1 + run.2.2.2 := by
  decide +kernel

theorem not_isUpper_ofNat {code : Nat} (above : 90 < code) : ¬(Char.ofNat code).isUpper = true := by
  by_cases valid : code.isValidChar
  · have made : Char.ofNat code = Char.ofNatAux code valid := dif_pos valid
    have same : (Char.ofNat code).val.toNat = code := by
      rw [made]
      exact UInt32.toNat_ofNatLT ..
    simp only [Char.isUpper, decide_eq_true_eq, UInt32.le_iff_toNat_le, same]
    rintro ⟨-, small⟩
    exact absurd small (Nat.not_le.mpr above)
  · have null : Char.ofNat code = '\x00' := dif_neg valid
    rw [null]
    decide

theorem not_isUpper_lowerChar (c : Char) : ¬(lowerChar c).isUpper = true := by
  unfold lowerChar
  split
  · simp
  · next high =>
    apply not_isUpper_ofNat
    unfold shiftOf
    split
    · next first count step shift found =>
      have above := lowerRuns_above _ (Array.mem_of_find?_eq_some found)
      have within := Array.find?_some found
      simp only [Bool.and_eq_true, decide_eq_true_eq] at within above
      omega
    · omega

theorem not_isUpper_of_mem_lowerFrom {before rest : List Char} {c : Char}
    (member : c ∈ lowerFrom before rest) : ¬c.isUpper = true := by
  induction rest generalizing before with
  | nil => cases member
  | cons first rest induction =>
      rw [lowerFrom] at member
      rcases List.mem_append.mp member with image | later
      · split at image
        · split at image
          · rw [List.mem_singleton.mp image]
            decide
          · rw [List.mem_singleton.mp image]
            decide
        · split at image
          · simp only [List.mem_cons, List.not_mem_nil, or_false] at image
            rcases image with rfl | rfl
            · decide
            · decide
          · rw [List.mem_singleton.mp image]
            exact not_isUpper_lowerChar first
      · exact induction later

/-- A text in small letters stays as it is when its ASCII capitals are lowered. -/
theorem map_toLower_lower (s : String) : (lower s).map Char.toLower = lower s := by
  have unchanged : (lower s).toList.map Char.toLower = (lower s).toList := by
    refine (List.map_congr_left fun c member => ?_).trans (List.map_id _)
    rw [lower, String.toList_ofList] at member
    exact Char.toLower_eq_of_not_isUpper (not_isUpper_of_mem_lowerFrom member)
  rw [← String.toList_inj, String.toList_map, unchanged]

end SchemaStore.Text
