import Mathlib.Data.List.Infix
import SchemaStore.Text.Blank

/-!
# Words inside texts

A word occurs in a text exactly when it is an infix of it.  A word without a separator occurs in a
text that is put together with separators exactly when it occurs in one of the parts.
-/

namespace SchemaStore.Text

variable {α : Type} {word before after text : List α} {separator : α}

theorem occursIn_iff {word text : List Char} : occursIn word text = true ↔ word <:+: text := by
  induction text with
  | nil => rw [occursIn, List.isEmpty_iff, List.infix_nil]
  | cons c rest induction =>
      rw [occursIn, Bool.or_eq_true, induction, List.isPrefixOf_iff_prefix, List.infix_cons_iff]

theorem prefix_of_prefix_append_cons (apart : separator ∉ word)
    (starts : word <+: before ++ separator :: after) : word <+: before := by
  rcases List.prefix_or_prefix_of_prefix starts (List.prefix_append ..) with inBefore | ⟨rest, rfl⟩
  · exact inBefore
  · cases rest with
    | nil => rw [List.append_nil]
    | cons c others =>
        obtain ⟨rfl, -⟩ := List.cons_prefix_cons.mp ((List.prefix_append_right_inj before).mp starts)
        exact absurd (List.mem_append_right before List.mem_cons_self) apart

theorem infix_append_cons_iff (apart : separator ∉ word) :
    word <:+: before ++ separator :: after ↔ word <:+: before ∨ word <:+: after := by
  induction before with
  | nil =>
      rw [List.nil_append, List.infix_cons_iff, List.infix_nil]
      constructor
      · rintro (starts | inside)
        · exact .inl (List.prefix_nil.mp (prefix_of_prefix_append_cons apart starts))
        · exact .inr inside
      · rintro (rfl | inside)
        · exact .inl (List.nil_prefix)
        · exact .inr inside
  | cons c rest induction =>
      have starts : word <+: (c :: rest) ++ separator :: after ↔ word <+: c :: rest :=
        ⟨prefix_of_prefix_append_cons apart, fun starts => starts.trans (List.prefix_append ..)⟩
      rw [List.cons_append] at starts
      rw [List.cons_append, List.infix_cons_iff, induction, List.infix_cons_iff, starts, or_assoc]

/-- A word does not occur where one of its characters is missing. -/
theorem not_infix_of_not_mem {c : α} (inWord : c ∈ word) (missing : c ∉ text) :
    ¬word <:+: text :=
  fun inside => missing (inside.subset inWord)

end SchemaStore.Text
