import SchemaStore.Text.Blank

/-!
# Trimmed texts

A word ends where a character outside of its class comes.  A text that neither starts nor ends with
white space is its own trimmed form.
-/

namespace SchemaStore.Text

theorem dropWhile_eq_self {p : Char → Bool} {cs : List Char}
    (starts : ∀ c, cs.head? = some c → p c = false) : cs.dropWhile p = cs := by
  cases cs with
  | nil => rfl
  | cons c rest =>
      have kept := starts c rfl
      simp [kept]

theorem takeWhile_append_stop {p : Char → Bool} {word rest : List Char}
    (inside : ∀ c ∈ word, p c = true) (stops : ∀ c, rest.head? = some c → p c = false) :
    (word ++ rest).takeWhile p = word := by
  rw [List.takeWhile_append_of_pos inside]
  cases rest with
  | nil => simp
  | cons c tail => simp [stops c rfl]

theorem dropWhile_append_stop {p : Char → Bool} {word rest : List Char}
    (inside : ∀ c ∈ word, p c = true) (stops : ∀ c, rest.head? = some c → p c = false) :
    (word ++ rest).dropWhile p = rest := by
  rw [List.dropWhile_append_of_pos inside, dropWhile_eq_self stops]

/-- A word up to the first character of a class, and the rest of a text from there. -/
theorem cut_append_stop {stop : Char → Bool} {word rest : List Char}
    (inside : ∀ c ∈ word, stop c = false) (ends : ∀ c, rest.head? = some c → stop c = true) :
    ((word ++ rest).takeWhile (!stop ·), (word ++ rest).dropWhile (!stop ·)) = (word, rest) := by
  have kept : ∀ c ∈ word, (!stop c) = true := by
    intro c member
    rw [inside c member, Bool.not_false]
  have ended : ∀ c, rest.head? = some c → (!stop c) = false := by
    intro c first
    rw [ends c first, Bool.not_true]
  rw [takeWhile_append_stop kept ended, dropWhile_append_stop kept ended]

theorem head_dropWhile {p : Char → Bool} {cs : List Char} {c : Char}
    (first : (cs.dropWhile p).head? = some c) : p c = false := by
  have kept := List.head?_dropWhile_not p cs
  rwa [first] at kept

theorem dropEndWhile_eq_self {p : Char → Bool} {cs : List Char}
    (ends : ∀ c, cs.getLast? = some c → p c = false) : dropEndWhile p cs = cs := by
  have starts : ∀ c, cs.reverse.head? = some c → p c = false := by
    intro c last
    exact ends c (by simpa using last)
  rw [dropEndWhile, dropWhile_eq_self starts, List.reverse_reverse]

theorem trimWhile_eq_self {p : Char → Bool} {cs : List Char}
    (starts : ∀ c, cs.head? = some c → p c = false)
    (ends : ∀ c, cs.getLast? = some c → p c = false) : trimWhile p cs = cs := by
  rw [trimWhile, dropWhile_eq_self starts, dropEndWhile_eq_self ends]

theorem trim_eq_self {cs : List Char}
    (starts : ∀ c, cs.head? = some c → isBlank c = false)
    (ends : ∀ c, cs.getLast? = some c → isBlank c = false) : trim cs = cs :=
  trimWhile_eq_self starts ends

theorem dropEndWhile_append {p : Char → Bool} (cs : List Char) {after : List Char}
    (dropped : ∀ c ∈ after, p c = true) : dropEndWhile p (cs ++ after) = dropEndWhile p cs := by
  have reversed : ∀ c ∈ after.reverse, p c = true := fun c member =>
    dropped c (List.mem_reverse.mp member)
  rw [dropEndWhile, List.reverse_append, List.dropWhile_append_of_pos reversed, dropEndWhile]

/-- Characters of the class around a text do not count for its trimmed form. -/
theorem trimWhile_append {p : Char → Bool} {before after : List Char} (cs : List Char)
    (droppedBefore : ∀ c ∈ before, p c = true) (droppedAfter : ∀ c ∈ after, p c = true) :
    trimWhile p (before ++ cs ++ after) = trimWhile p cs := by
  rw [trimWhile, List.append_assoc, List.dropWhile_append_of_pos droppedBefore,
    List.dropWhile_append]
  split
  · next none =>
    have noneAfter : (after ++ []).dropWhile p = [] := List.dropWhile_append_of_pos droppedAfter
    rw [List.append_nil] at noneAfter
    rw [trimWhile, noneAfter, List.isEmpty_iff.mp none]
  · rw [dropEndWhile_append _ droppedAfter, trimWhile]

/-- White space around a text does not count for its trimmed form. -/
theorem trim_spaced {before after : List Char} (cs : List Char)
    (blankBefore : ∀ c ∈ before, isBlank c = true) (blankAfter : ∀ c ∈ after, isBlank c = true) :
    trim (before ++ cs ++ after) = trim cs :=
  trimWhile_append cs blankBefore blankAfter

theorem mem_dropWhile {p : Char → Bool} {cs : List Char} {c : Char} (member : c ∈ cs)
    (kept : p c = false) : c ∈ cs.dropWhile p := by
  induction cs with
  | nil => cases member
  | cons head rest induction =>
      rw [List.dropWhile_cons]
      split
      · next dropped =>
        rcases List.mem_cons.mp member with rfl | later
        · rw [kept] at dropped
          cases dropped
        · exact induction later
      · exact member

/-- Only characters of the class are trimmed. -/
theorem mem_trimWhile {p : Char → Bool} {cs : List Char} {c : Char} (member : c ∈ cs)
    (kept : p c = false) : c ∈ trimWhile p cs := by
  rw [trimWhile, dropEndWhile, List.mem_reverse]
  exact mem_dropWhile (List.mem_reverse.mpr (mem_dropWhile member kept)) kept

theorem dropEndWhile_sublist (p : Char → Bool) (cs : List Char) :
    (dropEndWhile p cs).Sublist cs := by
  have reversed := (List.dropWhile_sublist p (l := cs.reverse)).reverse
  rwa [List.reverse_reverse] at reversed

theorem trim_sublist (cs : List Char) : (trim cs).Sublist cs :=
  (dropEndWhile_sublist isBlank _).trans (List.dropWhile_sublist isBlank)

theorem exists_dropEndWhile (p : Char → Bool) (cs : List Char) :
    ∃ after, dropEndWhile p cs ++ after = cs ∧ ∀ c ∈ after, p c = true := by
  refine ⟨(cs.reverse.takeWhile p).reverse, ?_, ?_⟩
  · rw [dropEndWhile, ← List.reverse_append, List.takeWhile_append_dropWhile, List.reverse_reverse]
  · intro c member
    exact List.all_eq_true.mp List.all_takeWhile c (List.mem_reverse.mp member)

/-- A text is its trimmed form with characters of the class around it. -/
theorem exists_trimWhile (p : Char → Bool) (cs : List Char) :
    ∃ before after, before ++ trimWhile p cs ++ after = cs ∧ (∀ c ∈ before, p c = true) ∧
      ∀ c ∈ after, p c = true := by
  obtain ⟨after, split, dropped⟩ := exists_dropEndWhile p (cs.dropWhile p)
  refine ⟨cs.takeWhile p, after, ?_, List.all_eq_true.mp List.all_takeWhile, dropped⟩
  rw [trimWhile, List.append_assoc, split, List.takeWhile_append_dropWhile]

end SchemaStore.Text
