import SchemaStore.Proofs.Text.Occurrence
import SchemaStore.Text.Percent

/-!
# Texts with percent signs

An escape is a percent sign with two hexadecimal digits after it.  Decoding leaves a text as it is
exactly when there is no escape in it: three characters of an escape give one byte, and bytes spell
at most as many characters as there are of them, so that a text with an escape gets shorter.  Any
text is decoded from the one in which its percent signs are escaped.
-/

namespace SchemaStore.Text

/-- A percent sign with two hexadecimal digits after it occurs in a text. -/
def HasEscape (cs : List Char) : Prop :=
  ∃ a b, (hexValue? a).isSome = true ∧ (hexValue? b).isSome = true ∧ ['%', a, b] <:+: cs

/-- A text with an escape in place of each percent sign. -/
def escapePercent (cs : List Char) : List Char :=
  cs.flatMap fun c => if c = '%' then "%25".toList else [c]

section Escape

variable {c : Char} {cs before after : List Char}

theorem code_of_hexValue? (digit : (hexValue? c).isSome = true) : c.toNat < 0x80 := by
  unfold hexValue? at digit
  split at digit
  · next decimal =>
    have code : 48 ≤ c.toNat ∧ c.toNat ≤ 57 := by
      simpa [Char.isDigit, UInt32.le_iff_toNat_le] using decimal
    omega
  · split at digit
    · next lower =>
      have last : c.toNat ≤ 'f'.toNat := lower.2
      exact Nat.lt_of_le_of_lt last (by decide)
    · split at digit
      · next upper =>
        have last : c.toNat ≤ 'F'.toNat := upper.2
        exact Nat.lt_of_le_of_lt last (by decide)
      · cases digit

theorem not_hasEscape_nil : ¬HasEscape [] := by
  rintro ⟨a, b, -, -, inside⟩
  exact absurd (List.infix_nil.mp inside) (List.cons_ne_nil _ _)

/-- An escape stands at the start of a text or after its first character. -/
theorem hasEscape_cons_iff :
    HasEscape (c :: cs) ↔
      (∃ a b rest, c = '%' ∧ cs = a :: b :: rest ∧ (hexValue? a).isSome = true ∧
        (hexValue? b).isSome = true) ∨ HasEscape cs := by
  constructor
  · rintro ⟨a, b, first, second, inside⟩
    rcases List.infix_cons_iff.mp inside with ⟨rest, starts⟩ | later
    · left
      cases starts
      exact ⟨a, b, rest, rfl, rfl, first, second⟩
    · right
      exact ⟨a, b, first, second, later⟩
  · rintro (⟨a, b, rest, rfl, rfl, first, second⟩ | ⟨a, b, first, second, later⟩)
    · exact ⟨a, b, first, second, ⟨[], rest, rfl⟩⟩
    · exact ⟨a, b, first, second, List.infix_cons later⟩

/-- An escape lies on one side of any character beyond ASCII. -/
theorem hasEscape_append_cons_iff (wide : 0x80 ≤ c.toNat) :
    HasEscape (before ++ c :: after) ↔ HasEscape before ∨ HasEscape after := by
  have apart {a b : Char} (first : (hexValue? a).isSome = true)
      (second : (hexValue? b).isSome = true) : c ∉ ['%', a, b] := by
    intro member
    have ascii : c.toNat < 0x80 := by
      rcases List.mem_cons.mp member with rfl | member
      · decide
      · rcases List.mem_cons.mp member with rfl | member
        · exact code_of_hexValue? first
        · rw [List.mem_singleton.mp member]
          exact code_of_hexValue? second
    omega
  constructor
  · rintro ⟨a, b, first, second, inside⟩
    rcases (infix_append_cons_iff (apart first second)).mp inside with inBefore | inAfter
    · exact .inl ⟨a, b, first, second, inBefore⟩
    · exact .inr ⟨a, b, first, second, inAfter⟩
  · rintro (⟨a, b, first, second, inBefore⟩ | ⟨a, b, first, second, inAfter⟩)
    · exact ⟨a, b, first, second, (infix_append_cons_iff (apart first second)).mpr (.inl inBefore)⟩
    · exact ⟨a, b, first, second, (infix_append_cons_iff (apart first second)).mpr (.inr inAfter)⟩

end Escape

section Bytes

theorem length_unescapeRun_le (cs : List Char) : (unescapeRun cs).length ≤ cs.length := by
  fun_induction unescapeRun cs with
  | case1 => exact Nat.le_refl _
  | case2 a b rest high low _ _ induction =>
      simp only [List.length_cons]
      omega
  | case3 a b rest _ induction =>
      simp only [List.length_cons] at induction ⊢
      omega
  | case4 c rest _ induction =>
      simp only [List.length_cons]
      omega

/-- Each escape gives a single byte. -/
theorem length_unescapeRun_lt {cs : List Char} (escaped : HasEscape cs) :
    (unescapeRun cs).length < cs.length := by
  fun_induction unescapeRun cs with
  | case1 => exact absurd escaped not_hasEscape_nil
  | case2 a b rest high low _ _ _ =>
      have shorter := length_unescapeRun_le rest
      simp only [List.length_cons]
      omega
  | case3 a b rest unread induction =>
      have later : HasEscape (a :: b :: rest) := by
        rcases hasEscape_cons_iff.mp escaped with ⟨_, _, _, -, same, first, second⟩ | later
        · cases same
          obtain ⟨high, highRead⟩ := Option.isSome_iff_exists.mp first
          obtain ⟨low, lowRead⟩ := Option.isSome_iff_exists.mp second
          exact (unread high low highRead lowRead).elim
        · exact later
      have shorter := induction later
      simp only [List.length_cons] at shorter ⊢
      omega
  | case4 c rest apart induction =>
      have later : HasEscape rest := by
        rcases hasEscape_cons_iff.mp escaped with ⟨a, b, others, same, followed, -, -⟩ | later
        · exact (apart a b others same followed).elim
        · exact later
      have shorter := induction later
      simp only [List.length_cons]
      omega

theorem unescapeRun_eq_map {cs : List Char} (plain : ¬HasEscape cs) :
    unescapeRun cs = cs.map Char.toNat := by
  fun_induction unescapeRun cs with
  | case1 => rfl
  | case2 a b rest high low lowRead highRead _ =>
      have escaped : HasEscape ('%' :: a :: b :: rest) := by
        apply hasEscape_cons_iff.mpr
        left
        exact ⟨a, b, rest, rfl, rfl, Option.isSome_of_eq_some highRead,
          Option.isSome_of_eq_some lowRead⟩
      exact absurd escaped plain
  | case3 a b rest _ induction =>
      rw [induction fun later => plain (hasEscape_cons_iff.mpr (.inr later)), ← List.map_cons]
  | case4 c rest _ induction =>
      rw [induction fun later => plain (hasEscape_cons_iff.mpr (.inr later)), List.map_cons]

theorem length_decodeBytes_le (bytes : List Nat) :
    (decodeBytes bytes).length ≤ bytes.length := by
  fun_induction decodeBytes bytes with
  | case1 => exact Nat.le_refl _
  | case2 byte rest _ induction =>
      simp only [List.length_cons]
      omega
  | case3 byte rest more _ _ _ _ _ _ induction =>
      simp only [List.length_cons, List.length_drop] at induction ⊢
      omega
  | case4 byte rest _ _ _ _ _ taken _ induction =>
      simp only [List.length_cons, List.length_drop] at induction ⊢
      omega

theorem decodeBytes_ne_nil {bytes : List Nat} (given : bytes ≠ []) : decodeBytes bytes ≠ [] := by
  fun_cases decodeBytes bytes with
  | case1 => exact absurd rfl given
  | case2 | case3 | case4 => exact List.cons_ne_nil _ _

/-- The bytes of ASCII text spell it. -/
theorem decodeBytes_ascii {cs : List Char} (ascii : ∀ c ∈ cs, c.toNat < 0x80) :
    decodeBytes (cs.map Char.toNat) = cs.map some := by
  induction cs with
  | nil => rw [List.map_nil, decodeBytes, List.map_nil]
  | cons c rest induction =>
      obtain ⟨first, later⟩ := List.forall_mem_cons.mp ascii
      have lead : leadByte? c.toNat = some (0, c.toNat, 0x80, 0xBF) := by
        rw [leadByte?, if_pos first]
      rw [List.map_cons, decodeBytes, lead]
      simp only [continuation, List.drop_zero, induction later, Char.ofNat_toNat, List.map_cons]

end Bytes

section Run

/-- The text that a run of ASCII text with escapes stands for. -/
def decodedRun (run : List Char) : List Char :=
  (decodeBytes (unescapeRun run)).map (·.getD '\uFFFD')

variable {run : List Char}

theorem length_decodedRun_le (run : List Char) : (decodedRun run).length ≤ run.length := by
  rw [decodedRun, List.length_map]
  exact (length_decodeBytes_le _).trans (length_unescapeRun_le run)

theorem length_decodedRun_lt (escaped : HasEscape run) :
    (decodedRun run).length < run.length := by
  rw [decodedRun, List.length_map]
  exact (length_decodeBytes_le _).trans_lt (length_unescapeRun_lt escaped)

theorem decodedRun_of_codes {text : List Char} (ascii : ∀ c ∈ text, c.toNat < 0x80)
    (codes : unescapeRun run = text.map Char.toNat) : decodedRun run = text := by
  rw [decodedRun, codes, decodeBytes_ascii ascii, List.map_map]
  exact List.map_id _

theorem decodedRun_ne_nil (given : run ≠ []) : decodedRun run ≠ [] := by
  have bytes : unescapeRun run ≠ [] := by
    fun_cases unescapeRun run with
    | case1 => exact absurd rfl given
    | case2 | case3 | case4 => exact List.cons_ne_nil _ _
  intro empty
  exact decodeBytes_ne_nil bytes (List.map_eq_nil_iff.mp empty)

theorem unescapeFrom_nil (run : List Char) : unescapeFrom run [] = decodedRun run.reverse :=
  rfl

theorem unescapeFrom_ascii {c : Char} (ascii : c.toNat < 0x80) (rest : List Char) :
    unescapeFrom run (c :: rest) = unescapeFrom (c :: run) rest := by
  rw [unescapeFrom, if_pos ascii]

theorem unescapeFrom_wide {c : Char} (wide : 0x80 ≤ c.toNat) (rest : List Char) :
    unescapeFrom run (c :: rest) = decodedRun run.reverse ++ c :: unescapeFrom [] rest := by
  rw [unescapeFrom, if_neg (Nat.not_lt.mpr wide), decodedRun]

end Run

section Text

variable {cs : List Char}

theorem unescapeFrom_eq_self {run : List Char} (ascii : ∀ c ∈ run, c.toNat < 0x80)
    (plain : ¬HasEscape (run.reverse ++ cs)) : unescapeFrom run cs = run.reverse ++ cs := by
  have asciiReversed {run : List Char} (ascii : ∀ c ∈ run, c.toNat < 0x80) :
      ∀ c ∈ run.reverse, c.toNat < 0x80 := fun c member => ascii c (List.mem_reverse.mp member)
  induction cs generalizing run with
  | nil =>
      rw [List.append_nil] at plain ⊢
      exact decodedRun_of_codes (asciiReversed ascii) (unescapeRun_eq_map plain)
  | cons c rest induction =>
      by_cases narrow : c.toNat < 0x80
      · have moved : (c :: run).reverse ++ rest = run.reverse ++ c :: rest := by simp
        rw [unescapeFrom_ascii narrow, ← moved]
        apply induction
        · exact List.forall_mem_cons.mpr ⟨narrow, ascii⟩
        · rwa [moved]
      · have wide : 0x80 ≤ c.toNat := Nat.not_lt.mp narrow
        rw [hasEscape_append_cons_iff wide, not_or] at plain
        have decoded : decodedRun run.reverse = run.reverse :=
          decodedRun_of_codes (asciiReversed ascii) (unescapeRun_eq_map plain.1)
        have later : unescapeFrom [] rest = rest := induction nofun plain.2
        rw [unescapeFrom_wide wide, decoded, later]

theorem length_unescapeFrom_le (run cs : List Char) :
    (unescapeFrom run cs).length ≤ run.length + cs.length := by
  induction cs generalizing run with
  | nil => simpa [unescapeFrom_nil] using length_decodedRun_le run.reverse
  | cons c rest induction =>
      by_cases narrow : c.toNat < 0x80
      · have shorter := induction (c :: run)
        rw [unescapeFrom_ascii narrow]
        simp only [List.length_cons] at shorter ⊢
        omega
      · have before := length_decodedRun_le run.reverse
        have shorter := induction []
        rw [unescapeFrom_wide (Nat.not_lt.mp narrow)]
        simp only [List.length_append, List.length_cons, List.length_reverse, List.length_nil]
          at before shorter ⊢
        omega

theorem length_unescapeFrom_lt {run : List Char} (escaped : HasEscape (run.reverse ++ cs)) :
    (unescapeFrom run cs).length < run.length + cs.length := by
  induction cs generalizing run with
  | nil =>
      rw [List.append_nil] at escaped
      simpa [unescapeFrom_nil] using length_decodedRun_lt escaped
  | cons c rest induction =>
      by_cases narrow : c.toNat < 0x80
      · have moved : HasEscape ((c :: run).reverse ++ rest) := by simpa using escaped
        have shorter := induction moved
        rw [unescapeFrom_ascii narrow]
        simp only [List.length_cons] at shorter ⊢
        omega
      · have wide : 0x80 ≤ c.toNat := Nat.not_lt.mp narrow
        have before := length_decodedRun_le run.reverse
        have after := length_unescapeFrom_le [] rest
        rw [unescapeFrom_wide wide]
        simp only [List.length_append, List.length_cons, List.length_reverse, List.length_nil]
          at before after ⊢
        rcases (hasEscape_append_cons_iff wide).mp escaped with inRun | inRest
        · have shorter := length_decodedRun_lt inRun
          rw [List.length_reverse] at shorter
          omega
        · have shorter : (unescapeFrom [] rest).length < 0 + rest.length := induction inRest
          omega

/-- Only escapes are decoded, and no escape is left as it is. -/
theorem unescape_eq_self_iff : unescape cs = cs ↔ ¬HasEscape cs := by
  constructor
  · intro same escaped
    have shorter : (unescape cs).length < 0 + cs.length := length_unescapeFrom_lt escaped
    rw [same] at shorter
    omega
  · intro plain
    have ascii : ∀ c ∈ ([] : List Char), c.toNat < 0x80 := nofun
    exact unescapeFrom_eq_self ascii plain

theorem unescapeFrom_ne_nil {run : List Char} (given : run ≠ [] ∨ cs ≠ []) :
    unescapeFrom run cs ≠ [] := by
  induction cs generalizing run with
  | nil =>
      rw [unescapeFrom_nil]
      apply decodedRun_ne_nil
      simpa using given
  | cons c rest induction =>
      by_cases narrow : c.toNat < 0x80
      · rw [unescapeFrom_ascii narrow]
        exact induction (.inl (List.cons_ne_nil _ _))
      · rw [unescapeFrom_wide (Nat.not_lt.mp narrow)]
        exact List.append_ne_nil_of_right_ne_nil _ (List.cons_ne_nil _ _)

theorem unescape_ne_nil (given : cs ≠ []) : unescape cs ≠ [] :=
  unescapeFrom_ne_nil (.inr given)

theorem unescapeRun_escapePercent (cs : List Char) :
    unescapeRun (escapePercent cs) = cs.map Char.toNat := by
  induction cs with
  | nil => rfl
  | cons c rest induction =>
      by_cases percent : c = '%'
      · subst c
        have spelled : escapePercent ('%' :: rest) = '%' :: '2' :: '5' :: escapePercent rest := rfl
        rw [spelled, List.map_cons, ← induction]
        rfl
      · have kept : escapePercent (c :: rest) = c :: escapePercent rest := by
          simp [escapePercent, percent]
        rw [kept, unescapeRun, induction, List.map_cons]
        rintro a b others rfl
        exact absurd rfl percent

/-- Escaped percent signs are decoded, with an escaped run of ASCII text before them. -/
theorem unescapeFrom_escapePercent {text : List Char} (ascii : ∀ c ∈ text, c.toNat < 0x80)
    (cs : List Char) :
    unescapeFrom (escapePercent text).reverse (escapePercent cs) = text ++ cs := by
  induction cs generalizing text with
  | nil =>
      rw [List.append_nil]
      have whole : escapePercent [] = [] := rfl
      rw [whole, unescapeFrom_nil, List.reverse_reverse]
      exact decodedRun_of_codes ascii (unescapeRun_escapePercent text)
  | cons c rest induction =>
      by_cases narrow : c.toNat < 0x80
      · have ascii' : ∀ other ∈ text ++ [c], other.toNat < 0x80 := by
          intro other member
          rcases List.mem_append.mp member with inText | last
          · exact ascii other inText
          · rwa [List.mem_singleton.mp last]
        have moved : unescapeFrom (escapePercent text).reverse (escapePercent (c :: rest)) =
            unescapeFrom (escapePercent (text ++ [c])).reverse (escapePercent rest) := by
          by_cases percent : c = '%'
          · subst c
            simp [escapePercent, unescapeFrom_ascii (show '%'.toNat < 0x80 by decide),
              unescapeFrom_ascii (show '2'.toNat < 0x80 by decide),
              unescapeFrom_ascii (show '5'.toNat < 0x80 by decide)]
          · simp [escapePercent, percent, unescapeFrom_ascii narrow]
        rw [moved, induction ascii', List.append_assoc, List.singleton_append]
      · have wide : 0x80 ≤ c.toNat := Nat.not_lt.mp narrow
        have kept : escapePercent (c :: rest) = c :: escapePercent rest := by
          have other : c ≠ '%' := by
            rintro rfl
            exact narrow (by decide)
          simp [escapePercent, other]
        have decoded : decodedRun (escapePercent text) = text :=
          decodedRun_of_codes ascii (unescapeRun_escapePercent text)
        have noText : ∀ c ∈ ([] : List Char), c.toNat < 0x80 := nofun
        have later : unescapeFrom [] (escapePercent rest) = rest := induction noText
        rw [kept, unescapeFrom_wide wide, List.reverse_reverse, decoded, later]

/-- A text is read from its escaped form. -/
theorem unescape_escapePercent (cs : List Char) : unescape (escapePercent cs) = cs := by
  have noText : ∀ c ∈ ([] : List Char), c.toNat < 0x80 := nofun
  exact unescapeFrom_escapePercent noText cs

end Text

end SchemaStore.Text
