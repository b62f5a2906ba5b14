/-!
# Results of steps that may fail

A computation in `Except` succeeds exactly when all of its steps do.  The
lemmas below take a successful computation apart into its steps.
-/

namespace SchemaStore

variable {ε ε' α β : Type}

theorem Except.bind_eq_ok {step : Except ε α} {next : α → Except ε β} {b : β} :
    step >>= next = .ok b ↔ ∃ a, step = .ok a ∧ next a = .ok b := by
  constructor
  · intro succeeded
    cases step with
    | error cause => cases succeeded
    | ok a => exact ⟨a, rfl, succeeded⟩
  · rintro ⟨a, rfl, succeeded⟩
    exact succeeded

theorem Except.bind_eq_error {step : Except ε α} {next : α → Except ε β} {cause : ε} :
    step >>= next = .error cause ↔
      step = .error cause ∨ ∃ a, step = .ok a ∧ next a = .error cause := by
  cases step with
  | error other => simp [bind, Except.bind]
  | ok a => simp [bind, Except.bind]

theorem Except.ok_bind (a : α) (next : α → Except ε β) : Except.ok a >>= next = next a :=
  rfl

theorem Except.map_eq_ok {step : Except ε α} {f : α → β} {b : β} :
    f <$> step = .ok b ↔ ∃ a, step = .ok a ∧ f a = b := by
  constructor
  · intro succeeded
    cases step with
    | error cause => cases succeeded
    | ok a =>
        cases succeeded
        exact ⟨a, rfl, rfl⟩
  · rintro ⟨a, rfl, rfl⟩
    rfl

theorem Except.pure_eq_ok {a b : α} :
    (pure a : Except ε α) = .ok b ↔ a = b := by
  constructor
  · intro succeeded
    cases succeeded
    rfl
  · rintro rfl
    rfl

theorem Except.mapError_eq_ok {step : Except ε α} {f : ε → ε'} {a : α} :
    step.mapError f = .ok a ↔ step = .ok a := by
  cases step with
  | error cause => constructor <;> intro succeeded <;> cases succeeded
  | ok other =>
      constructor
      · intro succeeded
        cases succeeded
        rfl
      · intro same
        cases same
        rfl

/-- A failure of either step is changed alike. -/
theorem Except.mapError_bind (step : Except ε α) (next : α → Except ε β) (f : ε → ε') :
    (step >>= next).mapError f = step.mapError f >>= fun a => (next a).mapError f := by
  cases step with
  | error cause => rfl
  | ok a => rfl

theorem Except.forM_eq_ok {check : α → Except ε Unit} {items : List α} :
    items.forM check = .ok () ↔ ∀ item ∈ items, check item = .ok () := by
  induction items with
  | nil => simp [Except.pure_eq_ok]
  | cons item rest induction =>
      rw [List.forM, Except.bind_eq_ok, List.forall_mem_cons, ← induction]
      constructor
      · rintro ⟨⟨⟩, passed, others⟩
        exact ⟨passed, others⟩
      · rintro ⟨passed, others⟩
        exact ⟨(), passed, others⟩

/-- Checks over a list fail as one of them does. -/
theorem Except.exists_of_forM_eq_error {check : α → Except ε Unit} {items : List α} {cause : ε}
    (failed : items.forM check = .error cause) : ∃ item ∈ items, check item = .error cause := by
  induction items with
  | nil => cases failed
  | cons item rest induction =>
      rw [List.forM] at failed
      cases checked : check item with
      | error other =>
          rw [checked] at failed
          cases failed
          exact ⟨item, List.mem_cons_self, checked⟩
      | ok =>
          rw [checked] at failed
          obtain ⟨later, member, same⟩ := induction failed
          exact ⟨later, List.mem_cons_of_mem _ member, same⟩

/-- The step gives a result. -/
def Except.Succeeds (step : Except ε α) : Prop :=
  ∃ a, step = .ok a

theorem Except.succeeds_ok (a : α) : Except.Succeeds (.ok a : Except ε α) :=
  ⟨a, rfl⟩

theorem Except.not_succeeds_error (cause : ε) : ¬Except.Succeeds (.error cause : Except ε α) := by
  rintro ⟨a, failed⟩
  cases failed

instance (step : Except ε α) : Decidable (Except.Succeeds step) :=
  match step with
  | .ok a => .isTrue ⟨a, rfl⟩
  | .error cause => .isFalse (Except.not_succeeds_error cause)

theorem Except.exists_of_toOption {step : Except ε α} {f : α → β} {b : β}
    (known : step.toOption.map f = some b) : ∃ a, step = .ok a ∧ f a = b := by
  cases step with
  | ok a => exact ⟨a, rfl, Option.some.inj known⟩
  | error cause => cases known

/-- If what follows a step does not depend on its result, both have to succeed. -/
theorem Except.succeeds_bind {step : Except ε α} {next : α → Except ε β} {goes : Prop}
    (goesOn : ∀ a, step = .ok a → (Except.Succeeds (next a) ↔ goes)) :
    Except.Succeeds (step >>= next) ↔ Except.Succeeds step ∧ goes := by
  constructor
  · rintro ⟨b, succeeded⟩
    obtain ⟨a, stepped, followed⟩ := Except.bind_eq_ok.mp succeeded
    exact ⟨⟨a, stepped⟩, (goesOn a stepped).mp ⟨b, followed⟩⟩
  · rintro ⟨⟨a, stepped⟩, goes⟩
    obtain ⟨b, followed⟩ := (goesOn a stepped).mpr goes
    exact ⟨b, Except.bind_eq_ok.mpr ⟨a, stepped, followed⟩⟩

/-- A step followed by one that cannot fail succeeds when the first one does. -/
theorem Except.succeeds_bind_ok {step : Except ε α} {next : α → Except ε β}
    (total : ∀ a, Except.Succeeds (next a)) :
    Except.Succeeds (step >>= next) ↔ Except.Succeeds step := by
  have always (a : α) (_ : step = .ok a) : Except.Succeeds (next a) ↔ True :=
    iff_true_intro (total a)
  rw [Except.succeeds_bind always, and_true]

theorem Except.succeeds_mapM {step : α → Except ε β} {items : List α} :
    Except.Succeeds (items.mapM step) ↔ ∀ item ∈ items, Except.Succeeds (step item) := by
  induction items with
  | nil => exact iff_of_true (Except.succeeds_ok []) (by simp)
  | cons item rest induction =>
      rw [List.mapM_cons, List.forall_mem_cons, ← induction]
      refine Except.succeeds_bind fun b _ => ?_
      exact Except.succeeds_bind_ok fun others => Except.succeeds_ok _

/-- Steps over a list succeed with the results of the single steps. -/
theorem Except.mapM_eq_ok {step : α → Except ε β} {items : List α} {results : List β} :
    items.mapM step = .ok results ↔ items.map step = results.map .ok := by
  induction items generalizing results with
  | nil =>
      rw [List.mapM_nil, Except.pure_eq_ok, List.map_nil, eq_comm (a := []), eq_comm (a := []),
        List.map_eq_nil_iff]
  | cons item rest induction =>
      rw [List.mapM_cons, Except.bind_eq_ok]
      constructor
      · rintro ⟨result, stepped, followed⟩
        obtain ⟨others, ran, same⟩ := Except.bind_eq_ok.mp followed
        cases same
        rw [List.map_cons, stepped, induction.mp ran, List.map_cons]
      · intro same
        obtain ⟨result, others, rfl, stepped, ran⟩ := List.map_eq_cons_iff.mp same.symm
        exact ⟨result, stepped.symm, Except.bind_eq_ok.mpr ⟨others, induction.mpr ran.symm, rfl⟩⟩

theorem Except.length_of_mapM {step : α → Except ε β} {items : List α} {results : List β}
    (ran : items.mapM step = .ok results) : results.length = items.length := by
  have same := congrArg List.length (mapM_eq_ok.mp ran)
  simpa using same.symm

theorem Except.mapM_append_eq_ok {step : α → Except ε β} {items others : List α}
    {results further : List β} (first : items.mapM step = .ok results)
    (second : others.mapM step = .ok further) :
    (items ++ others).mapM step = .ok (results ++ further) := by
  rw [mapM_eq_ok] at first second ⊢
  rw [List.map_append, List.map_append, first, second]

/-- Steps that give what is known of the items that their own items were made from. -/
theorem Except.mapM_of_mapM {γ : Type} {first : α → Except ε β} {second : β → Except ε γ}
    {f : α → γ} {items : List α} {results : List β} (ran : items.mapM first = .ok results)
    (each : ∀ item ∈ items, ∀ result, first item = .ok result → second result = .ok (f item)) :
    results.mapM second = .ok (items.map f) := by
  rw [mapM_eq_ok] at ran ⊢
  induction items generalizing results with
  | nil => rw [List.map_eq_nil_iff.mp ran.symm, List.map_nil, List.map_nil, List.map_nil]
  | cons item rest induction =>
      obtain ⟨here, later⟩ := List.forall_mem_cons.mp each
      obtain ⟨result, others, rfl, stepped, ran⟩ := List.map_eq_cons_iff.mp ran.symm
      rw [List.map_cons, here result stepped.symm, induction ran.symm later]
      rfl

theorem Except.mapM_congr {step other : α → Except ε β} {items : List α}
    (same : ∀ item ∈ items, step item = other item) : items.mapM step = items.mapM other := by
  induction items with
  | nil => rfl
  | cons item rest induction =>
      obtain ⟨here, later⟩ := List.forall_mem_cons.mp same
      rw [List.mapM_cons, List.mapM_cons, here, induction later]

/-- Results can be put into another form one by one. -/
theorem Except.map_mapM {γ : Type} (f : β → γ) (step : α → Except ε β) (items : List α) :
    List.map f <$> items.mapM step = items.mapM fun item => f <$> step item := by
  induction items with
  | nil => rfl
  | cons item rest induction =>
      rw [List.mapM_cons, List.mapM_cons, ← induction]
      cases step item with
      | error cause => rfl
      | ok result => cases rest.mapM step <;> rfl

/-- What is known of each result of steps is known of all of them. -/
theorem Except.map_eq_of_mapM {γ : Type} {step : α → Except ε β} {f : β → γ} {g : α → γ}
    {items : List α} {results : List β} (ran : items.mapM step = .ok results)
    (each : ∀ item ∈ items, ∀ result, step item = .ok result → f result = g item) :
    results.map f = items.map g := by
  rw [mapM_eq_ok] at ran
  induction items generalizing results with
  | nil => rw [List.map_eq_nil_iff.mp ran.symm, List.map_nil, List.map_nil]
  | cons item rest induction =>
      obtain ⟨here, later⟩ := List.forall_mem_cons.mp each
      obtain ⟨result, others, rfl, stepped, ran⟩ := List.map_eq_cons_iff.mp ran.symm
      rw [List.map_cons, List.map_cons, here result stepped.symm, induction ran.symm later]

/-- A result of steps is that of one of them. -/
theorem Except.exists_of_mem_mapM {step : α → Except ε β} {items : List α} {results : List β}
    (ran : items.mapM step = .ok results) {result : β} (member : result ∈ results) :
    ∃ item ∈ items, step item = .ok result := by
  have made : Except.ok result ∈ items.map step := by
    rw [mapM_eq_ok.mp ran]
    exact List.mem_map_of_mem member
  exact List.mem_map.mp made

/-- The result of one of several steps is among theirs. -/
theorem Except.mem_of_mapM {step : α → Except ε β} {items : List α} {results : List β}
    (ran : items.mapM step = .ok results) {item : α} (member : item ∈ items) {result : β}
    (stepped : step item = .ok result) : result ∈ results := by
  have made : Except.ok result ∈ results.map (Except.ok (ε := ε)) := by
    rw [← mapM_eq_ok.mp ran, ← stepped]
    exact List.mem_map_of_mem member
  obtain ⟨other, known, same⟩ := List.mem_map.mp made
  cases same
  exact known

/-- Steps over a list go on from what its items gave. -/
theorem Except.mapM_bind {γ : Type} {first : α → Except ε β} {items : List α} {results : List β}
    (ran : items.mapM first = .ok results) (second : α → β → Except ε γ) :
    (items.mapM fun item => first item >>= second item) =
      (items.zip results).mapM fun (item, result) => second item result := by
  induction items generalizing results with
  | nil => rfl
  | cons item rest induction =>
      rw [List.mapM_cons] at ran
      obtain ⟨result, stepped, followed⟩ := bind_eq_ok.mp ran
      obtain ⟨others, later, made⟩ := bind_eq_ok.mp followed
      cases made
      rw [List.mapM_cons, List.zip_cons_cons, List.mapM_cons, induction later, stepped]
      rfl

theorem Except.mapM_drop {step : α → Except ε β} {items : List α} {results : List β}
    (ran : items.mapM step = .ok results) (n : Nat) :
    (items.drop n).mapM step = .ok (results.drop n) := by
  rw [mapM_eq_ok] at ran ⊢
  rw [List.map_drop, ran, List.map_drop]

/-- Steps over a list fail as one of them does. -/
theorem Except.exists_of_mapM_eq_error {step : α → Except ε β} {items : List α} {cause : ε}
    (failed : items.mapM step = .error cause) : ∃ item ∈ items, step item = .error cause := by
  induction items with
  | nil => cases failed
  | cons item rest induction =>
      rw [List.mapM_cons] at failed
      rcases Except.bind_eq_error.mp failed with first | ⟨b, -, later⟩
      · exact ⟨item, List.mem_cons_self, first⟩
      · rcases Except.bind_eq_error.mp later with others | ⟨_, -, done⟩
        · obtain ⟨other, member, same⟩ := induction others
          exact ⟨other, List.mem_cons_of_mem _ member, same⟩
        · cases done

/-- What holds of no items and is kept by every step, of the items so far and the state they lead
to, holds after a run of all of them. -/
theorem Except.foldlM_induction {step : β → α → Except ε β} {holds : List α → β → Prop}
    (kept : ∀ done state item next, holds done state → step state item = .ok next →
      holds (done ++ [item]) next)
    {items : List α} {start final : β} (initial : holds [] start)
    (ran : items.foldlM step start = .ok final) : holds items final := by
  have after : ∀ (rest done : List α) (state : β), holds done state →
      rest.foldlM step state = .ok final → holds (done ++ rest) final := by
    intro rest
    induction rest with
    | nil =>
        intro done state known ran
        cases ran
        rwa [List.append_nil]
    | cons item rest induction =>
        intro done state known ran
        rw [List.foldlM_cons] at ran
        obtain ⟨next, stepped, others⟩ := Except.bind_eq_ok.mp ran
        rw [List.append_cons]
        exact induction _ next (kept done state item next known stepped) others
  exact after items [] start initial ran

/-- What every step keeps holds after a run of all of them. -/
theorem Except.foldlM_invariant {step : β → α → Except ε β} {holds : β → Prop}
    (kept : ∀ state item next, holds state → step state item = .ok next → holds next)
    {items : List α} {start final : β} (initial : holds start)
    (ran : items.foldlM step start = .ok final) : holds final :=
  @foldlM_induction _ _ _ _ (fun _ state => holds state) (fun _ => kept) _ _ _ initial ran

/-- A run fails at one of its items, after those before it. -/
theorem Except.exists_of_foldlM_eq_error {step : β → α → Except ε β} {items : List α} {start : β}
    {cause : ε} (failed : items.foldlM step start = .error cause) :
    ∃ before item after state, items = before ++ item :: after ∧
      before.foldlM step start = .ok state ∧ step state item = .error cause := by
  induction items generalizing start with
  | nil => cases failed
  | cons first rest induction =>
      rw [List.foldlM_cons] at failed
      rcases Except.bind_eq_error.mp failed with here | ⟨next, stepped, others⟩
      · exact ⟨[], first, rest, start, rfl, rfl, here⟩
      · obtain ⟨before, item, after, state, rfl, ran, stopped⟩ := induction others
        refine ⟨first :: before, item, after, state, rfl, ?_, stopped⟩
        rw [List.foldlM_cons, stepped]
        exact ran

end SchemaStore
