import SchemaStore.Proofs.Reconciliation.Attempt

/-!
# Sequences of series

`Proceeds` says that series of attempts go through steps in order, and that
nothing comes after a series that did not do its step.  If the steps are
different, the series can be read off the attempts, and the attempts before any
one of them tell which steps were done by then.
-/

namespace SchemaStore

/-- Series of attempts go through steps in order, up to the first one that does not do its step. -/
inductive Proceeds (limit : Nat) : List RunStep → List (List Attempt) → Prop where
  | stop (steps : List RunStep) : Proceeds limit steps []
  | failed {step : RunStep} {tries : List Attempt} (steps : List RunStep)
      (series : Series limit step tries) (fails : Attempt.didStep limit tries = false) :
      Proceeds limit (step :: steps) [tries]
  | next {step : RunStep} {tries : List Attempt} {steps : List RunStep}
      {groups : List (List Attempt)} (series : Series limit step tries)
      (did : Attempt.didStep limit tries = true) (rest : Proceeds limit steps groups) :
      Proceeds limit (step :: steps) (tries :: groups)

/-- The steps that series of attempts are at, in order. -/
def stepsTried (groups : List (List Attempt)) : List RunStep :=
  groups.filterMap fun tries => tries.head?.map Attempt.step

namespace Series

variable {limit : Nat} {step : RunStep} {tries : List Attempt}

theorem stepsDone_cons (series : Series limit step tries)
    (did : Attempt.didStep limit tries = true) (groups : List (List Attempt)) :
    stepsDone limit (tries :: groups) = step :: stepsDone limit groups := by
  simp [stepsDone, did, series.head?_step]

theorem stepsDone_of_not_did (fails : Attempt.didStep limit tries = false) :
    stepsDone limit [tries] = [] := by
  simp [stepsDone, fails]

end Series

namespace Proceeds

variable {limit : Nat} {steps more : List RunStep} {groups others : List (List Attempt)}

theorem exists_series (proceeds : Proceeds limit steps groups) {tries : List Attempt}
    (member : tries ∈ groups) : ∃ step ∈ steps, Series limit step tries := by
  induction proceeds with
  | stop => cases member
  | failed steps series =>
      rw [List.mem_singleton.mp member]
      exact ⟨_, List.mem_cons_self, series⟩
  | next series did rest induction =>
      rcases List.mem_cons.mp member with rfl | later
      · exact ⟨_, List.mem_cons_self, series⟩
      · obtain ⟨step, mem, ofStep⟩ := induction later
        exact ⟨step, List.mem_cons_of_mem _ mem, ofStep⟩

theorem stepsTried_prefix (proceeds : Proceeds limit steps groups) :
    stepsTried groups <+: steps := by
  induction proceeds with
  | stop => exact List.nil_prefix
  | failed steps series =>
      simp only [stepsTried, List.filterMap_cons, series.head?_step]
      exact List.prefix_cons_inj _ |>.mpr List.nil_prefix
  | next series did rest induction =>
      simp only [stepsTried, List.filterMap_cons, series.head?_step] at induction ⊢
      exact List.prefix_cons_inj _ |>.mpr induction

theorem stepsDone_prefix (proceeds : Proceeds limit steps groups) :
    stepsDone limit groups <+: steps := by
  induction proceeds with
  | stop => exact List.nil_prefix
  | failed steps series fails =>
      rw [Series.stepsDone_of_not_did fails]
      exact List.nil_prefix
  | next series did rest induction =>
      rw [series.stepsDone_cons did]
      exact List.prefix_cons_inj _ |>.mpr induction

theorem nothing_after (proceeds : Proceeds limit steps groups) {tries : List Attempt}
    {before after : List (List Attempt)} (split : groups = before ++ tries :: after)
    (fails : Attempt.didStep limit tries = false) : after = [] := by
  induction proceeds generalizing before with
  | stop => simp at split
  | failed steps series =>
      cases before with
      | nil => exact (List.cons.inj split).2.symm
      | cons => simp at split
  | next series did rest induction =>
      cases before with
      | nil =>
          obtain ⟨rfl, -⟩ := List.cons.inj split
          rw [did] at fails
          cases fails
      | cons => exact induction (List.cons.inj split).2

theorem extend (proceeds : Proceeds limit steps groups) (more : List RunStep) :
    Proceeds limit (steps ++ more) groups := by
  induction proceeds with
  | stop steps => exact .stop _
  | failed steps series fails => exact .failed _ series fails
  | next series did rest induction => exact .next series did induction

/-- When all steps are done, others can follow. -/
theorem append (proceeds : Proceeds limit steps groups) (done : stepsDone limit groups = steps)
    (rest : Proceeds limit more others) : Proceeds limit (steps ++ more) (groups ++ others) := by
  induction proceeds with
  | stop steps =>
      cases done
      exact rest
  | failed steps series fails =>
      rw [Series.stepsDone_of_not_did fails] at done
      cases done
  | next series did _ induction =>
      rw [series.stepsDone_cons did] at done
      exact .next series did (induction (List.cons.inj done).2)

/-- The probes that were done have shown tables, and no other attempts have. -/
theorem length_shown (proceeds : Proceeds limit steps groups) :
    (shown groups.flatten).length = (stepsDone limit groups).countP RunStep.isProbe := by
  induction proceeds with
  | stop => rfl
  | failed steps series fails =>
      rw [List.flatten_singleton]
      exact series.length_shown
  | @next _ tries _ groups series did rest induction =>
      have split : stepsDone limit (tries :: groups) =
          stepsDone limit [tries] ++ stepsDone limit groups :=
        stepsDone_append limit [tries] groups
      rw [List.flatten_cons, shown_append, List.length_append, series.length_shown, induction,
        split, List.countP_append]

/-- The attempts before any one of them go through the steps before its step, and did all these
steps. -/
theorem before (proceeds : Proceeds limit steps groups) {attempt : Attempt}
    {earlier later : List Attempt} (split : groups.flatten = earlier ++ attempt :: later) :
    ∃ others, Proceeds limit steps others ∧ others.flatten = earlier ∧
      (stepsDone limit others ++ [attempt.step]) <+: steps := by
  -- The attempts at the step itself are a series, cut short, that has not done it yet.
  have cut {step : RunStep} {steps : List RunStep} {tries earlier rest : List Attempt}
      (series : Series limit step tries) (within : tries = earlier ++ attempt :: rest) :
      ∃ others, Proceeds limit (step :: steps) others ∧ others.flatten = earlier ∧
        (stepsDone limit others ++ [attempt.step]) <+: step :: steps := by
    have ofStep : attempt.step = step := series.ofStep attempt (by simp [within])
    subst within
    cases earlier with
    | nil =>
        refine ⟨[], .stop _, rfl, ?_⟩
        rw [ofStep]
        exact List.prefix_cons_inj _ |>.mpr List.nil_prefix
    | cons first rest =>
        obtain ⟨short, fails⟩ := series.before (List.cons_ne_nil _ _) (List.cons_ne_nil _ _)
        refine ⟨[first :: rest], .failed _ short fails, List.flatten_singleton, ?_⟩
        rw [Series.stepsDone_of_not_did fails, ofStep]
        exact List.prefix_cons_inj _ |>.mpr List.nil_prefix
  induction proceeds generalizing earlier with
  | stop => simp at split
  | failed steps series =>
      rw [List.flatten_singleton] at split
      exact cut series split
  | @next step tries steps groups series did rest induction =>
      have onward {middle : List Attempt} (split : groups.flatten = middle ++ attempt :: later) :
          ∃ others, Proceeds limit (step :: steps) others ∧ others.flatten = tries ++ middle ∧
            (stepsDone limit others ++ [attempt.step]) <+: step :: steps := by
        obtain ⟨others, proceeds, flat, done⟩ := induction split
        refine ⟨tries :: others, .next series did proceeds, by rw [List.flatten_cons, flat], ?_⟩
        rw [series.stepsDone_cons did]
        exact List.prefix_cons_inj _ |>.mpr done
      rw [List.flatten_cons, List.append_eq_append_iff] at split
      rcases split with ⟨middle, rfl, split⟩ | ⟨middle, within, split⟩
      · exact onward split
      · cases middle with
        | nil =>
            rw [List.append_nil] at within
            rw [← within, ← tries.append_nil]
            exact onward split.symm
        | cons other middle =>
            obtain ⟨rfl, -⟩ := List.cons.inj split
            exact cut series within

/-- The series can be read off the attempts if the steps are different. -/
theorem splitBy_flatten (proceeds : Proceeds limit steps groups) (different : steps.Nodup) :
    groups.flatten.splitBy Attempt.sameStep = groups := by
  refine List.splitBy_flatten ?_ ?_ ?_
  · intro empty
    obtain ⟨step, -, series⟩ := proceeds.exists_series empty
    exact series.nonempty rfl
  · intro tries member
    obtain ⟨step, -, series⟩ := proceeds.exists_series member
    refine List.Pairwise.isChain (List.pairwise_of_forall_mem_list ?_)
    intro attempt first other second
    simp [Attempt.sameStep, series.ofStep attempt first, series.ofStep other second]
  · induction proceeds with
    | stop => exact List.isChain_nil
    | failed => exact List.isChain_singleton _
    | next series did rest induction =>
        obtain ⟨fresh, different⟩ := List.nodup_cons.mp different
        refine List.isChain_cons.mpr ⟨fun tries head => ?_, induction different⟩
        obtain ⟨step, later, others⟩ := rest.exists_series (List.mem_of_mem_head? head)
        refine ⟨series.nonempty, others.nonempty, ?_⟩
        rw [Attempt.sameStep, series.ofStep _ (List.getLast_mem _),
          others.ofStep _ (List.head_mem _)]
        exact beq_false_of_ne fun same => fresh (same ▸ later)

end Proceeds

end SchemaStore
