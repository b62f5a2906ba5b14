import Mathlib.Data.List.Perm.Subperm
import SchemaStore.Proofs.Reconciliation.Completion
import SchemaStore.Proofs.Reconciliation.Reporting
import SchemaStore.Proofs.Reconciliation.Schedule

/-!
# Runs go in order

`Course` says how a run goes through the steps of its schedule until it completes
or fails.  `Reconciler.run_orderly` reads off the events of any run what was
attempted, in which order, and what the report says about it.
-/

namespace SchemaStore

/-- The lock is granted, and it is given back without failure. -/
def Event.servesLock : Event Request Request.Reply → Bool
  | .asked (.lock ..) reply =>
      match (reply : Except Failure LockAnswer) with
      | .ok answer => Reconciler.isGranted answer.value
      | .error _ => false
  | .asked (.unlock ..) reply => (reply : Except Failure Unit).isOk
  | _ => true

namespace Reconciler

/-- How a run goes through entities: the series of attempts, the tables that were shown, the plans
that were finished, and how the run ends. -/
inductive Course (reconciler : Reconciler) : List Entity → List (List Attempt) →
    List TableState → List ReconciliationPlan → Except Failure Unit → Prop where
  | finished : Course reconciler [] [] [] [] (.ok ())
  /-- The table of the next entity is not shown. -/
  | unseen {entity : Entity} {groups : List (List Attempt)} {failure : Failure}
      (rest : List Entity)
      (proceeds : Proceeds reconciler.policy.limit [.probe entity.tableName] groups)
      (undone : stepsDone reconciler.policy.limit groups = []) :
      Course reconciler (entity :: rest) groups [] [] (.error failure)
  /-- The plan for the next entity is not finished. -/
  | stopped {entity : Entity} {groups : List (List Attempt)} {live : TableState}
      {failure : Failure} (rest : List Entity)
      (proceeds : Proceeds reconciler.policy.limit (reconciler.entitySteps entity live) groups)
      (shows : shown groups.flatten = [live])
      (undone : isOwnError failure = true →
        stepsDone reconciler.policy.limit groups ≠ reconciler.entitySteps entity live) :
      Course reconciler (entity :: rest) groups [live] [] (.error failure)
  | next {entity : Entity} {groups others : List (List Attempt)} {live : TableState}
      {rest : List Entity} {lives : List TableState} {plans : List ReconciliationPlan}
      {outcome : Except Failure Unit}
      (proceeds : Proceeds reconciler.policy.limit (reconciler.entitySteps entity live) groups)
      (shows : shown groups.flatten = [live])
      (done : stepsDone reconciler.policy.limit groups = reconciler.entitySteps entity live)
      (later : Course reconciler rest others lives plans outcome) :
      Course reconciler (entity :: rest) (groups ++ others) (live :: lives)
        (reconciler.planFor entity live :: plans) outcome

section Stages

variable {State : Type} {backend : Backend State} {reconciler : Reconciler} {entity : Entity}
  {start final : Progress × State} {events : List (Event Request Request.Reply)}

theorem didStep_eq {limit : Nat} {tries : List Attempt} {attempt : Attempt}
    (atEnd : tries.getLast? = some attempt) :
    Attempt.didStep limit tries = attempt.isDone (tries.length == limit) := by
  rw [Attempt.didStep, atEnd, Option.any_some]

/-- A probe is done exactly if it gives the table that it shows. -/
theorem probe_did {outcome : Except Failure TableState}
    (ends : (reconciler.probe entity).Ends backend start outcome events final) :
    Series reconciler.policy.limit (.probe entity.tableName) (attempts events) ∧
      Attempt.didStep reconciler.policy.limit (attempts events) = outcome.isOk ∧
      shown (attempts events) = outcome.toOption.toList ∧ final.1.plans = start.1.plans := by
  obtain ⟨series, samePlans, last, ended, atEnd, concluded, rfl⟩ := probe_ends ends
  rw [series.shown_eq, didStep_eq atEnd, atEnd]
  cases concluded <;> exact ⟨series, rfl, rfl, samePlans⟩

/-- A change is done exactly if the stage that makes it ends well. -/
theorem applyAction_did {stage : RunStage} {action : DdlAction} {outcome : Except Failure Unit}
    (ends : (reconciler.applyAction entity stage action).Ends backend start outcome events final) :
    Series reconciler.policy.limit (.change action) (attempts events) ∧
      Attempt.didStep reconciler.policy.limit (attempts events) = outcome.isOk ∧
      final.1.plans = start.1.plans := by
  obtain ⟨series, samePlans, last, ended, atEnd, concluded, rfl⟩ := applyAction_ends ends
  exact ⟨series, (didStep_eq atEnd).trans (isDone_of_concluded concluded), samePlans⟩

/-- Changes are attempted in order, and all of them are done exactly if the stage ends well. -/
theorem applyAll_ends {stage : RunStage} {actions : List DdlAction}
    {outcome : Except Failure Unit}
    (ends : (reconciler.applyAll entity stage actions).Ends backend start outcome events final) :
    ∃ groups, attempts events = groups.flatten ∧
      Proceeds reconciler.policy.limit (actions.map .change) groups ∧
      (outcome = .ok () ↔ stepsDone reconciler.policy.limit groups = actions.map .change) ∧
      final.1.plans = start.1.plans := by
  induction actions generalizing start events with
  | nil =>
      obtain ⟨progress, state⟩ := final
      cases ends
      exact ⟨[], rfl, .stop _, ⟨fun _ => rfl, fun _ => rfl⟩, rfl⟩
  | cons action rest induction =>
      rcases ends.bind_cases with
        ⟨failure, rfl, failed⟩ | ⟨_, between, first, second, applied, others, rfl⟩
      · obtain ⟨series, did, samePlans⟩ := applyAction_did failed
        refine ⟨[attempts events], (List.flatten_singleton ..).symm, .failed _ series did, ?_, samePlans⟩
        rw [Series.stepsDone_of_not_did did]
        exact ⟨nofun, nofun⟩
      · obtain ⟨series, did, samePlans⟩ := applyAction_did applied
        obtain ⟨groups, flat, proceeds, done, laterPlans⟩ := induction others
        refine ⟨attempts first :: groups, by simp [flat], .next series did proceeds, ?_,
          laterPlans.trans samePlans⟩
        rw [done, series.stepsDone_cons did]
        simp

/-- A plan is only rejected because of a default that is too long a number. -/
theorem checkPlan_eq_error {live : TableState} {traits : BackendTraits} {failure : Failure}
    (rejected : entity.checkPlan live traits = .error failure) : failure = .unreadableNumber := by
  unfold Entity.checkPlan at rejected
  split at rejected
  · obtain ⟨⟨name, field⟩, -, failed⟩ := Except.exists_of_forM_eq_error rejected
    dsimp only at failed
    split at failed
    · cases failed
    · unfold Field.checkDefault at failed
      split at failed
      · next text _ _ _ =>
        unfold readDefaultNumber at failed
        cases read : Text.readInteger text with
        | error defect =>
            rw [read] at failed
            cases failed
            rfl
        | ok number =>
            rw [read] at failed
            cases failed
      · cases failed
  · cases rejected

theorem shown_changes {limit : Nat} {actions : List DdlAction} {groups : List (List Attempt)}
    (proceeds : Proceeds limit (actions.map .change) groups) : shown groups.flatten = [] := by
  have few := proceeds.stepsDone_prefix.sublist.countP_le (p := RunStep.isProbe)
  rw [RunStep.countP_isProbe_changes, ← proceeds.length_shown] at few
  exact List.eq_nil_of_length_eq_zero (Nat.le_zero.mp few)

/-- The steps for one entity are attempted in order.  All of them are done if the stage ends well,
and the plan is finished then. -/
theorem reconcileEntity_ends {outcome : Except Failure Unit}
    (ends : (reconciler.reconcileEntity entity).Ends backend start outcome events final) :
    ∃ groups, attempts events = groups.flatten ∧
      ((∃ failure, outcome = .error failure ∧ final.1.plans = start.1.plans ∧
          ∀ rest, ∃ lives, Course reconciler (entity :: rest) groups lives [] (.error failure)) ∨
        outcome = .ok () ∧ ∃ live,
          final.1.plans = start.1.plans ++ [reconciler.planFor entity live] ∧
          Proceeds reconciler.policy.limit (reconciler.entitySteps entity live) groups ∧
          shown groups.flatten = [live] ∧
          stepsDone reconciler.policy.limit groups = reconciler.entitySteps entity live) := by
  rcases ends.bind_cases with
    ⟨failure, rfl, failed⟩ | ⟨live, between, first, second, probed, afterProbe, rfl⟩
  · -- The table is not shown, and no plan is made.
    obtain ⟨series, did, -, samePlans⟩ := probe_did failed
    refine ⟨[attempts events], (List.flatten_singleton ..).symm, .inl ⟨failure, rfl, samePlans, ?_⟩⟩
    exact fun rest => ⟨[], .unseen rest (.failed _ series did) (Series.stepsDone_of_not_did did)⟩
  obtain ⟨series, did, shows, samePlans⟩ := probe_did probed
  change shown (attempts first) = [live] at shows
  rcases afterProbe.of_advance_bind.bind_cases with
    ⟨failure, rfl, unreadable⟩ | ⟨_, _, _, afterCheck, checked, planned, rfl⟩
  · -- The plan is rejected: a default is too long a number.
    obtain ⟨same, rfl, rfl⟩ := unreadable.of_ofResult
    refine ⟨[attempts first], by simp, .inl ⟨failure, rfl, samePlans, fun rest => ⟨[live], ?_⟩⟩⟩
    refine .stopped rest (.next series did (.stop _)) (by simpa using shows) fun own => ?_
    rw [checkPlan_eq_error same.symm] at own
    cases own
  obtain ⟨-, rfl, rfl⟩ := checked.of_ofResult
  rcases planned.of_advance_bind.bind_cases with
    ⟨failure, rfl, failed⟩ | ⟨_, changed, applied, _, succeeded, ended, rfl⟩
  · -- A change fails: the plan stays unfinished.
    obtain ⟨groups, flat, proceeds, done, laterPlans⟩ := applyAll_ends failed
    refine ⟨attempts first :: groups, by simp [flat], .inl ⟨failure, rfl, ?_, fun rest => ⟨[live], ?_⟩⟩⟩
    · rw [laterPlans, plans_warnings]
      exact samePlans
    · refine .stopped rest (.next series did proceeds) ?_ fun _ all => ?_
      · rw [List.flatten_cons, shown_append, shows, shown_changes proceeds, List.append_nil]
      · rw [series.stepsDone_cons did] at all
        cases done.mpr (List.cons.inj all).2
  · obtain ⟨groups, flat, proceeds, done, laterPlans⟩ := applyAll_ends succeeded
    obtain ⟨rfl, rfl, rfl⟩ := ended.of_advance_bind.of_advance
    refine ⟨attempts first :: groups, by simp [flat], .inr ⟨rfl, live, ?_, ?_, ?_, ?_⟩⟩
    · change changed.1.plans ++ [reconciler.planFor entity live] = _
      rw [laterPlans, plans_warnings]
      exact congrArg (· ++ _) samePlans
    · exact .next series did proceeds
    · rw [List.flatten_cons, shown_append, shows, shown_changes proceeds, List.append_nil]
    · rw [series.stepsDone_cons did, done.mp rfl]
      rfl

theorem reconcileAll_ends {entities : List Entity} {outcome : Except Failure Unit}
    (ends : (reconciler.reconcileAll entities).Ends backend start outcome events final) :
    ∃ groups lives plans, attempts events = groups.flatten ∧
      final.1.plans = start.1.plans ++ plans ∧
      Course reconciler entities groups lives plans outcome := by
  induction entities generalizing start events with
  | nil =>
      obtain ⟨progress, state⟩ := final
      cases ends
      exact ⟨[], [], [], rfl, (List.append_nil _).symm, .finished⟩
  | cons entity rest induction =>
      rcases ends.bind_cases with
        ⟨failure, rfl, failed⟩ | ⟨_, between, first, second, reconciled, others, rfl⟩
      · obtain ⟨groups, flat, ⟨_, same, samePlans, course⟩ | ⟨done, -⟩⟩ :=
          reconcileEntity_ends failed
        · cases same
          obtain ⟨lives, course⟩ := course rest
          exact ⟨groups, lives, [], flat, by rw [samePlans, List.append_nil], course⟩
        · cases done
      · obtain ⟨groups, flat, ⟨_, failed, -⟩ | ⟨-, live, finished, proceeds, shows, done⟩⟩ :=
          reconcileEntity_ends reconciled
        · cases failed
        · obtain ⟨more, lives, plans, flatMore, finishedMore, course⟩ := induction others
          refine ⟨groups ++ more, live :: lives, reconciler.planFor entity live :: plans,
            by simp [flat, flatMore], ?_, .next proceeds shows done course⟩
          rw [finishedMore, finished, List.append_assoc]
          rfl

end Stages

namespace Course

variable {reconciler : Reconciler} {entities : List Entity} {groups : List (List Attempt)}
  {lives : List TableState} {plans : List ReconciliationPlan} {outcome : Except Failure Unit}

theorem proceeds (course : Course reconciler entities groups lives plans outcome) :
    Proceeds reconciler.policy.limit (reconciler.scheduled entities lives) groups := by
  induction course with
  | finished => exact .stop _
  | unseen rest proceeds => exact proceeds
  | stopped rest proceeds => exact proceeds.extend _
  | next proceeds shows done later induction => exact proceeds.append done induction

theorem shown_eq (course : Course reconciler entities groups lives plans outcome) :
    shown groups.flatten = lives := by
  induction course with
  | finished => rfl
  | unseen rest proceeds undone =>
      apply List.eq_nil_of_length_eq_zero
      rw [proceeds.length_shown, undone]
      rfl
  | stopped rest proceeds shows => exact shows
  | next proceeds shows done later induction =>
      rw [List.flatten_append, shown_append, shows, induction]
      rfl

theorem completes_iff (course : Course reconciler entities groups lives plans outcome) :
    outcome = .ok () ↔ plans.map ReconciliationPlan.entity = entities.map Entity.name := by
  induction course with
  | finished => simp
  | unseen | stopped => exact ⟨nofun, nofun⟩
  | next proceeds shows done later induction =>
      rw [induction, List.map_cons, List.map_cons, List.cons.injEq]
      exact (and_iff_right rfl).symm

/-- If a table is shown and all its changes are done, so are all steps for it. -/
theorem stepsDone_eq_of_isWithin {entity : Entity} {live : TableState}
    (proceeds : Proceeds reconciler.policy.limit (reconciler.entitySteps entity live) groups)
    (shows : shown groups.flatten = [live])
    (different : (reconciler.entitySteps entity live).Nodup)
    (within : (reconciler.planFor entity live).isWithin
      (changesIn (stepsDone reconciler.policy.limit groups)) = true) :
    stepsDone reconciler.policy.limit groups = reconciler.entitySteps entity live := by
  have upTo := proceeds.stepsDone_prefix
  refine upTo.eq_of_length_le (List.subperm_of_subset different fun step member => ?_).length_le
  rcases List.mem_cons.mp member with rfl | planned
  · have one : 0 < (stepsDone reconciler.policy.limit groups).countP RunStep.isProbe := by
      rw [← proceeds.length_shown, shows]
      exact Nat.zero_lt_one
    obtain ⟨step, done, isProbe⟩ := List.countP_pos_iff.mp one
    rcases List.mem_cons.mp (upTo.subset done) with rfl | change
    · exact done
    · obtain ⟨action, -, rfl⟩ := List.mem_map.mp change
      cases isProbe
  · obtain ⟨action, ofPlan, rfl⟩ := List.mem_map.mp planned
    exact mem_changesIn.mp (ReconciliationPlan.isWithin_iff.mp within action ofPlan)

/-- The finished plans are those all of whose changes were done. -/
theorem plans_eq (course : Course reconciler entities groups lives plans outcome)
    (different : (reconciler.scheduled entities lives).Nodup)
    (own : ∀ failure, outcome = .error failure → isOwnError failure = true) :
    plans = (reconciler.plansFor entities lives).filter
      (·.isWithin (changesIn (stepsDone reconciler.policy.limit groups))) := by
  induction course with
  | finished | unseen => rfl
  | @stopped entity groups live failure rest proceeds shows undone =>
      have ofEntity := (List.nodup_append.mp different).1
      rw [plansFor_cons, plansFor_nil, List.filter_cons, if_neg, List.filter_nil]
      intro within
      exact undone (own failure rfl) (stepsDone_eq_of_isWithin proceeds shows ofEntity within)
  | @next entity groups others live rest lives plans outcome proceeds shows done later induction =>
      obtain ⟨-, ofRest, apart⟩ := List.nodup_append'.mp different
      have first : (reconciler.planFor entity live).isWithin
          (changesIn (stepsDone reconciler.policy.limit (groups ++ others))) = true := by
        rw [stepsDone_append, done, changesIn_append, changes_entitySteps]
        exact ReconciliationPlan.isWithin_iff.mpr fun action => List.mem_append_left _
      -- The changes for the other entities are not among those for this one.
      have same (plan : ReconciliationPlan) (member : plan ∈ reconciler.plansFor rest lives) :
          plan.isWithin (changesIn (stepsDone reconciler.policy.limit (groups ++ others))) =
            plan.isWithin (changesIn (stepsDone reconciler.policy.limit others)) := by
        rw [Bool.eq_iff_iff, ReconciliationPlan.isWithin_iff, ReconciliationPlan.isWithin_iff]
        refine forall₂_congr fun action ofPlan => ?_
        have scheduled : action ∈ changesIn (reconciler.scheduled rest lives) := by
          rw [changes_scheduled]
          exact List.mem_flatMap.mpr ⟨plan, member, ofPlan⟩
        have absent : action ∉ changesIn (reconciler.entitySteps entity live) := fun own =>
          apart (mem_changesIn.mp own) (mem_changesIn.mp scheduled)
        rw [stepsDone_append, done, changesIn_append, List.mem_append, or_iff_right absent]
      rw [plansFor_cons, List.filter_cons, if_pos first, List.filter_congr same,
        ← induction ofRest own]

end Course

/-- The plans for the tables that were shown. -/
def plansShown (reconciler : Reconciler) (events : List (Event Request Request.Reply)) :
    List ReconciliationPlan :=
  reconciler.plansFor reconciler.schema.entities (shown (attempts events))

/-- The changes that were attempted.  Consecutive attempts at a change count once. -/
def changesTried (events : List (Event Request Request.Reply)) : List DdlAction :=
  changesIn (stepsTried ((attempts events).splitBy Attempt.sameStep))

/-- The changes that were done, because an attempt succeeded or found them there. -/
def changesDone (reconciler : Reconciler) (events : List (Event Request Request.Reply)) :
    List DdlAction :=
  changesIn (stepsDone reconciler.policy.limit ((attempts events).splitBy Attempt.sameStep))

/-- What was attempted went in order. -/
structure Orderly (reconciler : Reconciler) (events : List (Event Request Request.Reply)) :
    Prop where
  /-- Before a table is probed, exactly the plans for all earlier entities were made and done. -/
  probed : ∀ before (reply : Except Failure TableState) after earlier entity later,
    events = before ++ .asked (.inspect reconciler.pool entity.tableName) reply :: after →
    reconciler.schema.entities = earlier ++ entity :: later →
    (reconciler.plansShown before).map ReconciliationPlan.entity = earlier.map Entity.name ∧
      reconciler.changesDone before =
        (reconciler.plansShown before).flatMap ReconciliationPlan.actions
  attempted : changesTried events <+:
    (reconciler.plansShown events).flatMap ReconciliationPlan.actions
  retried : ∀ tries ∈ (attempts events).splitBy Attempt.sameStep,
    tries.length ≤ reconciler.policy.limit ∧ ∀ attempt ∈ tries.dropLast, attempt.isBroken = true
  /-- Nothing is attempted after a step that was not done. -/
  stopped : ∀ before tries after,
    (attempts events).splitBy Attempt.sameStep = before ++ tries :: after →
    Attempt.didStep reconciler.policy.limit tries = false → after = []

theorem Course.orderly {reconciler : Reconciler} {groups : List (List Attempt)}
    {lives : List TableState} {plans : List ReconciliationPlan} {outcome : Except Failure Unit}
    {events : List (Event Request Request.Reply)}
    (course : Course reconciler reconciler.schema.entities groups lives plans outcome)
    (flat : attempts events = groups.flatten) (valid : reconciler.schema.Valid) :
    Orderly reconciler events := by
  have tables := valid.tableNames_nodup
  have different : (reconciler.scheduled reconciler.schema.entities lives).Nodup :=
    scheduled_nodup tables fun entity member => (valid.entities entity member).distinct
  have series : (attempts events).splitBy Attempt.sameStep = groups := by
    rw [flat, course.proceeds.splitBy_flatten different]
  have shows : shown (attempts events) = lives := by rw [flat, course.shown_eq]
  constructor
  · intro before reply after earlier entity later split declared
    have cut : groups.flatten =
        attempts before ++ .probe entity.tableName reply :: attempts after := by
      rw [← flat, split, attempts_append]
      rfl
    obtain ⟨others, proceeds, upToNow, next⟩ := course.proceeds.before cut
    rw [declared] at tables next different
    obtain ⟨done, covered⟩ := scheduled_before_probe tables next different
    have count : (shown (attempts before)).length = earlier.length := by
      rw [← upToNow, proceeds.length_shown, done, countP_scheduled covered]
    have more : lives = shown (attempts before) ++ shown (.probe entity.tableName reply ::
        attempts after) := by
      rw [← course.shown_eq, cut, shown_append]
    have plans : reconciler.plansShown before =
        reconciler.plansFor earlier (shown (attempts before)) := by
      rw [plansShown, declared, plansFor_append_entities count.le]
    have seriesBefore : (attempts before).splitBy Attempt.sameStep = others := by
      rw [← upToNow, proceeds.splitBy_flatten (declared ▸ different)]
    constructor
    · rw [plans, entity_plansFor count.ge]
    · rw [changesDone, seriesBefore, done, changes_scheduled, plans, more,
        plansFor_append_lives count.ge]
  · rw [changesTried, series, plansShown, shows, ← changes_scheduled]
    exact course.proceeds.stepsTried_prefix.filterMap _
  · intro tries member
    rw [series] at member
    obtain ⟨step, -, ofStep⟩ := course.proceeds.exists_series member
    exact ⟨ofStep.bounded, ofStep.broken⟩
  · intro before tries after split fails
    rw [series] at split
    exact course.proceeds.nothing_after split fails

theorem orderly_of_no_attempts {reconciler : Reconciler}
    {events : List (Event Request Request.Reply)} (none : attempts events = []) :
    Orderly reconciler events := by
  have series : (attempts events).splitBy Attempt.sameStep = [] := by rw [none, List.splitBy_nil]
  constructor
  · rintro before reply after earlier entity later rfl
    rw [attempts_append] at none
    cases (List.append_eq_nil_iff.mp none).2
  · rw [changesTried, series]
    exact List.nil_prefix
  · rw [series]
    exact fun _ => nofun
  · intro before tries after split
    rw [series] at split
    cases List.append_eq_nil_iff.mp split.symm |>.2

def report? : Except RunFailure RunReport → Option RunReport
  | .ok report => some report
  | .error failed => failed.report

theorem of_report?_outcome {ended : Except Failure Unit} {progress : Progress} {report : RunReport}
    (given : report? (outcome (ended, progress)) = some report) :
    report.progress = progress ∧ (report.status = .completed ↔ ended = .ok ()) ∧
      ∀ failure, ended = .error failure → isOwnError failure = true := by
  cases ended with
  | ok done =>
      have given : some (⟨.completed, progress⟩ : RunReport) = some report := given
      cases given
      refine ⟨rfl, iff_of_true rfl rfl, fun _ failed => ?_⟩
      cases failed
  | error failure =>
      have given : (if isOwnError failure then some ⟨.failed, progress⟩ else none) =
        some report := given
      split at given
      · next own =>
        cases given
        refine ⟨rfl, iff_of_false nofun nofun, fun _ same => ?_⟩
        cases same
        exact own
      · cases given

theorem Reported.exists_report {result : Except RunFailure RunReport}
    (reported : Reported result) : ∃ report, report? result = some report := by
  cases reported with
  | completed progress => exact ⟨⟨.completed, progress⟩, rfl⟩
  | failed error progress => exact ⟨⟨.failed, progress⟩, rfl⟩

/-- The report lists the plans that were finished, and says whether these are all. -/
structure Faithful (reconciler : Reconciler) (result : Except RunFailure RunReport)
    (events : List (Event Request Request.Reply)) : Prop where
  plans : ∀ report, report? result = some report →
    report.progress.plans =
      (reconciler.plansShown events).filter (·.isWithin (reconciler.changesDone events))
  completed : ∀ report, report? result = some report →
    (report.status = .completed ↔
      report.progress.plans.map ReconciliationPlan.entity =
        reconciler.schema.entities.map Entity.name)
  /-- Ordinary failures do not keep a run from reporting. -/
  reports : reconciler.schema.checkDefaults = .ok () →
    (∀ attempt ∈ attempts events, attempt.isOrdinary = true) →
    ∃ report, report? result = some report

section Work

variable {State : Type} {reconciler : Reconciler} {backend : Backend State} {state : State}
  {final : Progress × State} {ended : Except Failure Unit}
  {work events : List (Event Request Request.Reply)}

theorem body_ends (worked : reconciler.body.Ends backend ({}, state) ended work final) :
    ∃ groups lives, attempts work = groups.flatten ∧
      Course reconciler reconciler.schema.entities groups lives final.1.plans ended := by
  obtain ⟨groups, lives, plans, flat, finished, course⟩ :=
    reconcileAll_ends worked.of_advance_bind
  exact ⟨groups, lives, flat, finished ▸ course⟩

theorem orderly_of_body (valid : reconciler.schema.Valid)
    (worked : reconciler.body.Ends backend ({}, state) ended work final)
    (same : attempts events = attempts work) : Orderly reconciler events := by
  obtain ⟨groups, lives, flat, course⟩ := body_ends worked
  exact course.orderly (same.trans flat) valid

theorem faithful_of_body (valid : reconciler.schema.Valid)
    (worked : reconciler.body.Ends backend ({}, state) ended work final)
    (same : attempts events = attempts work) :
    Faithful reconciler (outcome (ended, final.1)) events := by
  obtain ⟨groups, lives, flat, course⟩ := body_ends worked
  have different : (reconciler.scheduled reconciler.schema.entities lives).Nodup :=
    scheduled_nodup valid.tableNames_nodup fun entity member =>
      (valid.entities entity member).distinct
  constructor
  · intro report given
    obtain ⟨progress, -, own⟩ := of_report?_outcome given
    rw [progress, plansShown, changesDone, same, flat, course.shown_eq,
      course.proceeds.splitBy_flatten different]
    exact course.plans_eq different own
  · intro report given
    obtain ⟨progress, completed, -⟩ := of_report?_outcome given
    rw [completed, progress]
    exact course.completes_iff
  · intro checked ordinary
    rw [same] at ordinary
    have own : ∀ failure, ended = .error failure → isOwnError failure = true := by
      rintro failure rfl
      exact body_failsOwn checked _ failure _ _ worked ordinary
    exact (reported_outcome final.1 own).exists_report

end Work

/-- Every run goes in order, and if its lock is served, the report tells what was finished. -/
theorem run_orderly {State : Type} {reconciler : Reconciler} {backend : Backend State}
    {state final : State} {result : Except RunFailure RunReport}
    {events : List (Event Request Request.Reply)} (valid : reconciler.schema.Valid)
    (ran : reconciler.run.run backend state = ⟨result, events, final⟩) :
    Orderly reconciler events ∧
      ((∀ event ∈ events, event.servesLock = true) → Faithful reconciler result events) := by
  obtain ⟨ended, progress, held, rfl⟩ := held_of_run ran
  cases held with
  | free noLocks worked =>
      exact ⟨orderly_of_body valid worked rfl, fun _ => faithful_of_body valid worked rfl⟩
  | unanswered locks =>
      refine ⟨orderly_of_no_attempts rfl, fun served => ?_⟩
      cases served _ List.mem_cons_self
  | refused locks notGranted noPlans =>
      refine ⟨orderly_of_no_attempts rfl, fun served => ?_⟩
      cases notGranted.symm.trans (served _ List.mem_cons_self)
  | @granted answer ended work start final released locks granted worked =>
      have same := attempts_bracketed reconciler answer work released
      refine ⟨orderly_of_body valid worked same, fun served => ?_⟩
      cases released with
      | error failure =>
          cases served (.asked (reconciler.unlockRequest answer) (.error failure)) (by simp)
      | ok done => exact faithful_of_body valid worked same

/-- A backend whose first connection breaks.  It shows users without a unique email, knows a
constraint of that name, and creates no tables. -/
def stumblingBackend : Backend Nat
  | .openPool .., count => (.ok 0, count)
  | .ping _, count | .commit _, count | .unlock .., count => (.ok (), count)
  | .disposePool _, count | .rollback _, count => ((), count)
  | .execute .., count => (.ok {}, count)
  | .lock .., count => (.ok ⟨0, .int 1⟩, count)
  | .inspect _ _, 0 => (.error (refusal 2006 "MySQL server has gone away"), 1)
  | .inspect _ table, count + 1 =>
      (.ok {
        name := table
        present := table == "users"
        columns := [("id", { name := "id", type := "int unsigned" }),
          ("email", { name := "email", type := "varchar(255)" })] }, count + 2)
  | .alter _ _ (.addUnique ..), count =>
      (.error (refusal 1061 "Duplicate key name 'users_email_unique'"), count)
  | .alter .., count => (.error (refusal 1142 "CREATE command denied"), count)
where
  refusal (code : Int) (message : String) : Failure := .access {
    kind := .statement
    label := "OperationalError"
    message := ""
    driver := some { args := [.int code, .text message] } }

/-- The probe of the users is repeated and their constraint is found there; the creation of the
posts fails.  The report lists the plan for the users only. -/
theorem run_orderly_users :
    let id : Field := { type := .int, isId := true }
    let email : Field := { type := .string, isUnique := true }
    let reconciler : Reconciler := {
      schema := {
        datasource := { provider := .mysql, url := "mysql://u:p@h/d" }
        entities := [⟨"User", [("id", id), ("email", email)]⟩, ⟨"Post", [("id", id)]⟩] }
      traits := .ofName "mysql"
      settings := {}
      pool := 0 }
    let held := reconciler.run.run stumblingBackend 0
    Orderly reconciler held.events ∧ Faithful reconciler held.result held.events ∧
      (attempts held.events).length = 5 ∧
      changesTried held.events =
        [.addUnique "users" "email" "users_email_unique", .createTable "posts"] ∧
      ∃ report, report? held.result = some report ∧ report.status = .failed ∧
        report.progress.plans.map ReconciliationPlan.entity = ["User"] := by
  intro id email reconciler held
  have valid : reconciler.schema.Valid := by
    have address : reconciler.schema.datasource.connection.toOption.isSome = true := by
      decide +kernel
    refine ⟨?_, ?_, by decide +kernel⟩
    · cases connection : reconciler.schema.datasource.connection with
      | error cause =>
          rw [connection] at address
          cases address
      | ok url => exact ⟨url, rfl⟩
    · have sound : ∀ entity ∈ reconciler.schema.entities, entity.fields.keys.Nodup ∧
          (∀ entry ∈ entity.fields, entry.2.defect? = none) ∧ entity.defect? = none := by
        decide +kernel
      exact fun entity member => Entity.valid_iff.mpr (sound entity member)
  have served : held.events.all Event.servesLock = true := by decide +kernel
  have count : (attempts held.events).length = 5 := by decide +kernel
  have tried : changesTried held.events =
      [.addUnique "users" "email" "users_email_unique", .createTable "posts"] := by
    decide +kernel
  have given : (report? held.result).map (fun report =>
      (report.status, report.progress.plans.map ReconciliationPlan.entity)) =
        some (.failed, ["User"]) := by
    decide +kernel
  have ran : reconciler.run.run stumblingBackend 0 = held := rfl
  clear_value held
  obtain ⟨orderly, faithful⟩ := run_orderly valid ran
  obtain ⟨report, reported, facts⟩ := Option.map_eq_some_iff.mp given
  obtain ⟨status, plans⟩ := Prod.mk.inj facts
  exact ⟨orderly, faithful (List.all_eq_true.mp served), count, tried, report, reported, status,
    plans⟩

end Reconciler
end SchemaStore
