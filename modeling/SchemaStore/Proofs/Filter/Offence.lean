import SchemaStore.Filter.Basic
import SchemaStore.Proofs.Outcome

/-!
# The first offence

A place in a value is given by the positions of entries and items on the way to it, so
in the order of the lists it stands before the places within it.  `Reports` says of a
reading that it fails with what offends at the first place, and `Decides` also that it
succeeds on what it should accept.  Both carry over from the items of a list to the
list.
-/

namespace SchemaStore
namespace Filter

/-- The positions of entries and items on the way into a value. -/
abbrev Place := List Nat

/-- One place is come to before another one: it is on the way to it, or branches off to an earlier
position. -/
def Place.Before (place other : Place) : Prop :=
  List.Lex (· < ·) place other

/-- The defect at the first of the places that offend; there is no other one at that place. -/
structure First (offends : Place → FilterDefect → Prop) (place : Place)
    (defect : FilterDefect) : Prop where
  offending : offends place defect
  before : ∀ other cause, offends other cause →
    (other = place ∧ cause = defect) ∨ place.Before other

section Order

theorem Place.Before.asymm {place other : Place} (before : place.Before other) :
    ¬other.Before place := by
  induction before with
  | nil => rintro ⟨⟩
  | cons _ induction =>
      rintro (_ | later | later)
      · exact absurd later (Nat.lt_irrefl _)
      · exact induction later
  | rel earlier =>
      rintro (_ | later | later)
      · exact absurd later (Nat.lt_asymm earlier)
      · exact absurd earlier (Nat.lt_irrefl _)

theorem Place.Before.succ {position otherPosition : Nat} {place other : Place}
    (before : Place.Before (position :: place) (otherPosition :: other)) :
    Place.Before ((position + 1) :: place) ((otherPosition + 1) :: other) := by
  cases before with
  | cons before => exact .cons before
  | rel earlier => exact .rel (Nat.succ_lt_succ earlier)

theorem First.unique {offends : Place → FilterDefect → Prop} {place other : Place}
    {defect cause : FilterDefect} (first : First offends place defect)
    (again : First offends other cause) : defect = cause := by
  rcases first.before other cause again.offending with ⟨-, same⟩ | before
  · exact same.symm
  · rcases again.before place defect first.offending with ⟨-, same⟩ | after
    · exact same
    · exact absurd after before.asymm

/-- What is wrong with the whole is wrong in the first place. -/
theorem First.root {offends : Place → FilterDefect → Prop} {defect : FilterDefect}
    (here : offends [] defect) (only : ∀ cause, offends [] cause → cause = defect) :
    First offends [] defect where
  offending := here
  before := by
    intro other cause offending
    cases other with
    | nil => exact .inl ⟨rfl, only cause offending⟩
    | cons position place => exact .inr .nil

end Order

/-- A reading fails exactly if something offends, and then reports what offends first. -/
def Reports {α : Type} (outcome : Except FilterDefect α)
    (offends : Place → FilterDefect → Prop) : Prop :=
  match outcome with
  | .ok _ => ∀ place defect, ¬offends place defect
  | .error defect => ∃ place, First offends place defect

/-- What is wrong at a place of one of several items. -/
inductive InItem {α : Type} (offends : α → Place → FilterDefect → Prop) (items : List α) :
    Place → FilterDefect → Prop where
  | item {position : Nat} {item : α} {place : Place} {defect : FilterDefect}
      (there : items[position]? = some item) (offending : offends item place defect) :
      InItem offends items (position :: place) defect

namespace Reports

variable {α β : Type} {outcome : Except FilterDefect α}
  {offends others : Place → FilterDefect → Prop}

theorem map (reports : Reports outcome offends) (f : α → β) :
    Reports (f <$> outcome) offends := by
  cases outcome with
  | error defect => exact reports
  | ok a => exact reports

theorem of_iff (reports : Reports outcome offends)
    (same : ∀ place defect, others place defect ↔ offends place defect) :
    Reports outcome others := by
  have equal : others = offends :=
    funext fun place => funext fun defect => propext (same place defect)
  rw [equal]
  exact reports

/-- A reading that reports what offends first fails with nothing else. -/
theorem error_iff (reports : Reports outcome offends) (defect : FilterDefect) :
    outcome = .error defect ↔ ∃ place, First offends place defect := by
  cases outcome with
  | ok a =>
      refine iff_of_false (by simp) ?_
      rintro ⟨place, first⟩
      exact reports place defect first.offending
  | error cause =>
      obtain ⟨place, first⟩ := reports
      constructor
      · rintro ⟨⟩
        exact ⟨place, first⟩
      · rintro ⟨other, again⟩
        rw [first.unique again]

/-- Items that are read one after another report what offends first in the first of them that
offends. -/
theorem mapM {step : α → Except FilterDefect β}
    {offends : α → Place → FilterDefect → Prop} {items : List α}
    (each : ∀ item ∈ items, Reports (step item) (offends item)) :
    Reports (items.mapM step) (InItem offends items) := by
  induction items with
  | nil =>
      rintro place defect ⟨there, -⟩
      cases there
  | cons item rest induction =>
      obtain ⟨here, later⟩ := List.forall_mem_cons.mp each
      have others := induction later
      rw [List.mapM_cons]
      cases stepped : step item with
      | error defect =>
          rw [stepped] at here
          obtain ⟨place, first⟩ := here
          refine ⟨0 :: place, .item rfl first.offending, ?_⟩
          rintro _ cause (@⟨position, _, other, _, there, offending⟩)
          cases position with
          | zero =>
              cases there
              rcases first.before other cause offending with ⟨rfl, rfl⟩ | before
              · exact .inl ⟨rfl, rfl⟩
              · exact .inr (.cons before)
          | succ position => exact .inr (.rel (Nat.succ_pos position))
      | ok b =>
          rw [stepped] at here
          cases ran : rest.mapM step with
          | error defect =>
              rw [ran] at others
              obtain ⟨_, @⟨position, found, place, _, there, offending⟩, before⟩ := others
              refine ⟨(position + 1) :: place, .item there offending, ?_⟩
              rintro _ cause (@⟨otherPosition, _, other, _, otherThere, otherOffends⟩)
              cases otherPosition with
              | zero =>
                  cases otherThere
                  exact absurd otherOffends (here other cause)
              | succ otherPosition =>
                  rcases before _ cause (.item otherThere otherOffends) with
                    ⟨same, rfl⟩ | earlier
                  · cases same
                    exact .inl ⟨rfl, rfl⟩
                  · exact .inr earlier.succ
          | ok bs =>
              rw [ran] at others
              rintro _ defect (@⟨position, _, place, _, there, offending⟩)
              cases position with
              | zero =>
                  cases there
                  exact here place defect offending
              | succ position => exact others _ defect (.item there offending)

end Reports

/-- A reading succeeds on what is accepted, and otherwise reports what offends first. -/
structure Decides {α : Type} (outcome : Except FilterDefect α) (accepted : Prop)
    (offends : Place → FilterDefect → Prop) : Prop where
  accepts : Except.Succeeds outcome ↔ accepted
  reports : Reports outcome offends

namespace Decides

variable {α β : Type} {outcome : Except FilterDefect α} {accepted alsoAccepted : Prop}
  {offends others : Place → FilterDefect → Prop}

theorem ok (a : α) (fine : accepted) (spotless : ∀ place defect, ¬offends place defect) :
    Decides (.ok a) accepted offends :=
  ⟨iff_of_true (Except.succeeds_ok a) fine, spotless⟩

/-- What is wrong with the whole is reported, whatever is wrong within it. -/
theorem error {defect : FilterDefect} (wrong : ¬accepted) (here : offends [] defect)
    (only : ∀ cause, offends [] cause → cause = defect) :
    Decides (.error defect : Except FilterDefect α) accepted offends :=
  ⟨iff_of_false (Except.not_succeeds_error defect) wrong, [], First.root here only⟩

theorem map (decides : Decides outcome accepted offends) (f : α → β) :
    Decides (f <$> outcome) accepted offends := by
  refine ⟨Iff.trans ?_ decides.accepts, decides.reports.map f⟩
  exact Except.succeeds_bind_ok fun a => Except.succeeds_ok (f a)

theorem congr (decides : Decides outcome accepted offends) (same : alsoAccepted ↔ accepted)
    (sameOffences : ∀ place defect, others place defect ↔ offends place defect) :
    Decides outcome alsoAccepted others :=
  ⟨decides.accepts.trans same.symm, decides.reports.of_iff sameOffences⟩

theorem mapM {step : α → Except FilterDefect β} {accepted : α → Prop}
    {offends : α → Place → FilterDefect → Prop} {items : List α}
    (each : ∀ item ∈ items, Decides (step item) (accepted item) (offends item)) :
    Decides (items.mapM step) (∀ item ∈ items, accepted item) (InItem offends items) :=
  ⟨Except.succeeds_mapM.trans (forall₂_congr fun item member => (each item member).accepts),
    Reports.mapM fun item member => (each item member).reports⟩

end Decides

end Filter
end SchemaStore
