/-!
# Truth values

A condition on missing values is neither true nor false.  The connectives are
those of three-valued logic: a false conjunct decides a conjunction, a true
disjunct a disjunction, and otherwise what is unknown stays unknown.
-/

namespace SchemaStore

/-- The truth values of conditions. -/
inductive Truth where
  | yes
  | no
  | unknown
deriving DecidableEq, Repr, Inhabited

namespace Truth

/-- The truth value of a decided condition. -/
def ofBool (b : Bool) : Truth :=
  if b then .yes else .no

/-- Whether a condition holds; an unknown one does not. -/
def holds (truth : Truth) : Bool :=
  truth == .yes

def not : Truth → Truth
  | .yes => .no
  | .no => .yes
  | .unknown => .unknown

def and : Truth → Truth → Truth
  | .no, _ | _, .no => .no
  | .yes, .yes => .yes
  | _, _ => .unknown

def or : Truth → Truth → Truth
  | .yes, _ | _, .yes => .yes
  | .no, .no => .no
  | _, _ => .unknown

/-- Whether all of several conditions hold. -/
def all (truths : List Truth) : Truth :=
  truths.foldr and .yes

/-- Whether some of several conditions holds. -/
def any (truths : List Truth) : Truth :=
  truths.foldr or .no

@[simp] theorem not_not (truth : Truth) : truth.not.not = truth := by
  cases truth <;> rfl

@[simp] theorem yes_and (truth : Truth) : and .yes truth = truth := by
  cases truth <;> rfl

@[simp] theorem and_yes (truth : Truth) : and truth .yes = truth := by
  cases truth <;> rfl

@[simp] theorem no_and (truth : Truth) : and .no truth = .no := by
  cases truth <;> rfl

@[simp] theorem and_no (truth : Truth) : and truth .no = .no := by
  cases truth <;> rfl

@[simp] theorem no_or (truth : Truth) : or .no truth = truth := by
  cases truth <;> rfl

@[simp] theorem or_no (truth : Truth) : or truth .no = truth := by
  cases truth <;> rfl

@[simp] theorem yes_or (truth : Truth) : or .yes truth = .yes := by
  cases truth <;> rfl

@[simp] theorem or_yes (truth : Truth) : or truth .yes = .yes := by
  cases truth <;> rfl

theorem and_assoc (a b c : Truth) : and (and a b) c = and a (and b c) := by
  cases a <;> cases b <;> cases c <;> rfl

theorem or_assoc (a b c : Truth) : or (or a b) c = or a (or b c) := by
  cases a <;> cases b <;> cases c <;> rfl

theorem not_and (a b : Truth) : (and a b).not = or a.not b.not := by
  cases a <;> cases b <;> rfl

theorem not_or (a b : Truth) : (or a b).not = and a.not b.not := by
  cases a <;> cases b <;> rfl

end Truth
end SchemaStore
