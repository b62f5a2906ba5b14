import Mathlib.Algebra.Order.Field.Basic
import Mathlib.Algebra.Order.Field.Rat
import Mathlib.Data.Rat.Cast.Order
import Mathlib.Order.Std
import Mathlib.Order.WithBot
import SchemaStore.Database.Cell

/-!
# The order of cells

The comparison of cells is the lexicographic comparison of four keys: the kind of a
cell, its number, its text and its bytes.  So it is a total preorder.
-/

namespace SchemaStore

/-- A number with infinities at both ends. -/
abbrev ExtendedRational := WithBot (WithTop ℚ)

namespace ExtendedRational

/-- A rational number as an extended one. -/
def finite (q : ℚ) : ExtendedRational :=
  ((q : WithTop ℚ) : WithBot (WithTop ℚ))

/-- The number beyond all others. -/
def infinite : ExtendedRational :=
  ((⊤ : WithTop ℚ) : WithBot (WithTop ℚ))

theorem bot_lt_finite (q : ℚ) : ⊥ < finite q :=
  WithBot.bot_lt_coe _

theorem finite_lt_infinite (q : ℚ) : finite q < infinite :=
  WithBot.coe_lt_coe.mpr (WithTop.coe_lt_top q)

theorem bot_lt_infinite : ⊥ < infinite :=
  WithBot.bot_lt_coe _

theorem compare_finite (p q : ℚ) : compare (finite p) (finite q) = compare p q := by
  have key := (compare_iff p q).mp rfl
  rw [compare_iff]
  cases order : compare p q with
  | lt => rw [order] at key; simpa [finite] using key
  | eq => rw [order] at key; simpa [finite] using key
  | gt => rw [order] at key; simpa [finite] using key

/-- Fractions are compared by crosswise multiplication. -/
theorem compare_div (a c : Int) {b d : Nat} (positive : 0 < b) (otherPositive : 0 < d) :
    compare (a * d) (c * b) = compare (a / b : ℚ) (c / d : ℚ) := by
  have left : (0 : ℚ) < b := Nat.cast_pos.mpr positive
  have right : (0 : ℚ) < d := Nat.cast_pos.mpr otherPositive
  have key := (compare_iff (a * (d : Int)) (c * b)).mp rfl
  symm
  rw [compare_iff]
  cases order : compare (a * (d : Int)) (c * b) with
  | lt =>
      rw [order] at key
      exact (div_lt_div_iff₀ left right).mpr (by exact_mod_cast key)
  | eq =>
      rw [order] at key
      exact (div_eq_div_iff left.ne' right.ne').mpr (by exact_mod_cast key)
  | gt =>
      rw [order] at key
      exact (div_lt_div_iff₀ right left).mpr (by exact_mod_cast key)

end ExtendedRational

namespace Binary64

open ExtendedRational

/-- The number that a double stands for. -/
def extended (x : Binary64) : ExtendedRational :=
  match x.toRatio? with
  | some (num, den) => .finite (num / den)
  | none => if x.isNegative then ⊥ else .infinite

theorem denominator_pos {x : Binary64} {num : Int} {den : Nat}
    (finite : x.toRatio? = some (num, den)) : 0 < den := by
  unfold toRatio? at finite
  split at finite
  · cases finite
    exact pow2_pos _
  · cases finite

theorem compare_eq (x y : Binary64) : x.compare y = Ord.compare x.extended y.extended := by
  unfold compare extended
  cases left : x.toRatio? with
  | some ratio =>
      obtain ⟨num, den⟩ := ratio
      cases right : y.toRatio? with
      | some other =>
          obtain ⟨otherNum, otherDen⟩ := other
          rw [compare_finite]
          exact compare_div num otherNum (denominator_pos left)
            (denominator_pos right)
      | none =>
          cases y.isNegative with
          | false => exact (compare_lt_iff_lt.mpr (finite_lt_infinite _)).symm
          | true => exact (compare_gt_iff_gt.mpr (bot_lt_finite _)).symm
  | none =>
      cases right : y.toRatio? with
      | some other =>
          cases x.isNegative with
          | false => exact (compare_gt_iff_gt.mpr (finite_lt_infinite _)).symm
          | true => exact (compare_lt_iff_lt.mpr (bot_lt_finite _)).symm
      | none =>
          cases x.isNegative <;> cases y.isNegative
          · exact (compare_eq_iff_eq.mpr rfl).symm
          · exact (compare_gt_iff_gt.mpr bot_lt_infinite).symm
          · exact (compare_lt_iff_lt.mpr bot_lt_infinite).symm
          · exact (compare_eq_iff_eq.mpr rfl).symm

theorem compareInt_eq (x : Binary64) (n : Int) :
    x.compareInt n = Ord.compare x.extended (.finite n) := by
  unfold compareInt extended
  cases left : x.toRatio? with
  | some ratio =>
      obtain ⟨num, den⟩ := ratio
      have crosswise := compare_div num n (denominator_pos left) Nat.one_pos
      simp only [Nat.cast_one, mul_one, div_one] at crosswise
      rw [compare_finite]
      exact crosswise
  | none =>
      cases x.isNegative with
      | false => exact (compare_gt_iff_gt.mpr (finite_lt_infinite _)).symm
      | true => exact (compare_lt_iff_lt.mpr (bot_lt_finite _)).symm

end Binary64

namespace Cell

/-- The number of a cell; other cells count as zero. -/
def numberKey : Cell → ExtendedRational
  | .int n => .finite n
  | .real x => x.extended
  | _ => .finite 0

/-- The text of a cell; other cells have an empty one. -/
def textKey : Cell → String
  | .text s => s
  | _ => ""

/-- The bytes of a cell; other cells have none. -/
def bytesKey : Cell → List UInt8
  | .blob octets => octets
  | _ => []

theorem compareBytes_eq (a b : List UInt8) : compareBytes a b = Ord.compare a b := by
  induction a generalizing b with
  | nil => cases b <;> rfl
  | cons head tail induction =>
      cases b with
      | nil => rfl
      | cons other rest =>
          rw [compareBytes, induction, List.compare_cons_cons]

/-- Cells are compared by their kinds, their numbers, their texts and their bytes in turn. -/
theorem compare_eq (a b : Cell) : a.compare b =
    compareLex (compareOn rank) (compareLex (compareOn numberKey)
      (compareLex (compareOn textKey) (compareOn bytesKey))) a b := by
  have same {β : Type} [Ord β] [Std.ReflOrd β] (key : β) : Ord.compare key key = .eq :=
    Std.ReflOrd.compare_self
  have ints (m n : Int) : Ord.compare m n =
      Ord.compare (ExtendedRational.finite m) (ExtendedRational.finite n) := by
    have crosswise := ExtendedRational.compare_div m n Nat.one_pos Nat.one_pos
    simpa [ExtendedRational.compare_finite] using crosswise
  have then_eq (order : Ordering) : order.then .eq = order := by cases order <;> rfl
  cases a <;> cases b <;>
    simp only [Cell.compare, compareLex, compareOn, rank, numberKey, textKey, bytesKey, same,
      then_eq, Ordering.eq_then, Binary64.compare_eq, Binary64.compareInt_eq, compareBytes_eq, ints]
  -- What is left are a number and an integer, and cells that their ranks tell apart.
  case int.real => exact Std.OrientedCmp.eq_swap.symm
  all_goals rfl

instance : Std.TransCmp Cell.compare := by
  have lexicographic : Cell.compare = compareLex (compareOn rank) (compareLex (compareOn numberKey)
      (compareLex (compareOn textKey) (compareOn bytesKey))) :=
    funext fun a => funext (compare_eq a)
  rw [lexicographic]
  infer_instance

theorem compare_swap (first second : Cell) :
    first.compare second = (second.compare first).swap :=
  Std.OrientedCmp.eq_swap

theorem compare_self (cell : Cell) : cell.compare cell = .eq :=
  Std.ReflCmp.compare_self

end Cell
end SchemaStore
