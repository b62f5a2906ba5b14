import SchemaStore.Number.Power

/-!
# Binary floating point

A `Binary64` is the bit pattern of a double.  Finite patterns stand for
`±m · 2^e`, which `Binary64.parts` gives exactly; rounding, comparison and
conversion to integers are integer arithmetic on those parts.
-/

namespace SchemaStore

/-- A double, given by its bits. -/
structure Binary64 where
  bits : UInt64
deriving DecidableEq, Repr, Inhabited

namespace Binary64

/-- What a bit pattern stands for. -/
inductive Parts where
  /-- The number `±mantissa · 2^exponent`. -/
  | finite (negative : Bool) (mantissa : Nat) (exponent : Int)
  | infinite (negative : Bool)
  | notANumber
deriving DecidableEq, Repr

/-- Whether the sign bit is set. -/
def isNegative (x : Binary64) : Bool :=
  x.bits.toNat ≥ pow2 63

/-- The number that the bits encode. -/
def parts (x : Binary64) : Parts :=
  let field : Nat := x.bits.toNat / pow2 52 % pow2 11
  let fraction : Nat := x.bits.toNat % pow2 52
  if field = pow2 11 - 1 then
    if fraction = 0 then .infinite x.isNegative else .notANumber
  else if field = 0 then
    .finite x.isNegative fraction (-1074)
  else
    .finite x.isNegative (fraction + pow2 52) ((field : Int) - 1075)

/-- The quotient rounded to the nearest integer, a half to the even one. -/
def roundHalfEven (num den : Nat) : Nat :=
  let quotient := num / den
  let twice := 2 * (num % den)
  if twice < den ∨ (twice = den ∧ quotient % 2 = 0) then quotient else quotient + 1

/-- The fraction `num · 2^(-exponent) / den` rounded to an integer. -/
def scaledMantissa (num den : Nat) (exponent : Int) : Nat :=
  roundHalfEven (num * pow2 (-exponent).toNat) (den * pow2 exponent.toNat)

/-- The double nearest to `±num / den`; a tie goes to the even mantissa. -/
def ofRatio (negative : Bool) (num den : Nat) : Binary64 :=
  let sign := if negative then pow2 63 else 0
  if num = 0 ∨ den = 0 then
    ⟨UInt64.ofNat sign⟩
  else
    let guess : Int := (Nat.log2 num : Int) - Nat.log2 den - 53
    let floor := num * pow2 (-guess).toNat / (den * pow2 guess.toNat)
    let exponent := max (if floor < pow2 53 then guess else guess + 1) (-1074)
    let mantissa := scaledMantissa num den exponent
    let magnitude :=
      if mantissa < pow2 52 then mantissa
      else ((exponent + 1075).toNat * pow2 52) + (mantissa - pow2 52)
    ⟨UInt64.ofNat (sign + min magnitude (2047 * pow2 52))⟩

/-- The double nearest to an integer. -/
def ofInt (n : Int) : Binary64 :=
  ofRatio (n < 0) n.natAbs 1

/-- The double nearest to the decimal `±digits · 10^exponent`.  Exponents so far from zero that
the result is zero or infinite anyway are taken for nearer ones. -/
def ofDecimal (negative : Bool) (digits : Nat) (exponent : Int) : Binary64 :=
  let near := max (min exponent 400) (-(Nat.log2 digits + 400 : Int))
  ofRatio negative (digits * pow10 near.toNat) (pow10 (-near).toNat)

/-- Whether the number is zero, of either sign. -/
def isZero (x : Binary64) : Bool :=
  match x.parts with
  | .finite _ mantissa _ => mantissa == 0
  | _ => false

/-- The integer below or equal in magnitude, when the number is finite. -/
def truncate? (x : Binary64) : Option Int :=
  match x.parts with
  | .finite negative mantissa exponent =>
      let magnitude := mantissa * pow2 exponent.toNat / pow2 (-exponent).toNat
      some (if negative then -(magnitude : Int) else magnitude)
  | _ => none

/-- The integer that the number is equal to, if there is one. -/
def toInt? (x : Binary64) : Option Int :=
  match x.parts with
  | .finite negative mantissa exponent =>
      if mantissa % pow2 (-exponent).toNat = 0 then
        let magnitude := mantissa * pow2 exponent.toNat / pow2 (-exponent).toNat
        some (if negative then -(magnitude : Int) else magnitude)
      else
        none
  | _ => none

/-- The finite number as a fraction with a positive denominator. -/
def toRatio? (x : Binary64) : Option (Int × Nat) :=
  match x.parts with
  | .finite negative mantissa exponent =>
      let num : Int := (mantissa * pow2 exponent.toNat : Nat)
      some (if negative then -num else num, pow2 (-exponent).toNat)
  | _ => none

/-- Order of two finite numbers; infinite ones stand beyond all others. -/
def compare (x y : Binary64) : Ordering :=
  match x.toRatio?, y.toRatio? with
  | some (xn, xd), some (yn, yd) => Ord.compare (xn * yd) (yn * xd)
  | some _, none => if y.isNegative then .gt else .lt
  | none, some _ => if x.isNegative then .lt else .gt
  | none, none => Ord.compare (!x.isNegative) (!y.isNegative)

/-- Order of a number and an integer. -/
def compareInt (x : Binary64) (n : Int) : Ordering :=
  match x.toRatio? with
  | some (num, den) => Ord.compare num (n * den)
  | none => if x.isNegative then .lt else .gt

end Binary64
end SchemaStore
