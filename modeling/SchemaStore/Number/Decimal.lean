import SchemaStore.Number.Binary64

/-!
# Decimal text of doubles

`shortestDigits` finds the fewest digits that still round to the number, and of
those the nearest; `roundedDigits` takes a given number of digits.  `layout`
places the digits in the notation that a `Layout` record describes.
-/

namespace SchemaStore.Decimal

/-- The digits of a decimal `digits · 10^exponent`. -/
structure Digits where
  digits : Nat
  exponent : Int
deriving DecidableEq, Repr

/-- Whether `digits · 10^k ≤ x · 2^e`. -/
def atMost (digits : Nat) (k : Int) (x : Nat) (e : Int) : Bool :=
  digits * pow10 k.toNat * pow2 (-e).toNat ≤ x * pow2 e.toNat * pow10 (-k).toNat

/-- Whether `digits · 10^k < x · 2^e`. -/
def below (digits : Nat) (k : Int) (x : Nat) (e : Int) : Bool :=
  digits * pow10 k.toNat * pow2 (-e).toNat < x * pow2 e.toNat * pow10 (-k).toNat

/-- Number of decimal digits. -/
def length (n : Nat) : Nat :=
  (Nat.toDigits 10 n).length

/-- The power of ten of the leading digit of `m · 2^e`, for a double. -/
def leadingPower (m : Nat) (e : Int) : Int :=
  (length (m * pow2 e.toNat * pow10 340 / pow2 (-e).toNat) : Int) - 341

/-- The integer part of `m · 2^e / 10^k`. -/
def gridFloor (m : Nat) (e k : Int) : Nat :=
  m * pow2 e.toNat * pow10 (-k).toNat / (pow2 (-e).toNat * pow10 k.toNat)

/-- A point of the grid of `n` digits that rounds to `m · 2^e`, the nearer of two. -/
def gridHit? (m : Nat) (e : Int) (n : Nat) : Option Digits :=
  let k := leadingPower m e - (n - 1 : Nat)
  let down := gridFloor m e k
  let low := 4 * m - (if m = pow2 52 ∧ e > -1074 then 1 else 2)
  let high := 4 * m + 2
  let inside (digits : Nat) : Bool :=
    if m % 2 = 0 then
      !below digits k low (e - 2) && atMost digits k high (e - 2)
    else
      !atMost digits k low (e - 2) && below digits k high (e - 2)
  match inside down, inside (down + 1) with
  | true, true =>
      -- the midpoint of both neighbours tells the nearer one
      if below (2 * down + 1) k (2 * m) e then some ⟨down + 1, k⟩
      else if atMost (2 * down + 1) k (2 * m) e then
        some ⟨if down % 2 = 0 then down else down + 1, k⟩
      else some ⟨down, k⟩
  | true, false => some ⟨down, k⟩
  | false, true => some ⟨down + 1, k⟩
  | false, false => none

/-- The fewest digits that round to `m · 2^e`; seventeen always do. -/
def shortestDigits (m : Nat) (e : Int) : Digits :=
  if m = 0 then ⟨0, 0⟩
  else ((List.range 17).findSome? fun n => gridHit? m e (n + 1)).getD ⟨0, 0⟩

/-- The given number of leading digits of `m · 2^e`, rounded to nearest. -/
def roundedDigits (count m : Nat) (e : Int) : Digits :=
  if m = 0 then ⟨0, 0⟩
  else
    let k := leadingPower m e - (count - 1 : Nat)
    let digits := Binary64.roundHalfEven (m * pow2 e.toNat * pow10 (-k).toNat)
      (pow2 (-e).toNat * pow10 k.toNat)
    ⟨digits, k⟩

/-- How a number is written: the powers of ten that stand without an exponent. -/
structure Layout where
  /-- Leading powers from here on are written without an exponent. -/
  leastPower : Int
  /-- Leading powers up to here are written without an exponent. -/
  greatestPower : Int
  /-- A number with an exponent keeps a fraction of at least one digit. -/
  keepsFraction : Bool

/-- Remove zeros at the end of a row of digits. -/
def dropZeros (digits : List Char) : List Char :=
  (digits.reverse.dropWhile (· == '0')).reverse

/-- The digits of a positive number in the given notation. -/
def layout (form : Layout) (value : Digits) : String :=
  let all := Nat.toDigits 10 value.digits
  let power : Int := value.exponent + all.length - 1
  let digits := match dropZeros all with
    | [] => ['0']
    | kept => kept
  let text :=
    if form.leastPower ≤ power ∧ power ≤ form.greatestPower then
      if power < 0 then
        ['0', '.'] ++ List.replicate (-power - 1).toNat '0' ++ digits
      else
        let whole := power.toNat + 1
        let padded := digits ++ List.replicate (whole - digits.length) '0'
        let fraction := padded.drop whole
        padded.take whole ++ ['.'] ++ (if fraction.isEmpty then ['0'] else fraction)
    else
      let fraction := digits.drop 1
      let tail :=
        if fraction.isEmpty then
          if form.keepsFraction then ['.', '0'] else []
        else
          '.' :: fraction
      let magnitude := Nat.toDigits 10 power.natAbs
      digits.take 1 ++ tail ++ ['e', if power < 0 then '-' else '+'] ++
        List.replicate (2 - magnitude.length) '0' ++ magnitude
  String.ofList text

/-- Numbers from 0.0001 to below 10^16 stand without an exponent. -/
def plainLayout : Layout := ⟨-4, 15, false⟩

/-- The shortest text that reads back as the same double. -/
def shortest (x : Binary64) : String :=
  match x.parts with
  | .finite negative mantissa exponent =>
      let body := layout plainLayout (shortestDigits mantissa exponent)
      if negative then "-" ++ body else body
  | .infinite negative => if negative then "-inf" else "inf"
  | .notANumber => "nan"

/-- Stored numbers stand without an exponent up to 10^15. -/
def storedLayout : Layout := ⟨-4, 15, true⟩

/-- The text of a double with fifteen significant digits. -/
def rounded (x : Binary64) : String :=
  match x.parts with
  | .finite negative mantissa exponent =>
      let body := layout storedLayout (roundedDigits 15 mantissa exponent)
      if negative && mantissa != 0 then "-" ++ body else body
  | .infinite negative => if negative then "-Inf" else "Inf"
  | .notANumber => "NaN"

end SchemaStore.Decimal
