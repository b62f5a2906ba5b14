/-!
# Powers

The powers of two and of ten, between which binary and decimal forms of a number
differ.
-/

namespace SchemaStore

/-- A power of two. -/
def pow2 (n : Nat) : Nat :=
  Nat.pow 2 n

/-- A power of ten. -/
def pow10 (n : Nat) : Nat :=
  Nat.pow 10 n

theorem pow2_pos (n : Nat) : 0 < pow2 n :=
  Nat.pow_pos (by decide)

theorem pow10_pos (n : Nat) : 0 < pow10 n :=
  Nat.pow_pos (by decide)

theorem pow2_add (m n : Nat) : pow2 (m + n) = pow2 m * pow2 n :=
  Nat.pow_add 2 m n

theorem pow10_add (m n : Nat) : pow10 (m + n) = pow10 m * pow10 n :=
  Nat.pow_add 10 m n

end SchemaStore
