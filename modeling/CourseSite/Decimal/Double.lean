/-
  Binary64 numbers as exact data: a sign and the rank of the magnitude among
  all nonnegative doubles, so that every operation is arithmetic on `Nat`.

  * `Double`: rank `0` is zero, rank `2047 · 2^52` is infinity, and every rank
    above it is a NaN; `Double.bits` is the 64-bit word.
  * `significand` and `exponent`: the magnitude of a finite double is
    `significand · 2 ^ exponent`.
  * `ofRatio`, `ofDecimal`, `ofInt`: the nearest double of a quotient, of a
    decimal and of an integer; a tie goes to the even significand, and what
    lies beyond the largest finite double becomes an infinity.
-/

namespace CourseSite

/-- A binary64 number: its sign and the rank of its magnitude. -/
structure Double where
  negative : Bool
  rank : Nat
  rank_lt : rank < 0x8000000000000000
deriving DecidableEq

namespace Double

/-- The rank of infinity: one past the largest finite magnitude. -/
def infinityRank : Nat := 0x7FF0000000000000

/-- The double of a sign and a rank; a rank past infinity becomes infinity. -/
def ofRank (negative : Bool) (rank : Nat) : Double where
  negative := negative
  rank := min rank infinityRank
  rank_lt := Nat.lt_of_le_of_lt (Nat.min_le_right _ _) (by decide)

/-- Zero, with a sign. -/
def zero (negative : Bool) : Double := ofRank negative 0

/-- Infinity, with a sign. -/
def infinity (negative : Bool) : Double := ofRank negative infinityRank

/-- The quiet NaN. -/
def nan : Double := ⟨false, 0x7FF8000000000000, by decide⟩

/-- The number is neither infinite nor a NaN. -/
def isFinite (x : Double) : Bool := x.rank < infinityRank

/-- The number is a NaN. -/
def isNaN (x : Double) : Bool := infinityRank < x.rank

/-- The number is zero, negative or minus infinity; a NaN is not. -/
def isAtMostZero (x : Double) : Bool := !x.isNaN && (x.negative || x.rank == 0)

/-- The 64-bit word: the sign bit above the rank. -/
def bits (x : Double) : Nat := (if x.negative then 0x8000000000000000 else 0) + x.rank

/-- The bit above the 52 that a rank keeps of a significand. -/
def leadingBit : Nat := 0x10000000000000

/-- The whole number `m` of the magnitude `m · 2 ^ exponent`. -/
def significand (x : Double) : Nat :=
  if x.rank < leadingBit then x.rank else leadingBit + x.rank % leadingBit

/-- The exponent `q` of the magnitude `significand · 2 ^ q`. -/
def exponent (x : Double) : Int :=
  if x.rank < leadingBit then -1074 else (x.rank / leadingBit : Nat) - 1075

/-! ## Rounding -/

/-- The whole number nearest to `n / d`; a half goes to the even neighbour. -/
def roundHalfEven (n d : Nat) : Nat :=
  if 2 * (n % d) < d then n / d
  else if d < 2 * (n % d) then n / d + 1
  else n / d + n / d % 2

/-- The exponent of the leading bit of `n / d`: the greatest `k` with `2 ^ k ≤ n / d`. -/
def leadingExponent (n d : Nat) : Int :=
  let k : Int := (n.log2 : Int) - d.log2
  if d <<< k.toNat ≤ n <<< (-k).toNat then k else k - 1

/-- The rank of the double nearest to `n / d`: the quotient is measured in the
    last place of its binade, but in no place smaller than the least double. -/
def nearestRank (n d : Nat) : Nat :=
  let place := max (leadingExponent n d - 52) (-1074)
  (place + 1074).toNat * leadingBit +
    roundHalfEven (n <<< (-place).toNat) (d <<< place.toNat)

/-- The double nearest to `n / d`. -/
def ofRatio (negative : Bool) (n d : Nat) : Double :=
  if n = 0 then zero negative else ofRank negative (nearestRank n d)

/-- The double nearest to a whole number. -/
def ofInt (n : Int) : Double := ofRatio (n < 0) n.natAbs 1

/-- The double nearest to `digits · 10 ^ exponent`.  Exponents far outside the
    range of a double are answered without forming the power. -/
def ofDecimal (negative : Bool) (digits : Nat) (exponent : Int) : Double :=
  if digits = 0 then zero negative
  else if 400 < exponent then infinity negative
  else if (digits.log2 : Int) + 3 * exponent < -1100 then zero negative
  else ofRatio negative (digits * Nat.pow 10 exponent.toNat) (Nat.pow 10 (-exponent).toNat)

end Double

end CourseSite
