/-
  The text of a double: the fewest digits that read back, and how they are
  laid out.

  * `Double.shortest`: on the grids of one, two, … digits the two neighbours of
    the number are tried; the first grid with a neighbour that reads back wins,
    and of two such neighbours the nearer one.
  * `Layout`: every decision about the written form in one record; `Layout.plain`
    never writes an exponent, `Layout.pointed` always shows a decimal point or
    an exponent, `Layout.json` is the form inside JSON text.
  * `Double.render`: the text of a double under a layout.
-/
import CourseSite.Decimal.Double

namespace CourseSite

/-! ## Digits -/

/-- A decimal `digits · 10 ^ exponent`. -/
structure Decimal where
  digits : Nat
  exponent : Int
deriving DecidableEq

namespace Decimal

/-- The number of decimal digits of a whole number; zero has one. -/
def length (n : Nat) : Nat := (Nat.toDigits 10 n).length

/-- Trailing zeros of the digits are moved into the exponent. -/
def stripZeros (fuel : Nat) (d : Decimal) : Decimal :=
  match fuel with
  | 0 => d
  | fuel + 1 =>
    if d.digits ≠ 0 ∧ d.digits % 10 = 0 then stripZeros fuel ⟨d.digits / 10, d.exponent + 1⟩ else d

end Decimal

namespace Double

/-- The numerator of the magnitude `numerator / denominator`. -/
def numerator (x : Double) : Nat := x.significand <<< x.exponent.toNat

/-- The denominator of the magnitude `numerator / denominator`. -/
def denominator (x : Double) : Nat := 1 <<< (-x.exponent).toNat

/-- The greatest `k` with `10 ^ k ≤ n / d`, for a positive quotient. -/
def leadingDecimal (n d : Nat) : Int :=
  if d ≤ n then (Decimal.length (n / d) : Int) - 1
  else -(Decimal.length ((d + n - 1) / n - 1) : Int)

/-- The decimal reads back as the magnitude of `x`. -/
def readsBack (x : Double) (d : Decimal) : Bool :=
  (ofDecimal false d.digits d.exponent).rank == x.rank

/-- The neighbour of `x` on the grid of `count` digits that reads back, if one
    does; of two the nearer, and an exact tie goes up if `tieUp`, else to the
    even digit. -/
def neighbour? (tieUp : Bool) (x : Double) (count : Nat) : Option Decimal :=
  let n := x.numerator
  let d := x.denominator
  let place := leadingDecimal n d - (count : Int) + 1
  let top := n * Nat.pow 10 (-place).toNat
  let step := d * Nat.pow 10 place.toNat
  let below : Decimal := ⟨top / step, place⟩
  let above : Decimal := ⟨top / step + 1, place⟩
  let remainder := 2 * (top % step)
  match x.readsBack below, x.readsBack above with
  | true, false => some below
  | false, true => some above
  | false, false => none
  | true, true =>
    if remainder < step then some below
    else if step < remainder then some above
    else if tieUp || below.digits % 2 = 1 then some above
    else some below

/-- The shortest decimal that reads back as the magnitude of a finite nonzero
    double; seventeen digits always do. -/
def shortest (tieUp : Bool) (x : Double) : Decimal :=
  let found := (List.range 17).findSome? fun i => x.neighbour? tieUp (i + 1)
  (found.getD ⟨x.numerator, 0⟩).stripZeros 20

end Double

/-! ## Layout -/

/-- The decisions about the written form of a number. -/
structure Layout where
  /-- Numbers below `10 ^ least` take an exponent. -/
  least : Option Int
  /-- Numbers from `10 ^ bound` up take an exponent. -/
  bound : Option Int
  /-- A whole number written without an exponent keeps `.0`. -/
  keepsPoint : Bool
  /-- A positive exponent shows its sign. -/
  signsExponent : Bool
  /-- An exact tie between two shortest decimals goes up, not to the even digit. -/
  tieUp : Bool

namespace Layout

/-- Never an exponent, and no point on a whole number: `3`, `2.5`. -/
def plain : Layout := ⟨none, none, false, false, true⟩

/-- A point or an exponent in every number: `100.0`, `1e16`, `1e-5`. -/
def pointed : Layout := ⟨some (-4), some 16, true, false, true⟩

/-- The form of a number inside JSON text: `100.0`, `1e+16`, `0.00001`. -/
def json : Layout := ⟨some (-5), some 16, true, true, false⟩

/-- The number with leading digit at `10 ^ e` is written without an exponent. -/
def isPositional (layout : Layout) (e : Int) : Bool :=
  layout.least.all (· ≤ e) && layout.bound.all (e < ·)

end Layout

namespace Double

/-- Digits written with a decimal point, the leading one at `10 ^ e`. -/
def positional (layout : Layout) (digits : List Char) (e : Int) : List Char :=
  if e < 0 then '0' :: '.' :: List.replicate (-e - 1).toNat '0' ++ digits
  else
    let whole := e.toNat + 1
    if digits.length ≤ whole then
      digits ++ List.replicate (whole - digits.length) '0' ++
        (if layout.keepsPoint then ['.', '0'] else [])
    else digits.take whole ++ '.' :: digits.drop whole

/-- Digits written with an exponent: one before the point, the others after it. -/
def scientific (layout : Layout) (digits : List Char) (e : Int) : List Char :=
  let fraction := if digits.length ≤ 1 then [] else '.' :: digits.drop 1
  let sign := if e < 0 then ['-'] else if layout.signsExponent then ['+'] else []
  digits.take 1 ++ fraction ++ 'e' :: sign ++ Nat.toDigits 10 e.natAbs

/-- The magnitude of a finite double, written out. -/
def renderMagnitude (layout : Layout) (x : Double) : List Char :=
  if x.rank = 0 then '0' :: (if layout.keepsPoint then ['.', '0'] else [])
  else
    let decimal := x.shortest layout.tieUp
    let digits := Nat.toDigits 10 decimal.digits
    let e := decimal.exponent + digits.length - 1
    if layout.isPositional e then positional layout digits e else scientific layout digits e

/-- The text of a double. -/
def render (layout : Layout) (x : Double) : String :=
  if x.isNaN then "NaN"
  else
    let sign := if x.negative then "-" else ""
    if x.isFinite then sign ++ String.ofList (x.renderMagnitude layout) else sign ++ "inf"

end Double

end CourseSite
