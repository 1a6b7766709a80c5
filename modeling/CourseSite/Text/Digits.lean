/-
  Digits and codes of characters.

  * `digit?`, `natural?`: the value of a digit, or of several, in a base up to 16.
  * `fits64`, `fits128`: the whole number fits a word, with or without a sign.
  * `scalar?`: the character of a code.
-/

namespace CourseSite.Text

/-- The value of a digit in a base up to 16; letters of both cases are digits. -/
def digit? (base : Nat) (c : Char) : Option Nat :=
  let value :=
    if '0' ≤ c ∧ c ≤ '9' then some (c.toNat - '0'.toNat)
    else if 'a' ≤ c ∧ c ≤ 'f' then some (c.toNat - 'a'.toNat + 10)
    else if 'A' ≤ c ∧ c ≤ 'F' then some (c.toNat - 'A'.toNat + 10)
    else none
  value.filter (· < base)

/-- The value of one or more digits in a base. -/
def natural? (base : Nat) (cs : List Char) : Option Nat :=
  if cs.isEmpty then none
  else cs.foldlM (fun n c => (digit? base c).map (base * n + ·)) 0

/-- The whole number fits a word of 64 bits, with a sign if it is negative. -/
def fits64 (n : Int) : Bool := -0x8000000000000000 ≤ n && n < 0x10000000000000000

/-- The whole number fits a word of 128 bits, with a sign if it is negative. -/
def fits128 (n : Int) : Bool :=
  -0x80000000000000000000000000000000 ≤ n && n < 0x100000000000000000000000000000000

/-- The character of a code, unless it lies beyond Unicode or is half of a pair. -/
def scalar? (code : Nat) : Option Char :=
  if code < 0xD800 ∨ (0xE000 ≤ code ∧ code < 0x110000) then some (Char.ofNat code) else none

end CourseSite.Text
