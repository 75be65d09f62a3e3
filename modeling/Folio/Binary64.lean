/-
# Binary numbers of 64 bits

Settings, options and rows may hold numbers with a fraction. Such a number is
kept in 64 bits: a sign, and a magnitude of at most 53 significant bits, which
is a multiple of the least magnitude there is, 2⁻¹⁰⁷⁴, and below 2¹⁰²⁴. What
would be larger is infinite, and what arithmetic has no answer for is no number
at all. Sums, products and quotients are exact and then rounded to the nearest
number, of two equally near to the one whose last bit is zero.

Key definitions: `Binary64`, `Binary64.nearest`, `Binary64.ofDecimal`,
`Binary64.add`, `Binary64.mul`, `Binary64.div`, `Binary64.floorQuotient`.
-/

namespace Folio

/-- A number in 64 bits. -/
inductive Binary64 where
  /-- A sign, and a magnitude in units of 2⁻¹⁰⁷⁴. -/
  | finite (negative : Bool) (units : Nat)
  | infinity (negative : Bool)
  | nan
  deriving DecidableEq, Repr

namespace Binary64

/-- The number of units in one. -/
def one : Nat := Nat.pow 2 1074

/-- The units from which on a magnitude is infinite. -/
def beyond : Nat := Nat.pow 2 1024 * one

/-! ### Rounding -/

/-- A quotient rounded to the nearest whole number, a half to the even one. -/
def roundedQuotient (n d : Nat) : Nat :=
  if 2 * (n % d) < d ∨ (2 * (n % d) = d ∧ n / d % 2 = 0) then n / d else n / d + 1

/-- The distance between neighbouring magnitudes from one of so many units on:
53 bits are significant. -/
def step (units : Nat) : Nat :=
  Nat.pow 2 (units.log2 - 52)

/-- A number of a given sign and magnitude. -/
def ofMagnitude (negative : Bool) (units : Nat) : Binary64 :=
  if units < beyond then finite negative units else infinity negative

/-- The number nearest to a fraction of units. -/
def nearest (negative : Bool) (n d : Nat) : Binary64 :=
  ofMagnitude negative (roundedQuotient n (d * step (n / d)) * step (n / d))

/-- The number nearest to digits times a power of ten. -/
def ofDecimal (negative : Bool) (digits : Nat) (power : Int) : Binary64 :=
  nearest negative (digits * Nat.pow 10 power.toNat * one) (Nat.pow 10 (-power).toNat)

/-- The number nearest to a whole number. -/
def ofInt (n : Int) : Binary64 :=
  nearest (decide (n < 0)) (n.natAbs * one) 1

/-! ### Looking -/

/-- Is the number one of those with a magnitude? -/
def isFinite : Binary64 → Bool
  | finite _ _ => true
  | _ => false

/-- Units with a sign. -/
def withSign (negative : Bool) (units : Nat) : Int :=
  if negative then -(units : Int) else units

/-- Is there no fraction? -/
def isWhole : Binary64 → Bool
  | finite _ units => units % one == 0
  | _ => false

/-- A finite number without its fraction. -/
def truncated? : Binary64 → Option Int
  | finite negative units => some (Int.tdiv (withSign negative units) one)
  | _ => none

/-- Zero of either sign. -/
def isZero : Binary64 → Bool
  | finite _ units => units == 0
  | _ => false

/-! ### Arithmetic -/

/-- The number nearest to so many units. -/
def ofUnits (units : Int) : Binary64 :=
  nearest (decide (units < 0)) units.natAbs 1

/-- A sum. It is a negative zero only when both parts are. -/
def add : Binary64 → Binary64 → Binary64
  | finite a m, finite b n =>
    let sum := withSign a m + withSign b n
    if sum = 0 then finite (a && b) 0 else ofUnits sum
  | infinity a, infinity b => if a = b then infinity a else nan
  | infinity a, finite _ _ => infinity a
  | finite _ _, infinity b => infinity b
  | _, _ => nan

/-- A product. -/
def mul : Binary64 → Binary64 → Binary64
  | finite a m, finite b n => nearest (a != b) (m * n) one
  | infinity a, infinity b => infinity (a != b)
  | infinity a, finite b n => if n = 0 then nan else infinity (a != b)
  | finite a m, infinity b => if m = 0 then nan else infinity (a != b)
  | _, _ => nan

/-- A quotient, the divisor not being zero. -/
def div : Binary64 → Binary64 → Binary64
  | finite a m, finite b n => nearest (a != b) (m * one) n
  | infinity a, finite b _ => infinity (a != b)
  | finite a _, infinity b => finite (a != b) 0
  | _, _ => nan

/-- The nearest whole number, of two equally near the lower one. -/
def toWhole : Binary64 → Binary64
  | finite negative units =>
    let below := Int.fdiv (withSign negative units) one
    ofInt (if one < 2 * Int.fmod (withSign negative units) one then below + 1 else below)
  | x => x

/-- The greatest whole number that is not above a quotient. The remainder is
taken off first and what is left then divided. Both steps are rounded, so a
quotient that is too large to have a fraction may be off in its last bit. A
quotient by an infinity is next to zero, and one of an infinity has no whole
part. -/
def floorQuotient : Binary64 → Binary64 → Binary64
  | finite a m, finite b n =>
    let rest := Int.tmod (withSign a m) (withSign b n)
    let quotient := (ofUnits (withSign a m - rest)).div (finite b n)
    let isAbove := rest ≠ 0 ∧ a ≠ b
    (if isAbove then quotient.add (ofInt (-1)) else quotient).toWhole
  | finite a m, infinity b => if m ≠ 0 ∧ a ≠ b then ofInt (-1) else finite (a != b) 0
  | _, _ => nan

end Binary64
end Folio
