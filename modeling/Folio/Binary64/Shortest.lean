/-
# The shortest decimals of binary numbers

A number is written with the fewest decimal digits from which it can be read
back, and of several such decimals as the nearest. The numbers that round to it
form an interval, which has its ends if the last bit of the magnitude is zero.
For one digit, two digits and so on, the two decimals around the number are
tried.

Where the point stands decides the form: near the digits they are written with
a point, and at least one digit on either side of it; otherwise the first digit
is followed by the point and an exponent of ten. `PointStyle` holds what the
ways of writing in use decide differently, among it what stands for a number
that is not finite.

Key definitions: `Binary64.Decimal`, `Binary64.shortest`, `PointStyle`,
`Binary64.write`.
-/
import Folio.Binary64

namespace Folio
namespace Binary64

/-- Digits, and where the point stands: so many digits behind the start. -/
structure Decimal where
  digits : List Char
  point : Int
  deriving DecidableEq, Repr

/-! ### Digits -/

/-- The digits of a whole number. -/
def digitsOf (n : Nat) : List Char :=
  (toString n).toList

/-- Where the point stands in a magnitude: ten to this power is above it, and
ten to the power before is not. -/
def pointOf (units : Nat) : Int :=
  if one ≤ units then (digitsOf (units / one)).length
  else 1 - ((digitsOf ((one - 1) / units)).length : Int)

/-- Quarters of units in so many times a power of ten, over a common
denominator. -/
def quarters (count : Nat) (power : Int) : Nat :=
  count * Nat.pow 10 power.toNat * (4 * one)

/-- The denominator of quarters. -/
def denominator (power : Int) : Nat :=
  Nat.pow 10 (-power).toNat

/-- Does a decimal round to a magnitude? -/
def readsBack (units : Nat) (power : Int) (count : Nat) : Bool :=
  let gap := step units
  let below := if 1 < gap ∧ units = Nat.pow 2 units.log2 then gap else 2 * gap
  let low := (4 * units - below) * denominator power
  let high := (4 * units + 2 * gap) * denominator power
  let given := quarters count power
  if units / gap % 2 = 0 then low ≤ given && given ≤ high else low < given && given < high

/-- The decimal of a given power that is nearest to a magnitude among those
around it that round to it. -/
def around? (units : Nat) (power : Int) : Option Nat :=
  let scaled := 4 * units * denominator power
  let below := scaled / quarters 1 power
  match readsBack units power below, readsBack units power (below + 1) with
  | true, true =>
    let middle := quarters (2 * below + 1) power
    if 2 * scaled < middle ∨ (2 * scaled = middle ∧ below % 2 = 0) then some below
    else some (below + 1)
  | true, false => some below
  | false, true => some (below + 1)
  | false, false => none

/-- Digits without the zeros at their end. -/
def withoutZeros (ds : List Char) : List Char :=
  (ds.reverse.dropWhile (· = '0')).reverse

/-- The shortest decimal of a magnitude that is not zero, of `more` digits
behind those tried. -/
def shortestFrom (units : Nat) (tried : Nat) : Nat → Decimal
  | 0 => ⟨digitsOf (units / one), (digitsOf (units / one)).length⟩
  | more + 1 =>
    let power := pointOf units - ((tried : Int) + 1)
    match around? units power with
    | some count => ⟨withoutZeros (digitsOf count), (digitsOf count).length + power⟩
    | none => shortestFrom units (tried + 1) more

/-- The shortest decimal of a magnitude. Seventeen digits always do. -/
def shortest (units : Nat) : Decimal :=
  if units = 0 then ⟨['0'], 1⟩ else shortestFrom units 0 17

/-! ### Layout -/

end Binary64

/-- What a way of writing decides: from where on the point stays near the
digits, how many digits an exponent has at least, and what is written for the
infinities and for what is no number. -/
structure PointStyle where
  least : Int
  width : Nat
  infinity : Bool → String
  nan : String

namespace PointStyle

/-- The way of messages. -/
def plain : PointStyle where
  least := -3
  width := 2
  infinity negative := if negative then "-inf" else "inf"
  nan := "nan"

/-- The way of log lines. -/
def spelled : PointStyle where
  least := -3
  width := 2
  infinity negative := if negative then "-Infinity" else "Infinity"
  nan := "NaN"

/-- The way of page dumps. -/
def terse : PointStyle :=
  { spelled with least := -4, width := 1 }

/-- The greatest position of the point at which it stays near the digits. -/
def greatest : Int := 16

/-- An exponent. -/
def exponent (style : PointStyle) (n : Int) : List Char :=
  let digits := Binary64.digitsOf n.natAbs
  'e' :: (if n < 0 then '-' else '+') ::
    List.replicate (style.width - digits.length) '0' ++ digits

/-- Digits as those of a fraction, at least one. -/
def fraction (digits : List Char) : List Char :=
  '.' :: if digits = [] then ['0'] else digits

/-- A decimal laid out. -/
def layOut (style : PointStyle) (d : Binary64.Decimal) : List Char :=
  if d.point < style.least ∨ greatest < d.point then
    d.digits.take 1 ++ (if d.digits.length ≤ 1 then [] else fraction (d.digits.drop 1)) ++
      style.exponent (d.point - 1)
  else if d.point ≤ 0 then
    '0' :: fraction (List.replicate (-d.point).toNat '0' ++ d.digits)
  else
    d.digits.take d.point.toNat ++ List.replicate (d.point.toNat - d.digits.length) '0' ++
      fraction (d.digits.drop d.point.toNat)

end PointStyle

namespace Binary64

/-- The number as text. -/
def write (style : PointStyle) : Binary64 → String
  | finite negative units =>
    String.ofList ((if negative then ['-'] else []) ++ style.layOut (shortest units))
  | infinity negative => style.infinity negative
  | nan => style.nan

end Binary64
end Folio
