/-
# Reading whole numbers

A plain numeral is an optional minus sign and decimal digits, of which the
first is zero only when it is alone. A text that is no plain numeral, white
space around it dropped, is tidied and read once more: a plus sign, a fraction
of zeros and the leading zeros go, with the underscores among them, and then
the underscores that group digits, unless two of them meet or one stands at an
end. Leading zeros may also stand before a minus sign.

A plain numeral of more than 4300 digits is never read. It is refused as too
long when the text itself starts with it; when white space stands before it or
only the tidied text starts with it, the text counts as unreadable like any
other.

Where digits of any script will do, also of several, a whole number may be
written with white space around it, a sign, and single underscores between its
digits. One of more than 4300 digits is not read, whatever follows it.

Key definitions: `Text.Numeral.plain?`, `Text.Numeral.tidied?`,
`Text.Numeral.read`, `Text.Integer.Fault`, `Text.Integer.read`.
-/
import Folio.Text.Digits

namespace Folio
namespace Text
namespace Numeral

/-! ### Numerals -/

/-- Why a text gives no number. -/
inductive Fault where
  | unreadable
  | tooLong
  deriving DecidableEq, Repr

/-- The most digits a plain numeral may have. -/
def longest : Nat := 4300

/-- The digits from one on. -/
def isCount (c : Char) : Bool :=
  c.isDigit && c != '0'

/-- The number a run of digits stands for. -/
def value (ds : List Char) : Nat :=
  ds.foldl (fun n d => 10 * n + (d.toNat - '0'.toNat)) 0

/-! ### Plain numerals -/

/-- The digits of a number without sign. -/
def natural? : List Char → Option Nat
  | [] => none
  | ['0'] => some 0
  | c :: rest => if isCount c ∧ rest.all Char.isDigit then some (value (c :: rest)) else none

/-- The number of a plain numeral of any length. -/
def plain? : List Char → Option Int
  | '-' :: ds => (natural? ds).map fun n => -(n : Int)
  | ds => (natural? ds).map Int.ofNat

/-- How many characters of a text belong to the digits it starts with, zero
when the first of them is a zero. -/
def digitRun : List Char → Nat
  | [] => 0
  | c :: rest => if isCount c then 1 + (rest.takeWhile Char.isDigit).length else 0

/-- Does a text start with a plain numeral that is too long? -/
def startsTooLong : List Char → Bool
  | '-' :: ds => longest < digitRun ds
  | ds => longest < digitRun ds

/-! ### Tidying -/

/-- The text before a fraction of zeros, the whole text when there is none. -/
def withoutFraction (s : List Char) : List Char :=
  match s.dropWhile (· ≠ '.') with
  | _ :: z :: zeros =>
    if (z :: zeros).all (· = '0') then s.takeWhile (· ≠ '.') else s
  | _ => s

/-- What follows leading zeros and the underscores among them, of which `last`
is the one before the text. It starts with another digit or a minus sign; when
nothing follows the last of them is kept. -/
def afterZeros (last : Char) : List Char → Option (List Char)
  | [] => some [last]
  | c :: rest =>
    if c = '0' ∨ c = '_' then afterZeros c rest
    else if isCount c ∨ c = '-' then some (c :: rest)
    else none

/-- The text without leading zeros, `none` if it starts with anything but a
digit or a minus sign. -/
def withoutZeros : List Char → Option (List Char)
  | [] => none
  | c :: rest =>
    if c = '0' then afterZeros c rest
    else if isCount c ∨ c = '-' then some (c :: rest)
    else none

/-- Do two underscores meet? -/
def hasPair : List Char → Bool
  | '_' :: '_' :: _ => true
  | _ :: rest => hasPair rest
  | [] => false

/-- The text without the underscores that group its digits. -/
def ungrouped (s : List Char) : List Char :=
  if s.head? = some '_' ∨ s.getLast? = some '_' ∨ hasPair s then s else s.filter (· ≠ '_')

/-- The text without plus sign, fraction of zeros and leading zeros. -/
def tidied? (s : List Char) : Option (List Char) :=
  match s with
  | '+' :: '-' :: _ => none
  | '+' :: rest => (withoutZeros (withoutFraction rest)).map ungrouped
  | _ =>
    match withoutFraction s with
    | '-' :: rest => (withoutZeros rest).map fun t => ungrouped ('-' :: t)
    | t => (withoutZeros t).map ungrouped

/-! ### Reading -/

/-- The number of a tidied text. -/
def readTidied (s : List Char) : Except Fault Int :=
  match tidied? s with
  | none => .error .unreadable
  | some t =>
    match plain? t with
    | some n => if startsTooLong t then .error .unreadable else .ok n
    | none => .error .unreadable

/-- The number a text stands for, white space around it dropped. -/
def read (s : String) : Except Fault Int :=
  if startsTooLong s.toList then .error .tooLong
  else match plain? s.toList with
    | some n => .ok n
    | none => readTidied (trimmed isWhiteSpace s.toList)

end Numeral

namespace Integer

/-! ### Digits of any script -/

/-- Why a text gives no number. -/
inductive Fault where
  | unreadable
  | tooLong (digits : Nat)
  deriving DecidableEq, Repr

/-- The most digits of a number that is read. -/
def longest : Nat := 4300

/-- The characters that numbers are made of. -/
def isPart (c : Char) : Bool :=
  isDigit c || c == '_'

/-- Does every underscore have a digit before it and one behind it? `after` is
true behind a digit. -/
def isGrouped (after : Bool) : List Char → Bool
  | [] => after
  | c :: rest => if c = '_' then after && isGrouped false rest else isGrouped true rest

/-- The number that digits stand for. -/
def value (digits : List Nat) : Nat :=
  digits.foldl (fun n d => 10 * n + d) 0

/-- The number without sign that a text stands for. -/
def natural (s : List Char) : Except Fault Nat :=
  let digits := (s.takeWhile isPart).filterMap digit?
  if !isGrouped false (s.takeWhile isPart) then .error .unreadable
  else if longest < digits.length then .error (.tooLong digits.length)
  else if (s.dropWhile isPart).all isWhiteSpace then .ok (value digits)
  else .error .unreadable

/-- The number that a text stands for. -/
def read (s : String) : Except Fault Int :=
  match s.toList.dropWhile isWhiteSpace with
  | '-' :: rest => (natural rest).map fun n => -(n : Int)
  | '+' :: rest => (natural rest).map Int.ofNat
  | rest => (natural rest).map Int.ofNat

end Integer
end Text
end Folio
