/-
# Blanks and digits

Two classes of blank characters are in use. `isWhiteSpace` is the Unicode
property White_Space: it surrounds numerals. `isBlank` holds the four
information separators U+001C to U+001F besides: it surrounds the parts of a
comma separated setting.

Every script that writes numbers in base ten has ten digits of its own, which
stand one behind the other from zero to nine: the Unicode general category Nd.
The table lists the code points of the zeros in ascending order. Hexadecimal
digits are written in small letters, for escapes in written text, and read in
either case.

Key definitions: `Text.isWhiteSpace`, `Text.isBlank`, `Text.trimmed`,
`Text.digit?`, `Text.isDigit`, `Text.Hex.digit`, `Text.Hex.fixed`,
`Text.Hex.value?`.
-/

namespace Folio
namespace Text

/-! ### Blanks -/

/-- The characters with the Unicode property White_Space. -/
def isWhiteSpace (c : Char) : Bool :=
  let n := c.toNat
  (0x9 ≤ n && n ≤ 0xd) || n == 0x20 || n == 0x85 || n == 0xa0 || n == 0x1680 ||
    (0x2000 ≤ n && n ≤ 0x200a) || n == 0x2028 || n == 0x2029 || n == 0x202f ||
    n == 0x205f || n == 0x3000

/-- White space and the information separators. -/
def isBlank (c : Char) : Bool :=
  isWhiteSpace c || (0x1c ≤ c.toNat && c.toNat ≤ 0x1f)

/-- The text without the characters of a class at its end. -/
def trimmedEnd (p : Char → Bool) (s : List Char) : List Char :=
  (s.reverse.dropWhile p).reverse

/-- The text without the characters of a class at either end. -/
def trimmed (p : Char → Bool) (s : List Char) : List Char :=
  trimmedEnd p (s.dropWhile p)

/-! ### Decimal digits -/

/-- The zeros of all scripts. -/
def zeros : List Nat := [
  0x30, 0x660, 0x6f0, 0x7c0, 0x966, 0x9e6, 0xa66, 0xae6, 0xb66, 0xbe6, 0xc66, 0xce6, 0xd66, 0xde6,
  0xe50, 0xed0, 0xf20, 0x1040, 0x1090, 0x17e0, 0x1810, 0x1946, 0x19d0, 0x1a80, 0x1a90, 0x1b50,
  0x1bb0, 0x1c40, 0x1c50, 0xa620, 0xa8d0, 0xa900, 0xa9d0, 0xa9f0, 0xaa50, 0xabf0, 0xff10, 0x104a0,
  0x10d30, 0x11066, 0x110f0, 0x11136, 0x111d0, 0x112f0, 0x11450, 0x114d0, 0x11650, 0x116c0,
  0x11730, 0x118e0, 0x11950, 0x11c50, 0x11d50, 0x11da0, 0x16a60, 0x16ac0, 0x16b50, 0x1d7ce,
  0x1d7d8, 0x1d7e2, 0x1d7ec, 0x1d7f6, 0x1e140, 0x1e2f0, 0x1e950, 0x1fbf0]

/-- The digit that a code point stands for, going through zeros in order. -/
def digitAmong? (n : Nat) : List Nat → Option Nat
  | [] => none
  | first :: rest =>
    if n < first then none else if n < first + 10 then some (n - first) else digitAmong? n rest

/-- The digit that a character stands for. -/
def digit? (c : Char) : Option Nat :=
  digitAmong? c.toNat zeros

/-- Is a character a digit of some script? -/
def isDigit (c : Char) : Bool :=
  (digit? c).isSome

namespace Hex

/-! ### Hexadecimal digits -/

/-- The lower-case digit of a number below sixteen. -/
def digit (n : Nat) : Char :=
  if n < 10 then Char.ofNat ('0'.toNat + n) else Char.ofNat ('a'.toNat + (n - 10))

/-- The last `width` digits of a number. -/
def fixed : Nat → Nat → List Char
  | 0, _ => []
  | width + 1, n => fixed width (n / 16) ++ [digit (n % 16)]

/-- The value of a digit in either case. -/
def value? (c : Char) : Option Nat :=
  if '0' ≤ c ∧ c ≤ '9' then some (c.toNat - '0'.toNat)
  else if 'a' ≤ c ∧ c ≤ 'f' then some (c.toNat - 'a'.toNat + 10)
  else if 'A' ≤ c ∧ c ≤ 'F' then some (c.toNat - 'A'.toNat + 10)
  else none

end Hex
end Text
end Folio
