/-
# Query strings

A query string is a list of parameters separated by `&`, a name and a value
with `=` between them. A parameter without `=` has an empty value, and of
several parameters of one name the last counts.

In both `+` stands for a space and `%XX` for a byte; the bytes are UTF-8. An
escape without two hexadecimal digits stands for itself. Bytes that are not
UTF-8 are read as U+FFFD, one for each longest start of a character that breaks
off and one for each byte that starts none.

Key definitions: `Text.Percent.unescape`, `Text.Percent.Utf8.decode`,
`Text.Percent.decode`, `Query.parameters`, `Query.last?`.
-/
import Folio.Text.Digits
import Folio.Text.Separated

namespace Folio
namespace Text
namespace Percent

/-! ### Percent-encoded text -/

/-- The bytes of a text with its escapes replaced. -/
def unescape : List UInt8 → List UInt8
  | [] => []
  | 0x25 :: high :: low :: rest =>
    match Hex.value? (Char.ofNat high.toNat), Hex.value? (Char.ofNat low.toNat) with
    | some h, some l => UInt8.ofNat (16 * h + l) :: unescape rest
    | _, _ => 0x25 :: unescape (high :: low :: rest)
  | byte :: rest => byte :: unescape rest

namespace Utf8

/-- A character begun and not yet complete: the bits read, how many bytes are
missing, and the bounds of the next one. -/
structure Begun where
  bits : Nat
  missing : Nat
  low : Nat
  high : Nat

/-- Stands for what cannot be read. -/
def replacement : Char := Char.ofNat 0xfffd

/-- What a byte that starts a character gives: the characters completed and
the one begun. -/
def start (byte : Nat) : List Char × Option Begun :=
  if byte < 0x80 then ([Char.ofNat byte], none)
  else if byte < 0xc2 then ([replacement], none)
  else if byte < 0xe0 then ([], some ⟨byte - 0xc0, 1, 0x80, 0xbf⟩)
  else if byte = 0xe0 then ([], some ⟨0, 2, 0xa0, 0xbf⟩)
  else if byte = 0xed then ([], some ⟨0xd, 2, 0x80, 0x9f⟩)
  else if byte < 0xf0 then ([], some ⟨byte - 0xe0, 2, 0x80, 0xbf⟩)
  else if byte = 0xf0 then ([], some ⟨0, 3, 0x90, 0xbf⟩)
  else if byte < 0xf4 then ([], some ⟨byte - 0xf0, 3, 0x80, 0xbf⟩)
  else if byte = 0xf4 then ([], some ⟨4, 3, 0x80, 0x8f⟩)
  else ([replacement], none)

/-- The same for any byte, after the character begun by the bytes before it. -/
def feed (begun : Option Begun) (byte : Nat) : List Char × Option Begun :=
  match begun with
  | none => start byte
  | some b =>
    if b.low ≤ byte ∧ byte ≤ b.high then
      let bits := b.bits * 64 + (byte - 0x80)
      if b.missing = 1 then ([Char.ofNat bits], none)
      else ([], some ⟨bits, b.missing - 1, 0x80, 0xbf⟩)
    else (replacement :: (start byte).1, (start byte).2)

/-- The characters of the bytes that follow a character begun. -/
def decodeFrom (begun : Option Begun) : List UInt8 → List Char
  | [] => if begun.isSome then [replacement] else []
  | byte :: rest => (feed begun byte.toNat).1 ++ decodeFrom (feed begun byte.toNat).2 rest

/-- The characters of UTF-8 bytes. -/
def decode (bytes : List UInt8) : List Char :=
  decodeFrom none bytes

end Utf8

/-- The text that a part of a query string stands for. -/
def decode (s : List Char) : List Char :=
  let spaced := s.map fun c => if c = '+' then ' ' else c
  Utf8.decode (unescape (spaced.flatMap String.utf8EncodeChar))

end Percent
end Text

namespace Query

/-! ### Parameters -/

/-- The name and the value of a parameter. -/
def parameter (s : List Char) : String × String :=
  (String.ofList (Text.Percent.decode (s.takeWhile (· ≠ '='))),
    String.ofList (Text.Percent.decode ((s.dropWhile (· ≠ '=')).drop 1)))

/-- The parameters of a query string in order. -/
def parameters (query : String) : List (String × String) :=
  ((Text.parts '&' query.toList).filter (· ≠ [])).map parameter

/-- The value of the last parameter of a name. -/
def last? (parameters : List (String × String)) (name : String) : Option String :=
  parameters.reverse.lookup name

end Query
end Folio
