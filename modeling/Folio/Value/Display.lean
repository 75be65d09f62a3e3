/-
# Values written as text

A message shows the value it is about: texts between quotes, lists in
brackets, records in braces. `Value.plain` is the form that goes into running
text, where a text stands without its quotes.

There are two ways to write JSON: the compact one of a page dump, in which only
the quote, the backslash and the controls below U+0020 are escaped, and the
spaced one of a log line, in which everything outside printable ASCII is
escaped by its UTF-16 units. `JsonStyle` holds what they decide differently.

Key definitions: `Value.display`, `Value.plain`, `JsonStyle`, `Value.json`,
`Value.compact`, `Value.spaced`.
-/
import Folio.Binary64.Shortest
import Folio.Text.Quoted
import Folio.Value

namespace Folio
namespace Value

/-! ### For a reader -/

mutual

/-- The value as a message shows it. -/
def display : Value → String
  | null => "None"
  | bool b => if b then "True" else "False"
  | int n => toString n
  | real x => x.write .plain
  | text s => Text.Quoted.quote s
  | list items => "[" ++ displayItems items ++ "]"
  | record fields => "\x7b" ++ displayFields fields ++ "\x7d"

/-- The items of a list with a comma and a space between them. -/
def displayItems : List Value → String
  | [] => ""
  | [v] => display v
  | v :: w :: rest => display v ++ ", " ++ displayItems (w :: rest)

/-- The fields of a record, each name before its value. -/
def displayFields : List (String × Value) → String
  | [] => ""
  | [(k, v)] => Text.Quoted.quote k ++ ": " ++ display v
  | (k, v) :: f :: rest =>
    Text.Quoted.quote k ++ ": " ++ display v ++ ", " ++ displayFields (f :: rest)

end

/-- The value in running text. -/
def plain : Value → String
  | text s => s
  | v => display v

end Value

/-! ### As JSON -/

/-- What a way of writing JSON decides: the separators, which characters
without a short escape are written by number, and how numbers with a fraction
are laid out. -/
structure JsonStyle where
  itemGap : String
  fieldGap : String
  escapes : Char → Bool
  point : PointStyle

namespace JsonStyle

/-- Without spaces, escaping only what must be. -/
def compact : JsonStyle where
  itemGap := ","
  fieldGap := ":"
  escapes c := c.toNat < 0x20
  point := .terse

/-- With spaces, in printable ASCII. -/
def spaced : JsonStyle where
  itemGap := ", "
  fieldGap := ": "
  escapes c := c.toNat < 0x20 || 0x7e < c.toNat
  point := .spelled

/-- The UTF-16 units of a character. -/
def units (c : Char) : List Nat :=
  if c.toNat < 0x10000 then [c.toNat]
  else [0xd800 + (c.toNat - 0x10000) / 0x400, 0xdc00 + (c.toNat - 0x10000) % 0x400]

/-- How a character is written inside quotes. -/
def character (style : JsonStyle) (c : Char) : List Char :=
  if c = '"' ∨ c = '\\' then ['\\', c]
  else if c = '\n' then ['\\', 'n']
  else if c = '\r' then ['\\', 'r']
  else if c = '\t' then ['\\', 't']
  else if c.toNat = 0x8 then ['\\', 'b']
  else if c.toNat = 0xc then ['\\', 'f']
  else if style.escapes c then (units c).flatMap fun u => '\\' :: 'u' :: Text.Hex.fixed 4 u
  else [c]

/-- A text between quotes. -/
def quote (style : JsonStyle) (s : String) : String :=
  String.ofList ('"' :: s.toList.flatMap style.character ++ ['"'])

end JsonStyle

namespace Value

mutual

/-- The value as JSON. -/
def json (style : JsonStyle) : Value → String
  | null => "null"
  | bool b => if b then "true" else "false"
  | int n => toString n
  | real x => x.write style.point
  | text s => style.quote s
  | list items => "[" ++ jsonItems style items ++ "]"
  | record fields => "\x7b" ++ jsonFields style fields ++ "\x7d"

/-- The items of a list, separated. -/
def jsonItems (style : JsonStyle) : List Value → String
  | [] => ""
  | [v] => json style v
  | v :: w :: rest => json style v ++ style.itemGap ++ jsonItems style (w :: rest)

/-- The fields of a record, separated. -/
def jsonFields (style : JsonStyle) : List (String × Value) → String
  | [] => ""
  | [(k, v)] => style.quote k ++ style.fieldGap ++ json style v
  | (k, v) :: f :: rest =>
    style.quote k ++ style.fieldGap ++ json style v ++ style.itemGap ++ jsonFields style (f :: rest)

end

/-- The value as compact JSON. -/
def compact : Value → String :=
  json JsonStyle.compact

/-- The value as spaced JSON in ASCII. -/
def spaced : Value → String :=
  json JsonStyle.spaced

end Value
end Folio
