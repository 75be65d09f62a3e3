/-
# The text of a SELECT statement

The clauses of a statement are written in their usual order. Clause texts that
are empty are left out, and with them an ORDER BY that has no other. An offset
without a limit is written after the limit -1, which stands for none. A list of
no columns leaves no space behind.

The name of a table is written as it is when it is a plain identifier: small
letters, ASCII digits, underscores and dollar signs, no digit or dollar sign in
front, and no reserved word. Any other name is written between double quotes, a
double quote in it twice. The dotless i and the long s count as small letters,
since they are the same as an ASCII letter when case is disregarded, and a line
feed at the end does not count.

In the text of a clause a colon with word characters after it is a bind name,
unless a colon, a word character or a backslash comes before it or a colon
after it. A bind name is written `NULL`, since no value is bound. A colon is
kept as it is by a backslash in front, which is dropped when the word
characters after the colon are not followed by another colon.

Key definitions: `Identifier.isPlain`, `Identifier.write`, `BindNames.fill`,
`BindNames.unescape`, `BindNames.render`, `Select.columnText`,
`Select.orderText`, `Select.windowText`, `Select.sql`.
-/
import Folio.Statement
import Folio.Text.WordChars

namespace Folio
namespace Identifier

/-! ### Names of tables -/

/-- The words that cannot be names without quotes. -/
def reserved : List String := [
  "all", "analyse", "analyze", "and", "any", "array", "as", "asc", "asymmetric", "authorization",
  "between", "binary", "both", "case", "cast", "check", "collate", "column", "constraint",
  "create", "cross", "current_date", "current_role", "current_time", "current_timestamp",
  "current_user", "default", "deferrable", "desc", "distinct", "do", "else", "end", "except",
  "false", "for", "foreign", "freeze", "from", "full", "grant", "group", "having", "ilike", "in",
  "initially", "inner", "intersect", "into", "is", "isnull", "join", "leading", "left", "like",
  "limit", "localtime", "localtimestamp", "natural", "new", "not", "notnull", "null", "off",
  "offset", "old", "on", "only", "or", "order", "outer", "overlaps", "placing", "primary",
  "references", "right", "select", "session_user", "set", "similar", "some", "symmetric", "table",
  "then", "to", "trailing", "true", "union", "unique", "user", "using", "verbose", "when", "where"]

/-- The characters that may start a plain identifier. -/
def isStart (c : Char) : Bool :=
  c.isLower || c == '_' || c.toNat == 0x131 || c.toNat == 0x17f

/-- The characters of a plain identifier. -/
def isPart (c : Char) : Bool :=
  isStart c || c.isDigit || c == '$'

/-- Does a name go on and end as a plain identifier may? -/
def continues : List Char → Bool
  | [] => true
  | ['\n'] => true
  | c :: rest => isPart c && continues rest

/-- Is a name written without quotes? -/
def isPlain (name : String) : Bool :=
  match name.toList with
  | [] => false
  | c :: rest => isStart c && continues rest && !reserved.contains name

/-- A name between quotes. -/
def quoted (name : String) : String :=
  String.ofList ('"' :: name.toList.flatMap (fun c => if c = '"' then ['"', '"'] else [c]) ++ ['"'])

/-- A name as it is written in a statement. -/
def write (name : String) : String :=
  if isPlain name then name else quoted name

end Identifier

namespace BindNames

/-! ### Bind names in clause texts -/

open Text (isWord)

/-- Word characters and the colon. -/
def touches (c : Char) : Bool :=
  isWord c || c == ':'

/-- Does a text not start with a word character or a colon? -/
def isClear (s : List Char) : Bool :=
  match s with
  | [] => true
  | c :: _ => !touches c

/-- The text with its bind names filled in. `before` is the character before
it; after a bind name comes none that touches it, so the name is skipped by
counting its characters down in `skip`. -/
def fillFrom (before : Option Char) (skip : Nat) : List Char → List Char
  | [] => []
  | c :: rest =>
    match skip with
    | k + 1 => fillFrom (some c) k rest
    | 0 =>
      let name := rest.takeWhile isWord
      if c = ':' ∧ !before.any (fun b => touches b || b == '\\') ∧ !name.isEmpty ∧
          isClear (rest.dropWhile isWord) then
        "NULL".toList ++ fillFrom (some c) name.length rest
      else c :: fillFrom (some c) 0 rest

/-- The text with its bind names filled in. -/
def fill (s : List Char) : List Char :=
  fillFrom none 0 s

/-- The text without the backslashes that keep a colon. -/
def unescape : List Char → List Char
  | [] => []
  | [c] => [c]
  | c :: d :: rest =>
    if c = '\\' ∧ d = ':' ∧ isClear (rest.dropWhile isWord) then d :: unescape rest
    else c :: unescape (d :: rest)

/-- The text as it is written into a statement. -/
def render (s : String) : String :=
  String.ofList (unescape (fill s.toList))

end BindNames

namespace Select

/-! ### Clauses in their order -/

/-- The list of columns, after a space if there are any. -/
def columnText (s : Select) : String :=
  if s.columns = [] then "" else " " ++ ", ".intercalate s.columns

/-- The clause texts that are written, separated by commas. -/
def orderList (clauses : List String) : String :=
  ", ".intercalate ((clauses.map BindNames.render).filter (· ≠ ""))

/-- The ORDER BY clause, empty when nothing is written in it. -/
def orderText (s : Select) : String :=
  if orderList s.clauses = "" then "" else " ORDER BY " ++ orderList s.clauses

/-- The WHERE clause. -/
def filterText (s : Select) : String :=
  match s.filter with
  | none => ""
  | some f => if f = "" then "" else " \nWHERE " ++ BindNames.render f

/-- The LIMIT and OFFSET clauses. -/
def windowText (s : Select) : String :=
  match s.limit, s.offset with
  | none, none => ""
  | some n, none => "\n LIMIT " ++ toString n
  | none, some k => "\n LIMIT -1 OFFSET " ++ toString k
  | some n, some k => "\n LIMIT " ++ toString n ++ " OFFSET " ++ toString k

/-- The statement as text. -/
def sql (s : Select) : String :=
  "SELECT" ++ s.columnText ++ " \nFROM " ++ Identifier.write s.table ++ s.filterText ++
    s.orderText ++ s.windowText

end Select
end Folio
