/-
# Log entries and how they are written

An entry is a record of named values in the order in which they were first
put. Putting a value under a name that is there replaces it in place. An entry is
given as a record or as a list of pairs.

Entries are written as one line of JSON, or in columns for a console: a value
without name, time, severity, event and the names of loggers first, then the
other values sorted by name. Columns are coloured by terminal escapes. On a
console a text stands without quotes unless it holds a blank, an equals sign or
a quote. A stack and an exception come on lines of their own below the columns;
they have to be texts.

Key definitions: `Entry`, `Entry.put`, `Entry.putNew`, `Entry.putAll`,
`Entry.ofValue`, `Layout`, `Layout.columns`, `Layout.trailer?`, `Layout.write`.
-/
import Folio.Failure
import Folio.Value.Display
import Folio.Value.Lookup

namespace Folio

/-! ### Entries -/

/-- Named values in order. -/
abbrev Entry : Type := List (String × Value)

namespace Entry

/-- The entry with a value under a name. -/
def put (name : String) (v : Value) : Entry → Entry
  | [] => [(name, v)]
  | (k, old) :: rest => if k = name then (k, v) :: rest else (k, old) :: put name v rest

/-- Is there a value under a name? -/
def names (e : Entry) (name : String) : Bool :=
  e.any fun f => f.1 == name

/-- The entry without the value under a name. -/
def without (e : Entry) (name : String) : Entry :=
  e.filter fun f => f.1 != name

/-- The entry with a value under a name that has none yet. -/
def putNew (name : String) (v : Value) (e : Entry) : Entry :=
  if e.names name then e else e ++ [(name, v)]

/-- The entry with several values. -/
def putAll (fields : List (String × Value)) (e : Entry) : Entry :=
  fields.foldl (fun e f => e.put f.1 f.2) e

/-- The pairs among the members of a list from a position on. The first of a pair
has to be something that can be a name. -/
def pairsFrom : Nat → List Value → Except Failure (List (Value × Value))
  | _, [] => .ok []
  | n, v :: rest =>
    match v.spread with
    | none => .error .badCall
    | some [key, value] =>
      if key.name?.isSome then (pairsFrom (n + 1) rest).map ((key, value) :: ·)
      else .error .badCall
    | some members => .error (.notPairAt n members.length)

/-- The pairs with texts for names. -/
def ofPairs : List (Value × Value) → Except Failure Entry
  | [] => .ok []
  | (.text name, v) :: rest => (ofPairs rest).map ((name, v) :: ·)
  | _ :: _ => .error .badCall

/-- The entry that a value is. -/
def ofValue : Value → Except Failure Entry
  | .record fields => .ok fields
  | v =>
    match v.spread with
    | none => .error .badCall
    | some members => ((pairsFrom 0 members).bind ofPairs).map fun fields => putAll fields []

end Entry

/-! ### Layouts -/

/-- The ways to write an entry. -/
inductive Layout where
  | json
  | console
  deriving DecidableEq, Repr

namespace Layout

/-! ### Terminal escapes -/

/-- The escape that turns a style on. -/
def style (code : String) : String :=
  String.singleton (Char.ofNat 0x1b) ++ "[" ++ code ++ "m"

/-- The escape that turns all styles off. -/
def off : String := style "0"

/-- The escape for bold text. -/
def bold : String := style "1"

/-- The style of a severity; any other name has none. -/
def severityStyle (name : String) : String :=
  if name = "debug" ∨ name = "info" then style "32" ++ bold
  else if name = "warning" then style "33" ++ bold
  else if name = "error" ∨ name = "critical" then style "31" ++ bold
  else ""

/-! ### Columns -/

/-- A text filled up with spaces to a width. -/
def padded (width : Nat) (s : String) : String :=
  s ++ String.ofList (List.replicate (width - s.length) ' ')

/-- The characters for which a text is quoted on a console. -/
def wantsQuotes (c : Char) : Bool :=
  c == ' ' || c == '\t' || c == '=' || c == '\r' || c == '\n' || c == '"' || c == '\''

/-- A value on a console. -/
def consoleValue : Value → String
  | .text s => if s.toList.any wantsQuotes then Text.Quoted.quote s else s
  | v => v.display

/-- The names that have columns or lines of their own. -/
def ownNames : List String :=
  ["", "timestamp", "level", "event", "logger", "logger_name", "stack", "exception", "exc_info"]

/-- The text under a name, empty when there is none. -/
def textOf (e : Entry) (name : String) : String :=
  ((e.lookup name).map Value.plain).getD ""

/-- The fields without columns of their own, sorted by name. -/
def otherFields (e : Entry) : Entry :=
  (e.filter fun f => !ownNames.contains f.1).mergeSort fun a b => decide (a.1 ≤ b.1)

/-- A name and its value. -/
def pair (name : String) (v : Value) : String :=
  style "36" ++ name ++ off ++ "=" ++ style "35" ++ consoleValue v ++ off

/-- The name of an event. -/
def eventName (v : Value) : String :=
  bold ++ padded 30 v.plain ++ off

/-- The name of a logger. -/
def loggerName (v : Value) : String :=
  "[" ++ off ++ bold ++ style "34" ++ v.plain ++ off ++ "]" ++ off

/-- A column for the value under a name, if there is one. -/
def column (e : Entry) (name : String) (write : Value → String) : List String :=
  ((e.lookup name).map write).toList

/-- The entry in columns. -/
def columns (e : Entry) : List String :=
  column e "" (pair "") ++
    [style "2" ++ textOf e "timestamp" ++ off,
      "[" ++ severityStyle (textOf e "level") ++ padded 9 (textOf e "level") ++ off ++ "]"] ++
    column e "event" eventName ++ column e "logger" loggerName ++
    column e "logger_name" loggerName ++ (otherFields e).map fun f => pair f.1 f.2

/-! ### Below the columns -/

/-- The value under a name, unless it is null. -/
def known? (e : Entry) (name : String) : Option Value :=
  match e.lookup name with
  | some .null => none
  | v => v

/-- A value on lines of its own, nothing when it is not known. Only a text can
be written so. -/
def below? : Option Value → Option String
  | none => some ""
  | some (.text s) => some ("\n" ++ s)
  | some _ => none

/-- The line between a stack and what caused it. -/
def rule : String :=
  "\n\n" ++ String.ofList (List.replicate 79 '=') ++ "\n"

/-- Is there something that caused a stack? -/
def hasCause (e : Entry) : Bool :=
  (known? e "exception").isSome || ((e.lookup "exc_info").map Value.isSet).getD false

/-- The stack and the exception of an entry, `none` if one is no text. -/
def trailer? (e : Entry) : Option String :=
  match below? (known? e "stack"), below? (known? e "exception") with
  | some stack, some cause =>
    some (stack ++ (if (known? e "stack").isSome ∧ hasCause e then rule else "") ++ cause)
  | _, _ => none

/-- The entry as text, `none` if it cannot be laid out. -/
def write : Layout → Entry → Option String
  | json, e => some (Value.record e).spaced
  | console, e => (trailer? e).map fun below => " ".intercalate (columns e) ++ below

end Layout
end Folio
