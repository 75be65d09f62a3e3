/-
# Loggers and what they write

A journal writes what its loggers are given. Configuring it chooses between two
modes: with debugging, entries of every severity are written in columns;
without, entries from `info` on are written as JSON. From then on a logger takes
over the mode in force when it is used, by logging or by binding fields, and
keeps it; it never goes by a mode chosen later. Independently the mode chosen
last drops entries below its own threshold. One family of loggers is quiet: the
journal drops what they log unless it is a warning or worse.

Before a mode is chosen every entry is written, and what becomes of it is not up
to the journal but to its fallback. A use takes over nothing then; but what comes
of binding fields to a logger at that time goes by the fallback for good.

What is logged may be a value of any kind; an entry with a whole number that is
too long to be written fails, whatever the layout.

Key definitions: `Mode`, `Logger`, `Logger.own`, `Logger.used`, `Journal`,
`Journal.entry`, `Journal.laidOut`, `Journal.written`.
-/
import Folio.Journal.Entry
import Folio.Journal.Manner
import Folio.Settings

namespace Folio

/-! ### Modes -/

/-- What configuring a journal decides. -/
inductive Mode where
  | debugging
  | plain
  deriving DecidableEq, Repr

namespace Mode

/-- The mode with debugging on or off. -/
def ofDebug (debug : Bool) : Mode :=
  if debug then debugging else plain

/-- The least severity that is written. -/
def threshold : Mode → Severity
  | debugging => .debug
  | plain => .info

/-- Does the mode write entries of a severity? -/
def admits (m : Mode) (severity : Severity) : Bool :=
  decide (m.threshold.rank ≤ severity.rank)

/-- The number from which on severities are written, zero when no mode was
chosen. -/
def floor (m : Option Mode) : Int :=
  (m.map fun m => m.threshold.number).getD 0

/-- The layout of the entries written. -/
def layout : Mode → Layout
  | debugging => .console
  | plain => .json

end Mode

/-! ### Loggers -/

/-- A logger: its name, whether it came from binding fields to another one, the
fields bound to it, and the mode it has taken over. -/
structure Logger where
  name : String
  isBound : Bool := false
  fields : Entry := []
  mode : Option Mode := none

namespace Logger

/-- The mode that a logger goes by: the one it has taken over, or else the one
in force. One that came from binding fields took over what there was then, and if
that was nothing it goes by no mode at all. -/
def own (l : Logger) (current : Option Mode) : Option Mode :=
  if l.isBound then l.mode else l.mode.or current

/-- The logger after a use under a mode, or before one is chosen. -/
def used (l : Logger) (current : Option Mode) : Logger :=
  { l with mode := l.own current }

/-- The name a logger is shown with; the one without a name is the root. -/
def shownName (l : Logger) : String :=
  if l.name = "" then "root" else l.name

/-- The family of loggers that is quiet. -/
def quietFamily : String := "sqlalchemy"

/-- Is a logger in the quiet family, as its head or below it? -/
def isQuiet (l : Logger) : Bool :=
  l.name == quietFamily || l.name.startsWith (quietFamily ++ ".")

/-- Does the journal in a mode write what a logger gives it? -/
def passes (l : Logger) (current : Option Mode) (severity : Severity) : Bool :=
  if l.isQuiet then decide (Severity.warning.rank ≤ severity.rank)
  else current.all fun m => m.admits severity

end Logger

/-! ### Entries -/

namespace Entry

/-- The entry with the columns that say how serious it is and when it was
written. -/
def dated (level time : String) (e : Entry) : Entry :=
  (e.put "level" (.text level)).put "timestamp" (.text time)

/-- The entry as text, unless a number in it is too long or it does not suit the
layout. -/
def laid (layout : Layout) (e : Entry) : Except Failure String :=
  if !Value.fieldsAreWritable e then .error .tooManyDigits
  else
    match layout.write e with
    | some text => .ok text
    | none => .error .badCall

/-- What is written of an entry in columns, with its level and its time. -/
def inColumns (level time : String) (e : Entry) : Except Failure (List String) :=
  (laid .console (e.dated level time)).map fun text => [text]

end Entry

/-! ### Journals -/

/-- A journal: the settings, the mode chosen last, what is written of an entry,
given its level and its time, by loggers that go by no mode, the loggers handed
out, the context, and the two loggers for events of pagers. Nothing stands in
place of a logger whose name is no text. -/
structure Journal where
  settings : ProjectSettings := {}
  mode : Option Mode := none
  fallback : String → String → Entry → Except Failure (List String) := Entry.inColumns
  loggers : List (Name × Option Logger) := []
  context : Entry := []
  specLogger : Logger := { name := "pagekit.pagination.schemas" }
  pagerLogger : Logger := { name := "pagekit.pagination.service" }

namespace Journal

/-- An entry with an event under its name, unless the event is null. -/
def withEvent (event : Value) (e : Entry) : Entry :=
  match event with
  | .null => e
  | v => e.put "event" v

/-- What is known of an event: bound fields, its own fields, the event itself,
and the context. -/
def known (j : Journal) (l : Logger) (event : Value) (fields : Entry) : Entry :=
  let named := withEvent event (Entry.putAll fields (Entry.putAll l.fields []))
  j.context.foldl (fun e f => e.putNew f.1 f.2) named

/-- The entry of an event: what is known of it, and the columns every entry
has. -/
def entry (j : Journal) (l : Logger) (level time : String) (event : Value) (fields : Entry) :
    Entry :=
  ((j.known l event fields).put "logger" (.text l.shownName)).dated level time

/-- Is there a value, other than null, under the name that is kept for records
of another kind? -/
def isForeign (e : Entry) : Bool :=
  match e.lookup "_record" with
  | none => false
  | some .null => false
  | some _ => true

/-- The entry laid out. A field that is kept for records of another kind has
to be null. -/
def laidOut (layout : Layout) (e : Entry) : Except Failure String :=
  if isForeign e then .error .wrongKind else e.laid layout

/-- The text of an event that a logger writes, if it writes one. The mode that
the logger goes by comes first: an event that it admits is laid out even if the
mode in force then drops the text. -/
def written (j : Journal) (l : Logger) (severity : Severity) (time : String) (event : Value)
    (fields : Entry) : Except Failure (List String) :=
  let given := Entry.names fields "method_name"
  match l.own j.mode with
  | none =>
    if given then .error .badCall
    else j.fallback severity.name time (j.known l event fields)
  | some own =>
    if own.admits severity then
      if given then .error .badCall
      else
        match laidOut own.layout (j.entry l severity.name time event fields) with
        | .error failure => .error failure
        | .ok text => .ok (if l.passes j.mode severity then [text] else [])
    else .ok []

end Journal
end Folio
