/-
# What a logger is asked to do

A logger is asked to log an event by the name of a severity or of one of its
short forms, or by `log`, when the severity is a number given in place of the
event and the event is one of the fields. `exception` logs an error with a note
that an exception is at hand. With an `a` in front the event is logged later,
for which nobody waits. A logger may also be asked whether it would log a
severity, and for a logger like it without a bound field. Behind all this there
is a way to hand an event on under any name, whatever the logger admits, and one
to prepare it only. Asking a logger uses it, unless what is asked for can be told
without; some of that is known only of a logger to which nothing was bound.

Key definitions: `Severity`, `Severity.ofNumber?`, `Manner`, `Manner.ofName`,
`Manner.uses`.
-/
import Folio.Failure
import Folio.Journal.Entry

namespace Folio

/-- How serious an event is, from the least on. -/
inductive Severity where
  | debug
  | info
  | warning
  | error
  | critical
  deriving DecidableEq, Repr

namespace Severity

/-- The rank among the severities. -/
def rank : Severity → Nat
  | debug => 0
  | info => 1
  | warning => 2
  | error => 3
  | critical => 4

/-- The number that stands for a severity. -/
def number (severity : Severity) : Int :=
  10 * (severity.rank + 1)

/-- The severity that a number stands for. -/
def ofNumber? (n : Number) : Option Severity :=
  [debug, info, warning, error, critical].find? fun severity =>
    n.place? == (Number.int severity.number).place?

/-- The name of a severity. -/
def name : Severity → String
  | debug => "debug"
  | info => "info"
  | warning => "warning"
  | error => "error"
  | critical => "critical"

/-- The severity of a name or of one of its short forms. -/
def ofName? : String → Option Severity
  | "debug" => some debug
  | "info" => some info
  | "msg" => some info
  | "warning" => some warning
  | "warn" => some warning
  | "error" => some error
  | "critical" => some critical
  | "fatal" => some critical
  | _ => none

end Severity

/-- What a logger is asked to do with an event. -/
inductive Manner where
  /-- Log it, perhaps with a note that an exception is at hand. -/
  | now (severity : Severity) (exception : Bool)
  /-- Log it later. -/
  | later
  /-- Log one of the fields, now or later, with the severity given in its
  place. -/
  | rated (later : Bool)
  /-- Hand one of the fields on under the name given in its place. -/
  | handOn
  /-- Prepare one of the fields under the name given in its place. -/
  | prepare
  /-- Tell whether the severity given in its place would be logged. -/
  | admission
  /-- Take the field of that name away, which perhaps has to be there. -/
  | release (strict : Bool)
  /-- Tell what the name given in its place asks for. -/
  | meaning
  /-- Something that takes an event, but no fields, and comes to nothing. -/
  | idle
  /-- Something that takes no event, and may not even use the logger. -/
  | unfit (uses : Bool)
  /-- Something that fails before it uses the logger. -/
  | failing
  /-- Something that no logger does. -/
  | unknown
  deriving DecidableEq, Repr

namespace Manner

/-- What the names that are no severities ask for. -/
def others : List (String × Manner) :=
  [("exception", now .error true), ("log", rated false), ("is_enabled_for", admission),
    ("get_effective_level", unfit true), ("unbind", release true), ("try_unbind", release false),
    ("bind", unfit false), ("new", unfit false), ("_proxy_to_logger", handOn),
    ("_process_event", prepare), ("_context", unfit false), ("_logger", unfit false),
    ("_processors", unfit false)]

/-- What a name asks of a logger to which nothing was bound. -/
def unbound : List (String × Manner) :=
  [("_wrapper_class", unfit false), ("_context_class", unfit false),
    ("_cache_logger_on_first_use", unfit false), ("_initial_values", unfit false),
    ("_logger_factory_args", unfit false), ("__getattr__", meaning), ("__class__", idle),
    ("__isabstractmethod__", failing)]

/-- The comparisons, which any two things take part in. -/
def comparisons : List String :=
  ["__eq__", "__ne__", "__lt__", "__le__", "__gt__", "__ge__", "__subclasshook__"]

/-- What can be asked of anything, but not with an event. -/
def unfitting : List String :=
  ["__repr__", "__str__", "__hash__", "__dir__", "__sizeof__", "__format__", "__reduce__",
    "__reduce_ex__", "__getstate__", "__init_subclass__", "__new__", "__setattr__", "__class__",
    "__doc__", "__dict__", "__module__", "__weakref__"]

/-- What can be asked of anything, but not about something that it has not. -/
def seeking : List String :=
  ["__getattribute__", "__delattr__", "__setstate__"]

/-- What a name asks for at once. -/
def atOnce? (name : String) : Option Manner :=
  match Severity.ofName? name with
  | some severity => some (now severity false)
  | none => others.lookup name

/-- The same at a later time, if there is such a thing. -/
def putOff? : Manner → Option Manner
  | now _ _ => some later
  | rated false => some (rated true)
  | _ => none

/-- What a name asks of anything. -/
def ofAnything (name : String) : Manner :=
  if comparisons.contains name then idle
  else if unfitting.contains name then unfit false
  else if seeking.contains name then failing
  else unknown

/-- What a name asks of a logger, to which something may have been bound. -/
def ofName (isBound : Bool) (name : String) : Manner :=
  match atOnce? name, if isBound then none else unbound.lookup name, name.toList with
  | some manner, _, _ => manner
  | none, some manner, _ => manner
  | none, none, 'a' :: rest => ((atOnce? (String.ofList rest)).bind putOff?).getD unknown
  | none, none, _ => ofAnything name

/-- Can it be told without using the logger what is asked for? -/
def isOutward : Manner → Bool
  | release _ => true
  | meaning => true
  | idle => true
  | unfit uses => !uses
  | failing => true
  | _ => false

/-- Does asking use the logger? What can be told without uses it only in the end,
when the fields given fit. -/
def uses (manner : Manner) (fields : Except Failure Entry) : Bool :=
  match manner, fields with
  | release _, .ok fields => fields.isEmpty
  | meaning, .ok fields => fields.isEmpty
  | _, _ => !manner.isOutward

end Manner
end Folio
