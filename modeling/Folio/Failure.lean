/-
# Failures, attempts and events

Every operation that can fail does so with a `Failure`, which names the cause.
Something that is tried leaves a state behind, also when it fails: what was
done before the failure stays done. Several attempts in a row end with the
first that fails.

What a pager reports while it works, for the debug log, are events: a spec it
ignored, a statement it narrowed, and rows it collected. A spec, which may be a
value of any kind, and a limit are reported in the form in which they were
given.

Key definitions: `Failure`, `Failure.message?`, `needed`, `Attempt`,
`Attempt.andThen`, `Attempt.ofResult`, `Event`, `Event.name`, `Event.fields`.
-/
import Folio.ColumnMap
import Folio.Issue
import Folio.Settings.Sources
import Folio.Value.Display

namespace Folio

/-! ### Failures -/

/-- Why an operation failed. -/
inductive Failure where
  /-- A model was refused with all its issues. -/
  | rejected (rejection : Rejection)
  /-- A pager was given an option it can never work with. -/
  | misconfigured (option : String) (value : Value)
  /-- Arguments that do not fit what was called. -/
  | badCall
  /-- The column map failed. -/
  | column (fault : ColumnFault)
  /-- A page number was wanted for windows of no rows. -/
  | emptyWindow (fractional : Bool)
  /-- A whole number is too large for 64 bits. -/
  | tooLarge
  /-- An infinity was wanted without its fraction. -/
  | boundless
  /-- What is no number was wanted without its fraction. -/
  | notNumber
  /-- A whole number has too many digits to be written. -/
  | tooManyDigits
  /-- A value is nested too deeply to be written. -/
  | tooDeep
  /-- More rows are wanted than can be counted. -/
  | tooManyRows
  /-- More rows are wanted than can be held. -/
  | noRoom
  /-- A text was wanted as a whole number that it is not. -/
  | notNumeral (given : String)
  /-- A numeral has too many digits to be read. -/
  | numeralTooLong (digits : Nat)
  /-- A part of a value was wanted that it does not have. -/
  | lookup (fault : LookupFault)
  /-- A value was taken for one of another kind. -/
  | wrongKind
  /-- Something was wanted under a name that nothing has. -/
  | noSuchName (name : String)
  /-- A variable of an environment could not be set. -/
  | unsettable (fault : VariableFault)
  /-- A pair was wanted in place of so many values. -/
  | notPair (given : Nat)
  /-- Pairs were wanted, and one of a list has so many members. -/
  | notPairAt (index given : Nat)
  /-- A field was assigned that the model does not have. -/
  | noSuchField (model field : String)
  /-- A direction was assigned that is none. -/
  | noSuchDirection (given : Value)
  deriving Repr

/-- The message of a failure that has one of its own. -/
def Failure.message? : Failure → Option String
  | rejected _ => none
  | misconfigured option value => some ("invalid " ++ option ++ ": " ++ value.display)
  | badCall => none
  | column fault => fault.message?
  | emptyWindow false => some "integer division or modulo by zero"
  | emptyWindow true => some "float floor division by zero"
  | tooLarge => some "int too large to convert to float"
  | boundless => some "cannot convert float infinity to integer"
  | notNumber => some "cannot convert float NaN to integer"
  | tooManyDigits =>
    some ("Exceeds the limit (4300 digits) for integer string conversion; " ++
      "use sys.set_int_max_str_digits() to increase the limit")
  | tooDeep => some "Error serializing to JSON: ValueError: Maximum serialization depth exceeded"
  | tooManyRows => some "Python int too large to convert to C ssize_t"
  | noRoom => some ""
  | notNumeral given =>
    some ("invalid literal for int() with base 10: " ++
      String.ofList ((Text.Quoted.quote given).toList.take 200))
  | numeralTooLong digits =>
    some ("Exceeds the limit (4300 digits) for integer string conversion: value has " ++
      toString digits ++ " digits; use sys.set_int_max_str_digits() to increase the limit")
  | lookup fault => fault.message?
  | wrongKind => none
  | noSuchName name => some name
  | unsettable fault => fault.message?
  | notPair given =>
    some (if given < 2 then "not enough values to unpack (expected 2, got " ++ toString given ++ ")"
      else "too many values to unpack (expected 2)")
  | notPairAt index given =>
    some ("dictionary update sequence element #" ++ toString index ++ " has length " ++
      toString given ++ "; 2 is required")
  | noSuchField model field =>
    some ("\"" ++ model ++ "\" object has no field \"" ++ field ++ "\"")
  | noSuchDirection given => some (given.display ++ " is not a valid SortOrder")

/-- Something that has to be there. -/
def needed {α : Type} : Option α → Except Failure α
  | some a => .ok a
  | none => .error .wrongKind

/-! ### Attempts -/

/-- The state that an attempt leaves, and the failure that ended it, if one
did. -/
structure Attempt (α : Type) where
  left : α
  failure : Option Failure := none

namespace Attempt

variable {α β : Type}

/-- The attempt to replace a state by a result, which changes nothing if there
is none. -/
def ofResult (a : α) : Except Failure α → Attempt α
  | .ok b => { left := b }
  | .error failure => ⟨a, some failure⟩

/-- An attempt, and another one if the first succeeds. -/
def andThen (x : Attempt α) (f : α → Attempt α) : Attempt α :=
  match x.failure with
  | none => f x.left
  | some _ => x

/-- The attempt as seen from a larger state. -/
def map (f : α → β) (x : Attempt α) : Attempt β :=
  ⟨f x.left, x.failure⟩

end Attempt

/-! ### Events -/

/-- Something worth a line in the debug log. -/
inductive Event where
  | specIgnored (spec : Value)
  | queryPrepared (limit offset : Number) (orderBy : List String)
  | resultPrepared (rows : Nat) (number : Number) (more : Bool)
  deriving Repr

namespace Event

/-- The name of an event. -/
def name : Event → String
  | specIgnored _ => "sort_spec_ignored"
  | queryPrepared .. => "pagination_query_prepared"
  | resultPrepared .. => "pagination_result_prepared"

/-- The fields of an event. -/
def fields : Event → List (String × Value)
  | specIgnored spec => [("spec", spec)]
  | queryPrepared limit offset orderBy =>
    [("limit", limit.value), ("offset", offset.value), ("order_by", .list (orderBy.map .text))]
  | resultPrepared rows number more =>
    [("rows", .int rows), ("page", number.value), ("more", .bool more)]

end Event
end Folio
