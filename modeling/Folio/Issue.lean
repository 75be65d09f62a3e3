/-
# What can be wrong with a value

A check that refuses a value says what is wrong (`Complaint`) and where
(`Place`, a path of field names and positions). A `Rejection` lists the issues
found in one model, in the order of its fields.

Key definitions: `Complaint`, `Complaint.code`, `Complaint.message`, `Issue`,
`Rejection`.
-/

namespace Folio

/-- What is wrong with a value. -/
inductive Complaint where
  | notInteger
  | notFinite
  | fractional
  | unreadableInteger
  | tooLongInteger
  | below (bound : Int)
  | notBoolean
  | unreadableBoolean
  | notText
  | notDirection
  | notList
  | notTuple
  | notModel (name : String)
  | missing
  | negativeSize
  | frozen
  deriving DecidableEq, Repr

namespace Complaint

/-- The short name of a complaint. -/
def code : Complaint → String
  | notInteger => "int_type"
  | notFinite => "finite_number"
  | fractional => "int_from_float"
  | unreadableInteger => "int_parsing"
  | tooLongInteger => "int_parsing_size"
  | below _ => "greater_than_equal"
  | notBoolean => "bool_type"
  | unreadableBoolean => "bool_parsing"
  | notText => "string_type"
  | notDirection => "enum"
  | notList => "list_type"
  | notTuple => "tuple_type"
  | notModel _ => "model_type"
  | missing => "missing"
  | negativeSize => "value_error"
  | frozen => "frozen_instance"

/-- The complaint as a sentence. -/
def message : Complaint → String
  | notInteger => "Input should be a valid integer"
  | notFinite => "Input should be a finite number"
  | fractional => "Input should be a valid integer, got a number with a fractional part"
  | unreadableInteger =>
    "Input should be a valid integer, unable to parse string as an integer"
  | tooLongInteger => "Unable to parse input string as an integer, exceeded maximum size"
  | below bound => "Input should be greater than or equal to " ++ toString bound
  | notBoolean => "Input should be a valid boolean"
  | unreadableBoolean => "Input should be a valid boolean, unable to interpret input"
  | notText => "Input should be a valid string"
  | notDirection => "Input should be 'ASC' or 'DESC'"
  | notList => "Input should be a valid list"
  | notTuple => "Input should be a valid tuple"
  | notModel name => "Input should be a valid dictionary or instance of " ++ name
  | missing => "Field required"
  | negativeSize => "Value error, page sizes must not be negative"
  | frozen => "Instance is frozen"

end Complaint

/-- One step on the way to a part of a value. -/
inductive Place where
  | field (name : String)
  | index (n : Nat)
  deriving DecidableEq, Repr

/-- A complaint and the part it is about. -/
structure Issue where
  complaint : Complaint
  path : List Place := []
  deriving DecidableEq, Repr

/-- The same issue seen from one step further out. -/
def Issue.under (place : Place) (issue : Issue) : Issue :=
  { issue with path := place :: issue.path }

/-- A model refused, with everything that is wrong with it. -/
structure Rejection where
  model : String
  issues : List Issue
  deriving DecidableEq, Repr

end Folio
