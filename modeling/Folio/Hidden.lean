/-
# What is hidden in a value

Besides the fields that its model lists, a value takes anything under a private
name, one that starts with an underscore. Nothing of this shows. But a value
works with some of it: it notes which fields were assigned, it finds a way to
assign each field, and it knows how to copy itself and how to write itself out.
When such a thing is replaced, what needs it fails. A few things are kept apart
from the fields and outlast a replacement of all of them. A listed field that is
missing is looked for among them. A field that is neither listed nor private
cannot be assigned; replaced with all the others it hides the operation of that
name.

Key definitions: `Hidden`, `Hidden.field`, `Hidden.allow`, `Hidden.change`,
`Hidden.assign`, `Hidden.replaced`, `Hidden.copied`, `Hidden.spelled`.
Key theorems: `Hidden.field_some`, `Hidden.change_nil`.
-/
import Folio.Failure

namespace Folio

/-- What was put under names that a model does not list, the latest first. -/
abbrev Hidden : Type := List (String × Value)

/-- Is a name private? -/
def isPrivate (name : String) : Bool :=
  name.startsWith "_"

namespace Hidden

/-! ### Names with a meaning -/

/-- Notes which fields were assigned. -/
def notes : String := "__pydantic_fields_set__"

/-- Holds what is private and declared, of which there is nothing. -/
def declared : String := "__pydantic_private__"

/-- Holds what is given beside the fields, of which there is nothing. -/
def extras : String := "__pydantic_extra__"

/-- Says which private names are declared. -/
def declarations : String := "__private_attributes__"

/-- Knows the ways to assign a field. -/
def ways : String := "__pydantic_setattr_handlers__"

/-- Finds a way to assign a field that is not known yet. -/
def finder : String := "_setattr_handler"

/-- Writes a value out. -/
def writer : String := "__pydantic_serializer__"

/-- What is kept apart from the fields. -/
def apart : List String := [notes, declared, extras]

/-- Private names that cannot be given anything, and what an attempt to do so
fails with. -/
def guarded : List (String × Failure) :=
  [("__class__", .badCall), ("__dict__", .badCall), ("__fields__", .wrongKind),
    ("__fields_set__", .wrongKind), ("__weakref__", .wrongKind)]

/-- The fields of every model that are worked out from the others. -/
def derived : List String := ["model_extra", "model_fields_set"]

/-- Is there something under a name? -/
def has (h : Hidden) (name : String) : Bool :=
  (h.lookup name).isSome

/-- Asks for an operation by its name, which may hide it. -/
def offers (h : Hidden) (operation : String) : Except Failure Unit :=
  if h.has operation then .error .badCall else .ok ()

/-! ### Asking for what is missing -/

/-- The member of a record under a name, where a value is taken for a record. -/
def memberOf (name : String) : Value → Except Failure Value
  | .record fields => needed (fields.lookup name)
  | _ => .error .badCall

/-- Does a text occur in another one? -/
def occurs (s : List Char) : List Char → Bool
  | [] => s.isEmpty
  | c :: rest => s.isPrefixOf (c :: rest) || occurs s rest

/-- Does a value declare a name? A text declares all that occurs in it. -/
def declares (name : String) : Value → Except Failure Bool
  | .record fields => .ok (fields.lookup name).isSome
  | .list items => .ok (items.any fun v =>
    match v with
    | .text s => s == name
    | _ => false)
  | .text s => .ok (occurs name.toList s.toList)
  | _ => .error .badCall

/-- The value of a declared private name. -/
def declaredMember (h : Hidden) (name : String) : Value → Except Failure Value
  | .record _ => memberOf name ((h.lookup declared).getD .null)
  | _ => .error .badCall

/-- What is given beside the fields under a name. -/
def extra (h : Hidden) (name : String) : Except Failure Value :=
  let given := (h.lookup extras).getD .null
  if given.isSet then memberOf name given else .error .wrongKind

/-- What is found where a field is missing. -/
def instead (h : Hidden) (name : String) : Except Failure Value :=
  let declarations := (h.lookup declarations).getD (.record [])
  (declares name declarations).bind fun isDeclared =>
    if isDeclared then h.declaredMember name declarations else h.extra name

/-- The value of a field, or what is found in its place. -/
def field (h : Hidden) (name : String) : Option Value → Except Failure Value
  | some v => .ok v
  | none => h.instead name

@[simp] theorem field_some (h : Hidden) (name : String) (v : Value) :
    h.field name (some v) = .ok v := rfl

/-! ### Assigning -/

/-- Asks whether a field can be assigned at all. The way to assign a listed
field is known, unless the known ways were replaced. -/
def allow (h : Hidden) (listed : Bool) (field : String) : Except Failure Unit :=
  let found : Except Failure Unit := if h.has finder then .error .badCall else .ok ()
  match h.lookup ways with
  | none => if listed then .ok () else found
  | some (.record known) => if (known.lookup field).all Value.isNull then found else .error .badCall
  | some _ => .error .wrongKind

/-- What goes wrong after a listed field was assigned, if anything does. -/
def settled (h : Hidden) : Option Failure :=
  if h.has notes then some .wrongKind else none

/-- Changes a value by an assignment to a listed field. -/
def change {α : Type} (h : Hidden) (field : String) (f : α → α) (a : α) : Attempt α :=
  match h.allow true field with
  | .error failure => ⟨a, some failure⟩
  | .ok _ => ⟨f a, h.settled⟩

/-- Nothing goes wrong with a value that hides nothing. -/
@[simp] theorem change_nil {α : Type} (field : String) (f : α → α) (a : α) :
    change [] field f a = { left := f a } := rfl

/-- What is hidden after an assignment to a field that is not listed. -/
def assign (model field : String) (v : Value) (h : Hidden) : Except Failure Hidden :=
  if isPrivate field then
    match guarded.lookup field with
    | some failure => .error failure
    | none => .ok ((field, v) :: h)
  else if derived.contains field then .error .wrongKind
  else .error (.noSuchField model field)

/-- What is hidden after all fields were replaced at once. -/
def replaced (listed : List String) (fields : List (String × Value)) (h : Hidden) : Hidden :=
  (fields.filter fun f => !listed.contains f.1 && !apart.contains f.1) ++
    h.filter fun f => apart.contains f.1

/-! ### Copying and writing -/

/-- Is there something of a kind that has no fields of its own? -/
def spoils (h : Hidden) (name : String) : Bool :=
  match h.lookup name with
  | none => false
  | some (.record _) => false
  | some _ => true

/-- What goes wrong when a value is copied with another value for a field, if
anything does. -/
def copied (h : Hidden) (field : String) : Option Failure :=
  if h.has "model_copy" || h.has "__copy__" then some .badCall
  else if h.spoils declared && !((h.lookup declared).all Value.isNull) then some .wrongKind
  else if h.spoils "model_config" then some .wrongKind
  else
    match h.lookup notes with
    | none => none
    | some (.record _) => some (.notPairAt 0 field.length)
    | some _ => some .wrongKind

/-- What goes wrong when a value is written out by itself, if anything does. -/
def spelled (h : Hidden) : Option Failure :=
  if h.has "model_dump_json" then some .badCall
  else if h.has writer then some .wrongKind
  else none

end Hidden
end Folio
