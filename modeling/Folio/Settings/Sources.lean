/-
# Where settings come from

A setting is looked up among the values given directly, then in the
environment, then in the environment file; the first source that has it wins.
Names are compared without regard to case. Of several values given directly
the first counts, and of several variables the last. The variables of a file
stand in the order in which their names first occur there.

A variable of an environment has a name and a text. Neither holds the character
U+0000, and the name is not empty and holds no equals sign. The text is looked
at before the name.

Key definitions: `Variable.read`, `Variable.readAll`, `VariableFault`,
`Sources`, `Sources.find?`, `Sources.read`.
-/
import Folio.Settings.Dotenv
import Folio.Value.Reading

namespace Folio

/-! ### Variables of an environment -/

/-- Why a variable cannot be set. -/
inductive VariableFault where
  | notText
  | nul
  | equalsSign
  | nameless
  deriving DecidableEq, Repr

/-- What is said about a fault. -/
def VariableFault.message? : VariableFault → Option String
  | notText => none
  | nul => some "embedded null byte"
  | equalsSign => some "illegal environment variable name"
  | nameless => some "22"

namespace Variable

/-- Does a text hold the character U+0000? -/
def hasNul (s : String) : Bool :=
  s.toList.contains (Char.ofNat 0)

/-- A variable from its name and a value. -/
def read (name : String) : Value → Except VariableFault (String × String)
  | .text s =>
    if hasNul name || hasNul s then .error .nul
    else if name.toList.contains '=' then .error .equalsSign
    else if name = "" then .error .nameless
    else .ok (name, s)
  | _ => .error .notText

/-- Variables from their names and values, or the first fault. -/
def readAll : List (String × Value) → Except VariableFault (List (String × String))
  | [] => .ok []
  | (name, v) :: rest =>
    match read name v with
    | .error fault => .error fault
    | .ok given => (readAll rest).map (given :: ·)

end Variable

/-! ### Sources -/

/-- The three sources of settings. -/
structure Sources where
  given : List (String × Value) := []
  environment : List (String × String) := []
  file : List String := []

namespace Sources

variable {α : Type}

/-- A name without regard to case. -/
def folded (name : String) : String :=
  name.map Char.toLower

/-- The first entry of that name. -/
def firstOf (name : String) (entries : List (String × α)) : Option α :=
  (entries.find? fun e => folded e.1 == folded name).map (·.2)

/-- The last entry of that name. -/
def lastOf (name : String) (entries : List (String × α)) : Option α :=
  firstOf name entries.reverse

/-- A variable assigned among others, in its old place if it has one. -/
def assign (a : Dotenv.Assignment) : List (String × Option String) → List (String × Option String)
  | [] => [(a.name, a.value)]
  | (name, value) :: rest =>
    if name = a.name then (name, a.value) :: rest else (name, value) :: assign a rest

/-- The variables of the file. -/
def assigned (sources : Sources) : List (String × Option String) :=
  (Dotenv.load sources.environment sources.file).foldl (fun vs a => assign a vs) []

/-- The value of a setting, if a source has one. -/
def find? (sources : Sources) (name : String) : Option Value :=
  match firstOf name sources.given with
  | some v => some v
  | none =>
    match lastOf name sources.environment with
    | some s => some (.text s)
    | none => ((lastOf name sources.assigned).bind id).map .text

/-- A setting: its default when no source has it, else its value checked. -/
def read (sources : Sources) (name : String) (default : α) (check : Value → Checked α) :
    Checked α :=
  match sources.find? name with
  | none => .ok default
  | some v => (check v).under (.field name)

end Sources
end Folio
