/-
# What a pager works with

A pager at work reads its options from a configuration. That one is frozen:
assigning an option is refused. Private names may be given anything all the
same, and one of them replaces all options at once, with values of any kind and
perhaps not for each option; what needs a missing option then fails, unless one
is found in its place.

Key definitions: `Configuration`, `Pager.configuration`, `Configuration.assign`,
`Configuration.dump`.
Key theorems: `Configuration.assign_of_not_isPrivate`, `Pager.dump_configuration`.
-/
import Folio.Hidden
import Folio.Pager

namespace Folio

/-- The options a pager works with, each of any kind and perhaps missing. -/
structure Configuration where
  defaultSize : Option Value
  maxSize : Option Value
  defaultSpecs : Option Value
  columnMap : Option Argument
  hidden : Hidden := []

/-- The configuration of a pager. -/
def Pager.configuration (p : Pager) : Configuration where
  defaultSize := some (.int p.defaultSize.rows)
  maxSize := some (.int p.maxSize.rows)
  defaultSpecs := some (.list (p.defaultSpecs.map .text))
  columnMap := some (p.columnMap.elim (.value .null) .map)

namespace Configuration

/-- The names of the options. -/
def names : List String :=
  [OptionName.defaultSize.text, OptionName.maxSize.text, OptionName.defaultSpecs.text,
    OptionName.columnMap.text]

/-- The configuration with the fields of a record in place of all options. -/
def replaced (c : Configuration) (fields : List (String × Value)) : Configuration where
  defaultSize := fields.lookup OptionName.defaultSize.text
  maxSize := fields.lookup OptionName.maxSize.text
  defaultSpecs := fields.lookup OptionName.defaultSpecs.text
  columnMap := (fields.lookup OptionName.columnMap.text).map .value
  hidden := c.hidden.replaced names fields

/-- What assigning a private name leaves. -/
def assignPrivate (c : Configuration) (name : String) (v : Value) : Attempt Configuration :=
  match name, v with
  | "__dict__", .record fields => { left := c.replaced fields }
  | _, _ =>
    (Attempt.ofResult c.hidden (c.hidden.assign Pager.model name v)).map fun hidden =>
      { c with hidden := hidden }

/-- What an attempt to assign an option, or a private name, leaves. -/
def assign (c : Configuration) (option : String) (v : Value) : Attempt Configuration :=
  match c.hidden.allow false option with
  | .error failure => ⟨c, some failure⟩
  | .ok _ =>
    if isPrivate option then c.assignPrivate option v
    else ⟨c, some (.rejected ⟨Pager.model, [⟨.frozen, [.field option]⟩]⟩)⟩

/-- What is not private cannot be assigned. -/
theorem assign_of_not_isPrivate {c : Configuration} {option : String} (v : Value)
    (hc : c.hidden = []) (ho : isPrivate option = false) :
    c.assign option v =
      ⟨c, some (.rejected ⟨Pager.model, [⟨.frozen, [.field option]⟩]⟩)⟩ := by
  simp [assign, hc, ho, Hidden.allow, Hidden.has]

/-! ### Options -/

/-- The default size, or what is found in its place. -/
def defaultSizeValue (c : Configuration) : Except Failure Value :=
  c.hidden.field OptionName.defaultSize.text c.defaultSize

/-- The largest size, or what is found in its place. -/
def maxSizeValue (c : Configuration) : Except Failure Value :=
  c.hidden.field OptionName.maxSize.text c.maxSize

/-- The default specs, or the members of what is found in their place. -/
def defaultSpecsThere (c : Configuration) : Except Failure (List Value) :=
  (c.hidden.field OptionName.defaultSpecs.text c.defaultSpecs).bind fun specs =>
    specs.spread.elim (.error .badCall) .ok

/-- What is held, or found, in the place of the column map. -/
def columnMapThere (c : Configuration) : Except Failure Argument :=
  match c.columnMap with
  | some f => .ok f
  | none => (c.hidden.instead OptionName.columnMap.text).map .value

/-- The configuration as a record, if no option is missing and the default specs
can be spread; of the column map it tells whether there is one. -/
def dump (c : Configuration) : Except Failure Value :=
  c.defaultSizeValue.bind fun size =>
  c.maxSizeValue.bind fun most =>
  c.defaultSpecsThere.bind fun specs =>
  c.columnMapThere.map fun f =>
    .record [(OptionName.defaultSize.text, size), (OptionName.maxSize.text, most),
      (OptionName.defaultSpecs.text, .list specs), (OptionName.columnMap.text, .bool !f.isNull)]

end Configuration

/-- The configuration of a pager is shown as the pager. -/
theorem Pager.dump_configuration (p : Pager) : p.configuration.dump = .ok p.dump := by
  cases h : p.columnMap <;>
    simp [Configuration.dump, Configuration.defaultSizeValue, Configuration.maxSizeValue,
      Configuration.defaultSpecsThere, Configuration.columnMapThere, Pager.configuration,
      Pager.dump, h, Except.bind, Except.map, Value.spread, Argument.isNull, Value.isNull]

end Folio
