/-
# Drafts of pagers

A draft collects options call by call; the last call for an option wins.
Nothing is checked before `finish`, which leaves the draft as it is, so that it
can be changed and finished again. Default specs are given by spreading one
value; a value that cannot be spread is refused and changes nothing. A call may
also start another draft, which leaves the first one as it is.

Key definitions: `Draft`, `Draft.Call`, `Draft.perform`, `Draft.run`,
`Pager.ofArguments`.
-/
import Folio.Pager

namespace Folio

/-- A pager to be. -/
structure Draft where
  options : Options := {}

namespace Draft

/-- Sets the size of a page that gives none. -/
def setDefaultSize (d : Draft) (size : Argument) : Draft :=
  ⟨{ d.options with defaultSize := some size }⟩

/-- Sets the largest size. -/
def setMaxSize (d : Draft) (size : Argument) : Draft :=
  ⟨{ d.options with maxSize := some size }⟩

/-- Sets the default specs. -/
def setSpecs (d : Draft) (specs : List Value) : Draft :=
  ⟨{ d.options with defaultSpecs := some (.value (.list specs)) }⟩

/-- Sets the column map. -/
def setColumnMap (d : Draft) (f : Argument) : Draft :=
  ⟨{ d.options with columnMap := some f }⟩

/-- The pager of a draft. -/
def finish (d : Draft) : Except Failure Pager :=
  Pager.ofOptions d.options

/-- A call on a draft. -/
inductive Call where
  | defaultSize (size : Argument)
  | maxSize (size : Argument)
  | specs (members : Argument)
  | columnMap (f : Argument)
  | finish
  /-- Starts another draft. -/
  | restart (fresh : Draft)
  /-- A call that no draft takes. -/
  | refused (failure : Failure)

/-- What a call answers. -/
inductive Outcome where
  | kept
  | started (fresh : Draft)
  | finished (p : Pager)
  | failed (failure : Failure)

/-- The draft after a call, and the answer. -/
def perform (d : Draft) : Call → Draft × Outcome
  | .defaultSize size => (d.setDefaultSize size, .kept)
  | .maxSize size => (d.setMaxSize size, .kept)
  | .specs members =>
    match members.spread with
    | some specs => (d.setSpecs specs, .kept)
    | none => (d, .failed .badCall)
  | .columnMap f => (d.setColumnMap f, .kept)
  | .finish =>
    match d.finish with
    | .ok p => (d, .finished p)
    | .error failure => (d, .failed failure)
  | .restart fresh => (d, .started fresh)
  | .refused failure => (d, .failed failure)

/-- The draft after several calls, and their answers in order. -/
def run (d : Draft) : List Call → Draft × List Outcome
  | [] => (d, [])
  | call :: rest =>
    let r := (d.perform call).1.run rest
    (r.1, (d.perform call).2 :: r.2)

/-- The pager of a draft after calls that are all to be made: the first
failure ends them, and a draft that is started takes the place of the one
before. -/
def follow (d : Draft) : List Call → Except Failure Pager
  | [] => d.finish
  | call :: rest =>
    match d.perform call with
    | (_, .failed failure) => .error failure
    | (_, .started fresh) => fresh.follow rest
    | (next, _) => next.follow rest

end Draft

namespace Pager

/-- The names of the arguments that make a pager. -/
def argumentNames : List String :=
  ["default_size", "max_size", "sort", "column_func"]

/-- The pager with the given sizes, the specs in `sort`, and the column map
unless it is null. -/
def make (defaultSize maxSize sort columnMap : Argument) : Except Failure Pager :=
  match sort.spread with
  | none => .error .badCall
  | some specs =>
    let d := ((Draft.mk {}).setDefaultSize defaultSize).setMaxSize maxSize |>.setSpecs specs
    if columnMap.isNull then d.finish else (d.setColumnMap columnMap).finish

/-- The pager for named arguments, each with its usual value when it is left
out. A name of its own is refused. -/
def ofArguments (arguments : List (String × Argument)) : Except Failure Pager :=
  if arguments.all fun a => argumentNames.contains a.1 then
    make ((arguments.lookup "default_size").getD (.value (.int usualSize.rows)))
      ((arguments.lookup "max_size").getD (.value (.int usualMaxSize.rows)))
      ((arguments.lookup "sort").getD (.value (.list [])))
      ((arguments.lookup "column_func").getD (.value .null))
  else .error .badCall

end Pager
end Folio
