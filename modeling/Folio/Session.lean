/-
# Sessions

A session is one pager at work on pages that have names. Its steps make and
change pages, narrow statements, collect rows and put listings together. A step
that fails keeps what it changed before the failure, and the steps after it
still run. A statement that cannot be shown is kept like any other. A listing on
show holds its page, not a copy: later changes to the page show in it. The
configuration of the pager only changes when all of it is replaced.

Key definitions: `Session`, `Session.Start`, `Session.Step`, `Session.Answer`,
`Session.perform`, `Session.run`.
-/
import Folio.Desk.Shown
import Folio.Desk.Work

namespace Folio

/-- A pager at work. -/
structure Session where
  options : Configuration
  desk : Desk := {}
  names : List (Name × Option PageRef) := []
  statement : Statement := .select {}
  rows : Option (List Value) := none
  shown : Option (List Item × PageRef) := none

namespace Session

/-- The statement that a step starts from. -/
inductive Start where
  /-- The one narrowed last. -/
  | latest
  | given (statement : Statement)
  /-- A SELECT statement with a limit and an offset of any kind. -/
  | bounded (select : Select) (limit offset : Value)

/-- A step of a session. Pages are given by name; a name that no page has stands
for the absent page. -/
inductive Step where
  /-- Makes a page and gives it a name, if the value can be one. -/
  | place (name : Value) (source : PageSource)
  | assign (page : Name) (assignment : Assignment)
  | assignKey (page : Name) (index : Value) (assignment : KeyAssignment)
  /-- Appends a key, if one is given, to those a page is sorted by. -/
  | appendKey (page : Name) (defaults : List Value) (key : Except Failure Value)
  | keys (page : Name) (defaults : List Value)
  | clauses (page : Name)
  /-- Narrows a statement. -/
  | narrow (page : Name) (start : Start)
  /-- Narrows a statement and looks at the one that it starts from. -/
  | narrowApart (page : Name) (start : Start)
  /-- Collects the rows given, if what is given can hold rows. -/
  | collect (page : Name) (rows : Option (List Value))
  /-- Puts a listing of some items together, or of the rows collected last. -/
  | list (page : Name) (kind : ItemKind) (items : Option Value)
  | showListing
  | window (page : Name)
  | options
  | assignOption (name : String) (v : Value)
  /-- Does nothing. -/
  | rest

/-- What a step answers. Pages, keys, options and listings are answered as
records. -/
inductive Answer where
  | done
  | placed (page : Value)
  | keys (keys : Value)
  | clauses (texts : List String)
  /-- The rows that are there, and the statement, if it can be shown. -/
  | prepared (rows : List Value) (statement : Except Failure Statement)
  | apart (statement : Statement)
  | rows (rows : List Value)
  | listing (l : Value)
  | window (limit offset : Number)
  | options (v : Value)
  | failed (failure : Failure)

/-- The answer of a step, and the events reported in it. -/
structure Report where
  answer : Answer
  events : List Event := []

/-- The answer that a result gives. -/
def Answer.ofResult {α : Type} (answer : α → Answer) : Except Failure α → Answer
  | .ok a => answer a
  | .error failure => .failed failure

/-! ### Names -/

/-- The page of a name; an unknown name stands for the absent page. -/
def ref (s : Session) (name : Name) : Option PageRef :=
  (s.names.lookup name).getD none

/-- The page of a name, which has to be one that was given. -/
def known (s : Session) : Names := fun v =>
  match v.name? with
  | none => .error .badCall
  | some name =>
    match s.names.lookup name with
    | some ref => .ok ref
    | none => .error (.noSuchName v.plain)

/-- The page of a name as it is now, as a record, if it can be shown. -/
def page (s : Session) (name : Name) : Except Failure Value :=
  s.desk.dump (s.ref name)

/-- The session with a page under a name. -/
def named (s : Session) (name : Name) (ref : Option PageRef) : Session :=
  { s with names := (name, ref) :: s.names.filter fun n => n.1 != name }

/-- The session with another desk. -/
def onDesk (s : Session) (desk : Desk) : Session :=
  { s with desk := desk }

/-! ### Listings -/

/-- The listing on show, with its page as it is now. -/
def listing (s : Session) : Except Failure Value :=
  match s.shown with
  | none => .error .wrongKind
  | some (items, ref) => s.desk.listing items (some ref)

/-- The items given, or else the rows collected last, null when there are
none. -/
def itemsOr (s : Session) (items : Option Value) : Value :=
  items.getD ((s.rows.map .list).getD .null)

/-- The reference to a page that is on the desk. -/
def present (s : Session) (name : Name) : Option PageRef :=
  (s.ref name).filter fun r => (s.desk.card? (some r)).isSome

/-! ### Steps -/

/-- The session after an attempt to change its desk, and the answer. -/
def changed (s : Session) (x : Attempt Desk) : Session × Report :=
  (s.onDesk x.left, ⟨x.failure.elim .done .failed, []⟩)

/-- The session after a page is made and put under a name, and the answer. -/
def place (s : Session) (v : Value) (source : PageSource) : Session × Report :=
  match s.desk.place s.known source, v.name? with
  | .error failure, _ => (s, ⟨.failed failure, []⟩)
  | .ok _, none => (s, ⟨.failed .badCall, []⟩)
  | .ok (desk, ref), some name =>
    ((s.onDesk desk).named name ref, ⟨Answer.ofResult .placed (desk.dump ref), []⟩)

/-- The records of what a page is sorted by. -/
def chosenValue (d : Desk) : Desk.Chosen → Except Failure Value
  | .own keys => d.keysValue keys
  | .fresh keys => .ok (.list (keys.map SortKey.dump))

/-- The session with a key, if one is given, behind what a page is sorted by, or
the failure. -/
def withKey (s : Session) (ref : Option PageRef) (chosen : Desk.Chosen)
    (key : Except Failure Value) : Except Failure Session :=
  match chosen, key with
  | .own (.bare _), _ => .error .wrongKind
  | _, .error failure => .error failure
  | _, .ok v =>
    match Checked.titled SortKey.model (SortKey.read v) with
    | .error rejection => .error (.rejected rejection)
    | .ok key => (s.desk.appendKey ref chosen key).map s.onDesk

/-- The session after a key is put behind those a page is sorted by, and what
is reported. -/
def appendKey (s : Session) (ref : Option PageRef) (defaults : List Value)
    (key : Except Failure Value) : Session × Report :=
  match s.desk.card? ref with
  | none => (s, ⟨.failed .wrongKind, []⟩)
  | some card =>
    match card.hidden.offers "resolve_order" with
    | .error failure => (s, ⟨.failed failure, []⟩)
    | .ok _ =>
      let choice := s.desk.choice ref defaults
      match choice.chosen.bind fun chosen => s.withKey ref chosen key with
      | .error failure => (s, ⟨.failed failure, choice.events⟩)
      | .ok next => (next, ⟨.done, choice.events⟩)

/-- The statement that a step starts from. -/
def statementOf (s : Session) : Start → Except Failure Statement
  | .latest => .ok s.statement
  | .given statement => .ok statement
  | .bounded select limit offset => (select.bounded limit offset).map .select

/-- The session after a statement is narrowed for a page, and what is
reported. -/
def narrow (s : Session) (ref : Option PageRef) (start : Start) : Session × Report :=
  match s.statementOf start with
  | .error failure => (s, ⟨.failed failure, []⟩)
  | .ok statement =>
    let (desk, n) := s.desk.narrow s.options statement ref
    match n.prepared with
    | .error failure => (s.onDesk desk, ⟨.failed failure, n.events⟩)
    | .ok prepared =>
      ({ s with desk := desk, statement := prepared.statement },
        ⟨.prepared prepared.rows prepared.statement.shown, n.events⟩)

/-- The session after a statement is narrowed for a page, and what is reported,
with the statement as it was before. -/
def narrowApart (s : Session) (ref : Option PageRef) (start : Start) : Session × Report :=
  match s.statementOf start with
  | .error failure => (s, ⟨.failed failure, []⟩)
  | .ok statement =>
    let (desk, n) := s.desk.narrow s.options statement ref
    (s.onDesk desk,
      ⟨Answer.ofResult .apart (n.prepared.bind fun _ => statement.shown), n.events⟩)

/-- The session after rows are collected for a page, and what is reported. -/
def collect (s : Session) (ref : Option PageRef) (rows : Option (List Value)) :
    Session × Report :=
  let (desk, c) := s.desk.collect ref rows
  match c.rows with
  | .ok kept => ({ s with desk := desk, rows := some kept }, ⟨.rows kept, c.events⟩)
  | .error failure => (s.onDesk desk, ⟨.failed failure, c.events⟩)

/-- The session after an attempt to assign an option, and the answer. -/
def assignOption (s : Session) (name : String) (v : Value) : Session × Report :=
  let x := s.options.assign name v
  ({ s with options := x.left },
    ⟨x.failure.elim (Answer.ofResult .options x.left.dump) .failed, []⟩)

/-- The session after a step, and what the step reports. -/
def perform (s : Session) : Step → Session × Report
  | .place name source => s.place name source
  | .assign name assignment => s.changed (s.desk.assign (s.ref name) assignment)
  | .assignKey name index assignment =>
    s.changed (s.desk.assignKey (s.ref name) index assignment)
  | .appendKey name defaults key => s.appendKey (s.ref name) defaults key
  | .keys name defaults =>
    let choice := s.desk.choice (s.ref name) defaults
    (s, ⟨Answer.ofResult .keys (choice.chosen.bind (chosenValue s.desk)), choice.events⟩)
  | .clauses name =>
    let r := s.desk.clauses s.options (s.ref name)
    (s, ⟨Answer.ofResult .clauses r.2, r.1⟩)
  | .narrow name start => s.narrow (s.ref name) start
  | .narrowApart name start => s.narrowApart (s.ref name) start
  | .collect name rows => s.collect (s.ref name) rows
  | .list name kind items =>
    match Listing.gather kind (s.itemsOr items) (s.present name) with
    | .ok r =>
      let next := { s with shown := some r }
      (next, ⟨Answer.ofResult .listing next.listing, []⟩)
    | .error rejection => (s, ⟨.failed (.rejected rejection), []⟩)
  | .showListing => (s, ⟨Answer.ofResult .listing s.listing, []⟩)
  | .window name =>
    (s, ⟨Answer.ofResult (fun w => .window w.1 w.2) (s.desk.window (s.ref name)), []⟩)
  | .options => (s, ⟨Answer.ofResult .options s.options.dump, []⟩)
  | .assignOption name v => s.assignOption name v
  | .rest => (s, ⟨.done, []⟩)

/-- The session after several steps, and what each reports. -/
def run (s : Session) : List Step → Session × List Report
  | [] => (s, [])
  | step :: rest =>
    let r := (s.perform step).1.run rest
    (r.1, (s.perform step).2 :: r.2)

end Session
end Folio
