/-
# The journal

The journal is where events are logged. Loggers are handed out by name, fields
are bound to them, and they are asked to log; a logger whose name is no text
fails whatever it is asked. The events of pagers go through two loggers of the
journal's own. What a pager reports is logged while it works: a report that cannot
be logged ends the work with its failure, but what has been done to the page by
then stays.

Key definitions: `Journal.log`, `Journal.Work`, `Journal.narrowing`,
`Journal.collecting`, `Journal.Step`, `Journal.perform`, `Journal.run`.
-/
import Folio.Desk.Work
import Folio.Journal.Logger

namespace Folio
namespace Journal

/-! ### Loggers -/

/-- The journal in another mode; without a choice the settings decide. -/
def configure (j : Journal) (debug : Option Bool) : Journal :=
  { j with mode := some (.ofDebug (debug.getD j.settings.debug)) }

/-- A logger of a name; the project's name is taken when nothing is said. -/
def newLogger (j : Journal) (name : Value) : Option Logger :=
  match name with
  | .text s => some { name := if s = "" then j.settings.name else s }
  | v => if v.isSet then none else some { name := j.settings.name }

/-- The journal with a logger under a handle. -/
def keep (j : Journal) (handle : Name) (l : Option Logger) : Journal :=
  { j with loggers := (handle, l) :: j.loggers.filter fun h => h.1 != handle }

/-- The logger under a handle, and the handle as a name. -/
def handed (j : Journal) (handle : Value) : Except Failure (Name × Option Logger) :=
  match handle.name? with
  | none => .error .badCall
  | some name =>
    match j.loggers.lookup name with
    | none => .error (.noSuchName handle.plain)
    | some l => .ok (name, l)

/-! ### Outcomes -/

/-- What was written, and the failure that ended it, if one did. -/
structure Outcome where
  written : List String := []
  failure : Option Failure := none

/-- The outcome of writing one text or failing. -/
def Outcome.ofResult : Except Failure (List String) → Outcome
  | .ok written => { written := written }
  | .error failure => { failure := some failure }

/-- The outcome of failing. -/
def Outcome.failed (failure : Failure) : Outcome :=
  { failure := some failure }

/-- The outcome with texts written before. -/
def Outcome.after (written : List String) (o : Outcome) : Outcome :=
  { o with written := written ++ o.written }

/-! ### Events of pagers -/

/-- Logs an event of a pager. -/
def log (j : Journal) (time : String) (event : Event) : Journal × Except Failure (List String) :=
  match event with
  | .specIgnored _ =>
    ({ j with specLogger := j.specLogger.used j.mode },
      j.written j.specLogger .debug time (.text event.name) event.fields)
  | _ =>
    ({ j with pagerLogger := j.pagerLogger.used j.mode },
      j.written j.pagerLogger .debug time (.text event.name) event.fields)

/-- Logs several events up to the first that fails. -/
def logAll (j : Journal) (time : String) : List Event → Journal × Outcome
  | [] => (j, {})
  | event :: rest =>
    match (j.log time event).2 with
    | .error failure => ((j.log time event).1, { failure := some failure })
    | .ok written =>
      let r := (j.log time event).1.logAll time rest
      (r.1, r.2.after written)

/-- What some reported work leaves, has written and gives. -/
structure Work (β : Type) where
  journal : Journal
  desk : Desk
  written : List String
  result : Except Failure β

/-- What is written and how it ends. -/
def Work.outcome {β : Type} (w : Work β) : Outcome where
  written := w.written
  failure :=
    match w.result with
    | .ok _ => none
    | .error failure => some failure

/-- Reports some work on a desk. The desk stays as the work left it, but a report that
fails takes the place of what the work gave. -/
def report {β : Type} (j : Journal) (time : String) (d : Desk) (events : List Event)
    (result : Except Failure β) : Work β :=
  let r := j.logAll time events
  ⟨r.1, d, r.2.written, r.2.failure.elim result .error⟩

/-- Narrows a statement for a page and reports it. -/
def narrowing (j : Journal) (time : String) (d : Desk) (c : Configuration)
    (statement : Statement) (ref : Option PageRef) : Work Pager.Prepared :=
  let r := d.narrow c statement ref
  j.report time r.1 r.2.events r.2.prepared

/-- Collects the rows fetched for a page, if there are any, and reports it. -/
def collecting {α : Type} (j : Journal) (time : String) (d : Desk) (ref : Option PageRef)
    (rows : Option (List α)) : Work (List α) :=
  let r := d.collect ref rows
  j.report time r.1 r.2.events r.2.rows

/-- A pager without options at work on a page: it narrows a statement, and then,
unless that failed, collects as many rows as a value asks for. -/
def paginate (j : Journal) (time : String) (d : Desk) (ref : Option PageRef)
    (rows : Except Failure Value) : Journal × Outcome :=
  let n := j.narrowing time d Pager.usual.configuration (.select {}) ref
  match n.result, rows.bind Pager.rowCount with
  | .error failure, _ => (n.journal, { written := n.written, failure := some failure })
  | .ok _, .error failure => (n.journal, { written := n.written, failure := some failure })
  | .ok _, .ok count =>
    let c := n.journal.collecting time n.desk ref (some (List.range count))
    (c.journal, c.outcome.after n.written)

/-! ### Steps -/

/-- A step on a journal. Loggers are given by handle. What a step needs may be
missing, which fails in its turn. -/
inductive Step where
  | configure (debug : Option Bool)
  | get (handle : Except Failure Value) (name : Value)
  | bind (logger : Value) (fields : Except Failure Entry) (handle : Except Failure Value)
  | context (fields : Except Failure Entry)
  /-- Asks a logger by name to do something with an event. -/
  | emit (logger : Value) (name : Except Failure String) (event : Except Failure Value)
      (fields : Except Failure Entry)
  /-- A pager without options narrows a statement for a page and collects as
  many rows as a value asks for. -/
  | paginate (source : PageSource) (rows : Except Failure Value)
  /-- Does nothing. -/
  | rest

/-- The fields of an event, with a note that an exception is at hand if there
is one and the fields do not say anything about it. -/
def noted (exception : Bool) (fields : Entry) : Entry :=
  if exception then fields.putNew "exc_info" (.bool true) else fields

/-- The outcome of asking a logger to log the event among some fields with the
severity that a number stands for. A number below the threshold of the logger
need not stand for any. -/
def rated (j : Journal) (time : String) (l : Logger) (severity event : Value) (fields : Entry) :
    Outcome :=
  match severity.number? with
  | none => .failed .badCall
  | some n =>
    if n.lt (.int (Mode.floor (l.own j.mode))) then {}
    else
      match Severity.ofNumber? n with
      | none => .failed (.noSuchName severity.plain)
      | some severity =>
        .ofResult (j.written l severity time event (fields.without "event"))

/-- The severity of what is handed on under a name, and whether an exception is at
hand. -/
def handedOn? (name : String) : Option (Severity × Bool) :=
  if name = "exception" then some (.error, true)
  else if name = "msg" then none
  else (Severity.ofName? name).map (·, false)

/-- The name of the severity of what is handed on under a name. -/
def levelOf (name : String) : String :=
  if name = "warn" then Severity.warning.name
  else if name = "exception" then Severity.error.name
  else name

/-- What there is to write of an event handed on under a name. -/
def handed? (j : Journal) (time : String) (l : Logger) (name : Value) (event : Value)
    (fields : Entry) : Except Failure (List String) :=
  let level := match name with
    | .text s => levelOf s
    | _ => ""
  match l.own j.mode with
  | none => j.fallback level time (j.known l event fields)
  | some own => (laidOut own.layout (j.entry l level time event fields)).map fun text => [text]

/-- The names under which loggers that go by no mode pass lines on. -/
def outlets : List String :=
  ["msg", "log", "debug", "info", "warn", "warning", "err", "error", "failure", "exception",
    "critical", "fatal"]

/-- What is written below an event when an exception is at hand, but there is
none. -/
def noException : String := "NoneType: None"

/-- The outcome of passing lines on under a name. -/
def passOn (j : Journal) (l : Logger) (name : String) (lines : List String) : Outcome :=
  match l.own j.mode, handedOn? name with
  | none, _ => if outlets.contains name then { written := lines } else .failed .wrongKind
  | some _, some (severity, exception) =>
    if l.passes j.mode severity then
      { written := if exception then lines.map (· ++ "\n" ++ noException) else lines }
    else {}
  | some _, none => .failed (if name = "log" then .badCall else .wrongKind)

/-- The outcome of handing on the event among some fields under a name. What there
is to write is there before the name is looked at. -/
def handOn (j : Journal) (time : String) (l : Logger) (name : Value) (fields : Entry) : Outcome :=
  match j.handed? time l name ((fields.lookup "event").getD .null) (fields.without "event"),
    name with
  | .error failure, _ => .failed failure
  | .ok lines, .text s => j.passOn l s lines
  | .ok _, _ => .failed .badCall

/-- The outcome of preparing the event among some fields under a name. The fields
of the event are given as one of them. -/
def prepare (j : Journal) (time : String) (l : Logger) (name : Value) (fields : Entry) :
    Outcome :=
  match fields.lookup "event", fields.lookup "event_kw", fields.length with
  | some event, some (.record given), 2 =>
    match j.handed? time l name event given with
    | .error failure => .failed failure
    | .ok _ => {}
  | _, _, _ => .failed .badCall

/-- The outcome of asking what a name asks for, once something is bound. -/
def meaning (name : Value) : Outcome :=
  match name with
  | .text s =>
    match Manner.ofName true s with
    | .unknown => .failed .wrongKind
    | _ => {}
  | _ => .failed .badCall

/-- The outcome of asking for a logger without the bound field of a name. -/
def released (strict : Bool) (l : Logger) (field : Value) : Outcome :=
  match field with
  | .text s => if strict && !l.fields.names s then .failed (.noSuchName s) else {}
  | .list _ => .failed .badCall
  | .record _ => .failed .badCall
  | v => if strict then .failed (.noSuchName v.plain) else {}

/-- The outcome of asking a logger to do something with an event. No field may be
called as a parameter of what is asked for is. -/
def asked (j : Journal) (time : String) (l : Logger) (manner : Manner) (event : Value)
    (fields : Entry) : Outcome :=
  match manner with
  | .unknown => .failed .wrongKind
  | .failing => .failed .wrongKind
  | .unfit _ => .failed .badCall
  | .idle => if fields.isEmpty then {} else .failed .badCall
  | .meaning => if fields.isEmpty then meaning event else .failed .badCall
  | .handOn =>
    if fields.names "self" || fields.names "method_name" then .failed .badCall
    else j.handOn time l event fields
  | .prepare => j.prepare time l event fields
  | .admission =>
    if !fields.isEmpty || event.number?.isNone then .failed .badCall else {}
  | .release strict => if fields.isEmpty then released strict l event else .failed .badCall
  | .rated later =>
    match fields.lookup "event" with
    | none => .failed .badCall
    | some named =>
      if fields.names "self" || fields.names "level" then .failed .badCall
      else if later then {}
      else j.rated time l event named fields
  | .now severity exception =>
    if fields.names "self" || fields.names "event" then .failed .badCall
    else .ofResult (j.written l severity time event (noted exception fields))
  | .later => if fields.names "self" || fields.names "event" then .failed .badCall else {}

/-- The outcome of asking a logger without a proper name to do something. -/
def askedInVain (manner : Manner) (given : Except Failure (Value × Entry)) : Outcome :=
  match manner, given with
  | _, .error failure => .failed (if manner.isOutward then failure else .badCall)
  | .failing, .ok _ => .failed .wrongKind
  | .idle, .ok (_, []) => {}
  | _, .ok _ => .failed .badCall

/-- The journal after a logger is asked by name to do something, and the
outcome. -/
def emit (j : Journal) (time : String) (handle : Name) (l : Option Logger) (name : String)
    (event : Except Failure Value) (fields : Except Failure Entry) : Journal × Outcome :=
  let given := event.bind fun event => fields.map fun fields => (event, fields)
  match l with
  | none => (j, askedInVain (.ofName false name) given)
  | some l =>
    let manner := Manner.ofName l.isBound name
    let next :=
      if manner.uses (given.map Prod.snd) then j.keep handle (some (l.used j.mode)) else j
    match manner, given with
    | .unknown, _ => (next, .failed .wrongKind)
    | _, .error failure => (next, .failed failure)
    | _, .ok (event, fields) => (next, j.asked time l manner event fields)

/-- The journal after fields are bound to a logger, and the outcome. -/
def bind (j : Journal) (logger : Name) (l : Option Logger) (fields : Entry)
    (handle : Except Failure Value) : Journal × Outcome :=
  match l with
  | none => (j, .failed .badCall)
  | some l =>
    if fields.names "self" then (j, .failed .badCall)
    else
      let used := l.used j.mode
      let next := j.keep logger (some used)
      match handle.map Value.name? with
      | .error failure => (next, .failed failure)
      | .ok none => (next, .failed .badCall)
      | .ok (some handle) =>
        (next.keep handle
          (some { used with isBound := true, fields := Entry.putAll fields used.fields }), {})

/-- The journal after a step, and the outcome. -/
def perform (j : Journal) (time : String) : Step → Journal × Outcome
  | .configure debug => (j.configure debug, {})
  | .get handle name =>
    match handle.map Value.name? with
    | .error failure => (j, .failed failure)
    | .ok none => (j, .failed .badCall)
    | .ok (some handle) => (j.keep handle (j.newLogger name), {})
  | .bind logger fields handle =>
    match j.handed logger, fields with
    | .error failure, _ => (j, .failed failure)
    | .ok _, .error failure => (j, .failed failure)
    | .ok (name, l), .ok fields => j.bind name l fields handle
  | .context fields =>
    match fields with
    | .error failure => ({ j with context := [] }, .failed failure)
    | .ok fields => ({ j with context := Entry.putAll fields [] }, {})
  | .emit logger name event fields =>
    match j.handed logger, name with
    | .error failure, _ => (j, .failed failure)
    | .ok _, .error failure => (j, .failed failure)
    | .ok (handle, l), .ok name => j.emit time handle l name event fields
  | .paginate source rows =>
    match Desk.place {} Names.none source with
    | .error failure => (j, .failed failure)
    | .ok (d, ref) => j.paginate time d ref rows
  | .rest => (j, {})

/-- The journal after several steps, and the outcome of each. -/
def run (j : Journal) (time : String) : List Step → Journal × List Outcome
  | [] => (j, [])
  | step :: rest =>
    let r := (j.perform time step).1.run time rest
    (r.1, (j.perform time step).2 :: r.2)

end Journal
end Folio
