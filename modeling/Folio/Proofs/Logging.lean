/-
# Which modes govern an event

A journal may be configured again and again while loggers are handed out, bound to
fields and called, and while pagers report events. All of this may also happen before it
is first configured. A logger that is handed out has no mode (`Journal.mode_of_get`).
Each step either leaves it alone or uses it, and the first use after a mode has been
chosen makes it take over the mode in force (`Journal.act_logger?`). So what comes of an
event hangs on two modes: that of the first such use of its logger, and the one chosen
last (`Journal.log_governed`). They are the same when the logger is first used after the
last choice (`Journal.firstMode_eq_latestMode`), and when they are not, the mode chosen
last does not govern alone (`Journal.not_governed_by_latest`).

Key definitions: `Journal.Call`, `Journal.Channel`, `Journal.Act`,
`Journal.latestMode`, `Journal.firstMode`, `Journal.Governed`.
Key theorems: `Journal.act_logger?`, `Journal.follow_mode`, `Journal.follow_logger?`,
`Journal.written_of_own`, `Journal.log_governed`.
-/
import Folio.Journal
import Folio.Proofs.Construction

namespace Folio

/-! ### Severities and numbers -/

/-- The numbers of the severities that are not written are those below the floor. -/
theorem Mode.lt_floor (m : Option Mode) (severity : Severity) :
    (Number.int severity.number).lt (.int (floor m)) = !m.all fun m => m.admits severity := by
  rw [Number.lt_int]
  rcases m with _ | _ | _ <;> cases severity <;> decide

theorem Severity.ofNumber?_number (severity : Severity) :
    ofNumber? (.int severity.number) = some severity := by
  cases severity <;> decide +kernel

/-! ### Modes of loggers -/

namespace Logger

variable {l : Logger}

/-- A use under a mode settles which mode a logger goes by, and one before any mode is
chosen settles nothing. -/
theorem own_used (l : Logger) (current later : Option Mode) :
    (l.used current).own later = l.own (current.or later) := by
  unfold used own
  split
  · rfl
  · exact Option.or_assoc

/-- Once a mode is chosen a logger goes by some mode, unless it came from binding fields
when there was none. -/
theorem isSome_own (hbound : l.isBound = true → l.mode.isSome) {current : Option Mode}
    (h : current.isSome) : (l.own current).isSome := by
  unfold own
  split
  · next hl => exact hbound hl
  · rw [Option.isSome_or, h, Bool.or_true]

end Logger

theorem Entry.without_of_not_names {e : Entry} {name : String} (h : e.names name = false) :
    e.without name = e := by
  rw [Entry.names, List.any_eq_false] at h
  rw [Entry.without, List.filter_eq_self]
  exact fun f hf => by simpa using h f hf

namespace Journal

/-! ### Calls that log an event -/

/-- A call that asks a logger to log an event at once. None of the fields is called
as a parameter of what is called. -/
inductive Call where
  /-- By a name for a severity, perhaps with a note that an exception is at hand. -/
  | named (name : String) (severity : Severity) (exception : Bool)
      (logs : Manner.atOnce? name = some (.now severity exception)) (event : Value)
      (fields : Entry) (fits : (fields.names "self" || fields.names "event") = false)
  /-- By the number of a severity; the event is one of the fields. -/
  | rated (severity : Severity) (event : Value) (fields : Entry)
      (fits : (fields.names "self" || fields.names "level" || fields.names "event") = false)

namespace Call

/-- The name that the logger is asked by. -/
def name : Call → String
  | named name .. => name
  | rated .. => "log"

/-- What is given in the place of the event. -/
def first : Call → Value
  | named _ _ _ _ event _ _ => event
  | rated severity .. => .int severity.number

/-- The fields that are given. -/
def given : Call → Entry
  | named _ _ _ _ _ fields _ => fields
  | rated _ event fields _ => ("event", event) :: fields

/-- The severity of the event. -/
def severity : Call → Severity
  | named _ severity .. => severity
  | rated severity .. => severity

/-- The event. -/
def event : Call → Value
  | named _ _ _ _ event _ _ => event
  | rated _ event .. => event

/-- The fields of the event. -/
def fields : Call → Entry
  | named _ _ exception _ _ fields _ => noted exception fields
  | rated _ _ fields _ => fields

/-- What the logger is asked to do. -/
def manner : Call → Manner
  | named _ severity exception .. => .now severity exception
  | rated .. => .rated false

/-- The call by the name of a severity, without fields. -/
def simply (severity : Severity) (event : Value) : Call :=
  named severity.name severity false (by cases severity <;> rfl) event [] rfl

theorem ofName_name (isBound : Bool) (call : Call) :
    Manner.ofName isBound call.name = call.manner := by
  cases call with
  | named name severity exception logs => simp only [Manner.ofName, Call.name, logs, manner]
  | rated => rfl

theorem uses_manner (call : Call) (fields : Except Failure Entry) :
    call.manner.uses fields = true := by
  cases call <;> rfl

end Call

/-- Whatever way a call takes, the event is written by the logger that is asked. -/
theorem asked_call (j : Journal) (time : String) (l : Logger) (call : Call) :
    j.asked time l call.manner call.first call.given =
      .ofResult (j.written l call.severity time call.event call.fields) := by
  cases call with
  | named name severity exception logs event fields fits =>
    simp only [asked, Call.manner, Call.given, fits, Call.first, Call.severity, Call.event,
      Call.fields, Bool.false_eq_true, if_false]
  | rated severity event fields fits =>
    simp only [Bool.or_eq_false_iff] at fits
    obtain ⟨⟨hself, hlevel⟩, hevent⟩ := fits
    have hnames : (Entry.names (("event", event) :: fields) "self" ||
        Entry.names (("event", event) :: fields) "level") = false := by
      rw [Bool.or_eq_false_iff]
      exact ⟨hself, hlevel⟩
    have hrest : Entry.without (("event", event) :: fields) "event" = fields := by
      rw [Entry.without, List.filter_cons_of_neg (by simp)]
      exact Entry.without_of_not_names hevent
    have hrated : j.rated time l (.int severity.number) event (("event", event) :: fields) =
        .ofResult (j.written l severity time event fields) := by
      simp only [rated, Value.number?, Mode.lt_floor, Severity.ofNumber?_number, hrest]
      cases hadmits : (l.own j.mode).all fun m => m.admits severity with
      | true => rfl
      | false =>
        -- what is below the floor is not written either
        cases hown : l.own j.mode with
        | none => cases (congrArg (Option.all _) hown).symm.trans hadmits
        | some m =>
          have hm : m.admits severity = false := by
            rw [hown] at hadmits
            exact hadmits
          simp only [written, hown, hm, Bool.not_false, if_true, Bool.false_eq_true, if_false,
            Outcome.ofResult]
    simp only [asked, Call.manner, Call.given, Call.first, List.lookup_cons, beq_self_eq_true,
      hnames, Bool.false_eq_true, if_false]
    exact hrated

/-! ### Loggers -/

/-- Where a logger is: under a handle, or one of the two for events of pagers. -/
inductive Channel where
  | handle (name : String)
  | specs
  | pager
  deriving DecidableEq, Repr

/-- The channel of the events of a pager. -/
def Channel.ofEvent : Event → Channel
  | .specIgnored _ => specs
  | _ => pager

/-- The logger of a channel, if there is a proper one. -/
def logger? (j : Journal) : Channel → Option Logger
  | .handle name => (j.loggers.lookup (.text name)).join
  | .specs => some j.specLogger
  | .pager => some j.pagerLogger

theorem logger?_keep (j : Journal) (handle : String) (l : Option Logger) (c : Channel) :
    (j.keep (.text handle) l).logger? c = if c = .handle handle then l else j.logger? c := by
  cases c with
  | handle name =>
    by_cases hname : name = handle
    · subst hname
      simp [logger?, keep]
    · have hkept : ∀ l : Option Logger,
          ((Name.text name, l).1 != Name.text handle) = true := fun _ => by simpa using hname
      have hne : (Name.text name == Name.text handle) = false := by simpa using hname
      rw [if_neg (by simpa using hname), logger?, logger?, keep, List.lookup_cons, hne,
        lookup_filter hkept]
  | specs => rfl
  | pager => rfl

/-- The journal after a use of the logger of a channel. -/
def use (j : Journal) : Channel → Journal
  | .handle name =>
    match j.logger? (.handle name) with
    | some l => j.keep (.text name) (some (l.used j.mode))
    | none => j
  | .specs => { j with specLogger := j.specLogger.used j.mode }
  | .pager => { j with pagerLogger := j.pagerLogger.used j.mode }

@[simp] theorem mode_keep (j : Journal) (handle : Name) (l : Option Logger) :
    (j.keep handle l).mode = j.mode := rfl

@[simp] theorem settings_keep (j : Journal) (handle : Name) (l : Option Logger) :
    (j.keep handle l).settings = j.settings := rfl

@[simp] theorem mode_use (j : Journal) (c : Channel) : (j.use c).mode = j.mode := by
  cases c with
  | handle name => cases h : j.logger? (.handle name) <;> simp [use, h]
  | _ => rfl

@[simp] theorem settings_use (j : Journal) (c : Channel) : (j.use c).settings = j.settings := by
  cases c with
  | handle name => cases h : j.logger? (.handle name) <;> simp [use, h]
  | _ => rfl

/-- A logger that is used takes over the mode in force, if there is one, and no other
logger does. -/
theorem logger?_use (j : Journal) (used c : Channel) :
    (j.use used).logger? c =
      if c = used then (j.logger? c).map fun l => l.used j.mode else j.logger? c := by
  cases used with
  | handle name =>
    cases h : j.logger? (.handle name) with
    | none =>
      simp only [use, h]
      split
      · next hc => rw [hc, h, Option.map_none]
      · rfl
    | some l =>
      simp only [use, h, logger?_keep]
      split
      · next hc => rw [hc, h, Option.map_some]
      · rfl
  | specs => cases c <;> rfl
  | pager => cases c <;> rfl

/-! ### Acts -/

/-- What may happen to a journal: it is configured, a logger is handed out, fields are
bound to one, a logger is called to log an event, or a pager reports one. -/
inductive Act where
  | configure (debug : Option Bool)
  | get (handle : String) (name : Value)
  | bind (logger : String) (fields : Entry) (handle : String)
  | log (logger : String) (call : Call)
  | report (event : Event)

namespace Act

/-- The mode that an act chooses, if it does. -/
def configured? (settings : ProjectSettings) : Act → Option Mode
  | configure debug => some (.ofDebug (debug.getD settings.debug))
  | _ => none

/-- Is a logger put in a channel? -/
def obtains (c : Channel) : Act → Bool
  | get handle _ => c = .handle handle
  | bind _ _ handle => c = .handle handle
  | _ => false

/-- Is the logger of a channel used? Fields that cannot be bound do not use it. -/
def uses (c : Channel) : Act → Bool
  | bind logger fields _ => c = .handle logger && !fields.names "self"
  | log logger _ => c = .handle logger
  | report event => c = .ofEvent event
  | _ => false

end Act

/-- The journal after an act, and the outcome. -/
def act (j : Journal) (time : String) : Act → Journal × Outcome
  | .configure debug => j.perform time (.configure debug)
  | .get handle name => j.perform time (.get (.ok (.text handle)) name)
  | .bind logger fields handle =>
    j.perform time (.bind (.text logger) (.ok fields) (.ok (.text handle)))
  | .log logger call =>
    j.perform time (.emit (.text logger) (.ok call.name) (.ok call.first) (.ok call.given))
  | .report event => ((j.log time event).1, .ofResult (j.log time event).2)

/-- The journal after several acts. -/
def follow (j : Journal) (time : String) : List Act → Journal
  | [] => j
  | a :: rest => (j.act time a).1.follow time rest

/-- The mode chosen last, if one was. -/
def latestMode (settings : ProjectSettings) (m : Option Mode) (acts : List Act) : Option Mode :=
  (acts.filterMap (Act.configured? settings)).getLast?.or m

/-- What happens once a mode is chosen. -/
def sinceChoice (settings : ProjectSettings) (m : Option Mode) (acts : List Act) : List Act :=
  if m.isSome then acts else acts.dropWhile fun a => (a.configured? settings).isNone

/-- The mode in force when the logger of a channel is first used after a choice, and the
latest one when it is not used any more. -/
def firstMode (settings : ProjectSettings) (m : Option Mode) (c : Channel) (acts : List Act) :
    Option Mode :=
  latestMode settings m ((sinceChoice settings m acts).takeWhile fun a => !a.uses c)

/-! ### What an act does -/

variable {j : Journal} {c : Channel} {l : Logger}

theorem handed_of_logger? {handle : String} (h : j.logger? (.handle handle) = some l) :
    j.handed (.text handle) = .ok (.text handle, some l) := by
  have hlookup : j.loggers.lookup (.text handle) = some (some l) := by
    simpa [logger?, Option.join_eq_some_iff] using h
  simp only [handed, Value.name?, hlookup]

/-- Where there is no proper logger none is handed out. -/
theorem handed_of_absent {handle : String} (h : j.logger? (.handle handle) = none)
    {r : Name × Option Logger} (hr : j.handed (.text handle) = .ok r) : r.2 = none := by
  simp only [handed, Value.name?] at hr
  split at hr
  · cases hr
  · next l hlookup =>
    cases hr
    simpa [logger?, hlookup] using h

/-- A call uses the logger that is asked, and what comes of it is what that logger
writes. -/
theorem act_log (time : String) {handle : String} (h : j.logger? (.handle handle) = some l)
    (call : Call) :
    j.act time (.log handle call) =
      (j.use (.handle handle),
        .ofResult (j.written l call.severity time call.event call.fields)) := by
  simp only [act, perform, handed_of_logger? h, emit, Call.ofName_name, Call.uses_manner, if_true,
    Except.bind, Except.map, use, h]
  cases call with
  | named => exact congrArg _ (asked_call ..)
  | rated => exact congrArg _ (asked_call ..)

theorem act_log_left (j : Journal) (time handle : String) (call : Call) :
    (j.act time (.log handle call)).1 = j.use (.handle handle) := by
  cases h : j.logger? (.handle handle) with
  | some l => rw [act_log time h]
  | none =>
    simp only [act, perform, use, h]
    cases hr : j.handed (.text handle) with
    | error failure => rfl
    | ok r => simp only [handed_of_absent h hr, emit]

theorem act_report_left (j : Journal) (time : String) (event : Event) :
    (j.act time (.report event)).1 = j.use (.ofEvent event) := by
  cases event <;> rfl

/-- The logger that comes from binding fields to another one under a mode, or before one is
chosen. -/
def boundTo (l : Logger) (current : Option Mode) (fields : Entry) : Logger :=
  { l.used current with isBound := true, fields := Entry.putAll fields l.fields }

/-- Binding fields uses the logger, and puts another one like it in a channel. -/
theorem act_bind_left (j : Journal) (time logger : String) (fields : Entry) (handle : String) :
    (j.act time (.bind logger fields handle)).1 = j ∧
        (fields.names "self" = true ∨ j.logger? (.handle logger) = none) ∨
      fields.names "self" = false ∧ ∃ l, j.logger? (.handle logger) = some l ∧
        (j.act time (.bind logger fields handle)).1 =
          (j.use (.handle logger)).keep (.text handle) (some (boundTo l j.mode fields)) := by
  cases h : j.logger? (.handle logger) with
  | none =>
    refine .inl ⟨?_, .inr rfl⟩
    simp only [act, perform]
    cases hr : j.handed (.text logger) with
    | error failure => rfl
    | ok r => simp only [handed_of_absent h hr, bind]
  | some l =>
    cases hself : fields.names "self" with
    | true =>
      refine .inl ⟨?_, .inl rfl⟩
      simp only [act, perform, handed_of_logger? h, bind, hself, if_true]
    | false =>
      refine .inr ⟨rfl, l, rfl, ?_⟩
      simp only [act, perform, handed_of_logger? h, bind, hself, Bool.false_eq_true, if_false,
        Except.map, Value.name?, use, h]
      rfl

theorem act_get_left (j : Journal) (time handle : String) (name : Value) :
    (j.act time (.get handle name)).1 = j.keep (.text handle) (j.newLogger name) := rfl

/-- A logger that is handed out has no mode yet, and may take one over. -/
theorem mode_of_get (time : String) {handle : String} {name : Value}
    (h : (j.act time (.get handle name)).1.logger? (.handle handle) = some l) :
    l.mode = none ∧ l.isBound = false := by
  rw [act_get_left, logger?_keep, if_pos rfl] at h
  cases name with
  | text s =>
    cases h
    exact ⟨rfl, rfl⟩
  | _ =>
    simp only [newLogger] at h
    split at h <;> cases h
    exact ⟨rfl, rfl⟩

/-- A logger that comes from binding fields has the mode that the one they were bound to
goes by. -/
theorem mode_of_bind (time : String) {logger handle : String} {fields : Entry}
    (h : j.logger? (.handle logger) = some l) (hself : fields.names "self" = false) :
    ∃ bound, (j.act time (.bind logger fields handle)).1.logger? (.handle handle) = some bound ∧
      bound.name = l.name ∧ bound.mode = l.own j.mode := by
  obtain ⟨-, hself' | hnone⟩ | ⟨-, l', hl', hleft⟩ := act_bind_left j time logger fields handle
  · cases hself.symm.trans hself'
  · cases h.symm.trans hnone
  · obtain rfl : l = l' := Option.some.inj (h.symm.trans hl')
    rw [hleft, logger?_keep, if_pos rfl]
    exact ⟨boundTo l j.mode fields, rfl, rfl, rfl⟩

theorem act_mode (j : Journal) (time : String) (a : Act) :
    (j.act time a).1.mode = (a.configured? j.settings).or j.mode := by
  cases a with
  | configure debug => rfl
  | get handle name => rfl
  | bind logger fields handle =>
    obtain ⟨hleft, -⟩ | ⟨-, bound, -, hleft⟩ := act_bind_left j time logger fields handle
    · rw [hleft]; rfl
    · rw [hleft, mode_keep, mode_use]; rfl
  | log logger call => rw [act_log_left, mode_use]; rfl
  | report event => rw [act_report_left, mode_use]; rfl

theorem act_settings (j : Journal) (time : String) (a : Act) :
    (j.act time a).1.settings = j.settings := by
  cases a with
  | configure debug => rfl
  | get handle name => rfl
  | bind logger fields handle =>
    obtain ⟨hleft, -⟩ | ⟨-, bound, -, hleft⟩ := act_bind_left j time logger fields handle
    · rw [hleft]
    · rw [hleft, settings_keep, settings_use]
  | log logger call => rw [act_log_left, settings_use]
  | report event => rw [act_report_left, settings_use]

/-- **A logger takes over the mode in force when it is used**, if there is one, and nothing
else changes it, unless another logger is put in its channel. -/
theorem act_logger? (time : String) {a : Act} (hkept : a.obtains c = false)
    (h : j.logger? c = some l) :
    (j.act time a).1.logger? c = some (if a.uses c then l.used j.mode else l) := by
  have hused : ∀ used, (j.use used).logger? c = some (if c = used then l.used j.mode else l) := by
    intro used
    rw [logger?_use, h]
    split <;> rfl
  cases a with
  | configure debug => exact h
  | get handle name =>
    have hne : c ≠ .handle handle := of_decide_eq_false hkept
    rw [act_get_left, logger?_keep, if_neg hne, h]
    rfl
  | bind logger fields handle =>
    have hne : c ≠ .handle handle := of_decide_eq_false hkept
    obtain ⟨hleft, hself | hnone⟩ | ⟨hself, bound, -, hleft⟩ :=
      act_bind_left j time logger fields handle
    · simp [hleft, h, Act.uses, hself]
    · have hother : c ≠ .handle logger := by
        rintro rfl
        cases h.symm.trans hnone
      simp [hleft, h, Act.uses, hother]
    · simp [hleft, logger?_keep, hne, hused, Act.uses, hself]
  | log logger call => simp [act_log_left, hused, Act.uses]
  | report event => simp [act_report_left, hused, Act.uses]

/-! ### What several acts do -/

theorem latestMode_cons (settings : ProjectSettings) (m : Option Mode) (a : Act)
    (rest : List Act) :
    latestMode settings m (a :: rest) =
      latestMode settings ((a.configured? settings).or m) rest := by
  unfold latestMode
  cases h : a.configured? settings with
  | none => rw [List.filterMap_cons_none h, Option.none_or]
  | some chosen =>
    rw [List.filterMap_cons_some h, List.getLast?_cons, Option.some_or, Option.some_or]
    cases (rest.filterMap (Act.configured? settings)).getLast? <;> rfl

theorem latestMode_of_none (settings : ProjectSettings) (m : Option Mode) {acts : List Act}
    (h : ∀ a ∈ acts, a.configured? settings = none) : latestMode settings m acts = m := by
  rw [latestMode, List.filterMap_eq_nil_iff.mpr h]
  rfl

theorem configured?_of_uses {a : Act} (h : a.uses c = true) (settings : ProjectSettings) :
    a.configured? settings = none := by
  cases a with
  | configure debug => cases h
  | _ => rfl

/-- Before a mode is chosen nothing counts as a first use. -/
theorem firstMode_cons (settings : ProjectSettings) (m : Option Mode) (c : Channel) (a : Act)
    (rest : List Act) :
    firstMode settings m c (a :: rest) =
      if a.uses c && m.isSome then m
      else firstMode settings ((a.configured? settings).or m) c rest := by
  unfold firstMode sinceChoice
  cases m with
  | some m =>
    simp only [Option.isSome_some, Option.isSome_or, Bool.and_true, Bool.or_true, if_true]
    cases h : a.uses c with
    | true =>
      rw [List.takeWhile_cons_of_neg (by simp [h]), if_pos rfl]
      rfl
    | false => rw [List.takeWhile_cons_of_pos (by simp [h]), latestMode_cons, if_neg (by simp)]
  | none =>
    simp only [Option.isSome_none, Option.or_none, Bool.and_false, Bool.false_eq_true, if_false]
    cases h : a.configured? settings with
    | none => rw [List.dropWhile_cons_of_pos (by simp [h])]; rfl
    | some chosen =>
      have huses : a.uses c = false := by
        by_contra huses
        rw [Bool.not_eq_false] at huses
        cases h.symm.trans (configured?_of_uses huses settings)
      rw [List.dropWhile_cons_of_neg (by simp [h]), List.takeWhile_cons_of_pos (by simp [huses]),
        latestMode_cons, h]
      rfl

theorem firstMode_of_none (settings : ProjectSettings) (m : Option Mode) {acts : List Act}
    (h : ∀ a ∈ acts, a.configured? settings = none) : firstMode settings m c acts = m := by
  induction acts generalizing m with
  | nil => cases m <;> rfl
  | cons a rest ih =>
    obtain ⟨ha, hrest⟩ := List.forall_mem_cons.mp h
    rw [firstMode_cons, ha, Option.none_or, ih m hrest, ite_self]

/-- A logger that is first used after the last choice of a mode takes over that
mode. -/
theorem firstMode_eq_latestMode (settings : ProjectSettings) (m : Option Mode)
    {before after : List Act} (hbefore : ∀ a ∈ before, a.uses c = false)
    (hafter : ∀ a ∈ after, a.configured? settings = none) :
    firstMode settings m c (before ++ after) = latestMode settings m (before ++ after) := by
  induction before generalizing m with
  | nil => rw [List.nil_append, firstMode_of_none _ _ hafter, latestMode_of_none _ _ hafter]
  | cons a rest ih =>
    obtain ⟨ha, hrest⟩ := List.forall_mem_cons.mp hbefore
    rw [List.cons_append, firstMode_cons, latestMode_cons, ha]
    exact ih _ hrest

/-- A first use after a choice is under some mode. -/
theorem isSome_firstMode (settings : ProjectSettings) (m : Option Mode) (c : Channel)
    {acts : List Act} (h : (latestMode settings m acts).isSome) :
    (firstMode settings m c acts).isSome := by
  induction acts generalizing m with
  | nil => cases m <;> exact h
  | cons a rest ih =>
    rw [firstMode_cons]
    split
    · next hfirst => exact (Bool.and_eq_true_iff.mp hfirst).2
    · rw [latestMode_cons] at h
      exact ih _ h

/-- The journal is in the mode chosen last. -/
theorem follow_mode (time : String) (acts : List Act) :
    ∀ j : Journal, (j.follow time acts).mode = latestMode j.settings j.mode acts := by
  induction acts with
  | nil => exact fun _ => rfl
  | cons a rest ih =>
    intro j
    rw [follow, ih, act_settings, act_mode, latestMode_cons]

/-- A logger stays as it was but for its mode: it goes by that of its first use after a
choice, if it did not have one before. -/
theorem follow_logger? (time : String) {acts : List Act} :
    ∀ {j : Journal} {l : Logger}, (∀ a ∈ acts, a.obtains c = false) → j.logger? c = some l →
      ∃ mode, (j.follow time acts).logger? c = some { l with mode := mode } ∧
        ({ l with mode := mode } : Logger).own (j.follow time acts).mode =
          l.own (firstMode j.settings j.mode c acts) := by
  induction acts with
  | nil =>
    intro j l _ h
    refine ⟨l.mode, h, ?_⟩
    rw [firstMode_of_none _ _ (List.forall_mem_nil _)]
    rfl
  | cons a rest ih =>
    intro j l hkept h
    have hnext := act_logger? time (hkept a List.mem_cons_self) h
    obtain ⟨mode, hlogger, hown⟩ := ih (fun b hb => hkept b (List.mem_cons_of_mem a hb)) hnext
    rw [act_settings, act_mode] at hown
    cases huses : a.uses c with
    | true =>
      rw [huses, if_pos rfl] at hlogger hown
      refine ⟨mode, hlogger, hown.trans ?_⟩
      rw [l.own_used, firstMode_cons, huses, configured?_of_uses huses, Option.none_or]
      cases j.mode <;> rfl
    | false =>
      rw [huses, if_neg Bool.false_ne_true] at hlogger hown
      refine ⟨mode, hlogger, hown.trans ?_⟩
      rw [firstMode_cons, huses, Bool.false_and, if_neg Bool.false_ne_true]

/-! ### What is logged -/

/-- An event that a logger logs. -/
structure Logged where
  channel : Channel
  severity : Severity
  event : Value
  fields : Entry

/-- The event that an act logs, if it does. -/
def Act.logged? : Act → Option Logged
  | log handle call => some ⟨.handle handle, call.severity, call.event, call.fields⟩
  | report event => some ⟨.ofEvent event, .debug, .text event.name, event.fields⟩
  | _ => none

/-- The text of an event in a layout, as a logger gives it. -/
def rendered (j : Journal) (layout : Layout) (l : Logger) (time : String) (e : Logged) :
    Except Failure String :=
  if e.fields.names "method_name" then .error .badCall
  else laidOut layout (j.entry l e.severity.name time e.event e.fields)

/-- What comes of an event that has some text, or cannot be laid out: the logger admits
it or drops it at once, and the journal then lets the text pass or not. -/
structure Governed (admitted passes : Bool) (text : Except Failure String) (o : Outcome) :
    Prop where
  shown : ∀ s, text = .ok s → o = { written := if admitted && passes then [s] else [] }
  failed : ∀ failure, text = .error failure → o = if admitted then .failed failure else {}

theorem act_logged (time : String) {a : Act} {e : Logged} (ha : a.logged? = some e)
    (h : j.logger? e.channel = some l) :
    (j.act time a).2 =
      .ofResult (j.written l e.severity time e.event e.fields) := by
  cases a with
  | log handle call =>
    cases ha
    rw [act_log time h]
  | report event =>
    cases ha
    cases event <;> cases h <;> rfl
  | _ => cases ha

theorem written_of_own {m : Mode} (h : l.own j.mode = some m) (time : String) (e : Logged) :
    j.written l e.severity time e.event e.fields =
      if m.admits e.severity then
        (j.rendered m.layout l time e).map fun text =>
          if l.passes j.mode e.severity then [text] else []
      else .ok [] := by
  simp only [written, rendered, h]
  by_cases hname : e.fields.names "method_name" = true
  · simp only [if_pos hname, Except.map]
  · simp only [if_neg hname]
    cases laidOut m.layout (j.entry l e.severity.name time e.event e.fields) <;> rfl

theorem governed_written {m : Mode} (h : l.own j.mode = some m) (time : String) (e : Logged) :
    Governed (m.admits e.severity) (l.passes j.mode e.severity) (j.rendered m.layout l time e)
      (.ofResult (j.written l e.severity time e.event e.fields)) := by
  rw [written_of_own h]
  cases m.admits e.severity with
  | false => exact ⟨fun _ _ => rfl, fun _ _ => rfl⟩
  | true =>
    refine ⟨fun s hs => ?_, fun failure hf => ?_⟩
    · rw [hs, if_pos rfl, Bool.true_and]
      rfl
    · rw [hf]
      rfl

/-- **An event is governed by the mode of its logger and by the latest one**, once a mode
has been chosen. Whatever happens to a journal, before a choice and after it, as long as
no other logger is put in the channel: the logger has the mode that was in force when it
was first used after a choice, which decides whether and how an event of it is laid out,
and the mode chosen last decides whether the text is written. Only a logger that came from
binding fields before any choice is left out. -/
theorem log_governed (j : Journal) (time : String) (h : j.logger? c = some l)
    (hbound : l.isBound = true → l.mode.isSome) {acts : List Act}
    (hkept : ∀ a ∈ acts, a.obtains c = false)
    (hchosen : (latestMode j.settings j.mode acts).isSome) {a : Act} {e : Logged}
    (ha : a.logged? = some e) (hc : e.channel = c) :
    let after := j.follow time acts
    let latest := latestMode j.settings j.mode acts
    after.mode = latest ∧
      ∃ own, l.own (firstMode j.settings j.mode c acts) = some own ∧
        Governed (own.admits e.severity) (l.passes latest e.severity)
          (after.rendered own.layout l time e) (after.act time a).2 := by
  intro after latest
  obtain ⟨mode, hlogger, hmode⟩ := follow_logger? time hkept h
  have hafter : after.mode = latest := follow_mode time acts j
  obtain ⟨own, hown⟩ := Option.isSome_iff_exists.mp
    (l.isSome_own hbound (isSome_firstMode j.settings j.mode c hchosen))
  have hwritten := governed_written (hmode.trans hown) time e
  rw [follow_mode] at hwritten
  subst hc
  rw [act_logged time ha hlogger]
  exact ⟨hafter, own, hown, hwritten⟩

/-- A logger is handed out and used before any mode is chosen. This use takes over nothing:
with debugging chosen then, an event of the least severity is written. This is a use under
a mode, and after debugging is turned off the logger still writes in columns. -/
theorem log_governed_reconfigured :
    let j := ({} : Journal).follow "now" [.get "a" (.text "m")]
    let acts : List Act := [.log "a" (.simply .info (.text "x")), .configure (some true)]
    let others : List Act := acts ++ [.log "a" (.simply .debug (.text "x")),
      .configure (some false)]
    let e : Logged := ⟨.handle "a", .debug, .text "x", []⟩
    let last : Logged := ⟨.handle "a", .warning, .text "x", []⟩
    let on := j.follow "now" acts
    let off := j.follow "now" others
    j.logger? (.handle "a") = some { name := "m" } ∧ j.mode = none ∧
      (∀ a ∈ others, a.obtains (.handle "a") = false) ∧
      on.mode = some .debugging ∧ off.mode = some .plain ∧
      (∃ text, on.rendered .console { name := "m" } "now" e = .ok text ∧
        (on.act "now" (.log "a" (.simply .debug (.text "x")))).2 = { written := [text] }) ∧
      ∃ text, off.rendered .console { name := "m" } "now" last = .ok text ∧
        (off.act "now" (.log "a" (.simply .warning (.text "x")))).2 = { written := [text] } := by
  intro j acts others e last on off
  have hl : j.logger? (.handle "a") = some { name := "m" } := rfl
  have hkept : ∀ a ∈ others, a.obtains (.handle "a") = false := by decide
  have he : (Act.log "a" (.simply .debug (.text "x"))).logged? = some e := rfl
  have hlast : (Act.log "a" (.simply .warning (.text "x"))).logged? = some last := rfl
  obtain ⟨hon, own, hown, hgoverned⟩ := log_governed j "now" hl (fun h => nomatch h)
    (fun a ha => hkept a (List.mem_append_left _ ha)) rfl he rfl
  obtain ⟨hoff, own', hown', hgoverned'⟩ :=
    log_governed j "now" hl (fun h => nomatch h) hkept rfl hlast rfl
  cases hown
  cases hown'
  exact ⟨hl, rfl, hkept, hon, hoff, ⟨_, rfl, hgoverned.shown _ rfl⟩, _, rfl,
    hgoverned'.shown _ rfl⟩

/-- A logger that was first used without debugging does not log a debug event once
debugging is turned on, although the mode chosen last admits it. -/
theorem not_governed_by_latest :
    let j := ({} : Journal).follow "now" [.configure (some false), .get "a" (.text "m"),
      .log "a" (.simply .info (.text "x")), .configure (some true)]
    let e : Logged := ⟨.handle "a", .debug, .text "x", []⟩
    j.mode = some .debugging ∧ Mode.debugging.admits .debug = true ∧
      (∃ text, j.rendered Mode.debugging.layout { name := "m" } "now" e = .ok text) ∧
      (j.act "now" (.log "a" (.simply .debug (.text "x")))).2 = {} := by
  intro j e
  exact ⟨rfl, rfl, ⟨_, rfl⟩, rfl⟩

/-! ### Events of pagers -/

/-- What pagers report at work is reported one by one, up to the first report that
fails. -/
theorem logAll_eq_follow (time : String) (events : List Event) :
    ∀ j : Journal, ∃ n, (j.logAll time events).1 =
      j.follow time ((events.take n).map .report) := by
  induction events with
  | nil => exact fun j => ⟨0, rfl⟩
  | cons event rest ih =>
    intro j
    rw [logAll]
    split
    · exact ⟨1, rfl⟩
    · obtain ⟨n, hn⟩ := ih (j.log time event).1
      exact ⟨n + 1, hn⟩

end Journal
end Folio
