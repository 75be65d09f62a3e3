/-
# Journals with debugging on

Two modes say what comes of a report: the one that its logger has taken over, and the one
chosen last. Logging changes neither, as a logger takes over the mode that counts for it
anyway (`Journal.Alike`, `Journal.alike_logAll`), and no step on other loggers does. So
once debugging counts for all reports it stays so until it is turned off
(`Journal.run_debugs`), and it comes to count for all as soon as it is turned on, if
nothing has been reported before (`Journal.debugs_of_configured`).

Key definitions: `Journal.own`, `Journal.Debugs`, `Journal.Alike`, `Journal.Step.chooses?`.
Key theorems: `Journal.alike_logAll`, `Journal.perform_cases`, `Journal.run_keeps`,
`Journal.run_debugs`, `Journal.run_proper`, `Journal.debugs_of_configured`.
-/
import Folio.Proofs.Writable

namespace Folio
namespace Journal

variable {j next : Journal} {event : Event} {time : String} {step : Step}

/-- The mode that the logger of an event goes by. -/
def own (j : Journal) (event : Event) : Option Mode :=
  (j.loggerOf event).own j.mode

/-- Debugging is on, and it was when the loggers of reports were first used, if they have
been. -/
structure Debugs (j : Journal) : Prop where
  mode : j.mode = some .debugging
  own : ∀ event, j.own event = some .debugging

theorem log_eq (j : Journal) (time : String) (event : Event) :
    j.log time event = (j.use (.ofEvent event),
      j.written (j.loggerOf event) .debug time (.text event.name) event.fields) := by
  cases event <;> rfl

/-! ### Journals that treat reports alike -/

/-- Two journals that treat reports alike: they have the same settings, mode, fallback and
context, and their loggers differ in nothing but modes that amount to the same. -/
structure Alike (j next : Journal) : Prop where
  settings : next.settings = j.settings
  mode : next.mode = j.mode
  fallback : next.fallback = j.fallback
  context : next.context = j.context
  loggers : ∀ event, ∃ mode, next.loggerOf event = { j.loggerOf event with mode := mode } ∧
    ({ j.loggerOf event with mode := mode } : Logger).own j.mode = j.own event

namespace Alike

theorem refl (j : Journal) : j.Alike j :=
  ⟨rfl, rfl, rfl, rfl, fun event => ⟨(j.loggerOf event).mode, rfl, rfl⟩⟩

theorem own (h : j.Alike next) (event : Event) : next.own event = j.own event := by
  obtain ⟨mode, hlogger, hown⟩ := h.loggers event
  rw [Journal.own, hlogger, h.mode]
  exact hown

theorem trans {last : Journal} (h : j.Alike next) (h' : next.Alike last) : j.Alike last := by
  refine ⟨h'.settings.trans h.settings, h'.mode.trans h.mode, h'.fallback.trans h.fallback,
    h'.context.trans h.context, ?_⟩
  intro event
  obtain ⟨mode, hlogger, -⟩ := h.loggers event
  obtain ⟨mode', hlogger', hown'⟩ := h'.loggers event
  rw [h.mode, h.own event] at hown'
  rw [hlogger] at hlogger' hown'
  exact ⟨mode', hlogger', hown'⟩

theorem reportKnown (h : j.Alike next) (event : Event) :
    next.reportKnown event = j.reportKnown event := by
  obtain ⟨mode, hlogger, -⟩ := h.loggers event
  unfold Journal.reportKnown known
  rw [hlogger, h.context]

theorem line (h : j.Alike next) (time : String) (event : Event) :
    next.line time event = j.line time event := by
  have hknown := h.reportKnown event
  obtain ⟨mode, hlogger, -⟩ := h.loggers event
  unfold Journal.reportKnown at hknown
  rw [line_eq, line_eq, reportEntry, reportEntry, entry, entry, hknown, hlogger]
  rfl

theorem proper (h : j.Alike next) (hj : j.Proper) : next.Proper := by
  have hlike : ∀ event, ∃ mode, next.loggerOf event = { j.loggerOf event with mode := mode } := by
    intro event
    obtain ⟨mode, hlogger, -⟩ := h.loggers event
    exact ⟨mode, hlogger⟩
  constructor
  · intro event
    obtain ⟨mode, hlogger⟩ := hlike event
    rw [hlogger]
    exact hj.isQuiet event
  · intro event
    obtain ⟨mode, hlogger⟩ := hlike event
    rw [hlogger]
    exact hj.isBound event
  · intro event
    obtain ⟨mode, hlogger⟩ := hlike event
    rw [hlogger]
    exact hj.fields event
  · rw [h.context]
    exact hj.ordinary
  · rw [h.context]
    exact hj.short

theorem fallsBack (h : j.Alike next) (hj : j.FallsBack) : next.FallsBack := by
  unfold FallsBack
  rw [h.fallback]
  exact hj

theorem debugs (h : j.Alike next) (hj : j.Debugs) : next.Debugs :=
  ⟨h.mode.trans hj.mode, fun event => (h.own event).trans (hj.own event)⟩

end Alike

/-- A report makes its logger take over the mode that it would have taken anyway. -/
theorem alike_log (j : Journal) (time : String) (event : Event) :
    j.Alike (j.log time event).1 := by
  -- used twice under one mode, a logger goes by what it went by when it was used once
  have hused : ∀ l : Logger, (l.used j.mode).own j.mode = l.own j.mode := by
    intro l
    rw [l.own_used, Option.or_self]
  rw [log_eq]
  refine ⟨settings_use j _, mode_use j _, ?_, ?_, ?_⟩
  · cases event <;> rfl
  · cases event <;> rfl
  · intro other
    cases event <;> cases other <;> first | exact ⟨_, rfl, rfl⟩ | exact ⟨_, rfl, hused _⟩

/-- Logging changes nothing about how later reports are treated. -/
theorem alike_logAll (time : String) (events : List Event) :
    ∀ j : Journal, j.Alike (j.logAll time events).1 := by
  induction events with
  | nil => exact fun j => .refl j
  | cons event rest ih =>
    intro j
    unfold logAll
    split
    · exact j.alike_log time event
    · exact (j.alike_log time event).trans (ih (j.log time event).1)

/-- Nor does work that is reported. -/
theorem alike_report {β : Type} (j : Journal) (time : String) (d : Desk) (events : List Event)
    (result : Except Failure β) : j.Alike (j.report time d events result).journal :=
  alike_logAll time events j

theorem alike_narrowing (j : Journal) (time : String) (d : Desk) (c : Configuration)
    (statement : Statement) (ref : Option PageRef) :
    j.Alike (j.narrowing time d c statement ref).journal :=
  alike_report ..

theorem alike_collecting {α : Type} (j : Journal) (time : String) (d : Desk)
    (ref : Option PageRef) (rows : Option (List α)) :
    j.Alike (j.collecting time d ref rows).journal :=
  j.alike_report time (d.collect ref rows).1 (d.collect ref rows).2.events _

theorem alike_paginate (j : Journal) (time : String) (d : Desk) (ref : Option PageRef)
    (rows : Except Failure Value) : j.Alike (j.paginate time d ref rows).1 := by
  have hnarrowed := j.alike_narrowing time d Pager.usual.configuration (.select {}) ref
  unfold paginate
  dsimp only
  split
  · exact hnarrowed
  · exact hnarrowed
  · exact hnarrowed.trans (alike_collecting ..)

/-! ### Steps -/

/-- The mode that a step chooses, if it does. -/
def Step.chooses? (settings : ProjectSettings) : Step → Option Mode
  | configure debug => some (.ofDebug (debug.getD settings.debug))
  | _ => none

/-- Is a pager at work in a step? -/
def Step.paginates : Step → Bool
  | paginate .. => true
  | _ => false

/-- The fields that a step puts in the context, if it does. -/
def Step.context? : Step → Option Entry
  | context (.ok fields) => some fields
  | _ => none

theorem run_cons_left (j : Journal) (time : String) (step : Step) (rest : List Step) :
    (j.run time (step :: rest)).1 = ((j.perform time step).1.run time rest).1 := rfl

theorem run_append_left (time : String) (steps others : List Step) :
    ∀ j : Journal, (j.run time (steps ++ others)).1 = ((j.run time steps).1.run time others).1 := by
  induction steps with
  | nil => exact fun _ => rfl
  | cons step rest ih => exact fun j => ih (j.perform time step).1

/-- What every step of a run keeps, the run keeps. -/
theorem run_keeps (time : String) {P : Journal → Prop} {steps : List Step}
    (hkeeps : ∀ step ∈ steps, ∀ j, P j → P (j.perform time step).1) :
    ∀ {j : Journal}, P j → P (j.run time steps).1 := by
  induction steps with
  | nil => exact fun h => h
  | cons step rest ih =>
    intro j h
    obtain ⟨hstep, hrest⟩ := List.forall_mem_cons.mp hkeeps
    exact ih hrest (hstep j h)

theorem emit_left (j : Journal) (time : String) (handle : Name) (l : Option Logger)
    (name : String) (event : Except Failure Value) (fields : Except Failure Entry) :
    ∃ loggers, (j.emit time handle l name event fields).1 = { j with loggers := loggers } := by
  unfold emit
  cases l with
  | none => exact ⟨_, rfl⟩
  | some l =>
    dsimp only
    generalize (event.bind fun event => fields.map fun fields => (event, fields)) = given
    obtain ⟨loggers, hnext⟩ : ∃ loggers,
        (if (Manner.ofName l.isBound name).uses (given.map Prod.snd) then
          j.keep handle (some (l.used j.mode)) else j) = { j with loggers := loggers } := by
      split <;> exact ⟨_, rfl⟩
    split <;> exact ⟨loggers, hnext⟩

theorem bind_left (j : Journal) (logger : Name) (l : Option Logger) (fields : Entry)
    (handle : Except Failure Value) :
    ∃ loggers, (j.bind logger l fields handle).1 = { j with loggers := loggers } := by
  unfold bind
  cases l with
  | none => exact ⟨_, rfl⟩
  | some l =>
    dsimp only
    split
    · exact ⟨_, rfl⟩
    · split <;> exact ⟨_, rfl⟩

/-- **What a step leaves.** It chooses a mode, replaces the context, lets a pager report, or
does something with loggers that were handed out. -/
theorem perform_cases (j : Journal) (time : String) (step : Step) :
    (∃ m, step.chooses? j.settings = some m ∧
        (j.perform time step).1 = { j with mode := some m }) ∨
      (∃ fields, step.context?.getD [] = fields ∧
        (j.perform time step).1 = { j with context := Entry.putAll fields [] }) ∨
      (step.paginates = true ∧ j.Alike (j.perform time step).1) ∨
      ∃ loggers, (j.perform time step).1 = { j with loggers := loggers } := by
  cases step with
  | configure debug => exact .inl ⟨_, rfl, rfl⟩
  | context fields =>
    refine .inr (.inl ?_)
    cases fields with
    | error failure => exact ⟨[], rfl, rfl⟩
    | ok fields => exact ⟨fields, rfl, rfl⟩
  | paginate source rows =>
    refine .inr (.inr (.inl ⟨rfl, ?_⟩))
    simp only [perform]
    split
    · exact .refl j
    · exact alike_paginate ..
  | rest => exact .inr (.inr (.inr ⟨_, rfl⟩))
  | get handle name =>
    refine .inr (.inr (.inr ?_))
    simp only [perform]
    split <;> exact ⟨_, rfl⟩
  | bind logger fields handle =>
    refine .inr (.inr (.inr ?_))
    simp only [perform]
    split
    · exact ⟨_, rfl⟩
    · exact ⟨_, rfl⟩
    · exact bind_left ..
  | emit logger name event fields =>
    refine .inr (.inr (.inr ?_))
    simp only [perform]
    split
    · exact ⟨_, rfl⟩
    · exact ⟨_, rfl⟩
    · exact emit_left ..

theorem perform_settings (j : Journal) (time : String) (step : Step) :
    (j.perform time step).1.settings = j.settings := by
  rcases j.perform_cases time step with ⟨m, -, h⟩ | ⟨fields, -, h⟩ | ⟨-, halike⟩ | ⟨loggers, h⟩
  · rw [h]
  · rw [h]
  · exact halike.settings
  · rw [h]

/-- Once debugging counts for all reports, it does until it is turned off. -/
theorem perform_debugs (h : j.Debugs) (hstep : step.chooses? j.settings ≠ some .plain)
    (time : String) : (j.perform time step).1.Debugs := by
  rcases j.perform_cases time step with ⟨m, hm, h'⟩ | ⟨fields, -, h'⟩ | ⟨-, halike⟩ |
    ⟨loggers, h'⟩
  · have hmode : some m = j.mode := by
      rw [hm] at hstep
      cases m with
      | debugging => exact h.mode.symm
      | plain => exact absurd rfl hstep
    rw [h', hmode]
    exact ⟨h.mode, h.own⟩
  · rw [h']
    exact ⟨h.mode, h.own⟩
  · exact halike.debugs h
  · rw [h']
    exact ⟨h.mode, h.own⟩

theorem run_debugs (time : String) {steps : List Step} (h : j.Debugs)
    (hsteps : ∀ step ∈ steps, step.chooses? j.settings ≠ some .plain) :
    (j.run time steps).1.Debugs := by
  -- what a step chooses may depend on the settings, which stay
  let P : Journal → Prop := fun next => next.Debugs ∧ next.settings = j.settings
  have hkeeps : ∀ step ∈ steps, ∀ next, P next → P (next.perform time step).1 := by
    rintro step hstep next ⟨hnext, hsettings⟩
    refine ⟨perform_debugs hnext ?_ time, (next.perform_settings time step).trans hsettings⟩
    rw [hsettings]
    exact hsteps step hstep
  have hrun : P (j.run time steps).1 := run_keeps time hkeeps ⟨h, rfl⟩
  exact hrun.1

/-- As long as no pager is at work the loggers of reports are left alone. -/
theorem perform_loggerOf (hstep : step.paginates = false) (time : String) (event : Event) :
    (j.perform time step).1.loggerOf event = j.loggerOf event := by
  rcases j.perform_cases time step with ⟨m, -, h'⟩ | ⟨fields, -, h'⟩ | ⟨hpaginates, -⟩ |
    ⟨loggers, h'⟩
  · rw [h']
    rfl
  · rw [h']
    rfl
  · cases hstep.symm.trans hpaginates
  · rw [h']
    rfl

/-- The context of a journal is replaced by fields that keep no entry from being written,
if at all. -/
theorem perform_proper (h : j.Proper)
    (hstep : ∀ fields ∈ step.context?, Entry.Ordinary fields ∧ Entry.Short fields)
    (time : String) : (j.perform time step).1.Proper := by
  rcases j.perform_cases time step with ⟨m, -, h'⟩ | ⟨fields, hfields, h'⟩ | ⟨-, halike⟩ |
    ⟨loggers, h'⟩
  · rw [h']
    exact ⟨h.isQuiet, h.isBound, h.fields, h.ordinary, h.short⟩
  · obtain ⟨hordinary, hshort⟩ : Entry.Ordinary fields ∧ Entry.Short fields := by
      subst hfields
      cases hcontext : step.context? with
      | none => exact ⟨List.forall_mem_nil _, List.forall_mem_nil _⟩
      | some fields => exact hstep fields hcontext
    rw [h']
    refine ⟨h.isQuiet, h.isBound, h.fields, ?_, ?_⟩
    · exact Entry.forall_mem_putAll (List.forall_mem_nil _) hordinary
    · exact Entry.forall_mem_putAll (List.forall_mem_nil _) hshort
  · exact halike.proper h
  · rw [h']
    exact ⟨h.isQuiet, h.isBound, h.fields, h.ordinary, h.short⟩

theorem run_proper (time : String) {steps : List Step} (h : j.Proper)
    (hsteps : ∀ step ∈ steps, ∀ fields ∈ step.context?,
      Entry.Ordinary fields ∧ Entry.Short fields) :
    (j.run time steps).1.Proper := by
  have hkeeps : ∀ step ∈ steps, ∀ next : Journal, next.Proper →
      (next.perform time step).1.Proper :=
    fun step hstep _ hnext => perform_proper hnext (hsteps step hstep) time
  exact run_keeps time hkeeps h

/-- Choosing a mode brings no entry anything. -/
theorem Proper.configure (h : j.Proper) (debug : Option Bool) : (j.configure debug).Proper :=
  ⟨h.isQuiet, h.isBound, h.fields, h.ordinary, h.short⟩

/-- A journal with its loggers as they come. -/
theorem proper_fresh (settings : ProjectSettings) : ({ settings } : Journal).Proper := by
  have hspecs : ({ name := "pagekit.pagination.schemas" } : Logger).isQuiet = false := by
    decide +kernel
  have hpager : ({ name := "pagekit.pagination.service" } : Logger).isQuiet = false := by
    decide +kernel
  refine ⟨?_, ?_, ?_, List.forall_mem_nil _, List.forall_mem_nil _⟩
  · intro event
    cases event with
    | specIgnored spec => exact hspecs
    | queryPrepared limit offset clauses => exact hpager
    | resultPrepared rows number more => exact hpager
  · intro event
    cases event <;> rfl
  · intro event
    cases event <;> rfl

/-- **Debugging that is turned on before the first report counts for all of them**, until it
is turned off. -/
theorem debugs_of_configured (settings : ProjectSettings) (time : String)
    {before after : List Step} (hbefore : ∀ step ∈ before, step.paginates = false)
    (hafter : ∀ step ∈ after, step.chooses? settings ≠ some .plain) :
    (({ settings } : Journal).run time (before ++ .configure (some true) :: after)).1.Debugs := by
  let P : Journal → Prop := fun next =>
    (∀ event, next.loggerOf event = ({ settings } : Journal).loggerOf event) ∧
      next.settings = settings
  have hkeeps : ∀ step ∈ before, ∀ next, P next → P (next.perform time step).1 := by
    rintro step hstep next ⟨hfresh, hsettings⟩
    refine ⟨fun event => ?_, (next.perform_settings time step).trans hsettings⟩
    rw [perform_loggerOf (hbefore step hstep), hfresh event]
  obtain ⟨hfresh, hsettings⟩ : P (({ settings } : Journal).run time before).1 :=
    run_keeps time hkeeps ⟨fun _ => rfl, rfl⟩
  rw [run_append_left, run_cons_left]
  generalize (({ settings } : Journal).run time before).1 = j at hfresh hsettings ⊢
  have hon : (j.configure (some true)).Debugs := by
    refine ⟨rfl, fun event => ?_⟩
    show (j.loggerOf event).own (some .debugging) = some .debugging
    rw [hfresh event]
    cases event <;> rfl
  apply run_debugs time hon
  show ∀ step ∈ after, step.chooses? j.settings ≠ some .plain
  rw [hsettings]
  exact hafter

end Journal
end Folio
