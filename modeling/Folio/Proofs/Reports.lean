/-
# What comes of reports

Neither of the two loggers that pagers report to is quiet, so two modes say what comes of
a report: the one that the logger goes by, and the one chosen last (`Journal.log_result`).
A report is taken if its logger drops it at once, or if nothing keeps it from being
written (`Journal.Takes`). Logging changes neither mode (`Journal.alike_logAll`), and so a
whole list of reports is treated like its first one: if all of them are taken, none takes
the place of what the work gives (`Journal.result_of_takes`); with debugging each is
written, one line each and in order, and without none is (`Journal.logAll_of_takes`). And
two journals that treat reports alike write the same and give the same for the same work
(`Journal.Alike.report`).

A journal takes what is reported if the numbers in it are short (`Journal.Proper.takes`),
and if they are not, work that debugging reports fails (`Journal.result_of_long`).

Key definitions: `Journal.Takes`, `Journal.Shows`.
Key theorems: `Journal.log_result`, `Journal.logAll_of_takes`, `Journal.result_of_takes`,
`Journal.Alike.report`.
-/
import Folio.Proofs.Debugging

namespace Folio
namespace Journal

variable {β : Type} {j next : Journal} {d : Desk} {event : Event} {events : List Event}
  {time : String}

/-! ### One report -/

/-- A report can be logged: its logger drops it, or nothing keeps it from being written, be
it by the journal or by what it falls back on. -/
def Takes (j : Journal) (event : Event) : Prop :=
  j.own event = some .plain ∨
    j.Proper ∧ event.Short ∧ (j.own event = none → j.FallsBack)

theorem Proper.passes (h : j.Proper) (event : Event) :
    (j.loggerOf event).passes j.mode .debug = decide (j.mode ≠ some .plain) := by
  rw [Logger.passes, h.isQuiet event, if_neg Bool.false_ne_true]
  rcases j.mode with _ | _ | _ <;> rfl

/-- The loggers of reports go by some mode once one is chosen. -/
theorem Proper.own_ne_none (h : j.Proper) (hmode : j.mode.isSome) (event : Event) :
    j.own event ≠ none := by
  have hbound : (j.loggerOf event).isBound = true → (j.loggerOf event).mode.isSome :=
    fun hbound => by cases (h.isBound event).symm.trans hbound
  exact Option.isSome_iff_ne_none.mp (Logger.isSome_own hbound hmode)

theorem Proper.takes (h : j.Proper) (hmode : j.mode.isSome) (hshort : event.Short) :
    j.Takes event :=
  .inr ⟨h, hshort, fun hown => absurd hown (h.own_ne_none hmode event)⟩

/-- **What comes of a report turns on two modes.** With the own mode of its logger debugging
the event is laid out, which may fail, and the text is written if the mode chosen last lets
it pass; without a mode of its own the logger falls back on what there is. -/
theorem log_result (j : Journal) (time : String) (event : Event) :
    (j.log time event).2 =
      match j.own event with
      | none => j.fallback Severity.debug.name time (j.reportKnown event)
      | some .debugging => (j.line time event).map fun text =>
        if (j.loggerOf event).passes j.mode .debug then [text] else []
      | some .plain => .ok [] := by
  have hlog : (j.log time event).2 =
      j.written (j.loggerOf event) .debug time (.text event.name) event.fields :=
    congrArg Prod.snd (log_eq j time event)
  cases hown : j.own event with
  | none =>
    have hlogger : (j.loggerOf event).own j.mode = none := hown
    rw [hlog, written, hlogger]
    simp only [not_names_methodName, Bool.false_eq_true, if_false]
    rfl
  | some own =>
    refine hlog.trans ((written_of_own hown time (reported event)).trans ?_)
    cases own <;> rfl

/-- A logger whose own mode is not debugging logs nothing, whatever mode is chosen. -/
theorem log_of_own_plain (h : j.own event = some .plain) (time : String) :
    (j.log time event).2 = .ok [] := by
  rw [log_result, h]

/-! ### Several reports -/

/-- The lines of some events, each as it is laid out for a console. -/
def Shows (j : Journal) (time : String) (events : List Event) (lines : List String) : Prop :=
  List.Forall₂ (fun event line => j.line time event = .ok line) events lines

theorem logAll_cons_of_ok {lines : List String} (h : (j.log time event).2 = .ok lines)
    (rest : List Event) :
    j.logAll time (event :: rest) =
      (((j.log time event).1.logAll time rest).1,
        ((j.log time event).1.logAll time rest).2.after lines) := by
  rw [logAll, h]

theorem logAll_cons_of_error {failure : Failure} (h : (j.log time event).2 = .error failure)
    (rest : List Event) :
    j.logAll time (event :: rest) = ((j.log time event).1, .failed failure) := by
  rw [logAll, h]
  rfl

/-- A report that is taken is logged. -/
theorem log_of_takes (h : j.Takes event) (time : String) :
    ∃ lines, (j.log time event).2 = .ok lines ∧ (j.mode = some .plain → lines = []) ∧
      (j.Debugs → j.Shows time [event] lines) := by
  cases hown : j.own event with
  | none =>
    obtain ⟨hj, hshort, hfallback⟩ := h.resolve_left (by simp [hown])
    obtain ⟨lines, hlines⟩ := (hfallback hown).report hj hshort Severity.debug.name time
    rw [log_result, hown]
    refine ⟨lines, hlines, fun hmode => ?_, fun hdebugs => ?_⟩
    · exact absurd hown (hj.own_ne_none (by rw [hmode]; rfl) event)
    · cases (hdebugs.own event).symm.trans hown
  | some own =>
    cases own with
    | plain =>
      refine ⟨[], log_of_own_plain hown time, fun _ => rfl, fun hdebugs => ?_⟩
      cases (hdebugs.own event).symm.trans hown
    | debugging =>
      obtain ⟨hj, hshort, -⟩ := h.resolve_left (by simp [hown])
      obtain ⟨line, hline⟩ : ∃ line, j.line time event = .ok line := by
        rcases hj.line_cases time event with ⟨-, hok⟩ | ⟨hlong, -⟩
        · exact hok
        · exact absurd hshort hlong
      rw [log_result, hown, hline, hj.passes event]
      refine ⟨_, rfl, fun hmode => ?_, fun hdebugs => ?_⟩
      · rw [hmode]
        rfl
      · rw [hdebugs.mode]
        exact .cons hline .nil

namespace Alike

theorem shows (h : j.Alike next) {lines : List String} (hlines : next.Shows time events lines) :
    j.Shows time events lines := by
  unfold Shows at hlines ⊢
  simp only [h.line] at hlines
  exact hlines

theorem takes (h : j.Alike next) (hevent : j.Takes event) : next.Takes event := by
  unfold Takes
  rw [h.own event]
  rcases hevent with hplain | ⟨hj, hshort, hfallback⟩
  · exact .inl hplain
  · exact .inr ⟨h.proper hj, hshort, fun hown => h.fallsBack (hfallback hown)⟩

end Alike

/-- **Reports that are all taken are all logged**: no line is written without debugging, and
one for each report with it. -/
theorem logAll_of_takes (time : String) {events : List Event} :
    ∀ {j : Journal}, (∀ event ∈ events, j.Takes event) →
      (j.logAll time events).2.failure = none ∧
        (j.mode = some .plain → (j.logAll time events).2.written = []) ∧
        (j.Debugs → j.Shows time events (j.logAll time events).2.written) := by
  induction events with
  | nil => exact fun _ => ⟨rfl, fun _ => rfl, fun _ => .nil⟩
  | cons event rest ih =>
    intro j htakes
    obtain ⟨hevent, hrest⟩ := List.forall_mem_cons.mp htakes
    -- after the first report the others are treated as they would have been before it
    have halike := j.alike_log time event
    obtain ⟨lines, hlog, hsilent, hshown⟩ := log_of_takes hevent time
    obtain ⟨hfailure, hsilent', hshown'⟩ := ih fun other hother =>
      halike.takes (hrest other hother)
    rw [logAll_cons_of_ok hlog]
    refine ⟨hfailure, fun hplain => ?_, fun hdebugs => ?_⟩
    · show lines ++ _ = []
      rw [hsilent hplain, hsilent' (halike.mode.trans hplain)]
      rfl
    · have hlines := halike.shows (hshown' (halike.debugs hdebugs))
      exact List.rel_append (hshown hdebugs) hlines

/-- Loggers whose own mode is not debugging log nothing, whatever mode is chosen. -/
theorem logAll_of_own_plain (time : String) {events : List Event} :
    ∀ {j : Journal}, (∀ event ∈ events, j.own event = some .plain) →
      (j.logAll time events).2 = {} := by
  induction events with
  | nil => exact fun _ => rfl
  | cons event rest ih =>
    intro j hown
    obtain ⟨hevent, hrest⟩ := List.forall_mem_cons.mp hown
    have halike := j.alike_log time event
    have hrest' : ((j.log time event).1.logAll time rest).2 = {} := by
      apply ih
      intro other hother
      rw [halike.own, hrest other hother]
    rw [logAll_cons_of_ok (log_of_own_plain hevent time), hrest']
    rfl

/-! ### Work that is reported -/

/-- No report that is taken takes the place of what the work gives. -/
theorem result_of_takes (htakes : ∀ event ∈ events, j.Takes event) (time : String) (d : Desk)
    (result : Except Failure β) : (j.report time d events result).result = result := by
  obtain ⟨hfailure, -, -⟩ := logAll_of_takes time htakes
  show (j.logAll time events).2.failure.elim result .error = result
  rw [hfailure]
  rfl

theorem narrowing_of_takes {c : Configuration} {ref : Option PageRef} {statement : Statement}
    (htakes : ∀ event ∈ (d.narrow c statement ref).2.events, j.Takes event) (time : String) :
    (j.narrowing time d c statement ref).result = (d.narrow c statement ref).2.prepared :=
  result_of_takes htakes ..

theorem collecting_of_takes {ref : Option PageRef} {rows : Option (List β)}
    (htakes : ∀ event ∈ (d.collect ref rows).2.events, j.Takes event) (time : String) :
    (j.collecting time d ref rows).result = (d.collect ref rows).2.rows :=
  result_of_takes htakes ..

/-- A report that cannot be written ends the work. -/
theorem result_of_long (hj : j.Proper) (hdebugs : j.Debugs) (hlong : ¬ event.Short)
    (time : String) (d : Desk) (rest : List Event) (result : Except Failure β) :
    (j.report time d (event :: rest) result).result = .error .tooManyDigits := by
  have hline : j.line time event = .error .tooManyDigits := by
    rcases hj.line_cases time event with ⟨hshort, -⟩ | ⟨-, hline⟩
    · exact absurd hshort hlong
    · exact hline
  have hlog : (j.log time event).2 = .error .tooManyDigits := by
    rw [log_result, hdebugs.own event, hline]
    rfl
  unfold report
  rw [logAll_cons_of_error hlog]
  rfl

/-! ### Two journals -/

namespace Alike

theorem symm (h : j.Alike next) : next.Alike j := by
  refine ⟨h.settings.symm, h.mode.symm, h.fallback.symm, h.context.symm, fun event => ?_⟩
  obtain ⟨mode, hlogger, hown⟩ := h.loggers event
  refine ⟨(j.loggerOf event).mode, ?_, ?_⟩
  · rw [hlogger]
  · rw [hlogger, h.mode, h.own event]
    rfl

/-- What comes of a report is the same in both. -/
theorem log (h : j.Alike next) (time : String) (event : Event) :
    (next.log time event).2 = (j.log time event).2 := by
  have hpasses : (next.loggerOf event).passes next.mode .debug =
      (j.loggerOf event).passes j.mode .debug := by
    obtain ⟨mode, hlogger, -⟩ := h.loggers event
    rw [hlogger, h.mode]
    rfl
  rw [log_result, log_result, h.own, h.fallback, h.reportKnown, h.line, hpasses]

theorem logAll (time : String) (events : List Event) :
    ∀ {j next : Journal}, j.Alike next → (next.logAll time events).2 = (j.logAll time events).2 := by
  induction events with
  | nil => exact fun _ => rfl
  | cons event rest ih =>
    intro j next h
    have hlog := h.log time event
    -- both treat the other reports as they would have treated them first
    have hrest := ih ((j.alike_log time event).symm.trans (h.trans (next.alike_log time event)))
    cases hresult : (j.log time event).2 with
    | error failure =>
      rw [logAll_cons_of_error hresult, logAll_cons_of_error (hlog.trans hresult)]
    | ok lines =>
      rw [logAll_cons_of_ok hresult, logAll_cons_of_ok (hlog.trans hresult), hrest]

/-- **Two journals that treat reports alike write the same and give the same for the same
work.** -/
theorem report (h : j.Alike next) (time : String) (d : Desk) (events : List Event)
    (result : Except Failure β) :
    let work := j.report time d events result
    let work' := next.report time d events result
    work'.desk = work.desk ∧ work'.written = work.written ∧ work'.result = work.result := by
  have hlogged := logAll time events h
  refine ⟨rfl, congrArg Outcome.written hlogged, ?_⟩
  show (next.logAll time events).2.failure.elim result .error =
    (j.logAll time events).2.failure.elim result .error
  rw [hlogged]

end Alike

end Journal
end Folio
