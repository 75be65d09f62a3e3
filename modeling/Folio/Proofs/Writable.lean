/-
# Reports that can be written

An event of a pager becomes an entry with the context behind its fields. None of its
fields is lost on the way (`Journal.mem_reportEntry`), and what holds of all that is put
into the entry holds of all that is in it (`Journal.Proper.forall_mem_entry`). Two things
can keep an entry from being written: a value of a kind that does not fit its name, which
no event has, and a number that is too long. So if the context brings neither, an event is
laid out exactly if its own numbers are short (`Journal.Proper.line_cases`). The same goes
for what a journal falls back on before a mode is chosen, if it writes columns as well
(`Journal.fallsBack_fresh`).

Key definitions: `Entry.Fits`, `Entry.Ordinary`, `Entry.Short`, `Event.Short`,
`Journal.loggerOf`, `Journal.Proper`, `Journal.FallsBack`, `Journal.line`.
Key theorems: `Entry.mem_putAll`, `Entry.laid_of_ordinary`,
`Journal.Proper.forall_mem_known`, `Journal.mem_reportEntry`,
`Journal.Proper.line_cases`.
-/
import Folio.Proofs.Logging

namespace Folio

/-! ### Entries that can be written -/

theorem Value.fieldsAreWritable_iff {fields : List (String × Value)} :
    fieldsAreWritable fields = true ↔ ∀ f ∈ fields, f.2.isWritable = true := by
  induction fields with
  | nil => simp [fieldsAreWritable]
  | cons f rest ih =>
    obtain ⟨name, v⟩ := f
    rw [fieldsAreWritable, Bool.and_eq_true, ih, List.forall_mem_cons]

theorem Value.isShort_of_le {n : Int} (h : 0 ≤ n) (hmost : n ≤ 50) : isShort n = true := by
  have hlong : 50 < Nat.pow 10 mostDigits := by decide +kernel
  have hn : n.natAbs ≤ 50 := by omega
  exact decide_eq_true (Nat.lt_of_le_of_lt hn hlong)

theorem Value.areWritable_texts (texts : List String) : areWritable (texts.map .text) = true := by
  induction texts with
  | nil => rfl
  | cons text rest ih =>
    rw [List.map_cons, areWritable, ih]
    rfl

namespace Entry

variable {e fields : Entry} {name : String} {v : Value} {f : String × Value}
  {P : String × Value → Prop}

/-! What holds of all values that are put into an entry holds of all values in it. -/

theorem forall_mem_put (h : ∀ f ∈ e, P f) (hv : P (name, v)) : ∀ f ∈ e.put name v, P f := by
  induction e with
  | nil => exact List.forall_mem_singleton.mpr hv
  | cons first rest ih =>
    obtain ⟨hfirst, hrest⟩ := List.forall_mem_cons.mp h
    unfold put
    split
    · next hsame =>
      subst hsame
      exact List.forall_mem_cons.mpr ⟨hv, hrest⟩
    · exact List.forall_mem_cons.mpr ⟨hfirst, ih hrest⟩

theorem forall_mem_putNew (h : ∀ f ∈ e, P f) (hv : P (name, v)) :
    ∀ f ∈ e.putNew name v, P f := by
  unfold putNew
  split
  · exact h
  · exact List.forall_mem_append.mpr ⟨h, List.forall_mem_singleton.mpr hv⟩

theorem forall_mem_putAll (h : ∀ f ∈ e, P f) (hfields : ∀ f ∈ fields, P f) :
    ∀ f ∈ Entry.putAll fields e, P f := by
  induction fields generalizing e with
  | nil => exact h
  | cons g rest ih =>
    obtain ⟨hg, hrest⟩ := List.forall_mem_cons.mp hfields
    exact ih (forall_mem_put h hg) hrest

theorem forall_mem_place (h : ∀ f ∈ e, P f) (hfields : ∀ f ∈ fields, P f) :
    ∀ f ∈ fields.foldl (fun e f => e.putNew f.1 f.2) e, P f := by
  induction fields generalizing e with
  | nil => exact h
  | cons g rest ih =>
    obtain ⟨hg, hrest⟩ := List.forall_mem_cons.mp hfields
    exact ih (forall_mem_putNew h hg) hrest

/-! A value stays where it is when others are put under other names. -/

theorem mem_put (e : Entry) (name : String) (v : Value) : (name, v) ∈ e.put name v := by
  induction e with
  | nil => exact List.mem_singleton.mpr rfl
  | cons first rest ih =>
    unfold put
    split
    · next hsame =>
      subst hsame
      exact List.mem_cons_self
    · exact List.mem_cons_of_mem _ ih

theorem mem_put_of_ne (hf : f ∈ e) (hne : f.1 ≠ name) : f ∈ e.put name v := by
  induction e with
  | nil => cases hf
  | cons first rest ih =>
    unfold put
    rcases List.mem_cons.mp hf with rfl | hf
    · rw [if_neg hne]
      exact List.mem_cons_self
    · split
      · exact List.mem_cons_of_mem _ hf
      · exact List.mem_cons_of_mem _ (ih hf)

theorem mem_putAll_of_not_mem (hf : f ∈ e) (hname : f.1 ∉ fields.map Prod.fst) :
    f ∈ Entry.putAll fields e := by
  induction fields generalizing e with
  | nil => exact hf
  | cons g rest ih =>
    obtain ⟨hne, hrest⟩ := List.ne_and_not_mem_of_not_mem_cons hname
    exact ih (mem_put_of_ne hf hne) hrest

/-- Several values under different names are all there once they are put. -/
theorem mem_putAll (hnodup : (fields.map Prod.fst).Nodup) (hf : f ∈ fields) :
    f ∈ Entry.putAll fields e := by
  induction fields generalizing e with
  | nil => cases hf
  | cons g rest ih =>
    obtain ⟨hg, hrest⟩ := List.nodup_cons.mp hnodup
    rcases List.mem_cons.mp hf with rfl | hf
    · have hput : f ∈ e.put f.1 f.2 := mem_put e f.1 f.2
      have hkept : f ∈ Entry.putAll rest (e.put f.1 f.2) := mem_putAll_of_not_mem hput hg
      exact hkept
    · exact ih hrest hf

theorem mem_putNew (hf : f ∈ e) : f ∈ e.putNew name v := by
  unfold putNew
  split
  · exact hf
  · exact List.mem_append_left _ hf

theorem mem_place (hf : f ∈ e) : f ∈ fields.foldl (fun e f => e.putNew f.1 f.2) e := by
  induction fields generalizing e with
  | nil => exact hf
  | cons g rest ih => exact ih (mem_putNew hf)

/-! ### Names and numbers -/

/-- The names that are kept for values of some kinds. -/
def special : List String := ["_record", "stack", "exception"]

/-- The kind of a value fits its name. Under a stack and an exception it has to be a text,
and nothing at all may stand under the name for records of another kind; but null may
stand anywhere. -/
def Fits (f : String × Value) : Prop :=
  f.2 = .null ∨ f.1 ≠ "_record" ∧ (f.1 ∈ ["stack", "exception"] → ∃ s, f.2 = .text s)

theorem fits_of_not_mem (h : f.1 ∉ special) : Fits f := by
  refine .inr ⟨fun hname => h ?_, fun hname => absurd (List.mem_cons_of_mem _ hname) h⟩
  rw [hname]
  exact List.mem_cons_self

/-- Every value in the entry fits its name. -/
def Ordinary (e : Entry) : Prop :=
  ∀ f ∈ e, Fits f

/-- Every number in the entry is short enough to be written. -/
def Short (e : Entry) : Prop :=
  ∀ f ∈ e, f.2.isWritable = true

theorem Ordinary.fits (h : e.Ordinary) (hv : e.lookup name = some v) : Fits (name, v) := by
  obtain ⟨before, after, rfl, -⟩ := List.lookup_eq_some_iff.mp hv
  exact h (name, v) (List.mem_append_right _ List.mem_cons_self)

/-- What stands below the columns of an ordinary entry can be written. -/
theorem Ordinary.below (h : e.Ordinary) (hname : name ∈ ["stack", "exception"]) :
    ∃ text, Layout.below? (Layout.known? e name) = some text := by
  unfold Layout.known?
  cases hv : e.lookup name with
  | none => exact ⟨"", rfl⟩
  | some v =>
    rcases h.fits hv with hnull | ⟨-, htext⟩
    · obtain rfl : v = .null := hnull
      exact ⟨"", rfl⟩
    · obtain ⟨s, hs⟩ := htext hname
      obtain rfl : v = .text s := hs
      exact ⟨"\n" ++ s, rfl⟩

/-- An ordinary entry is laid out in columns exactly if its numbers are short. -/
theorem laid_of_ordinary (h : e.Ordinary) :
    (e.Short ∧ ∃ text, e.laid .console = .ok text) ∨
      (¬ e.Short ∧ e.laid .console = .error .tooManyDigits) := by
  obtain ⟨stack, hstack⟩ := h.below (by decide : "stack" ∈ ["stack", "exception"])
  obtain ⟨cause, hcause⟩ := h.below (by decide : "exception" ∈ ["stack", "exception"])
  unfold laid
  -- every kind fits, so that only the numbers are left to fail
  by_cases hshort : e.Short
  · have hwritable : Value.fieldsAreWritable e = true := Value.fieldsAreWritable_iff.mpr hshort
    refine .inl ⟨hshort, ?_⟩
    simp [hwritable, Layout.write, Layout.trailer?, hstack, hcause]
  · have hlong : Value.fieldsAreWritable e = false := by
      rw [← Bool.not_eq_true, Value.fieldsAreWritable_iff]
      exact hshort
    refine .inr ⟨hshort, ?_⟩
    rw [hlong]
    rfl

theorem forall_mem_dated (h : ∀ f ∈ e, P f) {level time : String}
    (hlevel : P ("level", .text level)) (htime : P ("timestamp", .text time)) :
    ∀ f ∈ e.dated level time, P f :=
  forall_mem_put (forall_mem_put h hlevel) htime

/-- What is known of an ordinary entry with short numbers is written in columns. -/
theorem Ordinary.inColumns (h : e.Ordinary) (hshort : e.Short) (level time : String) :
    ∃ lines, inColumns level time e = .ok lines := by
  have hordinary : (e.dated level time).Ordinary :=
    forall_mem_dated h (fits_of_not_mem (by decide : "level" ∉ special))
      (fits_of_not_mem (by decide : "timestamp" ∉ special))
  have hdated : (e.dated level time).Short := forall_mem_dated hshort rfl rfl
  rcases laid_of_ordinary hordinary with ⟨-, text, htext⟩ | ⟨hlong, -⟩
  · exact ⟨[text], by rw [Entry.inColumns, htext]; rfl⟩
  · exact absurd hdated hlong

theorem Ordinary.not_isForeign (h : e.Ordinary) : Journal.isForeign e = false := by
  unfold Journal.isForeign
  cases hv : e.lookup "_record" with
  | none => rfl
  | some v =>
    rcases h.fits hv with hnull | ⟨hne, -⟩
    · obtain rfl : v = .null := hnull
      rfl
    · exact absurd rfl hne

end Entry

namespace Event

variable {event : Event}

/-- Every number in the event is short enough to be written. -/
def Short (event : Event) : Prop :=
  Entry.Short event.fields

/-- The names of the fields that events have. -/
def fieldNames : List String :=
  ["spec", "limit", "offset", "order_by", "rows", "page", "more"]

theorem fieldName_mem {f : String × Value} (hf : f ∈ event.fields) : f.1 ∈ fieldNames := by
  have hnames : ∀ f ∈ event.fields, f.1 ∈ fieldNames := by
    cases event <;> simp [fields, fieldNames]
  exact hnames f hf

theorem nodup_fields (event : Event) : (event.fields.map Prod.fst).Nodup := by
  cases event <;> simp [fields]

theorem ordinary_fields (event : Event) : Entry.Ordinary event.fields := by
  have hordinary : ∀ name ∈ fieldNames, name ∉ Entry.special := by decide
  exact fun f hf => Entry.fits_of_not_mem (hordinary f.1 (fieldName_mem hf))

/-! An event of a pager is short if the whole numbers in it are. -/

theorem short_specIgnored (spec : Option String) :
    (specIgnored (KeyChoice.specValue spec)).Short := by
  intro f hf
  obtain rfl : f = ("spec", KeyChoice.specValue spec) := List.mem_singleton.mp hf
  cases spec <;> rfl

theorem short_queryPrepared {limit offset : Int} (hlimit : Value.isShort limit = true)
    (hoffset : Value.isShort offset = true) (clauses : List String) :
    (queryPrepared (.int limit) (.int offset) clauses).Short := by
  have hclauses := Value.areWritable_texts clauses
  intro f hf
  simp only [fields, List.mem_cons, List.not_mem_nil, or_false] at hf
  rcases hf with rfl | rfl | rfl
  · exact hlimit
  · exact hoffset
  · exact hclauses

theorem not_short_queryPrepared {limit : Number} {offset : Int}
    (h : Value.isShort offset = false) {clauses : List String} :
    ¬ (queryPrepared limit (.int offset) clauses).Short := by
  intro hshort
  have hwritable : Value.isShort offset = true :=
    hshort ("offset", .int offset) (List.mem_cons_of_mem _ List.mem_cons_self)
  exact Bool.false_ne_true (h.symm.trans hwritable)

theorem short_resultPrepared {rows : Nat} {number : Int} (hrows : Value.isShort rows = true)
    (hnumber : Value.isShort number = true) (more : Bool) :
    (resultPrepared rows (.int number) more).Short := by
  intro f hf
  simp only [fields, List.mem_cons, List.not_mem_nil, or_false] at hf
  rcases hf with rfl | rfl | rfl
  · exact hrows
  · exact hnumber
  · rfl

end Event

namespace Journal

variable {j : Journal} {event : Event} {time : String}

/-- Nothing but what keeps it from being laid out at all keeps an ordinary entry from being
laid out. -/
theorem laidOut_of_ordinary {e : Entry} (h : e.Ordinary) (layout : Layout) :
    laidOut layout e = e.laid layout := by
  rw [laidOut, h.not_isForeign, if_neg Bool.false_ne_true]

/-! ### Loggers of reports -/

/-- The logger that an event of a pager is given to. -/
def loggerOf (j : Journal) : Event → Logger
  | .specIgnored _ => j.specLogger
  | _ => j.pagerLogger

/-- An event of a pager, as it is logged. -/
def reported (event : Event) : Logged :=
  ⟨.ofEvent event, .debug, .text event.name, event.fields⟩

/-- The line that an event is laid out as for a console. -/
def line (j : Journal) (time : String) (event : Event) : Except Failure String :=
  j.rendered .console (j.loggerOf event) time (reported event)

/-- The loggers of reports are not quiet and were handed out, not bound, and nothing in the
context keeps an entry from being written. -/
structure Proper (j : Journal) : Prop where
  isQuiet : ∀ event, (j.loggerOf event).isQuiet = false
  isBound : ∀ event, (j.loggerOf event).isBound = false
  fields : ∀ event, (j.loggerOf event).fields = []
  ordinary : j.context.Ordinary
  short : j.context.Short

/-- The fallback writes every entry that can be written. -/
def FallsBack (j : Journal) : Prop :=
  ∀ level time, ∀ e : Entry, e.Ordinary → e.Short → ∃ lines, j.fallback level time e = .ok lines

/-! ### Entries of reports -/

/-- What is known of a report. -/
def reportKnown (j : Journal) (event : Event) : Entry :=
  j.known (j.loggerOf event) (.text event.name) event.fields

/-- The entry of a report. -/
def reportEntry (j : Journal) (time : String) (event : Event) : Entry :=
  j.entry (j.loggerOf event) Severity.debug.name time (.text event.name) event.fields

theorem not_names_methodName (event : Event) : Entry.names event.fields "method_name" = false := by
  cases event <;> rfl

theorem line_eq (j : Journal) (time : String) (event : Event) :
    j.line time event = laidOut .console (j.reportEntry time event) := by
  simp only [line, rendered, reported, not_names_methodName, Bool.false_eq_true, if_false,
    reportEntry]

/-- What holds of the fields of an event and of the context, and of its name, holds of all
that is known of it. -/
theorem Proper.forall_mem_known (h : j.Proper) {P : String × Value → Prop}
    (hfields : ∀ f ∈ event.fields, P f) (hcontext : ∀ f ∈ j.context, P f)
    (hname : P ("event", .text event.name)) : ∀ f ∈ j.reportKnown event, P f := by
  have hbound : ∀ f ∈ Entry.putAll (j.loggerOf event).fields [], P f := by
    rw [h.fields event]
    exact fun f hf => nomatch hf
  have hnamed := Entry.forall_mem_put (Entry.forall_mem_putAll hbound hfields) hname
  exact Entry.forall_mem_place hnamed hcontext

/-- What holds of the fields of an event and of the context, and of any text, holds of
all values in its entry. -/
theorem Proper.forall_mem_entry (h : j.Proper) {P : String × Value → Prop}
    (hfields : ∀ f ∈ event.fields, P f) (hcontext : ∀ f ∈ j.context, P f)
    (htexts : ∀ name ∈ ["event", "logger", "level", "timestamp"], ∀ s, P (name, .text s)) :
    ∀ f ∈ j.reportEntry time event, P f := by
  have hknown := h.forall_mem_known hfields hcontext (htexts "event" (by simp) event.name)
  have hlogger := Entry.forall_mem_put hknown
    (htexts "logger" (by simp) (j.loggerOf event).shownName)
  exact Entry.forall_mem_dated hlogger (htexts "level" (by simp) Severity.debug.name)
    (htexts "timestamp" (by simp) time)

/-- No field of an event is lost in its entry. -/
theorem mem_reportEntry (j : Journal) (time : String) {f : String × Value}
    (hf : f ∈ event.fields) : f ∈ j.reportEntry time event := by
  have hput : ∀ name ∈ Event.fieldNames,
      name ≠ "event" ∧ name ≠ "logger" ∧ name ≠ "level" ∧ name ≠ "timestamp" := by decide
  obtain ⟨hevent, hlogger, hlevel, htime⟩ := hput f.1 (Event.fieldName_mem hf)
  have hnamed : f ∈ withEvent (.text event.name)
      (Entry.putAll event.fields (Entry.putAll (j.loggerOf event).fields [])) :=
    Entry.mem_put_of_ne (Entry.mem_putAll event.nodup_fields hf) hevent
  apply Entry.mem_put_of_ne _ htime
  apply Entry.mem_put_of_ne _ hlevel
  apply Entry.mem_put_of_ne _ hlogger
  exact Entry.mem_place hnamed

theorem Proper.short_reportEntry (h : j.Proper) :
    (j.reportEntry time event).Short ↔ event.Short := by
  constructor
  · exact fun hshort f hf => hshort f (j.mem_reportEntry time hf)
  · exact fun hshort => h.forall_mem_entry hshort h.short fun _ _ _ => rfl

theorem not_mem_special : ∀ name ∈ ["event", "logger", "level", "timestamp"],
    name ∉ Entry.special := by
  decide

/-- **A report is laid out exactly if its numbers are short.** -/
theorem Proper.line_cases (h : j.Proper) (time : String) (event : Event) :
    (event.Short ∧ ∃ text, j.line time event = .ok text) ∨
      (¬ event.Short ∧ j.line time event = .error .tooManyDigits) := by
  have hordinary : (j.reportEntry time event).Ordinary :=
    h.forall_mem_entry event.ordinary_fields h.ordinary fun name hname _ =>
      Entry.fits_of_not_mem (not_mem_special name hname)
  rw [line_eq, laidOut_of_ordinary hordinary, ← h.short_reportEntry]
  exact Entry.laid_of_ordinary hordinary

/-- What is known of a report is ordinary, and its numbers are short if those of the event
are, so that a fallback that writes such entries writes it. -/
theorem FallsBack.report (h : j.FallsBack) (hj : j.Proper) (hshort : event.Short)
    (level time : String) : ∃ lines, j.fallback level time (j.reportKnown event) = .ok lines := by
  have hname : "event" ∉ Entry.special := not_mem_special "event" (by simp)
  have hordinary : (j.reportKnown event).Ordinary :=
    hj.forall_mem_known event.ordinary_fields hj.ordinary (Entry.fits_of_not_mem hname)
  exact h level time _ hordinary (hj.forall_mem_known hshort hj.short rfl)

/-- Columns fall back on nothing that could fail. -/
theorem fallsBack_fresh (settings : ProjectSettings) : ({ settings } : Journal).FallsBack :=
  fun level time _ hordinary hshort => hordinary.inColumns hshort level time

end Journal
end Folio
