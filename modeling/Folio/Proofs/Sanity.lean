/-
# Pages stay sound, and windows sane

A page whose numbers are not negative keeps such numbers whatever pagers do with
it, in any order and whatever they report (`Desk.Task.left_sound`,
`Desk.run_sound`). For such a page no task fails as long as the column map is total
and the reports can be logged: a statement is asked for at least two rows and at most
51, from the start of a batch, and the rows that are collected are the first of those
fetched, as many as the page then shows (`Journal.carryOut_sane`). Reports cannot be
logged if the offset of the page, or its number, is too long to be written
(`Desk.Task.short_events`, `Journal.not_sane_reported`).

Key definitions: `Desk.Task.Leaves`, `Desk.Task.Sane`, `Desk.Task.Short`.
Key theorems: `Window.limit_mem`, `Pager.fit_size_mem`, `Desk.Task.left_sound`,
`Desk.run_sound`, `Desk.Task.leaves_left`, `Desk.perform_sane`,
`Desk.Task.short_events`, `Journal.carryOut_sane`.
-/
import Folio.Proofs.Ordering
import Folio.Proofs.Working

namespace Folio

variable {α : Type}

/-! ### Windows of sound pages -/

theorem Window.limit_mem {page : Page} (h : page.Sound) :
    1 ≤ Window.limit (some page) ∧ Window.limit (some page) ≤ 50 :=
  ⟨one_le_limit fun q hq => (h.of_mem_some q hq).1, Int.min_le_right _ _⟩

/-- A sound page is fitted to at least one row and at most the largest size. -/
theorem Pager.fit_size_mem (p : Pager) {page : Page} (h : page.Sound) :
    1 ≤ (p.fit page).size ∧ (p.fit page).size ≤ p.maxSize.rows := by
  have hsize := h.1
  have hd := p.defaultSize.one_le_rows
  have hm := p.maxSize.one_le_rows
  simp only [fit, fitSize]
  split <;> omega

theorem Pager.batchSize_mem (p : Pager) {page : Page} (h : page.Sound) :
    1 ≤ p.batchSize (some page) ∧ p.batchSize (some page) ≤ 50 := by
  rw [← limit_fit]
  have hfit := p.fit_size_mem h
  exact Window.limit_mem ⟨by omega, h.2⟩

namespace Desk

variable {d : Desk} {ref : Option PageRef}

/-! ### Sound pages -/

/-- Every task leaves a sound page sound. -/
theorem Task.left_sound (p : Pager) (task : Task α) {page : Page} (h : page.Sound) :
    (task.left p page).Sound := by
  cases task with
  | keys defaults => exact h
  | clauses => exact h
  | narrow statement =>
    have hsize := p.fit_size_mem h
    exact ⟨by simp only [left]; omega, h.2⟩
  | collect rows =>
    have hlimit := Window.limit_mem h
    have hnumber := Window.one_le_numberFor (some page)
    simp only [left, Pager.collect_eq]
    exact ⟨by dsimp only; omega, by dsimp only; omega⟩
  | turn =>
    have hnumber := h.2
    exact ⟨h.1, by simp only [left]; omega⟩

/-- A sound page that a desk holds is still one after any tasks with any pages,
also those that fail. -/
theorem run_sound {page : Page} (h : d.Holds ref (some page)) (hpage : page.Sound)
    (steps : List (Step α)) : ∃ next, (d.run steps).Holds ref (some next) ∧ next.Sound := by
  obtain ⟨next, hheld, hsome, hsound⟩ :=
    run_of_holds (fun p task _ => Task.left_sound p task) h hpage.of_mem_some steps
  obtain ⟨next, rfl⟩ := Option.isSome_iff_exists.mp hsome
  exact ⟨next, hheld, hsound next rfl⟩

/-! ### Sane outcomes -/

/-- How a task leaves a sound page, also if it fails: narrowing fits the size, and
collecting leaves a window and tells whether there are more rows than it shows. -/
def Task.Leaves (p : Pager) (after : Page) : Task α → Prop
  | narrow _ => 1 ≤ after.size ∧ after.size ≤ p.maxSize.rows
  | collect rows => 1 ≤ after.size ∧ after.size ≤ 50 ∧ 1 ≤ after.number ∧
      (after.more = true ↔ after.size < rows.length)
  | _ => True

/-- What a task of a pager gives for a sound page that it leaves in some way. Nothing is
said of keys, as the specs that stand in for them may be of any kind. -/
def Task.Sane (after : Page) : Task α → Except Failure (Given α) → Prop
  | keys _, _ => True
  | clauses, result => ∃ texts, result = .ok (.clauses texts)
  | narrow _, result => ∃ (prepared : Pager.Prepared) (M k : Int),
      result = .ok (.prepared prepared) ∧
      prepared.statement.limit? = some (.int M) ∧ 2 ≤ M ∧ M ≤ 51 ∧
      prepared.statement.offset? = some (.int (k * (M - 1))) ∧ 0 ≤ k
  | collect rows, result => ∃ batch : List α, result = .ok (.rows batch) ∧ batch <+: rows ∧
      (batch.length : Int) = min (rows.length : Int) after.size ∧
      (after.more = true ↔ batch.length < rows.length)
  | turn, result => result = .ok .turned

theorem Task.leaves_left (p : Pager) (task : Task α) {page : Page} (h : page.Sound) :
    task.Leaves p (task.left p page) := by
  cases task with
  | narrow statement => exact p.fit_size_mem h
  | collect rows =>
    have hlimit := Window.limit_mem h
    have hnumber := Window.one_le_numberFor (some page)
    simp only [left, Pager.collect_eq]
    exact ⟨hlimit.1, hlimit.2, hnumber, by simp⟩
  | _ => trivial

theorem narrow_sane {p : Pager} (hp : p.Total) {page : Page} (h : d.Holds ref (some page))
    (hpage : page.Sound) (statement : Statement) :
    (Task.narrow statement : Task α).Sane (p.fit page)
      ((d.narrow p.configuration statement ref).2.prepared.map .prepared) := by
  obtain ⟨prepared, hok, hlimit, hoffset⟩ := Pager.narrow_ok hp statement (some page)
  have hnumber := Window.one_le_numberFor (some page)
  have hbatch := p.batchSize_mem hpage
  rw [(narrow_of_holds p h statement).2]
  refine ⟨prepared, _, Window.numberFor (some page) - 1, congrArg _ hok, hlimit, by omega,
    by omega, ?_, by omega⟩
  rw [hoffset, Int.add_sub_cancel]

theorem collect_sane {page : Page} (h : d.Holds ref (some page)) (hpage : page.Sound)
    (rows : List α) :
    (Task.collect rows).Sane (Pager.collect (some page) rows).page
      ((d.collect ref (some rows)).2.rows.map .rows) := by
  have hlimit := Window.limit_mem hpage
  rw [(collect_of_holds h rows).2, Pager.collect_eq]
  refine ⟨_, rfl, ?_, ?_, ?_⟩
  · rw [Pager.kept_eq_take (by omega)]
    exact List.take_prefix _ _
  · rw [Pager.kept_eq_take (by omega), List.length_take]
    dsimp only
    omega
  · rw [Pager.kept_eq_take (by omega), List.length_take, decide_eq_true_eq]
    omega

/-- What comes of a task with a sound page, reports aside. -/
theorem perform_sane {p : Pager} (hp : p.Total) {page : Page} (h : d.Holds ref (some page))
    (hpage : page.Sound) (task : Task α) :
    task.Sane (task.left p page) (d.perform p.configuration ref task).2.given := by
  cases task with
  | keys defaults => trivial
  | clauses =>
    obtain ⟨texts, htexts⟩ := Pager.clauses_ok hp (some page)
    refine ⟨texts, ?_⟩
    show (d.clauses p.configuration ref).2.map Given.clauses = _
    rw [clauses_of_holds p h, htexts]
    rfl
  | narrow statement => exact narrow_sane hp h hpage statement
  | collect rows => exact collect_sane h hpage rows
  | turn =>
    obtain ⟨refs, hcard, -⟩ := h
    simp only [perform, change, hcard, raised_ofPage]
    rfl

end Desk

/-! ### Reports that are short -/

namespace Pager

variable {page : Option Page}

theorem mem_prepare {statement : Statement} {limit offset : Number} {events : List Event}
    {clauses : Except Failure (List String)} {event : Event}
    (h : event ∈ (prepare statement limit offset events clauses).1) :
    event ∈ events ∨ ∃ texts, event = .queryPrepared limit offset texts := by
  unfold prepare at h
  split at h
  · exact .inl h
  · split at h
    · exact .inl h
    · rcases List.mem_append.mp h with h | h
      · exact .inl h
      · exact .inr ⟨_, List.mem_singleton.mp h⟩

theorem events_of_prepare_ok {statement : Statement} {limit offset : Number}
    {events : List Event} {clauses : Except Failure (List String)} {prepared : Prepared}
    (h : (prepare statement limit offset events clauses).2 = .ok prepared) :
    ∃ texts, (prepare statement limit offset events clauses).1 =
      events ++ [.queryPrepared limit offset texts] := by
  unfold prepare at h ⊢
  split at h
  · cases h
  · split at h
    · cases h
    · exact ⟨_, rfl⟩

theorem batchSize_mem_of_sound (p : Pager) (hpage : ∀ q ∈ page, q.Sound) :
    1 ≤ p.batchSize page ∧ p.batchSize page ≤ 50 := by
  cases page with
  | none =>
    show (1 : Int) ≤ 10 ∧ (10 : Int) ≤ 50
    decide
  | some page => exact p.batchSize_mem (hpage page rfl)

/-- What is reported of narrowing for a sound page is short, if its offset is. -/
theorem short_of_mem_narrow (p : Pager) (hpage : ∀ q ∈ page, q.Sound)
    (hoffset : Value.isShort ((Window.numberFor page - 1) * p.batchSize page) = true)
    (statement : Statement) : ∀ event ∈ (p.narrow statement page).events, event.Short := by
  intro event h
  obtain ⟨hleast, hmost⟩ := p.batchSize_mem_of_sound hpage
  rcases mem_prepare h with h | ⟨clauses, rfl⟩
  · obtain ⟨spec, -, rfl⟩ := List.mem_map.mp h
    exact Event.short_specIgnored spec
  · rw [limit_fit, offset_fit]
    exact Event.short_queryPrepared (Value.isShort_of_le (by omega) hmost) hoffset clauses

/-- What is reported of collecting for a sound page is short, if its number is. -/
theorem short_of_mem_collect {α : Type} (hpage : ∀ q ∈ page, q.Sound)
    (hnumber : Value.isShort (Window.numberFor page) = true) (rows : List α) :
    ∀ event ∈ (collect page rows).events, event.Short := by
  intro event h
  obtain ⟨hleast, hmost⟩ : 1 ≤ Window.limit page ∧ Window.limit page ≤ 50 := by
    cases page with
    | none => decide
    | some page => exact Window.limit_mem (hpage page rfl)
  have hkept : (kept page rows).length ≤ 50 := by
    rw [kept_eq_take (by omega), List.length_take]
    omega
  rw [collect_eq] at h
  obtain rfl := List.mem_singleton.mp h
  exact Event.short_resultPrepared (Value.isShort_of_le (by omega) (by omega)) hnumber _

end Pager

namespace Desk

variable {d : Desk} {ref : Option PageRef}

/-- Only texts and values that say nothing are ignored as specs. -/
theorem short_of_mem_sifted {specs : List Value} {event : Event} (h : event ∈ (sifted specs).1) :
    event.Short := by
  induction specs with
  | nil => cases h
  | cons v rest ih =>
    rw [sifted] at h
    cases hkey : keyOf? v with
    | error failure =>
      rw [hkey] at h
      cases h
    | ok key =>
      cases key with
      | some key =>
        rw [hkey] at h
        exact ih h
      | none =>
        have hv : v.isWritable = true := by
          unfold keyOf? at hkey
          split at hkey
          · rfl
          · split at hkey
            · cases hkey
            · next hset => exact Pager.isWritable_of_not_isSet (by simpa using hset)
        rw [hkey] at h
        rcases List.mem_cons.mp h with rfl | h
        · exact List.forall_mem_singleton.mpr hv
        · exact ih h

theorem short_of_mem_choice {defaults : List Value} {event : Event}
    (h : event ∈ (d.choice ref defaults).events) : event.Short := by
  unfold choice choiceByColumn at h
  repeat' split at h
  all_goals first | exact short_of_mem_sifted h | cases h

/-- The numbers that are reported of a task with a page can be written: the offset when a
statement is narrowed, and the number of the page when rows are collected. -/
def Task.Short (p : Pager) (page : Page) : Task α → Prop
  | narrow _ =>
    Value.isShort ((Window.numberFor (some page) - 1) * p.batchSize (some page)) = true
  | collect _ => Value.isShort (Window.numberFor (some page)) = true
  | _ => True

theorem Task.short_events (p : Pager) {page : Page} (h : d.Holds ref (some page))
    (hpage : page.Sound) {task : Task α} (hshort : task.Short p page) :
    ∀ event ∈ (d.perform p.configuration ref task).2.events, event.Short := by
  intro event hevent
  cases task with
  | keys defaults => exact short_of_mem_choice hevent
  | clauses => exact short_of_mem_choice hevent
  | narrow statement =>
    simp only [perform, Outcome.events, (narrow_of_holds p h statement).2] at hevent
    exact p.short_of_mem_narrow hpage.of_mem_some hshort statement event hevent
  | collect rows =>
    simp only [perform, Outcome.events, (collect_of_holds h rows).2] at hevent
    exact Pager.short_of_mem_collect hpage.of_mem_some hshort rows event hevent
  | turn => cases hevent

end Desk

namespace Journal

variable {d : Desk} {ref : Option PageRef}

/-! ### Reports that are too long -/

/-- Where nothing is ignored and nothing else fails, an offset that is too long to be
written makes narrowing fail with debugging. -/
theorem narrowing_of_long {j : Journal} {p : Pager} {page : Option Page}
    (h : d.Holds ref page) (hnone : (p.choice page).ignored = []) {statement : Statement}
    {prepared : Pager.Prepared} (hok : (p.narrow statement page).prepared = .ok prepared)
    (hlong : Value.isShort (Window.offset (page.map p.fit)) = false) (hj : j.Proper)
    (hdebugs : j.Debugs) (time : String) :
    (j.narrowing time d p.configuration statement ref).result = .error .tooManyDigits := by
  obtain ⟨clauses, hprepare⟩ := Pager.events_of_prepare_ok hok
  have hignored : (p.choice (page.map p.fit)).events = [] := by
    rw [p.choice_fit, KeyChoice.events, hnone, List.map_nil]
  have hevents : (d.narrow p.configuration statement ref).2.events =
      [.queryPrepared (.int (Window.limit (page.map p.fit)))
        (.int (Window.offset (page.map p.fit))) clauses] := by
    rw [(Desk.narrow_of_holds p h statement).2]
    refine hprepare.trans ?_
    rw [hignored, List.nil_append]
  show (j.report time _ (d.narrow p.configuration statement ref).2.events _).result = _
  rw [hevents]
  exact result_of_long hj hdebugs (Event.not_short_queryPrepared hlong) ..

/-- Debugging turned on before anything is reported, and a sound page that is far behind:
narrowing for it fails whatever the column map is, as there is no key to send through
it. -/
theorem narrowing_of_far {number : Int} (hnumber : 0 ≤ number)
    (hoffset : Value.isShort (Window.offset (some { number, size := 10 })) = false)
    (columnMap : Option ColumnMap) :
    let p : Pager := { Pager.usual with columnMap := columnMap }
    let page : Page := { number }
    let d : Desk := (({} : Desk).addPage page).1
    let on := ({} : Journal).configure (some true)
    page.Sound ∧ d.Holds (some 0) (some page) ∧ on.Debugs ∧
      (on.narrowing "now" d p.configuration (.select {}) (some 0)).result =
        .error .tooManyDigits := by
  intro p page d on
  have hd : d.Holds (some 0) (some page) := Desk.addPage_holds {} page
  have hon : on.Debugs := ⟨rfl, fun event => by cases event <;> rfl⟩
  have hok : (p.narrow (.select {}) (some page)).prepared = .ok
      { statement := .select { limit := some (10 + 1), offset := some (Window.offset
        (some { page with size := 10 })) } } := rfl
  exact ⟨⟨le_rfl, hnumber⟩, hd, hon, narrowing_of_long hd rfl hok hoffset
    ((proper_fresh {}).configure (some true)) hon "now"⟩

/-! ### Tasks under a journal -/

/-- **Sound pages stay sound, and every window is sane.** After any tasks of any pagers with
any pages, between any steps on the journal, a sound page is still sound, and the next task
with it leaves it sound and fitted, also if a report fails. If the column map is total and
the journal takes what is reported, the task succeeds: the window put on a statement has at
least one row, at most fifty and one more, and starts at a whole number of batches; the
rows collected are the first of those given, as many as the page shows, and the page tells
whether any were dropped. A journal whose context keeps no entry from being written takes
whatever is reported, as long as the offset or the number in it is short. -/
theorem carryOut_sane (j : Journal) (time : String) (d : Desk) (ref : Option PageRef)
    {page : Page} (h : d.Holds ref (some page)) (hpage : page.Sound) (earlier : List (Move α))
    {p : Pager} (hp : p.Total) (task : Desk.Task α) :
    let now := j.pursue time d earlier
    let work := now.1.carryOut time now.2 p.configuration ref task
    let reports := (now.2.perform p.configuration ref task).2.events
    ∃ before after, now.2.Holds ref (some before) ∧ before.Sound ∧
      work.desk.Holds ref (some after) ∧ after.Sound ∧ task.Leaves p after ∧
      ((∀ event ∈ reports, now.1.Takes event) → task.Sane after work.result) ∧
      (j.Proper → j.FallsBack →
        (∀ step, .log step ∈ earlier → ∀ fields ∈ step.context?,
          Entry.Ordinary fields ∧ Entry.Short fields) →
        task.Short p before → ∀ event ∈ reports, now.1.Takes event) := by
  intro now work reports
  obtain ⟨before, hbefore, hsound⟩ :
      ∃ before, now.2.Holds ref (some before) ∧ before.Sound := by
    show ∃ before, (j.pursue time d earlier).2.Holds ref (some before) ∧ before.Sound
    rw [pursue_desk]
    exact Desk.run_sound h hpage _
  refine ⟨before, task.left p before, hbefore, hsound, ?_, task.left_sound p hsound,
    task.leaves_left p hsound, fun htakes => ?_, fun hj hfalls hmoves hshort event hevent => ?_⟩
  · show (now.1.carryOut time now.2 p.configuration ref task).desk.Holds ref _
    rw [carryOut_desk]
    exact Desk.perform_of_holds p hbefore task
  · show task.Sane _ (now.1.carryOut time now.2 p.configuration ref task).result
    rw [carryOut_of_takes htakes]
    exact Desk.perform_sane hp hbefore hsound task
  · exact .inr ⟨pursue_proper hj time d hmoves,
      Desk.Task.short_events p hbefore hsound hshort event hevent,
      fun _ => pursue_fallsBack hfalls time d earlier⟩

/-- Of thirteen rows nine are collected, then debugging is turned on, and the next nine
are wanted: a pager that grants five at most narrows a statement to the second five. -/
theorem carryOut_sane_turned :
    let page : Page := { size := 9 }
    let d : Desk := (({} : Desk).addPage page).1
    let earlier : List (Move ℕ) := [.task ⟨.usual, some 0, .collect (List.range 13)⟩,
      .task ⟨.usual, some 0, .turn⟩, .log (.configure (some true))]
    let now := ({} : Journal).pursue "now" d earlier
    let work := now.1.carryOut "now" now.2 Pager.reference.configuration (some 0)
      (.narrow (.select {}) : Desk.Task ℕ)
    d.Holds (some 0) (some page) ∧ page.Sound ∧ Pager.reference.Total ∧
      now.1.mode = some .debugging ∧
      work.desk.Holds (some 0) (some { size := 5, number := 2, more := true }) ∧
      ∃ prepared, work.result = .ok (.prepared prepared) ∧
        prepared.statement.limit? = some (.int 6) ∧
        prepared.statement.offset? = some (.int 5) := by
  intro page d earlier now work
  have hd : d.Holds (some 0) (some page) := Desk.addPage_holds {} page
  have hpage : page.Sound := by decide
  obtain ⟨before, _, hbefore, -, -, -, -, hsane, htakes⟩ :=
    carryOut_sane {} "now" d (some 0) hd hpage earlier Pager.reference_total
      (.narrow (.select {}))
  have hcollected : now.2.Holds (some 0) (some { size := 9, number := 2, more := true }) := by
    have hrun := Desk.perform_of_holds .usual (Desk.perform_of_holds .usual hd
      (.collect (List.range 13))) (.turn : Desk.Task ℕ)
    show (({} : Journal).pursue "now" d earlier).2.Holds _ _
    rw [pursue_desk]
    exact hrun
  obtain rfl : before = { size := 9, number := 2, more := true } :=
    Option.some.inj (hbefore.unique hcollected)
  have hnarrowed : work.desk.Holds (some 0) (some { size := 5, number := 2, more := true }) := by
    show (now.1.carryOut "now" now.2 _ _ _).desk.Holds _ _
    rw [carryOut_desk]
    exact Desk.perform_of_holds .reference hcollected (.narrow (.select {}))
  have hmoves : ∀ step, Move.log step ∈ earlier → ∀ fields ∈ step.context?,
      Entry.Ordinary fields ∧ Entry.Short fields := by
    simp [earlier, Step.context?]
  have hshort : (Desk.Task.narrow (.select {}) : Desk.Task ℕ).Short .reference
      { size := 9, number := 2, more := true } := by
    show Value.isShort _ = true
    decide +kernel
  obtain ⟨prepared, _, _, hresult, -⟩ := hsane
    (htakes (proper_fresh {}) (fallsBack_fresh {}) hmoves hshort)
  have hmode : now.1.mode = some .debugging := rfl
  refine ⟨hd, hpage, Pager.reference_total, hmode, hnarrowed, prepared, hresult, ?_⟩
  -- the window is the one that the pager puts on a statement for the page as it was
  obtain ⟨prepared', hok, hlimit, hoffset⟩ := Pager.narrow_ok Pager.reference_total
    (.select {}) (some { size := 9, number := 2, more := true })
  have hgiven : work.result = (now.2.perform Pager.reference.configuration (some 0)
      (.narrow (.select {}) : Desk.Task ℕ)).2.given :=
    carryOut_of_takes (htakes (proper_fresh {}) (fallsBack_fresh {}) hmoves hshort) "now"
  rw [hresult] at hgiven
  simp only [Desk.perform, Desk.Outcome.given, (Desk.narrow_of_holds .reference hcollected _).2,
    hok] at hgiven
  cases hgiven
  exact ⟨hlimit, hoffset⟩

/-- A task can fail for a sound page that is far behind. -/
theorem carryOut_of_far {number : Int} (hnumber : 0 ≤ number)
    (hoffset : Value.isShort (Window.offset (some { number, size := 10 })) = false) :
    let page : Page := { number }
    let d : Desk := (({} : Desk).addPage page).1
    let on := ({} : Journal).configure (some true)
    let work := on.carryOut "now" d Pager.usual.configuration (some 0)
      (.narrow (.select {}) : Desk.Task ℕ)
    page.Sound ∧ d.Holds (some 0) (some page) ∧ Pager.usual.columnMap = none ∧
      work.result = .error .tooManyDigits := by
  intro page d on work
  obtain ⟨hpage, hd, -, hresult⟩ := narrowing_of_far hnumber hoffset none
  exact ⟨hpage, hd, rfl, congrArg (Except.map Desk.Given.prepared) hresult⟩

/-- **A task can fail.** A page may have a number that can still be written and an offset
that cannot: with debugging, narrowing for it fails, although there is no column map. -/
theorem not_sane_reported :
    let page : Page := { number := (2 * 10 ^ 4299 : Nat) }
    let d : Desk := (({} : Desk).addPage page).1
    let on := ({} : Journal).configure (some true)
    let work := on.carryOut "now" d Pager.usual.configuration (some 0)
      (.narrow (.select {}) : Desk.Task ℕ)
    page.Sound ∧ d.Holds (some 0) (some page) ∧ Pager.usual.columnMap = none ∧
      work.result = .error .tooManyDigits :=
  carryOut_of_far (Int.natCast_nonneg _) (by decide +kernel)

end Journal
end Folio
