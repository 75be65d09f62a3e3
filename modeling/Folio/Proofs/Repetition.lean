/-
# Doing everything again

A listing that is loaded again shows the same rows. Narrowing a statement a second
time for the same page gives what it gave the first time, and leaves the page as it
was left. So does a whole cycle, in which a statement is narrowed, the rows of its
window are fetched and these are collected: the page comes out of the first cycle
with its size, its number and its flag rewritten, and out of the second one as it
went in (`Desk.reloaded_same`).

For a pager this says that fitting a page and bringing it to its window are fixpoints
of each other (`Pager.narrow_fit`, `Pager.cycle_again`). It needs no checks: the
numbers of a page may be any, and a column map that fails fails again. It carries
over to desks since a desk on which nothing but a page was changed is told by that
page (`Desk.eq_of_changedIn`).

Key definitions: `Loaded`, `Pager.brought`, `Pager.cycle`, `Desk.cycle`.
Key theorems: `Pager.fit_fit`, `Pager.fit_brought`, `Pager.cycle_again`,
`Desk.eq_of_changedIn`, `Desk.cycle_of_holds`, `Desk.reloaded_same`.
-/
import Folio.Proofs.Changes
import Folio.Proofs.Walk

namespace Folio

variable {α : Type}

/-- What a cycle gives: the statement that was sent, and the rows kept of those
fetched for it. -/
structure Loaded (α : Type) where
  statement : Statement
  rows : List α

namespace Pager

variable {p : Pager} {page : Page} {more : Bool} {statement : Statement} {rows : List α}

/-! ### Fitting again -/

/-- A size that is given and no larger than the pager allows stays as it is. -/
theorem fit_eq_self (h : page.size ≠ 0) (hmax : page.size ≤ p.maxSize.rows) :
    p.fit page = page := by
  rw [fit, fitSize, if_neg h, Int.min_eq_left hmax]

theorem fit_fit (p : Pager) (page : Page) : p.fit (p.fit page) = p.fit page := by
  have hd := p.defaultSize.one_le_rows
  have hm := p.maxSize.one_le_rows
  apply fit_eq_self
  · simp only [fit, fitSize]
    split <;> omega
  · exact Int.min_le_right _ _

theorem map_fit_map_fit (p : Pager) (page : Option Page) :
    (page.map p.fit).map p.fit = page.map p.fit := by
  cases page with
  | none => rfl
  | some page => exact congrArg some (p.fit_fit page)

/-- Narrowing for a fitted page is narrowing for the page. -/
theorem narrow_fit (p : Pager) (statement : Statement) (page : Option Page) :
    p.narrow statement (page.map p.fit) = p.narrow statement page := by
  simp only [narrow, map_fit_map_fit]

/-! ### Pages brought to their window -/

/-- The page brought to its window, with some flag: its size is that of the batch and
its number that of the window. -/
def brought (p : Pager) (more : Bool) (page : Page) : Page :=
  { page with size := p.batchSize (some page), number := Window.numberFor (some page), more := more }

theorem batchSize_ne_zero (p : Pager) (page : Option Page) : p.batchSize page ≠ 0 := by
  rw [← limit_fit]
  exact Window.limit_ne_zero _

/-- A page that was brought to its window needs no fitting. -/
theorem fit_brought : p.fit (p.brought more page) = p.brought more page :=
  fit_eq_self (p.batchSize_ne_zero (some page)) (p.batchSize_le_maxSize page)

theorem limit_brought : Window.limit (some (p.brought more page)) = p.batchSize (some page) := by
  have h : p.batchSize (some page) ≤ Window.ceiling := Int.min_le_right _ _
  show min (if p.batchSize (some page) = 0 then _ else _) _ = _
  rw [if_neg (p.batchSize_ne_zero _)]
  exact Int.min_eq_left h

theorem batchSize_brought : p.batchSize (some (p.brought more page)) = p.batchSize (some page) := by
  rw [← limit_fit, Option.map_some, fit_brought, limit_brought]

theorem numberFor_brought :
    Window.numberFor (some (p.brought more page)) = Window.numberFor (some page) := by
  rw [Window.numberFor_some]
  exact Int.max_eq_left (Window.one_le_numberFor (some page))

/-- The statement for a page that was brought to its window is the one that the page
had before, as its batch, its number and its order are. -/
theorem prepared_brought :
    (p.narrow statement (some (p.brought more page))).prepared =
      (p.narrow statement (some page)).prepared :=
  p.prepared_congr statement batchSize_brought numberFor_brought rfl

theorem collect_fit (fetched : List α) :
    (collect (some (p.fit page)) fetched).page =
      p.brought (decide (p.batchSize (some page) < fetched.length)) page := by
  have hL : Window.limit (some (p.fit page)) = p.batchSize (some page) := p.limit_fit (some page)
  rw [collect_eq, hL]
  rfl

/-- Collecting for a page that was brought to its window is collecting for the fitted
page. -/
theorem collect_brought (fetched : List α) :
    collect (some (p.brought more page)) fetched = collect (some (p.fit page)) fetched := by
  have hL : Window.limit (some (p.fit page)) = p.batchSize (some page) := p.limit_fit (some page)
  simp only [collect_eq, kept, limit_brought, numberFor_brought, hL]
  rfl

/-! ### Cycles -/

/-- A cycle: a statement is narrowed for a page, the rows in the window of the
statement are fetched, and they are collected for the page. It gives the page that
is left, none in place of an absent one, and what was loaded. -/
def cycle (p : Pager) (statement : Statement) (rows : List α) (page : Option Page) :
    Option Page × Except Failure (Loaded α) :=
  let narrowed := p.narrow statement page
  match narrowed.prepared with
  | .error failure => (narrowed.page, .error failure)
  | .ok prepared =>
    let collected := collect narrowed.page (prepared.statement.fetch rows)
    (page.map fun _ => collected.page, collected.rows.map (⟨prepared.statement, ·⟩))

theorem cycle_fit (page : Option Page) :
    p.cycle statement rows (page.map p.fit) = p.cycle statement rows page := by
  simp only [cycle, narrow_fit, Option.map_map]
  rfl

theorem cycle_brought {prepared : Prepared}
    (h : (p.narrow statement (some page)).prepared = .ok prepared) :
    p.cycle statement rows (some (p.brought more page)) = p.cycle statement rows (some page) := by
  simp only [cycle, prepared_brought, h, narrow_page, Option.map_some, fit_brought,
    collect_brought]

/-- **A second cycle does what the first one did**, and leaves the page as the first
one left it. -/
theorem cycle_again (p : Pager) (statement : Statement) (rows : List α) (page : Option Page) :
    p.cycle statement rows (p.cycle statement rows page).1 = p.cycle statement rows page := by
  cases h : (p.narrow statement page).prepared with
  | error failure =>
    have hleft : (p.cycle statement rows page).1 = page.map p.fit := by
      simp only [cycle, h, narrow_page]
    rw [hleft, cycle_fit]
  | ok prepared =>
    have hleft : (p.cycle statement rows page).1 = page.map fun _ =>
        (collect (page.map p.fit) (prepared.statement.fetch rows)).page := by
      simp only [cycle, h, narrow_page]
    rw [hleft]
    cases page with
    | none => rfl
    | some page => rw [Option.map_some, Option.map_some, collect_fit, cycle_brought h]

/-- A cycle of a pager whose column map is total shows the batch with the number of
the page, and leaves the page with the window that was used. -/
theorem cycle_ok (hp : p.Total) (statement : Statement) (rows : List α) {page : Option Page}
    (hpage : ∀ q ∈ page, q.Sound) {L n : Int} (hL : p.batchSize page = L)
    (hn : Window.numberFor page = n) :
    ∃ prepared, (p.narrow statement page).prepared = .ok prepared ∧
      p.cycle statement rows page =
        (page.map fun q => { q with size := L, number := n, more := decide (n * L < rows.length) },
          .ok ⟨prepared.statement, Window.slice ((n - 1) * L) (n * L) rows⟩) := by
  obtain ⟨prepared, hok, hf⟩ := narrow_fetch hp statement hL hn rows
  refine ⟨prepared, hok, ?_⟩
  simp only [cycle, hok, narrow_page, hf, collect_fetched p hpage hL hn rows]
  cases page <;> rfl

end Pager

namespace Desk

variable {d : Desk} {ref : Option PageRef}

/-! ### Desks that stay as they are -/

/-- A desk on which nothing but a page was changed, and not what the page holds in
the place of its keys, is the same desk if it still holds the same page. -/
theorem eq_of_changedIn {fields : List String} {d' : Desk} {page : Option Page}
    (h : d.ChangedIn fields ref d') (hkeys : "order" ∉ fields) (hd : d.Holds ref page)
    (hd' : d'.Holds ref page) : d' = d := by
  have hself : d'.card? ref = d.card? ref := by
    cases page with
    | none => exact (h.absent hd).trans (Eq.symm hd)
    | some page =>
      obtain ⟨refs, hcard, -⟩ := hd
      obtain ⟨refs', hcard', -⟩ := hd'
      obtain ⟨next, hnext, hchanged⟩ := h.card _ hcard
      obtain rfl : Card.ofPage page refs' = next := Option.some.inj (hcard'.symm.trans hnext)
      have hsame : some (Keys.ofRefs refs') = some (Keys.ofRefs refs) := hchanged.keys hkeys
      rw [hcard', hcard, Card.ofPage, hsame]
      rfl
  have hcards : d'.cards = d.cards := by
    apply Array.ext_getElem?
    intro r
    show d'.card? (some r) = d.card? (some r)
    by_cases hr : some r = ref
    · rw [hr, hself]
    · exact h.others _ hr
  have hslips := h.slips
  cases d
  cases d'
  simp only at hcards hslips
  rw [hcards, hslips]

/-! ### Cycles on a desk -/

/-- A cycle with a page on the desk. -/
def cycle (d : Desk) (c : Configuration) (statement : Statement) (rows : List α)
    (ref : Option PageRef) : Desk × Except Failure (Loaded α) :=
  let narrowed := d.narrow c statement ref
  match narrowed.2.prepared with
  | .error failure => (narrowed.1, .error failure)
  | .ok prepared =>
    let collected := narrowed.1.collect ref (some (prepared.statement.fetch rows))
    (collected.1, collected.2.rows.map (⟨prepared.statement, ·⟩))

/-- A cycle changes the size, the number and the flag of its page only, also when it
fails. -/
theorem cycle_changedIn (d : Desk) (c : Configuration) (statement : Statement) (rows : List α)
    (ref : Option PageRef) :
    d.ChangedIn ["size", "page", "more"] ref (d.cycle c statement rows ref).1 := by
  have hnarrow : d.ChangedIn ["size", "page", "more"] ref (d.narrow c statement ref).1 :=
    (narrow_changedIn d c statement ref).mono (by simp)
  unfold cycle
  dsimp only
  split
  · exact hnarrow
  · exact hnarrow.trans (collect_changedIn _ ref _)

/-- **A cycle does with a page that a desk holds what the pager does with the
page.** -/
theorem cycle_of_holds (p : Pager) {page : Option Page} (h : d.Holds ref page)
    (statement : Statement) (rows : List α) :
    (d.cycle p.configuration statement rows ref).1.Holds ref (p.cycle statement rows page).1 ∧
      (d.cycle p.configuration statement rows ref).2 = (p.cycle statement rows page).2 := by
  obtain ⟨hleft, hr⟩ := narrow_of_holds p h statement
  simp only [cycle, Pager.cycle, hr]
  cases (p.narrow statement page).prepared with
  | error failure => exact ⟨hleft, rfl⟩
  | ok prepared =>
    obtain ⟨hcollected, hrows⟩ := collect_of_holds hleft (prepared.statement.fetch rows)
    rw [Pager.narrow_page, Option.map_map] at hcollected
    exact ⟨hcollected, by simp only [hrows]⟩

/-! ### The second time -/

/-- **Narrowing again changes nothing**: the desk stays as the first time left it,
and the same is reported and given. -/
theorem narrow_again (p : Pager) {page : Option Page} (h : d.Holds ref page)
    (statement : Statement) :
    let r := d.narrow p.configuration statement ref
    r.1.narrow p.configuration statement ref = r := by
  obtain ⟨hleft, hr⟩ := narrow_of_holds p h statement
  rw [Pager.narrow_page] at hleft
  obtain ⟨hagain, hr'⟩ := narrow_of_holds p hleft statement
  rw [Pager.narrow_fit] at hagain hr'
  exact Prod.ext (eq_of_changedIn (narrow_changedIn _ _ _ _) (by simp) hleft hagain)
    (hr'.trans hr.symm)

/-- A second cycle leaves the desk as the first one did, and shows the same. -/
theorem cycle_again (p : Pager) {page : Option Page} (h : d.Holds ref page)
    (statement : Statement) (rows : List α) :
    let r := d.cycle p.configuration statement rows ref
    r.1.cycle p.configuration statement rows ref = r := by
  obtain ⟨hleft, hr⟩ := cycle_of_holds p h statement rows
  obtain ⟨hagain, hr'⟩ := cycle_of_holds p hleft statement rows
  rw [Pager.cycle_again] at hagain hr'
  exact Prod.ext (eq_of_changedIn (cycle_changedIn _ _ _ _ _) (by simp) hleft hagain)
    (hr'.trans hr.symm)

/-- **A listing that is loaded again is the same.** Whatever the pager, the page and
the statement: narrowing again, with the page as narrowing left it, gives the same
statement and changes nothing on the desk; and a whole cycle again, with the page as
the first cycle left it, gives the same statement and the same rows and changes
nothing on the desk. If the column map is total and the page sound neither fails,
and the cycle shows the batch with the number of the page. Reports are left out: one that
cannot be logged would end either. -/
theorem reloaded_same (p : Pager) {page : Option Page} (h : d.Holds ref page)
    (statement : Statement) (rows : List α) :
    let narrowed := d.narrow p.configuration statement ref
    let cycled := d.cycle p.configuration statement rows ref
    narrowed.1.narrow p.configuration statement ref = narrowed ∧
    cycled.1.cycle p.configuration statement rows ref = cycled ∧
    (p.Total → (∀ q ∈ page, q.Sound) →
      let L := p.batchSize page
      let n := Window.numberFor page
      narrowed.1.Holds ref (page.map p.fit) ∧
      cycled.1.Holds ref (page.map fun q =>
        { q with size := L, number := n, more := decide (n * L < rows.length) }) ∧
      ∃ prepared, narrowed.2.prepared = .ok prepared ∧
        cycled.2 = .ok ⟨prepared.statement, Window.slice ((n - 1) * L) (n * L) rows⟩) := by
  intro narrowed cycled
  refine ⟨narrow_again p h statement, cycle_again p h statement rows, fun hp hpage => ?_⟩
  obtain ⟨hnarrowed, hn⟩ := narrow_of_holds p h statement
  obtain ⟨hcycled, hc⟩ := cycle_of_holds p h statement rows
  obtain ⟨prepared, hok, hcycle⟩ := Pager.cycle_ok hp statement rows hpage rfl rfl
  rw [hcycle] at hcycled hc
  refine ⟨hnarrowed, hcycled, prepared, ?_, hc⟩
  show (d.narrow p.configuration statement ref).2.prepared = _
  rw [hn, hok]

/-- The second page of thirteen rows, nine a batch wanted and five granted: it shows
the same five rows each time. -/
theorem reloaded_same_second :
    let page : Page := { size := 9, number := 2, column := "-Name" }
    let d : Desk := (({} : Desk).addPage page).1
    let c := Pager.reference.configuration
    let narrowed := d.narrow c (.select {}) (some 0)
    let cycled := d.cycle c (.select {}) (List.range 13) (some 0)
    d.Holds (some 0) (some page) ∧ Pager.reference.Total ∧ (∀ q ∈ some page, q.Sound) ∧
      narrowed.1.narrow c (.select {}) (some 0) = narrowed ∧
      cycled.1.cycle c (.select {}) (List.range 13) (some 0) = cycled ∧
      cycled.1.Holds (some 0) (some { page with size := 5, more := true }) ∧
      ∃ sent, cycled.2 = .ok ⟨sent, [5, 6, 7, 8, 9]⟩ := by
  intro page d c narrowed cycled
  have hd : d.Holds (some 0) (some page) := addPage_holds {} page
  have hsound : ∀ q ∈ some page, q.Sound := Page.Sound.of_mem_some (by decide)
  obtain ⟨hnarrow, hcycle, hshown⟩ :=
    reloaded_same Pager.reference hd (.select {}) (List.range 13)
  obtain ⟨-, hleft, prepared, -, hrows⟩ := hshown Pager.reference_total hsound
  exact ⟨hd, Pager.reference_total, hsound, hnarrow, hcycle, hleft, prepared.statement, hrows⟩

end Desk
end Folio
