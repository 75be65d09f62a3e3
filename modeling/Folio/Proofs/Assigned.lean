/-
# Numbers that were assigned

Nobody checks the numbers that are assigned to a page, so its size and its number may
be any integers. Collecting rows takes them all: the limit of a page is never zero, the
number of the page can always be told from its offset, and the page comes out with the
window that it went in with (`Desk.window_kept`).

Narrowing takes them all too, but not all windows are of use. A number below one counts
as one and a size above the bounds as the bound, so that a page whose size is not
negative gets a window of one to fifty rows. A negative size is bounded by nothing
(`Desk.clamped_iff`). It is put on the statement as it is, and when rows are collected
as many are dropped from their end, whether they lie behind the page or not; the page
then always tells that more follow.

Key definitions: `Desk.Clamped`, `Desk.Unbounded`.
Key theorems: `Desk.assign_size_holds`, `Desk.assign_number_holds`,
`Desk.window_kept`, `Pager.batchSize_of_neg`, `Desk.clamped_iff`.
-/
import Folio.Desk.Source
import Folio.Proofs.Narrowing
import Folio.Proofs.Repetition
import Folio.Proofs.Sanity

namespace Folio

variable {α : Type}

namespace Desk

variable {d : Desk} {ref : Option PageRef}

/-! ### Assigning integers -/

/-- A page with an integer assigned to its size is still a page. -/
theorem assign_size_holds {page : Page} (h : d.Holds ref (some page)) (size : Int) :
    (d.assign ref (.size (.int size))).left.Holds ref (some { page with size := size }) := by
  obtain ⟨refs, hcard, hrefs⟩ := h
  have hnext : (d.modify ref fun _ => .ofPage { page with size := size } refs).Holds ref
      (some { page with size := size }) := holds_modify hcard hrefs rfl
  simp only [assign, change, hcard, Attempt.map]
  exact hnext

/-- So is one with an integer assigned to its number. -/
theorem assign_number_holds {page : Page} (h : d.Holds ref (some page)) (number : Int) :
    (d.assign ref (.number (.int number))).left.Holds ref
      (some { page with number := number }) := by
  obtain ⟨refs, hcard, hrefs⟩ := h
  have hnext : (d.modify ref fun _ => .ofPage { page with number := number } refs).Holds ref
      (some { page with number := number }) := holds_modify hcard hrefs rfl
  simp only [assign, change, hcard, Attempt.map]
  exact hnext

end Desk

/-! ### Windows that stay -/

namespace Window

/-- A page that has its own limit for a size keeps it: it is not zero, so that no default
takes its place, and the bound has been applied. -/
theorem limit_of_size_eq {page : Option Page} {q : Page} (h : q.size = limit page) :
    limit (some q) = limit page := by
  have hne := limit_ne_zero page
  have hle : limit page ≤ ceiling := Int.min_le_right _ _
  rw [limit, sizeFor, h, if_neg hne]
  exact Int.min_eq_left hle

theorem numberFor_of_number_eq {page : Option Page} {q : Page} (h : q.number = numberFor page) :
    numberFor (some q) = numberFor page := by
  rw [numberFor_some, h]
  exact Int.max_eq_left (one_le_numberFor page)

end Window

namespace Desk

variable {d : Desk} {ref : Option PageRef}

/-- **Collecting never fails on integers and keeps the window**, whatever integers the
size and the number of the page are, and if there is none. The limit is not zero, and
the number of the page is the one that its offset has; the page comes out with both, and
its window is still the same. -/
theorem window_kept {page : Option Page} (h : d.Holds ref page) (rows : List α) :
    let limit := Window.limit page
    let offset := Window.offset page
    let number := page.elim 1 fun q => max q.number 1
    let collected := d.collect ref (some rows)
    d.window ref = .ok (.int limit, .int offset) ∧ limit ≠ 0 ∧
      Window.number? offset limit = some number ∧
      (∃ batch, collected.2.rows = .ok batch) ∧
      collected.1.Holds ref (page.map fun q =>
        { q with size := limit, number := number, more := decide (limit < rows.length) }) ∧
      collected.1.window ref = d.window ref := by
  intro limit offset number collected
  obtain ⟨hleft, hr⟩ := collect_of_holds h rows
  have hnumber : Window.numberFor page = number := Window.numberFor_eq_elim page
  have hwindow := window_of_holds h
  rw [Pager.collect_eq] at hleft hr
  have hholds : collected.1.Holds ref (page.map fun q =>
      { q with size := limit, number := number, more := decide (limit < rows.length) }) := by
    cases page with
    | none => exact hleft
    | some q =>
      rw [hnumber] at hleft
      exact hleft
  refine ⟨hwindow, Window.limit_ne_zero page, ?_, ⟨_, congrArg Collected.rows hr⟩, hholds, ?_⟩
  · rw [← hnumber]
    exact Window.number?_offset page
  · rw [hwindow, window_of_holds hholds]
    cases page with
    | none => rfl
    | some q =>
      -- both numbers have been written back, and neither moves any more
      let settled : Page :=
        { q with size := limit, number := number, more := decide (limit < rows.length) }
      have hlimit : Window.limit (some settled) = Window.limit (some q) :=
        Window.limit_of_size_eq rfl
      have hturn : Window.numberFor (some settled) = Window.numberFor (some q) :=
        Window.numberFor_of_number_eq hnumber.symm
      show Except.ok (Number.int (Window.limit (some settled)),
        Number.int (Window.offset (some settled))) = _
      rw [Window.offset, hlimit, hturn]
      rfl

/-- Of four rows the last three are dropped on a page of size minus three, number minus
seven. The page then has number one, and its size and its window are the same. -/
theorem window_kept_negative :
    let page : Page := { size := -3, number := -7 }
    let d : Desk := (({} : Desk).addPage page).1
    let collected := d.collect (some 0) (some (List.range 4))
    d.Holds (some 0) (some page) ∧ Window.limit (some page) = -3 ∧
      collected.2.rows = .ok [0] ∧
      collected.1.Holds (some 0) (some { size := -3, number := 1, more := true }) ∧
      collected.1.window (some 0) = .ok (.int (-3), .int 0) := by
  intro page d collected
  have hd : d.Holds (some 0) (some page) := addPage_holds {} page
  obtain ⟨hwindow, -, -, -, hholds, hkept⟩ := window_kept hd (List.range 4)
  refine ⟨hd, by decide, ?_, hholds, hkept.trans hwindow⟩
  rw [(collect_of_holds hd (List.range 4)).2]
  rfl

end Desk

/-! ### Windows of use -/

namespace Pager

/-- A page whose size is not negative has a batch of one to fifty rows, whatever its
number is. -/
theorem batchSize_mem_of_size (p : Pager) {page : Page} (h : 0 ≤ page.size) :
    1 ≤ p.batchSize (some page) ∧ p.batchSize (some page) ≤ 50 := by
  -- the number of a page says nothing about its batches
  let first : Page := { page with number := 0 }
  have hfirst : first.Sound := ⟨h, le_rfl⟩
  have hmem := p.batchSize_mem hfirst
  exact hmem

/-- A negative size is the size of a batch as it is. -/
theorem batchSize_of_neg (p : Pager) {page : Page} (h : page.size < 0) :
    p.batchSize (some page) = page.size := by
  have hm := p.maxSize.one_le_rows
  simp only [batchSize]
  split <;> omega

end Pager

namespace Desk

variable {d : Desk} {ref : Option PageRef}

/-- The window of a page is of use: a statement narrowed for the page asks for two to 51
rows from some row on, and of the rows that are collected then, however many, some are
kept if there are any, and some are left out if the page tells that more follow. -/
def Clamped (d : Desk) (c : Configuration) (statement : Statement) (ref : Option PageRef) :
    Prop :=
  let narrowed := d.narrow c statement ref
  (∃ (prepared : Pager.Prepared) (M O : Int), narrowed.2.prepared = .ok prepared ∧
    prepared.statement.limit? = some (.int M) ∧ prepared.statement.offset? = some (.int O) ∧
    2 ≤ M ∧ M ≤ 51 ∧ 0 ≤ O) ∧
  ∀ (α : Type) (rows : List α),
    let collected := narrowed.1.collect ref (some rows)
    ∃ (batch : List α) (after : Page), collected.2.rows = .ok batch ∧
      collected.1.Holds ref (some after) ∧
      (after.more = true → batch.length < rows.length) ∧ (rows ≠ [] → batch ≠ [])

/-- What a negative size does: it is put on the statement as it is, so many rows are
dropped from the end of those collected, and the page tells that more follow. -/
def Unbounded (d : Desk) (c : Configuration) (statement : Statement) (ref : Option PageRef)
    (page : Page) : Prop :=
  let narrowed := d.narrow c statement ref
  (∃ prepared : Pager.Prepared, narrowed.2.prepared = .ok prepared ∧
    prepared.statement.limit? = some (.int (page.size + 1)) ∧
    prepared.statement.offset? = some (.int ((max page.number 1 - 1) * page.size))) ∧
  ∀ (α : Type) (rows : List α),
    let collected := narrowed.1.collect ref (some rows)
    ∃ after : Page,
      collected.2.rows = .ok (rows.take (rows.length - page.size.natAbs)) ∧
      collected.1.Holds ref (some after) ∧ after.more = true

/-- What is collected for a page after narrowing depends on its batch size only. -/
theorem collect_narrowed (p : Pager) {page : Page} (h : d.Holds ref (some page))
    (statement : Statement) (rows : List α) {L : Int} (hL : p.batchSize (some page) = L) :
    let collected := (d.narrow p.configuration statement ref).1.collect ref (some rows)
    collected.2.rows = .ok (if L < rows.length then Pager.leading L rows else rows) ∧
      collected.1.Holds ref (some (p.brought (decide (L < rows.length)) page)) := by
  obtain ⟨hleft, -⟩ := narrow_of_holds p h statement
  obtain ⟨hcollected, hrows⟩ := collect_of_holds hleft rows
  have hlimit : Window.limit (some (p.fit page)) = L := (p.limit_fit (some page)).trans hL
  rw [Pager.narrow_page, Option.map_some, Option.map_some, Pager.collect_fit, hL] at hcollected
  refine ⟨?_, hcollected⟩
  rw [hrows, Pager.narrow_page, Option.map_some, Pager.collect_eq, Pager.kept, hlimit]

theorem clamped_of_nonneg {p : Pager} (hp : p.Total) {page : Page} (h : d.Holds ref (some page))
    (statement : Statement) (hsize : 0 ≤ page.size) :
    d.Clamped p.configuration statement ref := by
  obtain ⟨prepared, hok, hlimit, hoffset⟩ := Pager.narrow_ok hp statement (some page)
  have hnumber := Window.one_le_numberFor (some page)
  obtain ⟨hleast, hmost⟩ := p.batchSize_mem_of_size hsize
  constructor
  · refine ⟨prepared, _, _, ?_, hlimit, hoffset, by omega, by omega, ?_⟩
    · rw [(narrow_of_holds p h statement).2, hok]
    · exact Window.start_nonneg hnumber hleast
  · intro α rows
    obtain ⟨hrows, hholds⟩ := collect_narrowed p h statement rows rfl
    refine ⟨_, _, hrows, hholds, fun hmore => ?_, fun hne => ?_⟩
    · have hlt : p.batchSize (some page) < rows.length := of_decide_eq_true hmore
      rw [if_pos hlt, Pager.leading, if_pos (by omega), List.length_take]
      omega
    · split
      · rw [Pager.leading, if_pos (by omega), ← List.length_pos_iff, List.length_take]
        have := List.length_pos_iff.mpr hne
        omega
      · exact hne

theorem unbounded_of_neg {p : Pager} (hp : p.Total) {page : Page} (h : d.Holds ref (some page))
    (statement : Statement) (hsize : page.size < 0) :
    d.Unbounded p.configuration statement ref page := by
  obtain ⟨prepared, hok, hlimit, hoffset⟩ := Pager.narrow_ok hp statement (some page)
  have hbatch := p.batchSize_of_neg hsize
  rw [hbatch] at hlimit hoffset
  rw [Window.numberFor_some] at hoffset
  constructor
  · refine ⟨prepared, ?_, hlimit, hoffset⟩
    rw [(narrow_of_holds p h statement).2, hok]
  · intro α rows
    obtain ⟨hrows, hholds⟩ := collect_narrowed p h statement rows hbatch
    have hlt : page.size < rows.length := by omega
    have hcount : (-page.size).toNat = page.size.natAbs := by omega
    refine ⟨_, ?_, hholds, decide_eq_true hlt⟩
    rw [hrows, if_pos hlt, Pager.leading, if_neg (by omega), hcount]

/-- **A window is of use exactly if the size of the page is not negative.** The number
of the page may be any integer, as one below one counts as one; and so may a size from
zero on, as it is brought within the bounds. A negative size is not. -/
theorem clamped_iff {p : Pager} (hp : p.Total) {page : Page} (h : d.Holds ref (some page))
    (statement : Statement) :
    (d.Clamped p.configuration statement ref ↔ 0 ≤ page.size) ∧
      (page.size < 0 → d.Unbounded p.configuration statement ref page) := by
  refine ⟨⟨fun hclamped => ?_, clamped_of_nonneg hp h statement⟩, unbounded_of_neg hp h statement⟩
  by_contra hneg
  obtain ⟨prepared, M, O, hok, hlimit, -, hleast, -⟩ := hclamped.1
  obtain ⟨prepared', hok', hlimit', -⟩ := (unbounded_of_neg hp h statement (by omega)).1
  obtain rfl : prepared = prepared' := Except.ok.inj (hok.symm.trans hok')
  rw [hlimit', Option.some.injEq, Number.int.injEq] at hlimit
  omega

/-- A page of nine rows gets the number minus two and a window of use; then it gets a size
of minus three and has none. -/
theorem clamped_iff_turned :
    let page : Page := { size := 9, column := "-Name" }
    let d : Desk := (({} : Desk).addPage page).1
    let turned := (d.assign (some 0) (.number (.int (-2)))).left
    let shrunk := (turned.assign (some 0) (.size (.int (-3)))).left
    Pager.reference.Total ∧ turned.Holds (some 0) (some { page with number := -2 }) ∧
      shrunk.Holds (some 0) (some { page with number := -2, size := -3 }) ∧
      turned.Clamped Pager.reference.configuration (.select {}) (some 0) ∧
      ¬ shrunk.Clamped Pager.reference.configuration (.select {}) (some 0) := by
  intro page d turned shrunk
  have hd : d.Holds (some 0) (some page) := addPage_holds {} page
  have hturned := assign_number_holds hd (-2)
  have hshrunk := assign_size_holds hturned (-3)
  refine ⟨Pager.reference_total, hturned, hshrunk, ?_, fun hclamped => ?_⟩
  · exact (clamped_iff Pager.reference_total hturned (.select {})).1.mpr (by decide)
  · have := (clamped_iff Pager.reference_total hshrunk (.select {})).1.mp hclamped
    exact absurd this (by decide)

/-- **A negative size is not clamped.** An empty page passes every check; once minus three
is assigned to its size the statement for it asks for minus two rows, and of one row that
is collected none is kept. -/
theorem not_clamped_assigned :
    let d : Desk := (({} : Desk).addPage {}).1
    let assigned := (d.assign (some 0) (.size (.int (-3)))).left
    let narrowed := assigned.narrow Pager.usual.configuration (.select {}) (some 0)
    Pager.usual.Total ∧ Page.Sound {} ∧ d.Holds (some 0) (some {}) ∧
      (∃ prepared, narrowed.2.prepared = .ok prepared ∧
        prepared.statement.limit? = some (.int (-2))) ∧
      (narrowed.1.collect (some 0) (some [()])).2.rows = .ok [] ∧
      ¬ assigned.Clamped Pager.usual.configuration (.select {}) (some 0) := by
  intro d assigned narrowed
  -- under its name the desk would be worked out for every comparison
  subst narrowed
  have htotal : Pager.usual.Total := by rintro f ⟨⟩
  have hsound : Page.Sound {} := by decide
  have hd : d.Holds (some 0) (some {}) := addPage_holds {} {}
  have hassigned : assigned.Holds (some 0) (some { size := -3 }) := assign_size_holds hd (-3)
  obtain ⟨⟨prepared, hok, hlimit, -⟩, hcollect⟩ :=
    unbounded_of_neg htotal hassigned (.select {}) (by decide)
  obtain ⟨-, hcollected, -⟩ := hcollect Unit [()]
  have hnone : [()].take ([()].length - ({ size := -3 } : Page).size.natAbs) = [] := rfl
  rw [hnone] at hcollected
  refine ⟨htotal, hsound, hd, ⟨prepared, hok, hlimit⟩, hcollected, fun hclamped => ?_⟩
  obtain ⟨batch, after, hrows, -, -, hne⟩ := hclamped.2 Unit [()]
  obtain rfl : [] = batch := Except.ok.inj (hcollected.symm.trans hrows)
  exact hne (List.cons_ne_nil () []) rfl

end Desk
end Folio
