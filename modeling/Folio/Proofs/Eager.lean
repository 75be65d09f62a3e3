/-
# Defaults now or later

A page may get its size and its number when it is made, ten and one in place of zeros, or
keep the zeros until a pager has to know better. The two pages may differ in both numbers, but
nobody can tell them apart by their windows, by what they are sorted by, or by the rows
that are collected for them; collecting rows leaves the same page of both
(`Page.Agrees`, `Page.filled_agrees`).

A pager can tell them apart as it fits them, because a zero gets the default size of the
pager then. The statements are the same ones exactly if a size was given, or if ten and
the default size come to the same under the largest size (`Pager.prepared_agrees_iff`,
`Pager.batchSize_filled_iff`).

Key definitions: `Page.Agrees`, `Page.filled`, `Desk.keysFor`, `Desk.CollectAlike`.
Key theorems: `Page.Agrees.collect`, `Page.filled_agrees`, `Page.eager_eq`,
`Page.read_sizeNumberKeys`, `Pager.prepared_agrees_iff`, `Pager.batchSize_filled_iff`,
`Desk.keysFor_agrees`, `Desk.collectAlike_agrees`, `Desk.eager_agrees`.
-/
import Folio.Proofs.Narrowing
import Folio.Proofs.RoundTrip

namespace Folio

/-! ### Pages that agree -/

/-- Two pages with the same window and the same order. Their sizes and numbers may be other
ones, as long as defaults make up for it. -/
structure Page.Agrees (a b : Page) : Prop where
  limit : Window.limit (some a) = Window.limit (some b)
  number : Window.numberFor (some a) = Window.numberFor (some b)
  column : a.column = b.column
  keys : a.keys = b.keys

namespace Page.Agrees

variable {α : Type} {a b : Page}

theorem offset (h : a.Agrees b) : Window.offset (some a) = Window.offset (some b) := by
  rw [Window.offset, Window.offset, h.limit, h.number]

/-- **Collecting rows does not tell pages apart that agree**, and leaves the same page of
both. -/
theorem collect (h : a.Agrees b) (rows : List α) :
    Pager.collect (some a) rows = Pager.collect (some b) rows := by
  simp only [Pager.collect_eq, Pager.kept, h.limit, h.number, Option.getD_some, h.column, h.keys]

/-- Pages that agree still do so when they are fitted, if they get batches of one size. -/
theorem fit (h : a.Agrees b) {p : Pager} (hsize : p.batchSize (some a) = p.batchSize (some b)) :
    (p.fit a).Agrees (p.fit b) where
  limit := (p.limit_fit (some a)).trans (hsize.trans (p.limit_fit (some b)).symm)
  number := (p.numberFor_fit (some a)).trans (h.number.trans (p.numberFor_fit (some b)).symm)
  column := h.column
  keys := h.keys

theorem choice (h : a.Agrees b) (p : Pager) : p.choice (some a) = p.choice (some b) := by
  simp only [Pager.choice, KeyChoice.ofPage, KeyChoice.specsFor, h.keys, h.column]

end Page.Agrees

/-! ### Two ways to make a page -/

namespace Page

/-- The page with the eager defaults in place of zeros. -/
def filled (page : Page) : Page :=
  { page with
    size := if page.size = 0 then eagerSize else page.size
    number := if page.number = 0 then eagerNumber else page.number }

theorem filled_agrees (page : Page) : page.filled.Agrees page where
  limit := by
    by_cases h : page.size = 0
    · simp [Window.limit, Window.sizeFor, filled, h, eagerSize, Window.usualLimit]
    · simp [Window.limit, Window.sizeFor, filled, h]
  number := by
    by_cases h : page.number = 0
    · simp [Window.numberFor, filled, h, eagerNumber]
    · simp [Window.numberFor, filled, h]
  column := rfl
  keys := rfl

variable {size number : Int}

theorem readAtLeast_orDefault {default n : Int} (hdefault : 0 ≤ default) (hn : 0 ≤ n) :
    Value.readAtLeast 0 (orDefault default (.int n)) = .ok (if n = 0 then default else n) := by
  by_cases h : n = 0
  · subst h
    exact Value.readAtLeast_eq_ok_iff.mpr ⟨rfl, hdefault⟩
  · have hvalue : orDefault default (.int n) = .int n := by simp [orDefault, Value.isZero, h]
    rw [hvalue, if_neg h]
    exact Value.readAtLeast_eq_ok_iff.mpr ⟨rfl, hn⟩

/-- A page with eager defaults is the page that keeps the zeros, filled. -/
theorem eager_eq (hsize : 0 ≤ size) (hnumber : 0 ≤ number) (keys : List SortKey) :
    eager (.int size) (.int number) keys =
      .ok (filled { size := size, number := number, keys := keys }) := by
  have hsizes : 0 ≤ eagerSize := by decide
  have hnumbers : 0 ≤ eagerNumber := by decide
  refine gather_eq_ok_iff.mpr ⟨?_, ?_, rfl, rfl, rfl⟩
  · exact Checked.under_eq_ok_iff.mpr (readAtLeast_orDefault hsizes hsize)
  · exact Checked.under_eq_ok_iff.mpr (readAtLeast_orDefault hnumbers hnumber)

/-- A page that is read from a size, a number and keys keeps the zeros. -/
theorem read_sizeNumberKeys (hsize : 0 ≤ size) (hnumber : 0 ≤ number) (field : KeysField)
    (keys : List SortKey) :
    read (.record [("size", .int size), ("page", .int number),
        (field.name, .list (keys.map SortKey.dump))]) =
      .ok { size := size, number := number, keys := keys } := by
  have hkeys : Value.readList SortKey.read (.list (keys.map SortKey.dump)) = .ok keys :=
    Checked.each_map fun k _ => k.read_dump
  cases field with
  | sort | order =>
    exact gather_eq_ok_iff.mpr ⟨Value.readField_int rfl hsize 0, Value.readField_int rfl hnumber 0,
      rfl, rfl, Checked.under_eq_ok_iff.mpr hkeys⟩

end Page

namespace Pager

variable {p : Pager} {a b : Page}

/-! ### Pagers that can tell -/

/-- Of two pages that agree the same statement is prepared if they get batches of one size,
and only then, since a statement shows the size of the batch. -/
theorem prepared_agrees_iff (hp : p.Total) (h : a.Agrees b) (statement : Statement) :
    (p.narrow statement (some a)).prepared = (p.narrow statement (some b)).prepared ↔
      p.batchSize (some a) = p.batchSize (some b) := by
  constructor
  · intro hsame
    obtain ⟨prepared, hok, hlimit, -⟩ := narrow_ok hp statement (some a)
    rw [hsame] at hok
    have hlimit' := limit?_prepared hp hok
    rw [hlimit, Option.some.injEq, Number.int.injEq] at hlimit'
    omega
  · intro hsize
    exact p.prepared_congr statement hsize h.number (h.choice p)

/-- A page that is filled gets the batch that it would have got if it had a size, or if ten
and the default size come to the same under the largest size. -/
theorem batchSize_filled_iff (p : Pager) (page : Page) :
    p.batchSize (some page.filled) = p.batchSize (some page) ↔
      page.size ≠ 0 ∨ p.defaultSize.rows = 10 ∨
        (p.maxSize.rows ≤ 10 ∧ p.maxSize.rows ≤ p.defaultSize.rows) := by
  by_cases h : page.size = 0
  · have hten : p.batchSize (some page.filled) = min (min 10 p.maxSize.rows) 50 := by
      simp [batchSize, Page.filled, Page.eagerSize, h]
    rw [hten, batchSize, if_pos h]
    omega
  · simp [batchSize, Page.filled, h]

end Pager

namespace Desk

variable {d d' : Desk} {ref ref' : Option PageRef} {a b : Page}

/-! ### Pages on desks -/

/-- What is reported when the keys are found that a page is sorted by, the given specs being
the default, and these keys as records. -/
def keysFor (d : Desk) (ref : Option PageRef) (defaults : List Value) :
    List Event × Except Failure Value :=
  let choice := d.choice ref defaults
  (choice.events, choice.chosen.bind (Session.chosenValue d))

/-- Whatever rows are collected for two pages, each on its desk, the same ones are kept, and
the pages are equal then. -/
def CollectAlike (d : Desk) (ref : Option PageRef) (d' : Desk) (ref' : Option PageRef) : Prop :=
  ∀ (α : Type) (rows : List α),
    let collected := d.collect ref (some rows)
    let collected' := d'.collect ref' (some rows)
    ∃ (batch : List α) (after : Page),
      collected.2.rows = .ok batch ∧ collected'.2.rows = .ok batch ∧
      collected.1.Holds ref (some after) ∧ collected'.1.Holds ref' (some after)

/-- New keys are shown in the same way on every desk. -/
theorem chosenValue_byColumn (d d' : Desk) (column : Value) (defaults : List Value) :
    (choiceByColumn column defaults).chosen.bind (Session.chosenValue d) =
      (choiceByColumn column defaults).chosen.bind (Session.chosenValue d') := by
  have hspecs : ∀ specs, (Choice.ofSpecs specs).chosen.bind (Session.chosenValue d) =
      (Choice.ofSpecs specs).chosen.bind (Session.chosenValue d') := by
    intro specs
    simp only [Choice.ofSpecs]
    cases (sifted specs).2 <;> rfl
  unfold choiceByColumn
  split
  · split
    · exact hspecs _
    · rfl
  · exact hspecs _

/-- What a page is sorted by is told by its keys and its column. -/
theorem keysFor_agrees (hab : a.Agrees b) (h : d.Holds ref (some a)) (h' : d'.Holds ref' (some b))
    (defaults : List Value) : d.keysFor ref defaults = d'.keysFor ref' defaults := by
  obtain ⟨refs, hcard, hrefs⟩ := h
  obtain ⟨refs', hcard', hrefs'⟩ := h'
  simp only [keysFor, choice_of_refs hcard hrefs, choice_of_refs hcard' hrefs', hab.keys,
    hab.column]
  by_cases hkeys : b.keys = []
  · simp only [if_pos hkeys]
    rw [chosenValue_byColumn d d']
  · rw [hab.keys] at hrefs
    simp only [if_neg hkeys, Except.bind, Session.chosenValue, keysValue_ofRefs hrefs,
      keysValue_ofRefs hrefs']

theorem collectAlike_agrees (hab : a.Agrees b) (h : d.Holds ref (some a))
    (h' : d'.Holds ref' (some b)) : d.CollectAlike ref d' ref' := by
  intro α rows collected collected'
  obtain ⟨hleft, hr⟩ := collect_of_holds h rows
  obtain ⟨hleft', hr'⟩ := collect_of_holds h' rows
  rw [hab.collect rows] at hleft hr
  have hrows : (Pager.collect (some b) rows).rows = .ok (Pager.kept (some b) rows) := by
    rw [Pager.collect_eq]
  exact ⟨_, _, (congrArg Collected.rows hr).trans hrows, (congrArg Collected.rows hr').trans hrows,
    hleft, hleft'⟩

/-- **Defaults make no difference before they have to.** A size and a number that are not
negative make a page, with eager defaults and without, together with any keys. Wherever the
two pages lie, they have the same window, are sorted by the same keys whatever the default
specs are, and have the same rows collected for them, which leaves equal pages. A pager
narrows statements for both, and these are the same ones exactly if a size was given, or if
ten and the default size come to the same under the largest size; then the pages are equal
as soon as rows are collected for them. Reports are left out: one that cannot be logged
would take the place of a statement or of rows. -/
theorem eager_agrees {size number : Int} (hsize : 0 ≤ size) (hnumber : 0 ≤ number)
    (keys : List SortKey) :
    ∃ eager lazy : Page,
      Page.eager (.int size) (.int number) keys = .ok eager ∧
      (∀ field : Page.KeysField, Page.read (.record [("size", .int size), ("page", .int number),
        (field.name, .list (keys.map SortKey.dump))]) = .ok lazy) ∧
      ∀ (d d' : Desk) (ref ref' : Option PageRef),
        d.Holds ref (some eager) → d'.Holds ref' (some lazy) →
        (∃ limit offset : Int, d.window ref = .ok (.int limit, .int offset) ∧
          d'.window ref' = .ok (.int limit, .int offset)) ∧
        (∀ defaults, d.keysFor ref defaults = d'.keysFor ref' defaults) ∧
        d.CollectAlike ref d' ref' ∧
        ∀ (p : Pager) (statement : Statement), p.Total →
          let narrowed := d.narrow p.configuration statement ref
          let narrowed' := d'.narrow p.configuration statement ref'
          let same := size ≠ 0 ∨ p.defaultSize.rows = 10 ∨
            (p.maxSize.rows ≤ 10 ∧ p.maxSize.rows ≤ p.defaultSize.rows)
          ∃ prepared prepared', narrowed.2.prepared = .ok prepared ∧
            narrowed'.2.prepared = .ok prepared' ∧ (prepared = prepared' ↔ same) ∧
            (same → narrowed.1.CollectAlike ref narrowed'.1 ref') := by
  let lazy : Page := { size := size, number := number, keys := keys }
  have hagrees : lazy.filled.Agrees lazy := lazy.filled_agrees
  refine ⟨lazy.filled, lazy, Page.eager_eq hsize hnumber keys, fun field =>
    Page.read_sizeNumberKeys hsize hnumber field keys, fun d d' ref ref' h h' => ⟨?window,
      keysFor_agrees hagrees h h', collectAlike_agrees hagrees h h', fun p statement hp => ?narrow⟩⟩
  case window =>
    have hwindow := window_of_holds h
    rw [hagrees.limit, hagrees.offset] at hwindow
    exact ⟨_, _, hwindow, window_of_holds h'⟩
  case narrow =>
    intro narrowed narrowed' same
    obtain ⟨hleft, hr⟩ := narrow_of_holds p h statement
    obtain ⟨hleft', hr'⟩ := narrow_of_holds p h' statement
    obtain ⟨prepared, hok, -⟩ := Pager.narrow_ok hp statement (some lazy.filled)
    obtain ⟨prepared', hok', -⟩ := Pager.narrow_ok hp statement (some lazy)
    have hbatch : p.batchSize (some lazy.filled) = p.batchSize (some lazy) ↔ same :=
      p.batchSize_filled_iff lazy
    refine ⟨prepared, prepared', (congrArg Narrowed.prepared hr).trans hok,
      (congrArg Narrowed.prepared hr').trans hok', ?_, fun hsame => ?_⟩
    · rw [← hbatch, ← Pager.prepared_agrees_iff hp hagrees statement, hok, hok', Except.ok.injEq]
    · exact collectAlike_agrees (hagrees.fit (hbatch.mpr hsame)) hleft hleft'

/-- Two pages share a key and give neither size nor number, one of them with eager defaults.
Ten rows a batch come of either for the usual pager. Where two are the default, and five the
most, one gets five and the other one two. -/
theorem eager_agrees_shared :
    let keys : List SortKey := [⟨"Name", some .descending⟩]
    let eager : Page := { size := 10, number := 1, keys := keys }
    let lazy : Page := { keys := keys }
    let d : Desk := ((({} : Desk).addPage eager).1.addCard (.ofPage lazy [0])).1
    let c := Pager.usual.configuration
    let c' := Pager.reference.configuration
    (0 : Int) ≤ 0 ∧ Page.eager (.int 0) (.int 0) keys = .ok eager ∧
      d.Holds (some 0) (some eager) ∧ d.Holds (some 1) (some lazy) ∧
      Pager.usual.Total ∧ Pager.reference.Total ∧ d.CollectAlike (some 0) d (some 1) ∧
      (∃ prepared, (d.narrow c (.select {}) (some 0)).2.prepared = .ok prepared ∧
        (d.narrow c (.select {}) (some 1)).2.prepared = .ok prepared) ∧
      ∃ prepared prepared', (d.narrow c' (.select {}) (some 0)).2.prepared = .ok prepared ∧
        (d.narrow c' (.select {}) (some 1)).2.prepared = .ok prepared' ∧ prepared ≠ prepared' := by
  intro keys eager lazy d c c'
  have hd : d.Holds (some 0) (some eager) := ⟨[0], rfl, rfl⟩
  have hd' : d.Holds (some 1) (some lazy) := ⟨[0], rfl, rfl⟩
  have hp : Pager.usual.Total := by rintro f ⟨⟩
  obtain ⟨first, second, hfirst, hsecond, hagrees⟩ :=
    eager_agrees (le_refl (0 : Int)) (le_refl (0 : Int)) keys
  obtain rfl : eager = first := Except.ok.inj hfirst
  obtain rfl : lazy = second := Except.ok.inj (hsecond .order)
  obtain ⟨-, -, hcollect, hnarrow⟩ := hagrees d d (some 0) (some 1) hd hd'
  obtain ⟨prepared, _, hok, hok', hsame, -⟩ := hnarrow .usual (.select {}) hp
  obtain ⟨other, other', hother, hother', hdiffer, -⟩ :=
    hnarrow .reference (.select {}) Pager.reference_total
  obtain rfl := hsame.mpr (by decide)
  exact ⟨le_rfl, rfl, hd, hd', hp, Pager.reference_total, hcollect, ⟨prepared, hok, hok'⟩,
    other, other', hother, hother', mt hdiffer.mp (by decide)⟩

end Desk
end Folio
