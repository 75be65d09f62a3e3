/-
# One round of a page

A round narrows a statement to the window of a page, fetches the rows of that
window, and collects them for the page. Narrowing succeeds when the column map
is total, and puts the limit and the offset of the fitted page on the statement,
one row more than is shown. Collecting works the window out anew, from the page
that narrowing has changed. Both agree on it (`Pager.collect_narrow`): what is
kept is the batch of that number, and the page tells whether another one follows.

The largest size of the pager is kept to for every page that is there, but for
an absent one only if it is at least ten (`Pager.capped_iff`).

Key definitions: `ColumnMap.Total`, `Pager.Total`, `Statement.limit?`,
`Statement.offset?`, `Pager.kept`, `Pager.Capped`.
Key theorems: `Pager.narrow_ok`, `Pager.prepared_congr`, `Pager.collect_eq`,
`Pager.collect_narrow`, `Pager.capped_iff`.
-/
import Folio.Pager.Work
import Folio.Proofs.Window

namespace Folio

/-! ### Total column maps -/

/-- A map that never fails on the name of a column, and gives something that can
be written. -/
def ColumnMap.Total (f : ColumnMap) : Prop :=
  ∀ column : String, ∃ v, f (.text column) = .ok v ∧ v.isWritable = true

/-- A map from names to names is total. -/
theorem ColumnMap.total_of_texts {f : ColumnMap}
    (h : ∀ column : String, ∃ name : String, f (.text column) = .ok (.text name)) : f.Total := by
  intro column
  obtain ⟨name, hn⟩ := h column
  exact ⟨.text name, hn, rfl⟩

/-- A pager whose column map, if it has one, is total. -/
def Pager.Total (p : Pager) : Prop :=
  ∀ f ∈ p.columnMap, f.Total

/-- Two rows a batch unless a page asks for more, five at most, ordered by `ID`
and written in small letters. -/
def Pager.reference : Pager :=
  ⟨⟨2, by decide⟩, ⟨5, by decide⟩, ["ID"], some Renaming.lowered.toMap⟩

theorem Pager.reference_total : reference.Total := by
  rintro f ⟨⟩
  exact ColumnMap.total_of_texts fun column => ⟨Text.lowered column, rfl⟩

/-! ### The window on a statement -/

/-- The number of a recorded limit. -/
def RecordedCall.limit? : RecordedCall → Option Number
  | limit n => some n
  | _ => none

/-- The number of a recorded offset. -/
def RecordedCall.offset? : RecordedCall → Option Number
  | offset n => some n
  | _ => none

namespace Statement

/-- The limit last put on a statement. -/
def limit? : Statement → Option Number
  | select s => s.limit.map .int
  | recording calls => (calls.filterMap RecordedCall.limit?).getLast?

/-- The offset last put on a statement. -/
def offset? : Statement → Option Number
  | select s => s.offset.map .int
  | recording calls => (calls.filterMap RecordedCall.offset?).getLast?

theorem limit?_ordered (clauses : List String) (statement : Statement) :
    (Pager.ordered clauses statement).limit? = statement.limit? := by
  unfold Pager.ordered
  split
  · rfl
  · cases statement <;> simp [orderBy, limit?, RecordedCall.limit?]

theorem offset?_ordered (clauses : List String) (statement : Statement) :
    (Pager.ordered clauses statement).offset? = statement.offset? := by
  unfold Pager.ordered
  split
  · rfl
  · cases statement <;> simp [orderBy, offset?, RecordedCall.offset?]

/-- A window of whole numbers can be put on every statement. -/
theorem windowed_ok (statement : Statement) (limit offset : Int) (clauses : List String) :
    ∃ narrowed, Pager.windowed statement (.int limit) (.int offset) clauses = .ok narrowed ∧
      narrowed.limit? = some (.int (limit + 1)) ∧ narrowed.offset? = some (.int offset) := by
  cases statement with
  | select s =>
    refine ⟨_, Pager.windowed_int s limit offset clauses, ?_, ?_⟩
    · rw [limit?_ordered]; rfl
    · rw [offset?_ordered]; rfl
  | recording calls =>
    refine ⟨_, rfl, ?_, ?_⟩
    · rw [limit?_ordered, limit?, List.filterMap_append, List.filterMap_append]
      show (_ ++ [Number.int (limit + 1)] ++ []).getLast? = _
      rw [List.append_nil, List.getLast?_concat]
    · rw [offset?_ordered, offset?, List.filterMap_append]
      exact List.getLast?_concat

end Statement

namespace Pager

variable {α : Type}

/-! ### Narrowing -/

theorem clause_ok {p : Pager} (hp : p.Total) (key : SortKey) :
    ∃ text, p.clause key.term = .ok text := by
  unfold clause
  cases hf : p.columnMap with
  | none => exact ⟨key.clause, written_term key⟩
  | some f =>
    obtain ⟨v, hv, hw⟩ := hp f hf key.column
    have hm : key.term.mapped f = .ok ⟨v, key.direction⟩ := by
      simp [OrderTerm.mapped, SortKey.term, hv, Except.map]
    exact ⟨_, by simp only [hm]; exact if_pos hw⟩

theorem clausesOf_ok {p : Pager} (hp : p.Total) :
    ∀ keys : List SortKey, ∃ texts, p.clausesOf (keys.map SortKey.term) = .ok texts
  | [] => ⟨[], rfl⟩
  | key :: rest => by
    obtain ⟨text, ht⟩ := clause_ok hp key
    obtain ⟨texts, hts⟩ := clausesOf_ok hp rest
    exact ⟨text :: texts, by simp [clausesOf, ht, hts]⟩

theorem clauses_ok {p : Pager} (hp : p.Total) (page : Option Page) :
    ∃ texts, p.clauses page = .ok texts :=
  clausesOf_ok hp _

/-- Narrowing puts the window of the page on the statement. -/
theorem narrow_ok {p : Pager} (hp : p.Total) (statement : Statement) (page : Option Page) :
    ∃ prepared, (p.narrow statement page).prepared = .ok prepared ∧
      prepared.statement.limit? = some (.int (p.batchSize page + 1)) ∧
      prepared.statement.offset? =
        some (.int ((Window.numberFor page - 1) * p.batchSize page)) := by
  obtain ⟨texts, ht⟩ := clauses_ok hp (page.map p.fit)
  obtain ⟨narrowed, hn, hl, ho⟩ := Statement.windowed_ok statement
    (Window.limit (page.map p.fit)) (Window.offset (page.map p.fit)) texts
  refine ⟨⟨narrowed, []⟩, ?_, ?_, ?_⟩
  · simp only [narrow, prepare, ht, hn]
  · rw [hl, limit_fit]
  · rw [ho, offset_fit]

theorem limit?_prepared {p : Pager} (hp : p.Total) {statement : Statement} {page : Option Page}
    {prepared : Prepared} (h : (p.narrow statement page).prepared = .ok prepared) :
    prepared.statement.limit? = some (.int (p.batchSize page + 1)) := by
  obtain ⟨prepared', hok, hlimit, -⟩ := narrow_ok hp statement page
  obtain rfl : prepared' = prepared := Except.ok.inj (hok.symm.trans h)
  exact hlimit

/-- Fitting a page leaves its order alone. -/
theorem choice_fit (p : Pager) (page : Option Page) :
    p.choice (page.map p.fit) = p.choice page := by
  cases page <;> rfl

theorem clauses_fit (p : Pager) (page : Option Page) :
    p.clauses (page.map p.fit) = p.clauses page := by
  rw [clauses, choice_fit, clauses]

/-- The statement that is prepared depends on a page through its batches, its number
and its order only. -/
theorem prepared_congr (p : Pager) (statement : Statement) {page next : Option Page}
    (hsize : p.batchSize next = p.batchSize page)
    (hnumber : Window.numberFor next = Window.numberFor page)
    (hchoice : p.choice next = p.choice page) :
    (p.narrow statement next).prepared = (p.narrow statement page).prepared := by
  simp only [narrow, limit_fit, offset_fit, choice_fit, clauses, hsize, hnumber, hchoice]

theorem narrow_page (p : Pager) (statement : Statement) (page : Option Page) :
    (p.narrow statement page).page = page.map p.fit := rfl

/-! ### Collecting -/

/-- The rows that are kept of those fetched for a page. -/
def kept (page : Option Page) (rows : List α) : List α :=
  if Window.limit page < rows.length then leading (Window.limit page) rows else rows

/-- **Collecting never fails.** It leaves the page with the window that was
used, whatever integers its fields held. -/
theorem collect_eq (page : Option Page) (rows : List α) :
    collect page rows =
      { page := { page.getD {} with
          more := decide (Window.limit page < rows.length)
          size := Window.limit page
          number := Window.numberFor page }
        events := [.resultPrepared (kept page rows).length (.int (Window.numberFor page))
          (decide (Window.limit page < rows.length))]
        rows := .ok (kept page rows) } := by
  simp only [collect, Window.limit_getD, Window.offset_getD, Window.number?_offset, kept,
    decide_eq_true_eq]

theorem kept_eq_take {page : Option Page} (h : 0 ≤ Window.limit page) (rows : List α) :
    kept page rows = rows.take (Window.limit page).toNat := by
  unfold kept
  split
  · rw [leading, if_pos h]
  · rw [List.take_of_length_le (by omega)]

/-! ### Narrowing, fetching and collecting -/

/-- What collecting does with the rows that the window of the page holds, and
the one behind it. -/
theorem collect_fetched (p : Pager) {page : Option Page} (h : ∀ q ∈ page, q.Sound) {L n : Int}
    (hL : p.batchSize page = L) (hn : Window.numberFor page = n) (rows : List α) :
    collect (page.map p.fit) (Window.slice ((n - 1) * L) ((n - 1) * L + (L + 1)) rows) =
      { page := { page.getD {} with
          size := L, number := n, more := decide (n * L < rows.length) }
        events := [.resultPrepared (Window.slice ((n - 1) * L) (n * L) rows).length (.int n)
          (decide (n * L < rows.length))]
        rows := .ok (Window.slice ((n - 1) * L) (n * L) rows) } := by
  have hL1 : 1 ≤ L := hL ▸ one_le_batchSize p h
  have hn1 : 1 ≤ n := hn ▸ Window.one_le_numberFor page
  have hs := Window.start_nonneg hn1 hL1
  have he := Window.stop_eq n L
  have hlim : Window.limit (page.map p.fit) = L := by rw [limit_fit, hL]
  have hk : kept (page.map p.fit) (Window.slice ((n - 1) * L) ((n - 1) * L + (L + 1)) rows) =
      Window.slice ((n - 1) * L) (n * L) rows := by
    rw [kept_eq_take (by omega), hlim, Window.take_slice hs (by omega) (by omega), he]
  have hm : L < (Window.slice ((n - 1) * L) ((n - 1) * L + (L + 1)) rows).length ↔
      n * L < rows.length := by
    rw [Window.lt_length_slice hs (by omega), he]
  rw [collect_eq, hk, hlim, numberFor_fit, hn, decide_eq_decide.mpr hm]
  cases page <;> rfl

/-- **Narrowing and collecting agree on the window.** The statement asks for one
row more than a batch, from the start of the batch with the number of the page.
Of the rows fetched for it the batch is kept, empty behind the end, so that at
most one row is dropped; and the page tells whether the next batch has rows. -/
theorem collect_narrow {p : Pager} (hp : p.Total) (statement : Statement) {page : Option Page}
    (hpage : ∀ q ∈ page, q.Sound) (rows : List α) :
    ∃ (prepared : Prepared) (M O : Int) (batch : List α),
      (p.narrow statement page).prepared = .ok prepared ∧
      prepared.statement.limit? = some (.int M) ∧ prepared.statement.offset? = some (.int O) ∧
      let L := M - 1
      let n := page.elim 1 fun q => max q.number 1
      let fetched := Window.slice O (O + M) rows
      let collected := collect (p.narrow statement page).page fetched
      L = p.batchSize page ∧ O = (n - 1) * L ∧
      collected.rows = .ok batch ∧ batch = Window.slice ((n - 1) * L) (n * L) rows ∧
      (rows.length ≤ (n - 1) * L → batch = []) ∧ fetched.length ≤ batch.length + 1 ∧
      (∀ q ∈ page, collected.page =
        { q with size := L, number := n, more := decide (n * L < rows.length) }) ∧
      (n * L < rows.length ↔ Window.slice (n * L) ((n + 1) * L) rows ≠ []) := by
  obtain ⟨prepared, hok, hlimit, hoffset⟩ := narrow_ok hp statement page
  have hn : Window.numberFor page = page.elim 1 fun q => max q.number 1 := by
    cases page with
    | none => rfl
    | some q => exact Window.numberFor_some q
  have hn1 := Window.one_le_numberFor page
  have hL1 := one_le_batchSize p hpage
  have hc := collect_fetched p hpage rfl hn rows
  rw [hn] at hoffset hn1
  -- of both numbers only that they are from one on matters now
  generalize p.batchSize page = L at hlimit hoffset hL1 hc
  generalize (page.elim 1 fun q => max q.number 1) = n at hoffset hn1 hc
  have hs := Window.start_nonneg hn1 hL1
  have he := Window.stop_eq n L
  have he' : (n + 1) * L = n * L + L := by rw [Window.stop_eq, Int.add_sub_cancel]
  refine ⟨prepared, L + 1, (n - 1) * L, Window.slice ((n - 1) * L) (n * L) rows,
    hok, hlimit, hoffset, ?_⟩
  simp only [Int.add_sub_cancel, narrow_page, hc]
  refine ⟨trivial, trivial, trivial, trivial, ?_, ?_, ?_, ?_⟩
  · intro hend
    have := Window.slice_ne_nil hs hL1 rows
    rw [← he] at this
    exact Decidable.not_not.mp fun hne => absurd (this.mp hne) (by omega)
  · rw [he, Window.length_slice hs (by omega), Window.length_slice hs (by omega)]
    omega
  · rintro q rfl
    rfl
  · rw [he', Window.slice_ne_nil (by omega) hL1]

/-- The second page of thirteen rows, nine a batch wanted and five granted. -/
theorem collect_narrow_second :
    reference.Total ∧ (∀ q ∈ some ({ size := 9, number := 2, column := "-Name" } : Page), q.Sound) ∧
      ∃ prepared,
        (reference.narrow (.select {}) (some { size := 9, number := 2, column := "-Name" })).prepared =
          .ok prepared ∧
        prepared.statement.limit? = some (.int 6) ∧ prepared.statement.offset? = some (.int 5) ∧
        (collect (reference.narrow (.select {})
          (some { size := 9, number := 2, column := "-Name" })).page [5, 6, 7, 8, 9, 10]).page =
            { size := 5, number := 2, more := true, column := "-Name" } := by
  have hsound : ∀ q ∈ some ({ size := 9, number := 2, column := "-Name" } : Page), q.Sound :=
    Page.Sound.of_mem_some (by decide)
  obtain ⟨prepared, M, O, batch, hok, hlimit, hoffset, hM, hO, -, -, -, -, hpage, -⟩ :=
    collect_narrow reference_total (.select {}) hsound (List.range 13)
  have hM : M = 6 := by
    have : M - 1 = 5 := hM
    omega
  have hO : O = 5 := by
    rw [hO, hM]
    decide
  subst hM hO
  exact ⟨reference_total, hsound, prepared, hok, hlimit, hoffset, hpage _ rfl⟩

/-! ### The largest size -/

/-- The largest size is kept to: a statement narrowed for the page asks for at
most one row more and leaves the page within it, and however many rows are
collected for the page then, no more are kept. -/
def Capped (p : Pager) (statement : Statement) (page : Option Page) : Prop :=
  ∃ (prepared : Prepared) (M : Int),
    (p.narrow statement page).prepared = .ok prepared ∧
    prepared.statement.limit? = some (.int M) ∧ M ≤ p.maxSize.rows + 1 ∧
    (∀ q ∈ (p.narrow statement page).page, q.size ≤ p.maxSize.rows) ∧
    ∀ (α : Type) (rows : List α), ∃ batch : List α,
      (collect (p.narrow statement page).page rows).rows = .ok batch ∧
      batch.length ≤ p.maxSize.rows ∧
      (page.isSome → (collect (p.narrow statement page).page rows).page.size ≤ p.maxSize.rows)

/-- **A page that is there never exceeds the largest size**, and an absent one
does not exactly when ten rows are no more than it. -/
theorem capped_iff {p : Pager} (hp : p.Total) (statement : Statement) {page : Option Page}
    (hpage : ∀ q ∈ page, q.Sound) :
    p.Capped statement page ↔ (page = none → 10 ≤ p.maxSize.rows) := by
  constructor
  · rintro ⟨prepared, M, hok, hlimit, hle, -⟩ rfl
    obtain rfl : 10 + 1 = M := by simpa [batchSize] using (limit?_prepared hp hok).symm.trans hlimit
    omega
  · intro h
    obtain ⟨prepared, hok, hlimit, -⟩ := narrow_ok hp statement page
    have hb : p.batchSize page ≤ p.maxSize.rows := by
      cases page with
      | none => exact h rfl
      | some q => exact p.batchSize_le_maxSize q
    have h1 := one_le_batchSize p hpage
    refine ⟨prepared, _, hok, hlimit, by omega, ?_, fun α rows => ?_⟩
    · intro q hq
      obtain ⟨q', -, rfl⟩ := Option.map_eq_some_iff.mp hq
      exact Int.min_le_right _ _
    · rw [narrow_page, collect_eq, limit_fit]
      refine ⟨_, rfl, ?_, fun _ => hb⟩
      rw [kept_eq_take (by rw [limit_fit]; omega), limit_fit, List.length_take]
      omega

/-- Nine rows a batch are wanted where five is the most: five are granted when
the page is there, ten without a page. -/
theorem capped_reference :
    reference.Total ∧ (∀ q ∈ some ({ size := 9 } : Page), q.Sound) ∧
      reference.Capped (.select {}) (some { size := 9 }) ∧ ¬ reference.Capped (.select {}) none := by
  have hsound : ∀ q ∈ some ({ size := 9 } : Page), q.Sound := Page.Sound.of_mem_some (by decide)
  refine ⟨reference_total, hsound, (capped_iff reference_total _ hsound).mpr (by simp), fun h => ?_⟩
  have := (capped_iff reference_total _ (by simp)).mp h rfl
  exact absurd this (by decide)

/-- **The largest size is no ceiling for an absent page.** Where it is five, the
statement for no page asks for eleven rows. -/
theorem not_capped_absent :
    ¬ ∀ (p : Pager) (statement : Statement) (page : Option Page), p.Total →
      (∀ q ∈ page, q.Sound) → p.Capped statement page := by
  intro h
  obtain ⟨prepared, M, hok, hlimit, hle, -⟩ :=
    h reference (.select {}) none reference_total (by simp)
  obtain rfl : 10 + 1 = M := by
    simpa [batchSize] using (limit?_prepared reference_total hok).symm.trans hlimit
  exact absurd hle (by decide)

end Pager
end Folio
