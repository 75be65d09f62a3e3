/-
# Walking through a listing

A walk shows a listing page by page: in each round the statement is narrowed for
the page, the rows of its window are fetched and collected, and when the page
tells that more follow its number is raised for the next round. From the first
page on the walk shows every row once and in order, in full batches but for the
last one, and stops with the last row (`Walk.run_covers`).

What one round keeps is `Walk.Inv`: the batches so far are the first ones of the
listing, and the page, which every round rewrites twice, still asks for batches
of the same size and now for the next one.

Key definitions: `Statement.fetch`, `Walk`, `Walk.round`, `Walk.run`, `Walk.Inv`.
Key theorems: `Pager.narrow_fetch`, `Walk.round_inv`, `Walk.run_inv`, `Walk.run_covers`.
-/
import Folio.Proofs.Round

namespace Folio

variable {α : Type}

/-- The rows of a listing that lie in the window on a statement, all of them
when there is no window of whole numbers. -/
def Statement.fetch (statement : Statement) (rows : List α) : List α :=
  match statement.limit?, statement.offset? with
  | some (.int M), some (.int O) => Window.slice O (O + M) rows
  | _, _ => rows

/-- Narrowing succeeds when the column map is total. What the statement fetches then
is the batch with the number of the page, and the row behind it. -/
theorem Pager.narrow_fetch {p : Pager} (hp : p.Total) (statement : Statement)
    {page : Option Page} {L n : Int} (hL : p.batchSize page = L)
    (hn : Window.numberFor page = n) (rows : List α) :
    ∃ prepared, (p.narrow statement page).prepared = .ok prepared ∧
      prepared.statement.fetch rows =
        Window.slice ((n - 1) * L) ((n - 1) * L + (L + 1)) rows := by
  obtain ⟨prepared, hok, hlimit, hoffset⟩ := narrow_ok hp statement page
  rw [hL] at hlimit
  rw [hL, hn] at hoffset
  exact ⟨prepared, hok, by simp only [Statement.fetch, hlimit, hoffset]⟩

/-- A walk between two rounds: the page as it stands, the batches shown so far,
and whether there is another round. -/
structure Walk (α : Type) where
  page : Page
  batches : List (List α) := []
  going : Bool := true

namespace Walk

variable (p : Pager) (statement : Statement) (rows : List α)

/-- The page of the next round, if there is one. -/
def turned (page : Page) : Page :=
  if page.more then { page with number := page.number + 1 } else page

/-- One round. -/
def round (w : Walk α) : Except Failure (Walk α) :=
  let narrowed := p.narrow statement (some w.page)
  match narrowed.prepared with
  | .error failure => .error failure
  | .ok prepared =>
    let collected := Pager.collect narrowed.page (prepared.statement.fetch rows)
    match collected.rows with
    | .error failure => .error failure
    | .ok batch =>
      .ok ⟨turned collected.page, w.batches ++ [batch], collected.page.more⟩

/-- The walk from a page on after so many rounds, or after as many as there
are. -/
def run (page : Page) : ℕ → Except Failure (Walk α)
  | 0 => .ok { page := page }
  | k + 1 =>
    match run page k with
    | .error failure => .error failure
    | .ok w => if w.going then w.round p statement rows else .ok w

/-! ### One round -/

/-- What holds after `k` rounds with batches of `L` rows. -/
structure Inv (L k : ℕ) (w : Walk α) : Prop where
  batches : w.batches = (List.range k).map fun i => (rows.drop (i * L)).take L
  going : w.going = true ↔ k = 0 ∨ k * L < rows.length
  sound : w.going = true → w.page.Sound
  size : w.going = true → p.batchSize (some w.page) = L
  number : w.going = true → Window.numberFor (some w.page) = k + 1

variable {p rows} {L : ℕ}

theorem start_inv {page : Page} (hpage : page.Sound) (hL : p.batchSize (some page) = L)
    (hnumber : page.number = 0 ∨ page.number = 1) : Inv p rows L 0 { page := page } where
  batches := rfl
  going := by simp
  sound _ := hpage
  size _ := hL
  number _ := by
    show Window.numberFor (some page) = _
    rw [Window.numberFor_some]
    omega

/-- A round shows the batch with the number of the page. -/
theorem round_eq (hp : p.Total) {w : Walk α} (hw : w.page.Sound) {L n : Int}
    (hL : p.batchSize (some w.page) = L) (hn : Window.numberFor (some w.page) = n) :
    w.round p statement rows =
      .ok ⟨turned { w.page with size := L, number := n, more := decide (n * L < rows.length) },
        w.batches ++ [Window.slice ((n - 1) * L) (n * L) rows], decide (n * L < rows.length)⟩ := by
  obtain ⟨prepared, hok, hf⟩ := Pager.narrow_fetch hp statement hL hn rows
  have hc := Pager.collect_fetched p hw.of_mem_some hL hn rows
  simp only [round, hok, Pager.narrow_page, hf, hc]
  rfl

/-- **A round shows the next batch**, and leaves a page that asks for the one
behind it. -/
theorem round_inv (hp : p.Total) {k : ℕ} {w : Walk α} (h : Inv p rows L k w)
    (hgoing : w.going = true) :
    ∃ w', w.round p statement rows = .ok w' ∧ Inv p rows L (k + 1) w' := by
  have hw := h.sound hgoing
  have hL := h.size hgoing
  have hn := h.number hgoing
  refine ⟨_, round_eq statement hp hw hL hn, ?_⟩
  have hlt : decide (((k : Int) + 1) * L < rows.length) = true ↔ (k + 1) * L < rows.length := by
    rw [decide_eq_true_eq, ← Int.ofNat_lt]
    simp
  constructor
  case batches =>
    rw [h.batches, List.range_succ, List.map_append, Int.add_sub_cancel, Window.slice_batch]
    rfl
  case going => simp [hlt]
  all_goals
    intro hm
    simp only at hm
    simp only [turned, hm, if_true]
  case sound => exact ⟨by simp only; omega, by simp only; omega⟩
  case size => exact (p.batchSize_of_size hw hL.symm).trans hL
  case number =>
    rw [Window.numberFor_some]
    simp only
    omega

/-! ### Many rounds -/

/-- The walk goes on as long as rows are left. -/
theorem run_inv (hL : 0 < L) (hp : p.Total) {page : Page} (h0 : Inv p rows L 0 { page := page }) :
    ∀ k ≤ Window.batchCount rows.length L,
      ∃ w, run p statement rows page k = .ok w ∧ Inv p rows L k w
  | 0, _ => ⟨_, rfl, h0⟩
  | k + 1, hk => by
    obtain ⟨w, hw, hi⟩ := run_inv hL hp h0 k (by omega)
    have hgoing : w.going = true := hi.going.mpr ((Window.lt_batchCount hL).mp hk)
    obtain ⟨w', hw', hi'⟩ := round_inv statement hp hi hgoing
    exact ⟨w', by simp only [run, hw, hgoing, if_true, hw'], hi'⟩

/-- All batches but the last one are full. -/
theorem Inv.full (hL : 0 < L) {k : ℕ} {w : Walk α} (h : Inv p rows L k w)
    (hk : k ≤ Window.batchCount rows.length L) :
    ∀ batch ∈ w.batches.dropLast, batch.length = L := by
  rw [h.batches]
  cases k with
  | zero => simp
  | succ k =>
    rw [List.range_succ, List.map_append, List.map_singleton, List.dropLast_concat]
    intro batch hbatch
    obtain ⟨i, hi, rfl⟩ := List.mem_map.mp hbatch
    have hi : i + 1 < k + 1 := by simpa using hi
    have hrow := ((Window.lt_batchCount hL).mp (hi.trans_le hk)).resolve_left (by omega)
    rw [Nat.succ_mul] at hrow
    rw [List.length_take, List.length_drop]
    omega

/-- **A walk from the first page loses no row and shows none twice.** It stops
after as many rounds as the rows make batches; the batches shown, one behind the
other, are the listing; and all but the last one are full. -/
theorem run_covers (hp : p.Total) (statement : Statement) (rows : List α) {page : Page}
    (hpage : page.Sound) (hnumber : page.number = 0 ∨ page.number = 1) :
    ∃ L : ℕ, p.batchSize (some page) = L ∧
      let rounds := max 1 (rows.length ⌈/⌉ L)
      (∀ k < rounds, ∃ w, run p statement rows page k = .ok w ∧ w.going = true) ∧
      ∃ w, run p statement rows page rounds = .ok w ∧ w.going = false ∧
        w.batches.length = rounds ∧ w.batches.flatten = rows ∧
        ∀ batch ∈ w.batches.dropLast, batch.length = L := by
  have h1 := p.one_le_batchSize hpage.of_mem_some
  obtain ⟨L, hL⟩ := Int.eq_ofNat_of_zero_le (show 0 ≤ p.batchSize (some page) by omega)
  have hpos : 0 < L := by omega
  have h0 : Inv p rows L 0 { page := page } := start_inv hpage hL hnumber
  refine ⟨L, hL, fun k hk => ?_, ?_⟩
  · obtain ⟨w, hw, hi⟩ := run_inv statement hpos hp h0 k (Nat.le_of_lt hk)
    exact ⟨w, hw, hi.going.mpr ((Window.lt_batchCount hpos).mp hk)⟩
  · obtain ⟨w, hw, hi⟩ := run_inv statement hpos hp h0 _ le_rfl
    refine ⟨w, hw, ?_, ?_, ?_, hi.full hpos le_rfl⟩
    · rw [Bool.eq_false_iff, ne_eq, hi.going, ← Window.lt_batchCount hpos]
      exact Nat.lt_irrefl _
    · rw [hi.batches, List.length_map, List.length_range]
      rfl
    · rw [hi.batches, Window.flatten_batches,
        List.take_of_length_le (Window.le_batchCount_mul hpos)]

/-- Thirteen rows are walked through in three rounds, nine a batch wanted and
five granted. -/
theorem run_covers_thirteen :
    Pager.reference.Total ∧ Page.Sound { size := 9, column := "-Name" } ∧ (0 = 0 ∨ 0 = 1) ∧
      ∃ w, run Pager.reference (.select {}) (List.range 13) { size := 9, column := "-Name" } 3 = .ok w ∧
        w.going = false ∧ w.batches.length = 3 ∧ w.batches.flatten = List.range 13 ∧
        ∀ batch ∈ w.batches.dropLast, batch.length = 5 := by
  have hsound : Page.Sound { size := 9, column := "-Name" } := by decide
  obtain ⟨L, hL, -, h⟩ :=
    run_covers Pager.reference_total (.select {}) (List.range 13) hsound (.inl rfl)
  obtain rfl : L = 5 := by
    have : (5 : Int) = L := hL
    omega
  exact ⟨Pager.reference_total, hsound, .inl rfl, h⟩

end Walk
end Folio
