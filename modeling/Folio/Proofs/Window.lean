/-
# Batches of rows

The rows of a listing are cut into batches of one size, and a page shows one of
them. `Window.slice` is the cut, with positions of either sign, and
`Pager.batchSize` the size: what the page asks for, or the default of the pager,
but no more than its largest size and fifty. A fitted page has that limit, and
its offset is a whole number of batches, so that the number of the page can be
told from its window.

Key definitions: `Window.slice`, `Window.batchCount`, `Pager.batchSize`.
Key theorems: `Window.flatten_batches`, `Window.number?_offset`,
`Pager.limit_fit`, `Pager.offset_fit`, `Pager.one_le_batchSize`.
-/
import Mathlib.Algebra.Order.Floor.Div
import Folio.Pager.Work

namespace Folio
namespace Window

variable {α : Type}

/-! ### Slices -/

/-- Where a position lies among so many rows: one below zero is counted from
their end. -/
def index (count : ℕ) (position : Int) : ℕ :=
  if 0 ≤ position then position.toNat else (count + position).toNat

/-- The rows from one position up to another one. -/
def slice (start stop : Int) (rows : List α) : List α :=
  (rows.take (index rows.length stop)).drop (index rows.length start)

theorem slice_eq {start count : Int} (hs : 0 ≤ start) (hc : 0 ≤ count) (rows : List α) :
    slice start (start + count) rows = (rows.drop start.toNat).take count.toNat := by
  have he : (start + count).toNat - start.toNat = count.toNat := by omega
  rw [slice, index, index, if_pos hs, if_pos (by omega), List.drop_take, he]

/-- The first rows of a slice are the slice of so many. -/
theorem take_slice {start count most : Int} (hs : 0 ≤ start) (hc : 0 ≤ count) (hm : count ≤ most)
    (rows : List α) :
    (slice start (start + most) rows).take count.toNat = slice start (start + count) rows := by
  rw [slice_eq hs (by omega), slice_eq hs hc, List.take_take, Nat.min_eq_left (by omega)]

theorem length_slice {start count : Int} (hs : 0 ≤ start) (hc : 0 ≤ count) (rows : List α) :
    (slice start (start + count) rows).length = min count.toNat (rows.length - start.toNat) := by
  rw [slice_eq hs hc, List.length_take, List.length_drop]

/-- A slice is full, and more, exactly when rows follow it. -/
theorem lt_length_slice {start count : Int} (hs : 0 ≤ start) (hc : 0 ≤ count) (rows : List α) :
    count < (slice start (start + (count + 1)) rows).length ↔ start + count < rows.length := by
  rw [length_slice hs (by omega)]
  omega

theorem slice_ne_nil {start count : Int} (hs : 0 ≤ start) (hc : 1 ≤ count) (rows : List α) :
    slice start (start + count) rows ≠ [] ↔ start < rows.length := by
  rw [← List.length_pos_iff, length_slice hs (by omega)]
  omega

theorem slice_map {β : Type} (f : α → β) (start stop : Int) (rows : List α) :
    slice start stop (rows.map f) = (slice start stop rows).map f := by
  simp [slice]

/-! ### Batches of a list -/

/-- A batch starts behind the rows of those before it. -/
theorem start_nonneg {n L : Int} (hn : 1 ≤ n) (hL : 1 ≤ L) : 0 ≤ (n - 1) * L :=
  Int.mul_nonneg (by omega) (by omega)

/-- A batch stops where the next one starts. -/
theorem stop_eq (n L : Int) : n * L = (n - 1) * L + L := by
  rw [Int.sub_mul]
  omega

theorem slice_batch (k L : ℕ) (rows : List α) :
    slice (k * L) ((k + 1) * L) rows = (rows.drop (k * L)).take L := by
  have he : ((k : Int) + 1) * L = k * L + L := by rw [stop_eq, Int.add_sub_cancel]
  rw [he, slice_eq (Int.mul_nonneg (by omega) (by omega)) (by omega), Int.toNat_natCast,
    ← Int.natCast_mul, Int.toNat_natCast]

/-- How many batches of `L` rows so many rows make; no rows make one, which is
empty. -/
def batchCount (count L : ℕ) : ℕ :=
  max 1 (count ⌈/⌉ L)

theorem lt_batchCount {count L k : ℕ} (hL : 0 < L) :
    k < batchCount count L ↔ k = 0 ∨ k * L < count := by
  have hc : count ⌈/⌉ L ≤ k ↔ count ≤ L * k := ceilDiv_le_iff_le_mul hL
  rw [Nat.mul_comm] at hc
  rw [batchCount]
  omega

theorem le_batchCount_mul {count L : ℕ} (hL : 0 < L) : count ≤ batchCount count L * L := by
  have h : count ⌈/⌉ L ≤ batchCount count L := Nat.le_max_right _ _
  rwa [ceilDiv_le_iff_le_mul hL, Nat.mul_comm] at h

/-- The first batches of a list, one behind the other, are its first rows. -/
theorem flatten_batches (L : ℕ) (rows : List α) :
    ∀ k, ((List.range k).map fun i => (rows.drop (i * L)).take L).flatten = rows.take (k * L)
  | 0 => by simp
  | k + 1 => by
    rw [List.range_succ, List.map_append, List.flatten_append, flatten_batches L rows k,
      Nat.succ_mul, List.take_add]
    simp

/-! ### Limits and numbers -/

theorem limit_ne_zero (page : Option Page) : limit page ≠ 0 := by
  cases page with
  | none => decide
  | some p =>
    simp only [limit, sizeFor, usualLimit, ceiling]
    split <;> omega

theorem one_le_limit {page : Option Page} (h : ∀ q ∈ page, 0 ≤ q.size) : 1 ≤ limit page := by
  cases page with
  | none => decide
  | some q =>
    have hsize : 0 ≤ q.size := h q rfl
    simp only [limit, sizeFor, usualLimit, ceiling]
    split <;> omega

theorem numberFor_some (p : Page) : numberFor (some p) = max p.number 1 := by
  simp only [numberFor]
  split <;> omega

theorem numberFor_eq_elim (page : Option Page) :
    numberFor page = page.elim 1 fun q => max q.number 1 := by
  cases page with
  | none => rfl
  | some q => exact numberFor_some q

theorem one_le_numberFor (page : Option Page) : 1 ≤ numberFor page := by
  cases page with
  | none => decide
  | some p => exact Int.le_max_right _ _

/-- **The number of a page is told by its window**, whatever integers its
fields hold. -/
theorem number?_offset (page : Option Page) :
    number? (offset page) (limit page) = some (numberFor page) := by
  have h := limit_ne_zero page
  rw [number?, if_neg h, offset, Int.mul_fdiv_cancel _ h]
  congr 1
  omega

theorem limit_getD (page : Option Page) : limit (some (page.getD {})) = limit page := by
  cases page <;> rfl

theorem numberFor_getD (page : Option Page) :
    numberFor (some (page.getD {})) = numberFor page := by
  cases page <;> rfl

theorem offset_getD (page : Option Page) : offset (some (page.getD {})) = offset page := by
  rw [offset, offset, limit_getD, numberFor_getD]

end Window

theorem Page.Sound.of_mem_some {page : Page} (h : page.Sound) : ∀ q ∈ some page, q.Sound := by
  rintro q ⟨⟩
  exact h

namespace Pager

/-! ### Batches -/

/-- How many rows a batch has that a page asks for: the size of the page, the
default one in place of zero, but no more than the largest size and fifty. An
absent page gets ten. -/
def batchSize (p : Pager) : Option Page → Int
  | some page => min (min (if page.size = 0 then p.defaultSize.rows else page.size) p.maxSize.rows) 50
  | none => 10

/-- The limit of a fitted page is the size of its batches. -/
theorem limit_fit (p : Pager) (page : Option Page) :
    Window.limit (page.map p.fit) = p.batchSize page := by
  cases page with
  | none => rfl
  | some q =>
    have hd := p.defaultSize.one_le_rows
    have hm := p.maxSize.one_le_rows
    simp only [Option.map_some, Window.limit, Window.sizeFor, fit, fitSize, batchSize,
      Window.usualLimit, Window.ceiling]
    split <;> split <;> omega

theorem numberFor_fit (p : Pager) (page : Option Page) :
    Window.numberFor (page.map p.fit) = Window.numberFor page := by
  cases page <;> rfl

theorem offset_fit (p : Pager) (page : Option Page) :
    Window.offset (page.map p.fit) = (Window.numberFor page - 1) * p.batchSize page := by
  rw [Window.offset, limit_fit, numberFor_fit]

theorem one_le_batchSize (p : Pager) {page : Option Page} (h : ∀ q ∈ page, q.Sound) :
    1 ≤ p.batchSize page := by
  cases page with
  | none => simp [batchSize]
  | some q =>
    have hq : 0 ≤ q.size := (h q rfl).1
    have hd := p.defaultSize.one_le_rows
    have hm := p.maxSize.one_le_rows
    simp only [batchSize]
    split <;> omega

/-- A page that asks for the size of a batch gets it. -/
theorem batchSize_of_size (p : Pager) {page q : Page} (h : page.Sound)
    (hq : q.size = p.batchSize (some page)) : p.batchSize (some q) = p.batchSize (some page) := by
  have h1 := p.one_le_batchSize h.of_mem_some
  rw [batchSize, hq, if_neg (by omega)]
  simp only [batchSize]
  omega

theorem batchSize_le_maxSize (p : Pager) (page : Page) :
    p.batchSize (some page) ≤ p.maxSize.rows := by
  simp only [batchSize]
  omega

end Pager
end Folio
