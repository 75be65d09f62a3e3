/-
# The window that holds a position

The windows of one limit follow each other without gaps and do not overlap, so that
every position lies in exactly one of them; this is the window whose number is found
for the position (`Window.number_locates`). Positions may be negative, and so may the
limit: the windows of a negative limit are those of the opposite one, seen from the
other side (`Window.number?_neg`). Windows without rows hold nothing, and no number is
found then.

For a page this says that the positions whose number is that of the page are those of
its window, and no others (`Window.number?_offset_add`).

Key theorems: `Window.number?_neg`, `Window.number?_eq_some_iff_of_pos`,
`Window.number?_eq_some_iff_of_neg`, `Window.number?_offset_add`,
`Window.number_locates`.
-/
import Folio.Proofs.Window
import Folio.Window

namespace Folio
namespace Window

variable {position L n : Int}

/-! ### Numbers of positions -/

theorem number?_eq_none_iff : number? position L = none ↔ L = 0 := by
  simp [number?]

theorem exists_number (position : Int) (h : L ≠ 0) : ∃ n, number? position L = some n :=
  ⟨_, if_neg h⟩

/-- From the other side every position is seen in the window that it lies in. -/
theorem number?_neg (position L : Int) : number? (-position) (-L) = number? position L := by
  rw [number?, number?, Int.neg_fdiv_neg]
  by_cases h : L = 0
  · rw [if_pos h, if_pos (by omega)]
  · rw [if_neg h, if_neg (by omega)]

/-- **The number of a position is that of the window that it lies in.** -/
theorem number?_eq_some_iff_of_pos (h : 0 < L) :
    number? position L = some n ↔ (n - 1) * L ≤ position ∧ position < n * L := by
  have hstop := stop_eq n L
  have hcomm := Int.mul_comm L (n - 1)
  rw [number?, if_neg (by omega), Option.some.injEq]
  constructor
  · intro hn
    -- the number is the quotient and one, and the remainder keeps within the window
    have hq : position.fdiv L = n - 1 := by omega
    obtain ⟨hsum, hleast, hless⟩ := (Int.fdiv_fmod_unique h).mp ⟨hq, rfl⟩
    omega
  · rintro ⟨hstart, hend⟩
    have hsum : position - (n - 1) * L + L * (n - 1) = position := by omega
    have hq := ((Int.fdiv_fmod_unique h).mpr ⟨hsum, by omega, by omega⟩).1
    omega

/-- Windows of a negative limit have their start where others have their end. -/
theorem number?_eq_some_iff_of_neg (h : L < 0) :
    number? position L = some n ↔ n * L < position ∧ position ≤ (n - 1) * L := by
  rw [← number?_neg, number?_eq_some_iff_of_pos (by omega), Int.mul_neg, Int.mul_neg]
  omega

/-! ### Windows of pages -/

/-- A position so many rows behind the start of a page has the number of the page exactly
if it is within the limit of the page. -/
theorem number?_offset_add {page : Option Page} (h : ∀ q ∈ page, 0 ≤ q.size) (i : Int) :
    number? (offset page + i) (limit page) = some (numberFor page) ↔ 0 ≤ i ∧ i < limit page := by
  have hlimit := one_le_limit h
  have hstop := stop_eq (numberFor page) (limit page)
  rw [number?_eq_some_iff_of_pos (by omega), offset]
  omega

/-! ### Numbers that may have a fraction -/

theorem looseNumber?_eq_ok_iff :
    looseNumber? (.int position) (.int L) = .ok (.int n) ↔ number? position L = some n := by
  simp only [looseNumber?, Number.whole?]
  cases number? position L <;> simp

theorem looseNumber?_eq_error_iff :
    looseNumber? (.int position) (.int L) = .error (.emptyWindow false) ↔ L = 0 := by
  have hnone : number? position L = none ↔ L = 0 := number?_eq_none_iff
  rw [← hnone]
  simp only [looseNumber?, Number.whole?]
  cases number? position L <;> simp

/-- **A number is found for a position if and only if windows have rows, and tells the only
window that holds the position**, whatever integers the position and the limit are. So
the rows in the window of a page, and no other ones, are found to belong to the page, as
long as its size is not negative. -/
theorem number_locates :
    (∀ position L : Int,
      let number := looseNumber? (.int position) (.int L)
      (number = .error (.emptyWindow false) ↔ L = 0) ∧
      (0 < L → ∃ n : Int, number = .ok (.int n) ∧
        ∀ k, (k - 1) * L ≤ position ∧ position < k * L ↔ k = n) ∧
      (L < 0 → ∃ n : Int, number = .ok (.int n) ∧
        ∀ k, k * L < position ∧ position ≤ (k - 1) * L ↔ k = n)) ∧
    ∀ page : Option Page, (∀ q ∈ page, 0 ≤ q.size) → ∀ i : Int,
      looseNumber? (.int (offset page + i)) (.int (limit page)) =
          .ok (.int (page.elim 1 fun q => max q.number 1)) ↔
        0 ≤ i ∧ i < limit page := by
  refine ⟨fun position L => ⟨looseNumber?_eq_error_iff, fun hpos => ?_, fun hneg => ?_⟩,
    fun page hpage i => ?_⟩
  · obtain ⟨n, hn⟩ := exists_number position hpos.ne'
    refine ⟨n, looseNumber?_eq_ok_iff.mpr hn, fun k => ?_⟩
    rw [← number?_eq_some_iff_of_pos hpos, hn, Option.some.injEq, eq_comm]
  · obtain ⟨n, hn⟩ := exists_number position hneg.ne
    refine ⟨n, looseNumber?_eq_ok_iff.mpr hn, fun k => ?_⟩
    rw [← number?_eq_some_iff_of_neg hneg, hn, Option.some.injEq, eq_comm]
  · rw [← numberFor_eq_elim, looseNumber?_eq_ok_iff, number?_offset_add hpage]

/-- Windows of minus three reach downwards, the one with number minus two from nine to
seven; that of number minus one under a limit of three reaches from minus six upwards. Of
the fourth page of nine rows the last one is the row 35. -/
theorem number_locates_backwards :
    let page : Page := { size := 9, number := 4 }
    (-3 : Int) < 0 ∧ looseNumber? (.int 7) (.int (-3)) = .ok (.int (-2)) ∧
      (0 : Int) < 3 ∧ looseNumber? (.int (-4)) (.int 3) = .ok (.int (-1)) ∧
      (∀ q ∈ some page, 0 ≤ q.size) ∧ looseNumber? (.int 35) (.int 9) = .ok (.int 4) ∧
      looseNumber? (.int 36) (.int 9) ≠ .ok (.int 4) := by
  intro page
  obtain ⟨hpositions, hpages⟩ := number_locates
  obtain ⟨m, hm, hm'⟩ := (hpositions 7 (-3)).2.2 (by decide)
  obtain ⟨n, hn, hn'⟩ := (hpositions (-4) 3).2.1 (by decide)
  obtain rfl : -2 = m := (hm' (-2)).mp (by decide)
  obtain rfl : -1 = n := (hn' (-1)).mp (by decide)
  have hpage : ∀ q ∈ some page, 0 ≤ q.size := by
    rintro q ⟨⟩
    decide
  refine ⟨by decide, hm, by decide, hn, hpage, (hpages _ hpage 8).mpr (by decide), ?_⟩
  exact mt (hpages _ hpage 9).mp (by decide)

end Window
end Folio
