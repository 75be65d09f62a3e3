/-
# The window of a page

A page is shown through a window of rows: at most `limit` of them, the first
`offset` skipped. The limit is the size of the page, ten when there is none,
and never more than fifty; the offset is a whole number of limits. Integers of
either sign are covered, since fields may be assigned any number.

A size and a number may also be assigned with a fraction. The window is found
in the same way then, but the offset is a number of limits that need not be
whole. A number that was assigned stays as it is unless another one takes its
place.

Key definitions: `Window.limit`, `Window.offset`, `Window.number?`,
`Window.looseLimit`, `Window.looseOffset?`, `Window.looseNumber?`.
Key theorems: `Window.looseLimit_int`, `Window.looseOffset?_int`,
`Window.looseNumber?_int`.
-/
import Folio.Failure
import Folio.Page

namespace Folio
namespace Window

/-! ### Whole numbers -/

/-- The limit of a page that gives no size. -/
def usualLimit : Int := 10

/-- The highest limit of all. -/
def ceiling : Int := 50

/-- The size a page asks for. -/
def sizeFor (page : Option Page) : Int :=
  match page with
  | some p => if p.size = 0 then usualLimit else p.size
  | none => usualLimit

/-- How many rows a page shows. -/
def limit (page : Option Page) : Int :=
  min (sizeFor page) ceiling

/-- The number a page asks for, one when there is none or a lower one. -/
def numberFor (page : Option Page) : Int :=
  match page with
  | some p => max (if p.number = 0 then 1 else p.number) 1
  | none => 1

/-- How many rows come before those of a page. -/
def offset (page : Option Page) : Int :=
  (numberFor page - 1) * limit page

/-- The number of the page whose window holds an offset, counting from one;
`none` when the limit is zero. -/
def number? (offset limit : Int) : Option Int :=
  if limit = 0 then none else some (1 + offset.fdiv limit)

/-! ### Numbers of any kind -/

/-- How many rows a page of some size shows. -/
def looseLimit (size : Number) : Number :=
  let asked := if size.isZero then .int usualLimit else size
  if (Number.int ceiling).lt asked then .int ceiling else asked

/-- The number a page counts as. -/
def looseTurn (number : Number) : Number :=
  let asked := if number.isZero then .int 1 else number
  if asked.lt (.int 1) then .int 1 else asked

/-- How many rows come before those of a page, unless a number is too large. -/
def looseOffset? (number size : Number) : Option Number :=
  ((looseTurn number).plus (-1)).product? (looseLimit size)

/-- The number of the page whose window holds an offset. -/
def looseNumber? (offset limit : Number) : Except Failure Number :=
  match offset.whole?, limit.whole? with
  | some m, some n =>
    match number? m n with
    | some k => .ok (.int k)
    | none => .error (.emptyWindow false)
  | _, _ =>
    match offset.real?, limit.real? with
    | some _, some y =>
      if y.isZero then .error (.emptyWindow true)
      else
        match offset.quotient? limit with
        | some q => .ok (q.plus 1)
        | none => .error .tooLarge
    | _, _ => .error .tooLarge

/-! ### Whole numbers among them -/

theorem looseLimit_int (p : Page) : looseLimit (.int p.size) = .int (limit (some p)) := by
  by_cases h : p.size = 0
  · simp only [looseLimit, Number.isZero, limit, sizeFor, h]
    rfl
  · simp only [looseLimit, Number.isZero, limit, sizeFor, h, beq_iff_eq, if_false,
      Number.lt_int, decide_eq_true_eq]
    split <;> simp only [Number.int.injEq] <;> omega

theorem looseTurn_int (p : Page) : looseTurn (.int p.number) = .int (numberFor (some p)) := by
  by_cases h : p.number = 0
  · simp [looseTurn, Number.isZero, numberFor, h]
  · simp only [looseTurn, Number.isZero, numberFor, h, beq_iff_eq, if_false,
      Number.lt_int, decide_eq_true_eq]
    split <;> simp only [Number.int.injEq] <;> omega

theorem looseOffset?_int (p : Page) :
    looseOffset? (.int p.number) (.int p.size) = some (.int (offset (some p))) := by
  simp [looseOffset?, looseLimit_int, looseTurn_int, offset, Int.sub_eq_add_neg]

theorem looseNumber?_int (m n k : Int) (h : number? m n = some k) :
    looseNumber? (.int m) (.int n) = .ok (.int k) := by
  simp [looseNumber?, Number.whole?, h]

end Window
end Folio
