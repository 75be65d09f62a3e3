/-
# Values that count as numbers

A whole number, a number with a fraction, and a boolean, which counts as one or
zero. Two numbers are compared exactly. Arithmetic on whole numbers is exact;
as soon as one of two numbers may have a fraction, both are taken in 64 bits,
which a whole number may be too large for. A number in 64 bits may be infinite,
or be no number that compares with any other.

Key definitions: `Number`, `Value.number?`, `Number.lt`, `Number.sum?`,
`Number.product?`, `Number.quotient?`.
Key theorems: `Number.lt_int`, `Number.sum?_int`, `Number.product?_int`,
`Number.quotient?_int`.
-/
import Folio.Value

namespace Folio

/-- A value that counts as a number. -/
inductive Number where
  | truth (b : Bool)
  | int (n : Int)
  | real (x : Binary64)
  deriving DecidableEq, Repr

/-- The number that a value is. -/
def Value.number? : Value → Option Number
  | bool b => some (.truth b)
  | int n => some (.int n)
  | real x => some (.real x)
  | _ => none

namespace Number

/-- The number as a value. -/
def value : Number → Value
  | truth b => .bool b
  | int n => .int n
  | real x => .real x

/-- The whole number that a truth value or a whole number is. -/
def whole? : Number → Option Int
  | truth b => some (if b then 1 else 0)
  | int n => some n
  | real _ => none

/-- Is the number zero? -/
def isZero : Number → Bool
  | truth b => !b
  | int n => n == 0
  | real x => x.isZero

/-- A finite number without its fraction. -/
def truncated? : Number → Option Int
  | real x => x.truncated?
  | n => n.whole?

/-! ### Order -/

/-- Where a number stands: before, among or behind the finite ones, and there
in units of the least magnitude. -/
def place? : Number → Option (Int × Int)
  | real (.finite negative units) => some (0, Binary64.withSign negative units)
  | real (.infinity negative) => some (if negative then -1 else 1, 0)
  | real .nan => none
  | n => n.whole?.map fun k => (0, k * Binary64.one)

/-- Is a number less than another one? -/
def lt (a b : Number) : Bool :=
  match a, b with
  | int m, int n => m < n
  | _, _ =>
    match a.place?, b.place? with
    | some x, some y => x.1 < y.1 || (x.1 == y.1 && x.2 < y.2)
    | _, _ => false

/-! ### Arithmetic -/

/-- The number that is greater by so much. -/
def plus (k : Int) : Number → Number
  | truth b => .int ((if b then 1 else 0) + k)
  | int n => .int (n + k)
  | real x => .real (x.add (.ofInt k))

/-- A whole number in 64 bits, unless it is too large. -/
def inBinary? (n : Int) : Option Binary64 :=
  if (Binary64.ofInt n).isFinite then some (.ofInt n) else none

/-- A number in 64 bits, unless it is too large. -/
def real? : Number → Option Binary64
  | real x => some x
  | n => n.whole?.bind inBinary?

/-- An operation on two numbers, given for whole numbers and for others. -/
def combined? (onInts : Int → Int → Int) (onReals : Binary64 → Binary64 → Binary64)
    (a b : Number) : Option Number :=
  match a.whole?, b.whole? with
  | some m, some n => some (.int (onInts m n))
  | _, _ =>
    match a.real?, b.real? with
    | some x, some y => some (.real (onReals x y))
    | _, _ => none

/-- A sum, unless a number is too large. -/
def sum? : Number → Number → Option Number :=
  combined? (· + ·) Binary64.add

/-- A product, unless a number is too large. -/
def product? : Number → Number → Option Number :=
  combined? (· * ·) Binary64.mul

/-- The greatest whole number that is not above a quotient, unless a number is
too large. -/
def quotient? : Number → Number → Option Number :=
  combined? Int.fdiv Binary64.floorQuotient

@[simp] theorem lt_int (m n : Int) : lt (.int m) (.int n) = decide (m < n) := rfl

@[simp] theorem plus_int (k n : Int) : plus k (.int n) = .int (n + k) := rfl

@[simp] theorem sum?_int (m n : Int) : sum? (.int m) (.int n) = some (.int (m + n)) := rfl

@[simp] theorem product?_int (m n : Int) : product? (.int m) (.int n) = some (.int (m * n)) := rfl

@[simp] theorem quotient?_int (m n : Int) :
    quotient? (.int m) (.int n) = some (.int (Int.fdiv m n)) := rfl

end Number
end Folio
