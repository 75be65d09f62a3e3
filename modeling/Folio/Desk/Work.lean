/-
# Pagers at work on a desk

Any number of pagers may work on the pages of one desk. Narrowing a statement
changes nothing on it but the size of the page, also when it fails; collecting
rows changes nothing but the size, the number and the flag. The keys on the
desk, and which of them a page holds, are left alone. A page whose size or
number is no number has no window, and one whose column is no text has no
specs: what needs them fails. Rows that nobody can count are wanted in vain.

Key definitions: `Desk.choice`, `Desk.clauses`, `Desk.window`, `Desk.narrow`,
`Desk.collect`, `Desk.appendKey`.
Key theorems: `Desk.sifted_text`, `Desk.choiceByColumn_text`,
`Desk.clausesOf_fresh`, `Desk.fitted_ofPage`.
-/
import Folio.Desk.Source
import Folio.Pager.Work
import Folio.Pager.Configuration

namespace Folio
namespace Desk

variable {α : Type}

/-! ### Order -/

/-- What a page is sorted by: what it holds in the place of its keys, or new
keys. -/
inductive Chosen where
  | own (keys : Keys)
  | fresh (keys : List SortKey)

/-- The events reported while it is found what a page is sorted by, and what
that is. -/
structure Choice where
  events : List Event := []
  chosen : Except Failure Chosen

/-- The key of the spec that a value is, if it names a column. A value that says
nothing is a spec that names none. -/
def keyOf? (v : Value) : Except Failure (Option SortKey) :=
  match v with
  | .text s => .ok (SortKey.ofSpec? s)
  | v => if v.isSet then .error .badCall else .ok none

/-- The keys of those specs that name a column, and the events that report the
others, up to the first value that is no spec. -/
def sifted : List Value → List Event × Except Failure (List SortKey)
  | [] => ([], .ok [])
  | v :: rest =>
    match keyOf? v with
    | .error failure => ([], .error failure)
    | .ok none =>
      let others := sifted rest
      (.specIgnored v :: others.1, others.2)
    | .ok (some key) =>
      let others := sifted rest
      (others.1, others.2.map (key :: ·))

/-- The choice of the keys of some specs. -/
def Choice.ofSpecs (specs : List Value) : Choice :=
  ⟨(sifted specs).1, (sifted specs).2.map .fresh⟩

/-- A choice that fails. -/
def Choice.failed (failure : Failure) : Choice :=
  { chosen := .error failure }

/-- What a page without keys of its own is sorted by. -/
def choiceByColumn (column : Value) (defaults : List Value) : Choice :=
  if column.isSet then
    match column with
    | .text s => .ofSpecs ((Text.commaParts s).map .text)
    | _ => .failed .wrongKind
  else .ofSpecs defaults

/-- What a page is sorted by when the given specs are the default. -/
def choice (d : Desk) (ref : Option PageRef) (defaults : List Value) : Choice :=
  match d.card? ref with
  | none => .ofSpecs defaults
  | some card =>
    match card.keysThere with
    | .error failure => .failed failure
    | .ok keys =>
      if keys.isSet then { chosen := .ok (.own keys) }
      else
        match card.columnValue with
        | .error failure => .failed failure
        | .ok column => choiceByColumn column defaults

/-- Texts and nulls as specs are sifted as the specs of a page are. -/
theorem sifted_text : ∀ specs : List (Option String),
    sifted (specs.map KeyChoice.specValue) =
      ((KeyChoice.sift specs).events, .ok (KeyChoice.sift specs).keys)
  | [] => rfl
  | none :: rest => by
    simp [sifted, KeyChoice.specValue, keyOf?, Value.isSet, sifted_text rest, KeyChoice.sift,
      KeyChoice.keyOf?, KeyChoice.events]
  | some s :: rest => by
    cases h : SortKey.ofSpec? s <;>
      simp [sifted, KeyChoice.specValue, keyOf?, sifted_text rest, KeyChoice.sift,
        KeyChoice.keyOf?, KeyChoice.events, h, Except.map]

/-- A text as a column counts as the column of a page does. -/
theorem choiceByColumn_text (s : String) (specs : List (Option String)) :
    choiceByColumn (.text s) (specs.map KeyChoice.specValue) =
      ⟨(KeyChoice.sift (KeyChoice.specsIn s specs)).events,
        .ok (.fresh (KeyChoice.sift (KeyChoice.specsIn s specs)).keys)⟩ := by
  by_cases h : s = ""
  · simp [choiceByColumn, Value.isSet, KeyChoice.specsIn, h, Choice.ofSpecs, sifted_text,
      Except.map]
  · have specs : KeyChoice.specValue ∘ some = Value.text := rfl
    have := sifted_text ((Text.commaParts s).map some)
    rw [List.map_map, specs] at this
    simp [choiceByColumn, Value.isSet, KeyChoice.specsIn, h, Choice.ofSpecs, this, Except.map]

/-! ### Order clauses -/

/-- The order clause of a slip. A column that says nothing is written without
asking for a direction. -/
def slipClause (s : Slip) : Except Failure String :=
  s.columnValue.bind fun column =>
    match s.headingThere with
    | .ok (.proper d) => Pager.written ⟨column, d⟩
    | heading =>
      if !column.isSet then .ok ""
      else heading.bind fun heading =>
        if column.isWritable then heading.direction?.bind fun d => Pager.written ⟨column, d⟩
        else .error .tooManyDigits

/-- The slip with its column sent through what is given for a column map. -/
def mapped (f : Argument) (s : Slip) : Except Failure Slip :=
  s.columnValue.bind fun column =>
    match f with
    | .value _ => .error .badCall
    | .map f =>
      match f column, s.hidden.copied "column" with
      | .error fault, _ => .error (.column fault)
      | .ok _, some failure => .error failure
      | .ok column, none => .ok { s with column := some column }

/-- The order clause of a slip, its column sent through the map if there is
one. -/
def clause (f : Argument) (s : Slip) : Except Failure String :=
  if f.isNull then slipClause s else (mapped f s).bind slipClause

/-- The order clause of what stands in the place of a key. What is no key is
written as it is, but cannot be sent through a column map. -/
def memberClause (d : Desk) (f : Argument) : Member → Except Failure String
  | .key ref => (d.slip ref).bind (clause f)
  | .value v =>
    if !f.isNull then .error .wrongKind
    else if v.isWritable then .ok v.plain
    else .error .tooManyDigits

/-- Several texts, or the failure of the first that there is not. -/
def texts {β : Type} (text : β → Except Failure String) : List β → Except Failure (List String)
  | [] => .ok []
  | b :: rest =>
    match text b with
    | .error failure => .error failure
    | .ok s => (texts text rest).map (s :: ·)

/-- The order clauses of what a page is sorted by. -/
def clausesOf (d : Desk) (f : Argument) : Chosen → Except Failure (List String)
  | .own keys => keys.members.bind (texts (d.memberClause f))
  | .fresh keys => texts (fun key => clause f (.ofKey key)) keys

/-- The number of keys chosen, if they can be counted. -/
def Chosen.count : Chosen → Except Failure Nat
  | .own keys => keys.members.map List.length
  | .fresh keys => .ok keys.length

/-- The events that a pager reports when it writes the order clauses of a page,
and the clauses. The column map is asked for with the first key. -/
def clauses (d : Desk) (c : Configuration) (ref : Option PageRef) :
    List Event × Except Failure (List String) :=
  match c.defaultSpecsThere with
  | .error failure => ([], .error failure)
  | .ok defaults =>
    let choice := d.choice ref defaults
    (choice.events, choice.chosen.bind fun chosen =>
      match c.columnMapThere with
      | .ok f => d.clausesOf f chosen
      | .error failure => chosen.count.bind fun n => if n = 0 then .ok [] else .error failure)

/-- The slip of a term has the clause that the pager gives the term. -/
theorem clause_ofTerm (p : Pager) (t : OrderTerm) :
    clause (p.columnMap.elim (.value .null) .map) (.ofTerm t) = p.clause t := by
  cases h : p.columnMap with
  | none => simp [clause, Pager.clause, h, Argument.isNull, Value.isNull, slipClause, Except.bind]
  | some f =>
    simp only [clause, Pager.clause, h, Argument.isNull, Option.elim, Bool.false_eq_true, if_false,
      mapped, Slip.columnValue_ofTerm, OrderTerm.mapped]
    cases mapped : f t.column <;>
      simp [mapped, Except.bind, Except.map, Hidden.copied, Hidden.has, Hidden.spoils, slipClause,
        Slip.ofTerm, Slip.columnValue, Slip.headingThere]

/-- The clauses of several terms one by one. -/
theorem texts_clause (p : Pager) : ∀ keys : List SortKey,
    texts (fun key => p.clause key.term) keys = p.clausesOf (keys.map SortKey.term)
  | [] => rfl
  | key :: rest => by
    simp only [texts, List.map_cons, texts_clause p rest, Pager.clausesOf]
    cases p.clause key.term with
    | error failure => rfl
    | ok text => cases p.clausesOf (rest.map SortKey.term) <;> rfl

/-- New keys have the clauses that the pager gives them. -/
theorem clausesOf_fresh (d : Desk) (p : Pager) (keys : List SortKey) :
    d.clausesOf (p.columnMap.elim (.value .null) .map) (.fresh keys) =
      p.clausesOf (keys.map SortKey.term) := by
  have h : (fun key => clause (p.columnMap.elim (.value .null) .map) (.ofKey key)) =
      fun key : SortKey => p.clause key.term := funext fun key => clause_ofTerm p key.term
  rw [clausesOf, h, texts_clause]

/-! ### Appending -/

/-- The desk with a new key behind what a page is sorted by. What is not the
page's own is forgotten. -/
def appendKey (d : Desk) (ref : Option PageRef) (chosen : Chosen) (key : SortKey) :
    Except Failure Desk :=
  match chosen with
  | .fresh _ => .ok d
  | .own (.bare _) => .error .wrongKind
  | .own (.listed members) =>
    let r := d.addKeys [key]
    .ok (r.1.modify ref fun card =>
      { card with keys := some (.listed (members ++ r.2.map .key)) })

/-! ### Windows -/

/-- The limit and the offset of a page. -/
def window (d : Desk) (ref : Option PageRef) : Except Failure (Number × Number) :=
  ((d.card? ref).getD {}).window

/-! ### Narrowing -/

/-- Is a value greater than another one, if the two can be compared? -/
def exceeds? (v w : Value) : Option Bool :=
  match v, w with
  | .text s, .text t => some (decide (t < s))
  | _, _ =>
    match v.number?, w.number? with
    | some a, some b => some (b.lt a)
    | _, _ => none

/-- The card after an attempt to assign an option as its size. -/
def resized (option : Except Failure Value) (card : Card) : Attempt Card :=
  match option with
  | .error failure => ⟨card, some failure⟩
  | .ok v => card.put "size" fun card => { card with size := some v }

/-- The card with the default size in place of a size of zero. -/
def filled (c : Configuration) (card : Card) : Attempt Card :=
  match card.sizeValue with
  | .error failure => ⟨card, some failure⟩
  | .ok size => if size.isZero then resized c.defaultSizeValue card else { left := card }

/-- The card with the largest size in place of a larger one. -/
def capped (c : Configuration) (card : Card) : Attempt Card :=
  match card.sizeValue, c.maxSizeValue with
  | .error failure, _ => ⟨card, some failure⟩
  | .ok _, .error failure => ⟨card, some failure⟩
  | .ok size, .ok most =>
    match exceeds? size most with
    | none => ⟨card, some .badCall⟩
    | some true => resized c.maxSizeValue card
    | some false => { left := card }

/-- The card with a size the pager allows. A size that is allowed stays as it was
assigned. -/
def fitted (c : Configuration) (card : Card) : Attempt Card :=
  (filled c card).andThen (capped c)

theorem resized_ofPage (n : Int) (page : Page) (keys : List KeyRef) :
    resized (.ok (.int n)) (.ofPage page keys) =
      { left := .ofPage { page with size := n } keys } := by
  simp [resized, Card.put, Card.ofPage]

theorem filled_ofPage (p : Pager) (page : Page) (keys : List KeyRef) :
    filled p.configuration (.ofPage page keys) =
      { left := .ofPage { page with
        size := if page.size = 0 then p.defaultSize.rows else page.size } keys } := by
  by_cases h : page.size = 0
  · simp [filled, Card.ofPage, Card.sizeValue, Value.isZero, h, Pager.configuration,
      Configuration.defaultSizeValue, resized, Card.put]
  · simp [filled, Card.ofPage, Card.sizeValue, Value.isZero, h]

theorem capped_ofPage (p : Pager) (page : Page) (keys : List KeyRef) :
    capped p.configuration (.ofPage page keys) =
      { left := .ofPage { page with size := min page.size p.maxSize.rows } keys } := by
  by_cases h : p.maxSize.rows < page.size
  · have least : min page.size p.maxSize.rows = p.maxSize.rows := by omega
    rw [least, ← resized_ofPage]
    simp [capped, Card.ofPage, Card.sizeValue, Pager.configuration, Configuration.maxSizeValue,
      exceeds?, Value.number?, h]
  · have least : min page.size p.maxSize.rows = page.size := by omega
    rw [least]
    simp [capped, Card.ofPage, Card.sizeValue, Pager.configuration, Configuration.maxSizeValue,
      exceeds?, Value.number?, h]

/-- The card of a page is fitted as the page is. -/
theorem fitted_ofPage (p : Pager) (page : Page) (keys : List KeyRef) :
    fitted p.configuration (.ofPage page keys) = { left := .ofPage (p.fit page) keys } := by
  simp [fitted, Attempt.andThen, filled_ofPage, capped_ofPage, Pager.fit, Pager.fitSize]

/-- What narrowing a statement reports, and what it gives. -/
structure Narrowed where
  events : List Event := []
  prepared : Except Failure Pager.Prepared

/-- Narrows a statement to the window of a card, ordered as its page is. -/
def prepare (d : Desk) (c : Configuration) (statement : Statement) (ref : Option PageRef)
    (card : Card) : Narrowed :=
  match card.window with
  | .error failure => { prepared := .error failure }
  | .ok (limit, offset) =>
    let ordered := d.clauses c ref
    let r := Pager.prepare statement limit offset ordered.1 ordered.2
    ⟨r.1, r.2⟩

/-- Narrows a statement to the window of a page on the desk. -/
def narrow (d : Desk) (c : Configuration) (statement : Statement) (ref : Option PageRef) :
    Desk × Narrowed :=
  match d.card? ref with
  | none => (d, d.prepare c statement ref {})
  | some card =>
    let x := fitted c card
    let next := d.modify ref fun _ => x.left
    match x.failure with
    | some failure => (next, { prepared := .error failure })
    | none => (next, next.prepare c statement ref x.left)

/-! ### Collecting -/

/-- What collecting rows reports, and the rows kept. -/
structure Collected (α : Type) where
  events : List Event := []
  rows : Except Failure (List α)

/-- The rows kept under a limit, if any are left out: their count then has to
be a whole number. -/
def kept (limit : Number) (more : Bool) (rows : List α) : Except Failure (List α) :=
  if more then
    match limit.whole? with
    | some n => .ok (Pager.leading n rows)
    | none => .error .badCall
  else .ok rows

/-- The card after an attempt to bring it to a window: its size becomes the
limit, and its number the one whose window starts at the offset. -/
def settled (card : Card) (limit : Number) (number : Except Failure Number) : Attempt Card :=
  (card.put "size" fun card => { card with size := some limit.value }).andThen fun card =>
    match number with
    | .error failure => ⟨card, some failure⟩
    | .ok number => card.put "page" fun card => { card with number := some number.value }

/-- What collecting rows under a window leaves of a card, and what it gives. -/
def filed (card : Card) (limit offset : Number) (rows : List α) : Card × Collected α :=
  let more := limit.lt (.int rows.length)
  let flagged := card.put "more" fun card => { card with more := some (.bool more) }
  let number := Window.looseNumber? offset limit
  match flagged.failure, kept limit more rows with
  | some failure, _ => (flagged.left, { rows := .error failure })
  | none, .error failure => (flagged.left, { rows := .error failure })
  | none, .ok rows =>
    let x := settled flagged.left limit number
    (x.left,
      match x.failure with
      | some failure => { rows := .error failure }
      | none =>
        { events := number.toOption.toList.map fun number =>
            .resultPrepared rows.length number more
          rows := .ok rows })

/-- Collects the rows fetched for a page on the desk, if there are any. -/
def collect (d : Desk) (ref : Option PageRef) (rows : Option (List α)) : Desk × Collected α :=
  let card := (d.card? ref).getD {}
  match card.window, rows with
  | .error failure, _ => (d, { rows := .error failure })
  | .ok _, none => (d, { rows := .error .badCall })
  | .ok (limit, offset), some rows =>
    let r := filed card limit offset rows
    (d.modify ref fun _ => r.1, r.2)

end Desk
end Folio
