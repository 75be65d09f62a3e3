/-
# Making and changing pages

A page is made from a value that is checked, with eager defaults, with the keys
of another page, from the parameters of a request, or empty with fields
assigned to it. A page that shares keys holds the very keys of the other page;
what else that one holds in their place is checked. Nobody checks what is
assigned to a field later, except that the direction of a sort key has to be
one. All fields of a page or a key may be replaced at once.

Key definitions: `Assignment`, `KeyAssignment`, `PageSource`, `Desk.assign`,
`Desk.assignKey`, `Desk.place`.
-/
import Folio.Desk

namespace Folio

/-- A field of a page and what is assigned to it. -/
inductive Assignment where
  | size (v : Value)
  | number (v : Value)
  | more (v : Value)
  | column (v : Value)
  /-- Keys, each checked by itself. -/
  | checkedKeys (members : Value)
  /-- Whatever is taken for keys. -/
  | keys (v : Value)
  | other (field : String) (v : Value)

/-- A field of a sort key and what is assigned to it. -/
inductive KeyAssignment where
  | column (v : Value)
  | direction (v : Value)
  | other (field : String) (v : Value)

/-- A way to make a page. -/
inductive PageSource where
  /-- No page at all. -/
  | absent
  /-- A value, checked. -/
  | checked (data : Value)
  /-- Eager defaults, with new keys or those of another page. -/
  | eager (size number keys : Value) (shared : Option Value)
  /-- An empty page with the keys of another one. -/
  | sharing (name : Value)
  /-- The parameters of a request. -/
  | params (number size sort : Value)
  /-- An empty page with fields assigned. -/
  | assigned (assignments : List Assignment)

/-- Finds the page that a value is the name of. A name may stand for the absent
page. -/
abbrev Names : Type := Value → Except Failure (Option PageRef)

/-- The names where no page has one, so that asking for one makes no sense. -/
def Names.none : Names := fun _ => .error .badCall

/-! ### Assigning fields -/

/-- What assigning a field that is not listed leaves of a card. -/
def Card.assignOther (card : Card) (field : String) (v : Value) : Attempt Card :=
  match card.hidden.allow false field with
  | .error failure => ⟨card, some failure⟩
  | .ok _ =>
    match field, v with
    | "__dict__", .record fields => { left := card.replaced fields }
    | _, _ =>
      (Attempt.ofResult card.hidden (card.hidden.assign Page.model field v)).map fun hidden =>
        { card with hidden := hidden }

/-- What assigning keys leaves of a card. -/
def Card.assignKeys (card : Card) (keys : Keys) : Attempt Card :=
  card.put "order" fun card => { card with keys := some keys }

/-- What a value stands for in the place of a direction that is assigned. -/
def Heading.read (v : Value) : Except Failure Heading :=
  match v with
  | .null => .ok (.proper none)
  | .text s =>
    match Direction.ofKeyword? s with
    | some d => .ok (.proper (some d))
    | none => .error (.noSuchDirection v)
  | _ => .error (.noSuchDirection v)

namespace Slip

/-- The names of the fields. -/
def names : List String :=
  ["column", "order"]

/-- The slip with the fields of a record in place of all others. -/
def replaced (s : Slip) (fields : List (String × Value)) : Slip where
  column := fields.lookup "column"
  heading := (fields.lookup "order").map .other
  hidden := s.hidden.replaced names fields

/-- What assigning a field that is not listed leaves of a slip. -/
def assignOther (s : Slip) (field : String) (v : Value) : Attempt Slip :=
  match s.hidden.allow false field with
  | .error failure => ⟨s, some failure⟩
  | .ok _ =>
    match field, v with
    | "__dict__", .record fields => { left := s.replaced fields }
    | _, _ =>
      (Attempt.ofResult s.hidden (s.hidden.assign SortKey.model field v)).map fun hidden =>
        { s with hidden := hidden }

/-- What an assignment leaves of a slip. -/
def assign (s : Slip) : KeyAssignment → Attempt Slip
  | .column v => s.hidden.change "column" (fun s => { s with column := some v }) s
  | .direction v =>
    match Heading.read v with
    | .error failure => ⟨s, some failure⟩
    | .ok heading => s.hidden.change "order" (fun s => { s with heading := some heading }) s
  | .other field v => s.assignOther field v

end Slip

namespace Desk

/-- Sort keys from values, each checked by itself. -/
def newKeys : List Value → Except Rejection (List SortKey)
  | [] => .ok []
  | v :: rest =>
    match Checked.titled SortKey.model (SortKey.read v) with
    | .error rejection => .error rejection
    | .ok key => (newKeys rest).map (key :: ·)

/-- The desk after an attempt to change a card; an absent page is left
absent. -/
def change (d : Desk) (ref : Option PageRef) (f : Card → Attempt Card) : Attempt Desk :=
  match d.card? ref with
  | none => { left := d }
  | some card => (f card).map fun next => d.modify ref fun _ => next

/-- The desk after an attempt to assign a field of a page. -/
def assign (d : Desk) (ref : Option PageRef) : Assignment → Attempt Desk
  | .size v => d.change ref fun card => card.put "size" fun card => { card with size := some v }
  | .number v => d.change ref fun card => card.put "page" fun card => { card with number := some v }
  | .more v => d.change ref fun card => card.put "more" fun card => { card with more := some v }
  | .column v =>
    d.change ref fun card => card.put "column" fun card => { card with column := some v }
  | .checkedKeys members =>
    match members.spread with
    | none => ⟨d, some .badCall⟩
    | some values =>
      match newKeys values with
      | .error rejection => ⟨d, some (.rejected rejection)⟩
      | .ok keys =>
        let r := d.addKeys keys
        r.1.change ref fun card => card.assignKeys (.ofRefs r.2)
  | .keys v => d.change ref fun card => card.assignKeys (.ofValue v)
  | .other field v => d.change ref fun card => card.assignOther field v

/-- The desk after an attempt to assign several fields of a page. -/
def assignAll (d : Desk) (ref : Option PageRef) : List Assignment → Attempt Desk
  | [] => { left := d }
  | a :: rest => (d.assign ref a).andThen fun next => next.assignAll ref rest

/-- The failure of an assignment where there is no key. A direction is looked at
all the same. -/
def failureWithoutKey : KeyAssignment → Failure
  | .other "__class__" _ => .badCall
  | .other _ _ => .wrongKind
  | .column _ => .wrongKind
  | .direction v =>
    match Heading.read v with
    | .ok _ => .wrongKind
    | .error failure => failure

/-- The desk after an attempt to assign a field of a key of a page. -/
def assignKey (d : Desk) (ref : Option PageRef) (index : Value) (assignment : KeyAssignment) :
    Attempt Desk :=
  match d.keyAt ref index with
  | .error failure => ⟨d, some failure⟩
  | .ok (.value _) => ⟨d, some (failureWithoutKey assignment)⟩
  | .ok (.key key) =>
    match d.slip key with
    | .error failure => ⟨d, some failure⟩
    | .ok s => (s.assign assignment).map fun next => d.modifySlip key fun _ => next

/-! ### Making pages -/

/-- What the page of a name holds in the place of its keys. -/
def keysNamed (d : Desk) (named : Names) (name : Value) : Except Failure Keys :=
  (named name).bind d.keysOf

/-- The key that a member of a list refers to, or else a new one that it is read
as. -/
def readMember : Member → Checked (KeyRef ⊕ SortKey)
  | .key ref => .ok (.inl ref)
  | .value v => (SortKey.read v).map .inr

/-- The keys that members of a list refer to or are read as. -/
def readMembers (members : List Member) : Checked (List (KeyRef ⊕ SortKey)) :=
  (Checked.each readMember members).under (.field Page.KeysField.order.name)

/-- The keys in what a page holds in their place, which has to be a list. -/
def readKeys (keys : Keys) : Checked (List (KeyRef ⊕ SortKey)) :=
  match keys with
  | .listed members => readMembers members
  | .bare _ => (Checked.refuse .notList).under (.field Page.KeysField.order.name)

/-- References to all of several keys, of which the new ones are put on the
desk. -/
def refer (d : Desk) : List (KeyRef ⊕ SortKey) → Desk × List KeyRef
  | [] => (d, [])
  | .inl ref :: rest =>
    let r := d.refer rest
    (r.1, ref :: r.2)
  | .inr key :: rest =>
    let added := d.addKeys [key]
    let r := added.1.refer rest
    (r.1, added.2 ++ r.2)

/-- A checked page with new keys, put on the desk. -/
def placeNew (d : Desk) (page : Checked Page) : Except Failure (Desk × Option PageRef) :=
  match Checked.titled Page.model page with
  | .error rejection => .error (.rejected rejection)
  | .ok p => .ok ((d.addPage p).1, some (d.addPage p).2)

/-- A checked page that holds keys of another one, put on the desk. -/
def placeHolding (d : Desk) (page : Checked Page) (keys : Checked (List (KeyRef ⊕ SortKey))) :
    Except Failure (Desk × Option PageRef) :=
  match Checked.titled Page.model (page.zip keys) with
  | .error rejection => .error (.rejected rejection)
  | .ok r =>
    let held := d.refer r.2
    let placed := held.1.addCard (Card.ofPage r.1 held.2)
    .ok (placed.1, some placed.2)

/-- An eager page with new keys or those of another page, put on the desk. New
keys are checked also when they are not used. -/
def placeEager (d : Desk) (named : Names) (size number keys : Value) (shared : Option Value) :
    Except Failure (Desk × Option PageRef) :=
  match keys.spread with
  | none => .error .badCall
  | some values =>
    match newKeys values, shared with
    | .error rejection, _ => .error (.rejected rejection)
    | .ok keys, none => d.placeNew (Page.eager size number keys)
    | .ok _, some name => ((d.keysNamed named name).bind Keys.members).bind fun members =>
      d.placeHolding (Page.eager size number []) (readMembers members)

/-- A page made in some way, put on the desk. -/
def place (d : Desk) (named : Names) : PageSource → Except Failure (Desk × Option PageRef)
  | .absent => .ok (d, none)
  | .checked data => d.placeNew (Page.read data)
  | .params number size sort => d.placeNew (Page.ofParams number size sort)
  | .eager size number keys shared => d.placeEager named size number keys shared
  | .sharing name => (d.keysNamed named name).bind fun keys =>
    d.placeHolding (.ok {}) (readKeys keys)
  | .assigned assignments =>
    let r := d.addCard {}
    let x := r.1.assignAll (some r.2) assignments
    match x.failure with
    | some failure => .error failure
    | none => .ok (x.left, some r.2)

end Desk
end Folio
