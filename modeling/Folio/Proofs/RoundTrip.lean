/-
# What is written out is read back

The record of a key is read back as the key, and so is that of a page without numbers
below zero, under either name of its keys (`SortKey.read_dump`, `Page.read_dumpWith`).
Items of every kind are read back as well: what reading makes of a value, a number of a
numeral say, is taken as it is when it is read again (`ItemKind.read_dump`). A sound page
on a desk stays sound whatever pagers do with it, so the record of a listing with it is
read back with the page as it is by then (`Desk.listing_reads_back`).

What is written out in JSON is this record too, as long as all numbers are finite and no
item is nested too deeply (`Desk.listing_eq_ok_iff`).

Key definitions: `Value.isJson`, `Desk.ReadsBack`.
Key theorems: `Value.finite_of_isJson`, `SortKey.read_dump`, `Page.read_dumpWith`,
`ItemKind.read_dump`, `Listing.read_recordOf`, `Desk.dump_of_holds`,
`Desk.written_of_holds`, `Desk.listing_eq_ok_iff`, `Desk.listing_reads_back`.
-/
import Folio.Desk.Shown
import Folio.Proofs.Deployment
import Folio.Proofs.Request
import Folio.Proofs.Sanity

namespace Folio

/-! ### Values with finite numbers -/

namespace Value

mutual

/-- Can the value be written as JSON? All numbers in it have to be finite. -/
def isJson : Value → Bool
  | real x => x.isFinite
  | list items => areJson items
  | record fields => fieldsAreJson fields
  | _ => true

/-- Can several values be written as JSON? -/
def areJson : List Value → Bool
  | [] => true
  | v :: rest => isJson v && areJson rest

/-- Can the values of several fields be written as JSON? -/
def fieldsAreJson : List (String × Value) → Bool
  | [] => true
  | (_, v) :: rest => isJson v && fieldsAreJson rest

end

mutual

/-- A value with finite numbers has none that are left out. -/
theorem finite_of_isJson : ∀ v : Value, v.isJson = true → v.finite = v
  | null, _ => rfl
  | bool _, _ => rfl
  | int _, _ => rfl
  | text _, _ => rfl
  | real _, h => if_pos h
  | list items, h => congrArg list (finiteItems_of_areJson items h)
  | record fields, h => congrArg record (finiteFields_of_areJson fields h)

theorem finiteItems_of_areJson : ∀ items : List Value,
    areJson items = true → finiteItems items = items
  | [], _ => rfl
  | v :: rest, h => by
    rw [areJson, Bool.and_eq_true] at h
    rw [finiteItems, finite_of_isJson v h.1, finiteItems_of_areJson rest h.2]

theorem finiteFields_of_areJson : ∀ fields : List (String × Value),
    fieldsAreJson fields = true → finiteFields fields = fields
  | [], _ => rfl
  | (name, v) :: rest, h => by
    rw [fieldsAreJson, Bool.and_eq_true] at h
    rw [finiteFields, finite_of_isJson v h.1, finiteFields_of_areJson rest h.2]

end

theorem areJson_eq_all : ∀ items : List Value, areJson items = items.all isJson
  | [] => rfl
  | v :: rest => by rw [areJson, List.all_cons, areJson_eq_all rest]

end Value

/-! ### Keys and pages -/

theorem Checked.each_map {α β : Type} {check : β → Checked α} {write : α → β} {as : List α}
    (h : ∀ a ∈ as, check (write a) = .ok a) : each check (as.map write) = .ok as := by
  rw [each_eq_ok_iff, List.map_map]
  exact List.map_congr_left h

namespace SortKey

theorem read_dump (k : SortKey) : read k.dump = .ok k := by
  obtain ⟨column, direction⟩ := k
  rcases direction with - | - | - <;> rfl

theorem isJson_dump (k : SortKey) : k.dump.isJson = true := by
  obtain ⟨column, direction⟩ := k
  rcases direction with - | - | - <;> rfl

end SortKey

namespace Page

theorem gather_eq_ok_iff {size number : Checked Int} {more : Checked Bool}
    {column : Checked String} {keys : Checked (List SortKey)} {p : Page} :
    gather size number more column keys = .ok p ↔
      size = .ok p.size ∧ number = .ok p.number ∧ more = .ok p.more ∧
      column = .ok p.column ∧ keys = .ok p.keys := by
  rw [gather, Checked.map_eq_ok_iff]
  constructor
  · rintro ⟨r, hr, rfl⟩
    obtain ⟨hsize, hr⟩ := Checked.zip_eq_ok_iff.mp hr
    obtain ⟨hnumber, hr⟩ := Checked.zip_eq_ok_iff.mp hr
    obtain ⟨hmore, hr⟩ := Checked.zip_eq_ok_iff.mp hr
    exact ⟨hsize, hnumber, hmore, Checked.zip_eq_ok_iff.mp hr⟩
  · rintro ⟨rfl, rfl, rfl, rfl, rfl⟩
    exact ⟨(p.size, p.number, p.more, p.column, p.keys), rfl, rfl⟩

theorem nonneg_of_readField {fields : List (String × Value)} {name : String} {n : Int}
    (h : Value.readField fields name 0 (Value.readAtLeast 0) = .ok n) : 0 ≤ n := by
  unfold Value.readField at h
  split at h
  · cases h
    exact Int.le_refl 0
  · exact (Value.readAtLeast_eq_ok_iff.mp (Checked.under_eq_ok_iff.mp h)).2

/-- A page that was read has no numbers below zero. -/
theorem sound_of_read {v : Value} {p : Page} (h : read v = .ok p) : p.Sound := by
  unfold read at h
  split at h
  · obtain ⟨hsize, hnumber, -⟩ := gather_eq_ok_iff.mp h
    exact ⟨nonneg_of_readField hsize, nonneg_of_readField hnumber⟩
  · cases h

/-- **A sound page is read back** from its record, whichever of its names the keys
stand under. -/
theorem read_dumpWith {p : Page} (h : p.Sound) (field : KeysField) :
    read (p.dumpWith field) = .ok p := by
  have hkeys : Value.readList SortKey.read (.list (p.keys.map SortKey.dump)) = .ok p.keys :=
    Checked.each_map fun k _ => k.read_dump
  refine gather_eq_ok_iff.mpr
    ⟨Value.readField_int rfl h.1 0, Value.readField_int rfl h.2 0, rfl, rfl, ?_⟩
  cases field with
  | sort => exact Checked.under_eq_ok_iff.mpr hkeys
  | order => exact Checked.under_eq_ok_iff.mpr hkeys

theorem isJson_dumpWith (p : Page) (field : KeysField) : (p.dumpWith field).isJson = true := by
  have hkeys : Value.areJson (p.keys.map SortKey.dump) = true := by
    rw [Value.areJson_eq_all, List.all_map, List.all_eq_true]
    exact fun k _ => k.isJson_dump
  simp [dumpWith, recordOf, Value.isJson, Value.fieldsAreJson, hkeys]

end Page

/-! ### Items and listings -/

namespace ItemKind

/-- **What was read as an item is read back** from the item written out: a value that
reading has brought to its kind stays as it is. -/
theorem read_dump {kind : ItemKind} {v : Value} {item : Item} (h : kind.read v = .ok item) :
    kind.read item.dump = .ok item := by
  cases kind with
  | anything =>
    cases h
    rfl
  | int =>
    obtain ⟨n, -, rfl⟩ := Checked.map_eq_ok_iff.mp h
    rfl
  | text =>
    obtain ⟨s, -, rfl⟩ := Checked.map_eq_ok_iff.mp h
    rfl
  | bool =>
    obtain ⟨b, -, rfl⟩ := Checked.map_eq_ok_iff.mp h
    rfl
  | key =>
    obtain ⟨k, -, rfl⟩ := Checked.map_eq_ok_iff.mp h
    exact Checked.map_eq_ok_iff.mpr ⟨k, k.read_dump, rfl⟩
  | page =>
    obtain ⟨p, hp, rfl⟩ := Checked.map_eq_ok_iff.mp h
    exact Checked.map_eq_ok_iff.mpr ⟨p, Page.read_dumpWith (Page.sound_of_read hp) .sort, rfl⟩
  | intList =>
    obtain ⟨ns, -, rfl⟩ := Checked.map_eq_ok_iff.mp h
    exact Checked.map_eq_ok_iff.mpr ⟨ns, Checked.each_map fun n _ => rfl, rfl⟩

end ItemKind

theorem Checked.exists_of_each {α β : Type} {check : β → Checked α} {bs : List β} {as : List α}
    (h : each check bs = .ok as) : ∀ a ∈ as, ∃ b ∈ bs, check b = .ok a := by
  intro a ha
  have hmap : (.ok a : Checked α) ∈ bs.map check := by
    rw [each_eq_ok_iff.mp h]
    exact List.mem_map_of_mem ha
  exact List.mem_map.mp hmap

namespace Listing

theorem gather_eq_ok_iff {π : Type} {kind : ItemKind} {values : List Value} {page : Option π}
    {items : List Item} {r : π} :
    gather kind (.list values) page = .ok (items, r) ↔
      Checked.each kind.read values = .ok items ∧ page = some r := by
  rw [gather, Checked.titled_eq_ok_iff, Checked.zip_eq_ok_iff, ItemKind.readItems,
    Checked.under_eq_ok_iff]
  cases page with
  | none => simp [present, Checked.refuse, Checked.under]
  | some p => simp [present, Value.readList]

/-- A listing is read back when its items and its page are. -/
theorem read_recordOf {kind : ItemKind} {items : List Item} {v : Value} {page : Page}
    (hitems : ∀ item ∈ items, kind.read item.dump = .ok item) (hpage : Page.read v = .ok page) :
    read kind (recordOf items v) = .ok ⟨items, page⟩ := by
  have hlist : Value.readList kind.read (.list (items.map Item.dump)) = .ok items :=
    Checked.each_map hitems
  rw [read, Checked.titled_eq_ok_iff]
  refine Checked.map_eq_ok_iff.mpr ⟨(items, page), Checked.zip_eq_ok_iff.mpr ⟨?_, ?_⟩, rfl⟩
  · exact Checked.under_eq_ok_iff.mpr hlist
  · exact Checked.under_eq_ok_iff.mpr hpage

/-- Items whose numbers are finite are written out as they are, unless one of them is nested
too deeply. -/
theorem written_eq_ok_iff {items : List Item} {v : Value}
    (hitems : ∀ item ∈ items, item.dump.isJson = true) (hv : v.isJson = true) :
    written items v = .ok (recordOf items v) ↔ ∀ item ∈ items, item.isShallow = true := by
  have hrecord : (recordOf items v).isJson = true := by
    have hlist : Value.areJson (items.map Item.dump) = true := by
      rw [Value.areJson_eq_all, List.all_map, List.all_eq_true]
      exact hitems
    simp [recordOf, Value.isJson, Value.fieldsAreJson, hlist, hv]
  rw [written, Value.finite_of_isJson _ hrecord, ← List.all_eq_true]
  cases items.all Item.isShallow <;> simp

end Listing

/-! ### Pages on a desk -/

namespace Desk

variable {α : Type} {d : Desk} {ref : Option PageRef}

/-- What is made of the slips under some references is made of their keys. -/
theorem map_slips {β : Type} {refs : List KeyRef} {keys : List SortKey}
    (h : d.HoldsKeys refs keys) (f : Option Slip → β) :
    refs.map (fun r => f d.slips[r]?) = keys.map fun key => f (some (.ofKey key)) := by
  have hmap := congrArg (List.map f) h
  rwa [List.map_map, List.map_map] at hmap

/-- References and the keys that a desk holds under them, one by one. -/
theorem HoldsKeys.exists_pairs {refs : List KeyRef} {keys : List SortKey}
    (h : d.HoldsKeys refs keys) :
    ∃ pairs : List (KeyRef × SortKey), pairs.map Prod.fst = refs ∧ pairs.map Prod.snd = keys ∧
      ∀ r ∈ pairs, d.slips[r.1]? = some (.ofKey r.2) := by
  have hlength : refs.length = keys.length := by simpa using congrArg List.length h
  refine ⟨refs.zip keys, List.map_fst_zip hlength.le, List.map_snd_zip hlength.ge, fun r hr => ?_⟩
  obtain ⟨i, hi, rfl⟩ := List.mem_iff_getElem.mp hr
  have hi' : i < refs.length := by simp at hi; omega
  have hat := congrArg (·[i]?) h
  simpa [hi', ← hlength] using hat

/-- Keys that a desk holds are shown as these keys. -/
theorem keysValue_ofRefs {refs : List KeyRef} {keys : List SortKey} (h : d.HoldsKeys refs keys) :
    d.keysValue (.ofRefs refs) = .ok (.list (keys.map SortKey.dump)) := by
  obtain ⟨pairs, rfl, rfl, hpairs⟩ := h.exists_pairs
  have hvalues := congrArg (Except.map Value.list) (keyValues_refs d pairs hpairs)
  rw [Keys.ofRefs, List.map_map, List.map_map]
  exact hvalues

/-- A page that a desk holds is shown as the page. -/
theorem dump_of_holds {page : Page} (h : d.Holds ref (some page)) : d.dump ref = .ok page.dump := by
  obtain ⟨refs, hcard, hrefs⟩ := h
  have hthere : (Card.ofPage page refs).keysThere = .ok (.ofRefs refs) := rfl
  rw [dump, hcard]
  simp only [cardValue, hthere, Except.bind, keysValue_ofRefs hrefs]
  rfl

theorem slipFields_ofKey (key : SortKey) : Value.record (slipFields (.ofKey key)) = key.dump := by
  obtain ⟨column, direction⟩ := key
  rcases direction with - | - | - <;> rfl

theorem writtenKeys_ofRefs {refs : List KeyRef} {keys : List SortKey}
    (h : d.HoldsKeys refs keys) :
    d.writtenKeys (.ofRefs refs) = .list (keys.map SortKey.dump) := by
  have hkeys := map_slips h fun s => Value.record ((s.map slipFields).getD [])
  rw [Keys.ofRefs, writtenKeys, List.map_map]
  refine congrArg Value.list (hkeys.trans ?_)
  exact List.map_congr_left fun key _ => slipFields_ofKey key

theorem isShallow_heldBy {refs : List KeyRef} {keys : List SortKey}
    (h : d.HoldsKeys refs keys) {r : KeyRef} (hr : r ∈ refs) :
    (d.heldBy (.key r)).all Value.isShallow = true := by
  have hslip : d.slips[r]? ∈ keys.map fun key => some (Slip.ofKey key) := by
    rw [← h]
    exact List.mem_map_of_mem hr
  obtain ⟨⟨column, direction⟩, -, hkey⟩ := List.mem_map.mp hslip
  rw [heldBy, ← hkey]
  rcases direction with - | - | - <;> rfl

theorem held_ofPage (d : Desk) (page : Page) (refs : List KeyRef) :
    d.held (.ofPage page refs) =
      [.int page.size, .int page.number, .bool page.more, .text page.column] ++
        (refs.map Member.key).flatMap d.heldBy := rfl

theorem isShallow_held {page : Page} {refs : List KeyRef} (h : d.HoldsKeys refs page.keys) :
    (d.held (.ofPage page refs)).all Value.isShallow = true := by
  rw [held_ofPage, List.all_append, List.all_flatMap, List.all_map, Bool.and_eq_true]
  exact ⟨rfl, List.all_eq_true.mpr fun r hr => isShallow_heldBy h hr⟩

/-- A page that a desk holds is written out as the page. -/
theorem written_of_holds {page : Page} (h : d.Holds ref (some page)) :
    ∃ card, d.card? ref = some card ∧
      ∀ field, d.written field card = .ok (page.dumpWith field) := by
  obtain ⟨refs, hcard, hrefs⟩ := h
  refine ⟨_, hcard, fun field => ?_⟩
  have hfields : (Card.ofPage page refs).sequence.filterMap
      (d.writtenField? field (.ofPage page refs)) =
        [("size", .int page.size), ("page", .int page.number), ("more", .bool page.more),
          ("column", .text page.column), (field.name, .list (page.keys.map SortKey.dump))] := by
    rw [← writtenKeys_ofRefs hrefs]
    rfl
  rw [written, if_pos (isShallow_held hrefs), hfields]
  exact congrArg Except.ok (Value.finite_of_isJson _ (page.isJson_dumpWith field))

/-- A listing with a page that a desk holds is written out as its record, unless an item is
nested too deeply. -/
theorem listing_eq_ok_iff {page : Page} (h : d.Holds ref (some page)) {items : List Item}
    (hitems : ∀ item ∈ items, item.dump.isJson = true) :
    d.listing items ref = .ok (Listing.dump ⟨items, page⟩) ↔
      ∀ item ∈ items, item.isShallow = true := by
  obtain ⟨card, hcard, hwritten⟩ := written_of_holds h
  rw [listing, hcard]
  simp only [hwritten, Except.bind]
  exact Listing.written_eq_ok_iff hitems (page.isJson_dumpWith .sort)

/-- Is every listing that is put together of some values and a page on the desk read back
from its record, with its items and the page that the desk holds? -/
def ReadsBack (d : Desk) (ref : Option PageRef) (kind : ItemKind) (values : List Value) : Prop :=
  ∀ items r, Listing.gather kind (.list values) ref = .ok (items, r) →
    ∃ page v, d.Holds (some r) (some page) ∧ d.dump (some r) = .ok v ∧
      Listing.read kind (Listing.recordOf items v) = .ok ⟨items, page⟩

/-- A listing with a sound page that a desk holds is read back. -/
theorem readsBack_of_holds {page : Page} (h : d.Holds ref (some page)) (hpage : page.Sound)
    (kind : ItemKind) (values : List Value) : d.ReadsBack ref kind values := by
  intro items r hgather
  obtain ⟨hitems, rfl⟩ := Listing.gather_eq_ok_iff.mp hgather
  refine ⟨page, page.dump, h, dump_of_holds h, ?_⟩
  refine Listing.read_recordOf (fun item hitem => ?_) (Page.read_dumpWith hpage .sort)
  obtain ⟨v, -, hread⟩ := Checked.exists_of_each hitems item hitem
  exact ItemKind.read_dump hread

/-- **Listings are read back with the page as it is by then.** A page that was
checked stays sound whatever any pagers do with it and with other pages, in any
order. After that it is shown and written out as the page that it then is, and its
record is read back as this page under either name of its keys; and so is the record of
every listing with it, of items of any kind that were given as any values. -/
theorem listing_reads_back {page : Page} (h : d.Holds ref (some page)) (hpage : page.Sound)
    (steps : List (Step α)) :
    ∃ after card, (d.run steps).Holds ref (some after) ∧ after.Sound ∧
      (d.run steps).card? ref = some card ∧ (d.run steps).dump ref = .ok after.dump ∧
      (∀ field, (d.run steps).written field card = .ok (after.dumpWith field) ∧
        Page.read (after.dumpWith field) = .ok after) ∧
      ∀ kind values, (d.run steps).ReadsBack ref kind values := by
  obtain ⟨after, hafter, hsound⟩ := run_sound h hpage steps
  obtain ⟨card, hcard, hwritten⟩ := written_of_holds hafter
  exact ⟨after, card, hafter, hsound, hcard, dump_of_holds hafter,
    fun field => ⟨hwritten field, Page.read_dumpWith hsound field⟩,
    fun kind values => readsBack_of_holds hafter hsound kind values⟩

/-- Numerals are taken as whole numbers, and read back as such, in a listing with a
page that was narrowed, collected for and turned. -/
theorem listing_reads_back_turned :
    let page : Page := { size := 9, keys := [⟨"id", some .descending⟩] }
    let d : Desk := (({} : Desk).addPage page).1
    let steps : List (Step ℕ) := [⟨.reference, some 0, .narrow (.select {})⟩,
      ⟨.usual, some 0, .collect (List.range 13)⟩, ⟨.usual, some 0, .turn⟩]
    let values : List Value := [.text "12", .bool true, .int 3]
    let items : List Item := [.int 12, .int 1, .int 3]
    d.Holds (some 0) (some page) ∧ page.Sound ∧
      Listing.gather .int (.list values) (some 0) = .ok (items, 0) ∧
      ∃ after v, (d.run steps).Holds (some 0) (some after) ∧
        (d.run steps).dump (some 0) = .ok v ∧
        Listing.read .int (Listing.recordOf items v) = .ok ⟨items, after⟩ := by
  intro page d steps values items
  have hd : d.Holds (some 0) (some page) := addPage_holds {} page
  have hpage : page.Sound := by decide
  obtain ⟨after, card, -, -, -, -, -, hlistings⟩ := listing_reads_back hd hpage steps
  exact ⟨hd, hpage, rfl, hlistings .int values items 0 rfl⟩

end Desk
end Folio
