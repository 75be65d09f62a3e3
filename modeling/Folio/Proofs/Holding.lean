/-
# What a desk holds

The fields of a page on a desk may have been assigned values of any kind. As
long as they are numbers, a flag, a text and keys, the desk holds a page, and a
pager at work on the desk does with it what it does with the page: it writes the
same order clauses (`Desk.clauses_of_holds`), narrows a statement in the same way
(`Desk.narrow_of_holds`) and collects the same rows (`Desk.collect_of_holds`);
and what the desk holds afterwards is the page that the pager leaves. Every page
that is put on a desk is held.

Key definitions: `Desk.HoldsKeys`, `Desk.Holds`.
Key theorems: `Desk.Holds.unique`, `Desk.addPage_holds`, `Desk.clauses_of_holds`,
`Desk.narrow_of_holds`, `Desk.collect_of_holds`.
-/
import Folio.Desk.Work
import Folio.Proofs.Round

namespace Folio

/-- A card without anything on it has the window of an absent page. -/
theorem Card.window_empty :
    Card.window {} = .ok (.int (Window.limit none), .int (Window.offset none)) :=
  Card.window_ofPage {} []

namespace Desk

variable {α : Type} {d : Desk} {ref : Option PageRef}

/-! ### Changed cards -/

theorem card?_modify_self (d : Desk) (ref : Option PageRef) (f : Card → Card) :
    (d.modify ref f).card? ref = (d.card? ref).map f := by
  cases ref with
  | none => rfl
  | some r => rw [card?_modify, if_pos rfl]

theorem card?_modify_other (d : Desk) {ref other : Option PageRef} (h : other ≠ ref)
    (f : Card → Card) : (d.modify ref f).card? other = d.card? other := by
  cases ref with
  | none => rfl
  | some r =>
    cases other with
    | none => rfl
    | some s => rw [card?_modify, if_neg fun hrs => h (congrArg some hrs.symm)]

/-! ### What a desk holds -/

/-- Under some references lie the slips of some keys. -/
def HoldsKeys (d : Desk) (refs : List KeyRef) (keys : List SortKey) : Prop :=
  refs.map (d.slips[·]?) = keys.map fun key => some (.ofKey key)

/-- Under a reference lies the card of a page, or no card when the page is
absent. -/
def Holds (d : Desk) (ref : Option PageRef) : Option Page → Prop
  | none => d.card? ref = none
  | some page =>
    ∃ refs, d.card? ref = some (.ofPage page refs) ∧ d.HoldsKeys refs page.keys

theorem Holds.congr {d' : Desk} {page : Option Page} (h : d.Holds ref page)
    (hs : d'.slips = d.slips) (hc : d'.card? ref = d.card? ref) : d'.Holds ref page := by
  cases page with
  | none => exact hc.trans h
  | some page =>
    obtain ⟨refs, hcard, hrefs⟩ := h
    refine ⟨refs, hc.trans hcard, ?_⟩
    rw [HoldsKeys, hs]
    exact hrefs

theorem ofKey_injective : Function.Injective fun key => some (Slip.ofKey key) := by
  rintro ⟨column, direction⟩ ⟨column', direction'⟩ h
  simpa [Slip.ofKey, Slip.ofTerm, SortKey.term] using h

theorem ofRefs_injective : Function.Injective Keys.ofRefs := fun _ _ h =>
  List.map_injective_iff.mpr (fun _ _ => Member.key.inj) (Keys.listed.inj h)

/-- Under one reference a desk holds one page. -/
theorem Holds.unique {page next : Option Page} (h : d.Holds ref page) (h' : d.Holds ref next) :
    page = next := by
  cases page with
  | none =>
    cases next with
    | none => rfl
    | some next =>
      obtain ⟨refs, hcard, -⟩ := h'
      cases hcard.symm.trans h
  | some page =>
    obtain ⟨refs, hcard, hrefs⟩ := h
    cases next with
    | none => cases hcard.symm.trans h'
    | some next =>
      obtain ⟨refs', hcard', hrefs'⟩ := h'
      have hsame : Card.ofPage page refs = Card.ofPage next refs' :=
        Option.some.inj (hcard.symm.trans hcard')
      obtain ⟨hsize, hnumber, hmore, hcolumn, hlisted⟩ : page.size = next.size ∧
          page.number = next.number ∧ page.more = next.more ∧ page.column = next.column ∧
          Keys.ofRefs refs = Keys.ofRefs refs' := by simpa [Card.ofPage] using hsame
      obtain rfl := ofRefs_injective hlisted
      have hkeys : page.keys = next.keys :=
        List.map_injective_iff.mpr ofKey_injective (hrefs.symm.trans hrefs')
      cases page
      cases next
      simp only at hsize hnumber hmore hcolumn hkeys
      rw [hsize, hnumber, hmore, hcolumn, hkeys]

/-- A page with the same keys in the place of one that is held. -/
theorem holds_modify {page next : Page} {refs : List KeyRef}
    (hcard : d.card? ref = some (.ofPage page refs)) (hrefs : d.HoldsKeys refs page.keys)
    (hk : next.keys = page.keys) :
    (d.modify ref fun _ => .ofPage next refs).Holds ref (some next) := by
  refine ⟨refs, ?_, ?_⟩
  · rw [card?_modify_self, hcard, Option.map_some]
  · rw [HoldsKeys, slips_modify, hk]
    exact hrefs

/-- A page that is put on a desk is held. -/
theorem addPage_holds (d : Desk) (page : Page) :
    (d.addPage page).1.Holds (some (d.addPage page).2) (some page) := by
  refine ⟨(d.addKeys page.keys).2, ?_, ?_⟩
  · simp [addPage, addCard, addKeys, card?]
  · simp only [HoldsKeys, addPage, addCard, addKeys, List.map_map]
    apply List.ext_getElem
    · simp
    · intro i hi hi'
      simp at hi
      simp [hi]

/-! ### Order clauses -/

theorem defaultSpecsThere_configuration (p : Pager) :
    p.configuration.defaultSpecsThere =
      .ok ((p.defaultSpecs.map some).map KeyChoice.specValue) := by
  rw [List.map_map]
  rfl

theorem columnMapThere_configuration (p : Pager) :
    p.configuration.columnMapThere = .ok (p.columnMap.elim (.value .null) .map) := rfl

theorem texts_memberClause (d : Desk) (f : Argument) :
    ∀ (refs : List KeyRef) (keys : List SortKey), d.HoldsKeys refs keys →
      texts (d.memberClause f) (refs.map .key) = texts (fun key => clause f (.ofKey key)) keys
  | [], [], _ => rfl
  | ref :: refs, key :: keys, h => by
    simp only [HoldsKeys, List.map_cons, List.cons.injEq] at h
    have here : d.memberClause f (.key ref) = clause f (.ofKey key) := by
      simp [memberClause, slip, h.1, needed, Except.bind]
    simp only [List.map_cons, texts, here, texts_memberClause d f refs keys h.2]

/-- Keys that a desk holds have the clauses that the pager gives them. -/
theorem clausesOf_own (p : Pager) {refs : List KeyRef} {keys : List SortKey}
    (h : d.HoldsKeys refs keys) :
    d.clausesOf (p.columnMap.elim (.value .null) .map) (.own (.ofRefs refs)) =
      p.clausesOf (keys.map SortKey.term) :=
  (texts_memberClause d _ refs keys h).trans (clausesOf_fresh d p keys)

/-- A page that a desk holds is sorted by its own keys if it has any, else by its column. -/
theorem choice_of_refs {page : Page} {refs : List KeyRef}
    (hcard : d.card? ref = some (.ofPage page refs)) (hrefs : d.HoldsKeys refs page.keys)
    (defaults : List Value) :
    d.choice ref defaults =
      if page.keys = [] then choiceByColumn (.text page.column) defaults
      else { chosen := .ok (.own (.ofRefs refs)) } := by
  have hthere : (Card.ofPage page refs).keysThere = .ok (.ofRefs refs) := rfl
  have hcolumn : (Card.ofPage page refs).columnValue = .ok (.text page.column) := rfl
  simp only [choice, hcard, hthere, hcolumn]
  by_cases hkeys : page.keys = []
  · obtain rfl : refs = [] := by simpa [HoldsKeys, hkeys] using hrefs
    rw [if_pos hkeys]
    rfl
  · have hset : (Keys.ofRefs refs).isSet = true := by
      cases refs with
      | nil => exact absurd (by simpa [HoldsKeys] using hrefs.symm) hkeys
      | cons => rfl
    rw [if_neg hkeys, if_pos hset]

/-- A page that a desk holds is sorted by the keys that the page is sorted by. -/
theorem choice_of_holds (p : Pager) {page : Option Page} (h : d.Holds ref page) :
    ∃ chosen, d.choice ref ((p.defaultSpecs.map some).map KeyChoice.specValue) =
        ⟨(p.choice page).events, .ok chosen⟩ ∧
      d.clausesOf (p.columnMap.elim (.value .null) .map) chosen = p.clauses page := by
  cases page with
  | none =>
    have hc : d.card? ref = none := h
    refine ⟨.fresh (p.choice none).keys, ?_, clausesOf_fresh d p _⟩
    simp only [choice, hc, Choice.ofSpecs, sifted_text, Except.map]
    rfl
  | some page =>
    obtain ⟨refs, hcard, hrefs⟩ := h
    rw [choice_of_refs hcard hrefs]
    by_cases hkeys : page.keys = []
    · have hc : p.choice (some page) =
          KeyChoice.sift (KeyChoice.specsIn page.column (p.defaultSpecs.map some)) := by
        simp only [Pager.choice, KeyChoice.ofPage, if_pos hkeys, KeyChoice.specsFor]
      refine ⟨.fresh (p.choice (some page)).keys, ?_, clausesOf_fresh d p _⟩
      rw [if_pos hkeys, choiceByColumn_text, hc]
    · have hc : p.choice (some page) = { keys := page.keys, explicit := true } := by
        simp only [Pager.choice, KeyChoice.ofPage, if_neg hkeys]
      refine ⟨.own (.ofRefs refs), ?_, ?_⟩
      · rw [if_neg hkeys, hc]
        rfl
      · rw [clausesOf_own p hrefs, Pager.clauses, hc]

/-- **The clauses of a page that a desk holds are those that the pager gives
it.** -/
theorem clauses_of_holds (p : Pager) {page : Option Page} (h : d.Holds ref page) :
    d.clauses p.configuration ref = ((p.choice page).events, p.clauses page) := by
  obtain ⟨chosen, hchoice, hclauses⟩ := choice_of_holds p h
  simp only [clauses, defaultSpecsThere_configuration, columnMapThere_configuration, hchoice,
    Except.bind, hclauses]

/-! ### Narrowing -/

/-- **Narrowing does with a page that a desk holds what the pager does with the
page.** -/
theorem narrow_of_holds (p : Pager) {page : Option Page} (h : d.Holds ref page)
    (statement : Statement) :
    (d.narrow p.configuration statement ref).1.Holds ref (p.narrow statement page).page ∧
      (d.narrow p.configuration statement ref).2 =
        ⟨(p.narrow statement page).events, (p.narrow statement page).prepared⟩ := by
  cases page with
  | none =>
    have hc : d.card? ref = none := h
    simp only [narrow, hc, prepare, Card.window_empty, clauses_of_holds p h]
    exact ⟨h, rfl⟩
  | some page =>
    obtain ⟨refs, hcard, hrefs⟩ := h
    have hnext : (d.modify ref fun _ => .ofPage (p.fit page) refs).Holds ref (some (p.fit page)) :=
      holds_modify hcard hrefs rfl
    simp only [narrow, hcard, fitted_ofPage, prepare, Card.window_ofPage, clauses_of_holds p hnext]
    exact ⟨hnext, rfl⟩

/-! ### Collecting -/

theorem filed_ofPage (page : Page) (refs : List KeyRef) (rows : List α) :
    filed (.ofPage page refs) (.int (Window.limit (some page))) (.int (Window.offset (some page)))
        rows =
      (.ofPage (Pager.collect (some page) rows).page refs,
        ⟨(Pager.collect (some page) rows).events, (Pager.collect (some page) rows).rows⟩) := by
  have hn := Window.looseNumber?_int _ _ _ (Window.number?_offset (some page))
  have hk : kept (.int (Window.limit (some page)))
      (decide (Window.limit (some page) < rows.length)) rows =
        .ok (Pager.kept (some page) rows) := by
    simp only [kept, Number.whole?, Pager.kept, decide_eq_true_eq]
    split <;> rfl
  simp only [filed, Number.lt_int, hn, hk, Card.put, Card.ofPage, Hidden.change_nil, settled,
    Attempt.andThen, Pager.collect_eq]
  simp [Number.value, Except.toOption]

/-- **Collecting does with a page that a desk holds what a pager does with the
page.** -/
theorem collect_of_holds {page : Option Page} (h : d.Holds ref page) (rows : List α) :
    (d.collect ref (some rows)).1.Holds ref (page.map fun _ => (Pager.collect page rows).page) ∧
      (d.collect ref (some rows)).2 =
        ⟨(Pager.collect page rows).events, (Pager.collect page rows).rows⟩ := by
  cases page with
  | none =>
    have hc : d.card? ref = none := h
    have hf : filed {} (.int (Window.limit none)) (.int (Window.offset none)) rows =
        (.ofPage (Pager.collect none rows).page [],
          ⟨(Pager.collect none rows).events, (Pager.collect none rows).rows⟩) :=
      filed_ofPage {} [] rows
    simp only [collect, hc, Option.getD_none, Card.window_empty, hf, Option.map_none]
    refine ⟨?_, trivial⟩
    rw [Holds, card?_modify_self, hc]
    rfl
  | some page =>
    obtain ⟨refs, hcard, hrefs⟩ := h
    simp only [collect, hcard, Option.getD_some, Card.window_ofPage, filed_ofPage, Option.map_some]
    refine ⟨holds_modify hcard hrefs ?_, trivial⟩
    rw [Pager.collect_eq]
    rfl

end Desk
end Folio
