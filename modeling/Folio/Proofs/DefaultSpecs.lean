/-
# Specs by default and specs in a column

Specs reach a pager in two ways: one by one as its default specs, which count for a
page that says nothing about its order, or in the column of a page with a comma
between each two. They are read in the same way: the same ones are taken and the same
ones ignored, in the same order, and the clauses are the same
(`Desk.specs_in_column`). A list of specs can be told from its text unless it is empty,
has a comma within a spec, or is a single empty spec: the text of this one is empty,
so that the default specs of the other pager would count instead
(`CommaSeparated.ne_empty_iff`).

Key definitions: `Joinable`, `Page.Plain`, `Pager.ignored`.
Key theorems: `CommaSeparated.ne_empty_iff`, `Pager.clausesOf_columnMap`,
`Pager.events_sift`, `Desk.choice_column`, `Desk.specs_in_column`.
-/
import Folio.Proofs.Ordering

namespace Folio

/-! ### Specs as one text -/

/-- The text of some parts is empty only if they are a single empty one. -/
theorem CommaSeparated.ne_empty_iff {text : String} {parts : List String}
    (h : CommaSeparated text parts) : text ≠ "" ↔ parts ≠ [""] := by
  rw [not_iff_not]
  constructor
  · rintro rfl
    exact commaSeparated_iff.mp h
  · rintro rfl
    rw [← h.intercalate, String.intercalate_singleton]

/-- Specs that can be told from their text. -/
structure Joinable (specs : List String) : Prop where
  ne_nil : specs ≠ []
  ne_blank : specs ≠ [""]
  not_mem : ∀ spec ∈ specs, ',' ∉ spec.toList

theorem Joinable.commaSeparated {specs : List String} (h : Joinable specs) :
    CommaSeparated (",".intercalate specs) specs :=
  ⟨h.ne_nil, rfl, h.not_mem⟩

theorem Joinable.intercalate_ne {specs : List String} (h : Joinable specs) :
    ",".intercalate specs ≠ "" :=
  h.commaSeparated.ne_empty_iff.mpr h.ne_blank

/-- A page that says nothing about its order: it has no keys and no column. -/
def Page.Plain (page : Page) : Prop :=
  page.keys = [] ∧ page.column = ""

/-! ### What is made of specs -/

namespace Pager

/-- The clauses of some terms depend on nothing but the column map. -/
theorem clausesOf_columnMap {p q : Pager} (h : q.columnMap = p.columnMap)
    (terms : List OrderTerm) : q.clausesOf terms = p.clausesOf terms := by
  induction terms with
  | nil => rfl
  | cons term rest ih =>
    have hclause : q.clause term = p.clause term := by rw [clause, clause, h]
    rw [clausesOf, clausesOf, hclause, ih]

/-- The reports on those of some specs that are ignored. -/
def ignored (specs : List String) : List Event :=
  (specs.filter fun spec => (SortKey.ofSpec? spec).isNone).map fun spec =>
    .specIgnored (.text spec)

theorem events_sift (specs : List String) :
    (KeyChoice.sift (specs.map some)).events = ignored specs := by
  rw [KeyChoice.events, KeyChoice.sift_ignored, List.filter_map, List.map_map, ignored]
  rfl

end Pager

namespace Desk

variable {d d' : Desk} {ref ref' : Option PageRef}

/-- A page with a column and no keys is sorted by the specs in the column, as an absent
page is when these are the default. -/
theorem choice_column {page : Page} (h : d.Holds ref (some page)) (hkeys : page.keys = [])
    (hcolumn : page.column ≠ "") {parts : List String} (hparts : CommaSeparated page.column parts)
    (defaults : List Value) :
    d.choice ref defaults = d'.choice none (parts.map .text) := by
  obtain ⟨refs, hcard, hrefs⟩ := h
  obtain rfl := commaSeparated_iff.mp hparts
  have hset : (Value.text page.column).isSet = true := by simpa [Value.isSet] using hcolumn
  have habsent : d'.card? none = none := rfl
  rw [choice_of_refs hcard hrefs, if_pos hkeys, choiceByColumn, if_pos hset]
  simp only [choice, habsent]

/-- **Specs mean the same in a column as by default.** Of two pagers with one column map,
one has some specs by default, and the other one gets a page with their text in its
column. Both give the same clauses, or fail in the same way, and both report the same
specs as ignored; there are clauses if the column map is total. The other way round, what
a column says is said by the specs between its commas when they are the default and there
is no page. -/
theorem specs_in_column {p q : Pager} (hmap : q.columnMap = p.columnMap) {page : Option Page}
    (h : d.Holds ref page) (hpage : ∀ x ∈ page, x.Plain) {listed : Page}
    (h' : d'.Holds ref' (some listed)) (hkeys : listed.keys = []) :
    (Joinable p.defaultSpecs → listed.column = ",".intercalate p.defaultSpecs →
      d.clauses p.configuration ref = d'.clauses q.configuration ref' ∧
      (d.clauses p.configuration ref).1 = Pager.ignored p.defaultSpecs ∧
      (p.Total → ∃ texts, (d.clauses p.configuration ref).2 = .ok texts)) ∧
    (listed.column ≠ "" → ∃ parts, CommaSeparated listed.column parts ∧
      ∀ defaults, d'.choice ref' defaults = d.choice none (parts.map .text)) := by
  constructor
  · intro hspecs hcolumn
    have hne : listed.column ≠ "" := hcolumn ▸ hspecs.intercalate_ne
    have hparts : CommaSeparated listed.column p.defaultSpecs := hcolumn ▸ hspecs.commaSeparated
    have hchoice := Pager.choice_default p hpage
    have hchoice' := Pager.choice_column q hkeys hne hparts
    have hclauses : p.clauses page = q.clauses (some listed) := by
      rw [Pager.clauses, Pager.clauses, hchoice, hchoice', Pager.clausesOf_columnMap hmap]
    rw [clauses_of_holds p h, clauses_of_holds q h', hclauses, hchoice, hchoice']
    refine ⟨rfl, Pager.events_sift _, fun hp => ?_⟩
    obtain ⟨texts, htexts⟩ := Pager.clauses_ok hp page
    exact ⟨texts, hclauses ▸ htexts⟩
  · intro hcolumn
    have hparts := commaSeparated_iff.mpr (rfl : Text.commaParts listed.column = _)
    exact ⟨_, hparts, fun defaults => choice_column h' hkeys hcolumn hparts defaults⟩

/-- Two of four specs name no column, one of them at the start of the text. -/
theorem specs_in_column_ignored :
    let p : Pager := { Pager.reference with defaultSpecs := ["", "-Name", "--", "id"] }
    let listed : Page := { column := ",-Name,--,id" }
    let d : Desk := (({} : Desk).addPage listed).1
    Pager.reference.columnMap = p.columnMap ∧ d.Holds none none ∧
      (∀ x ∈ (none : Option Page), x.Plain) ∧ d.Holds (some 0) (some listed) ∧
      listed.keys = [] ∧ Joinable p.defaultSpecs ∧
      listed.column = ",".intercalate p.defaultSpecs ∧
      d.clauses Pager.reference.configuration (some 0) =
        ([.specIgnored (.text ""), .specIgnored (.text "--")], .ok ["name DESC", "id ASC"]) := by
  intro p listed d
  have hplain : ∀ x ∈ (none : Option Page), x.Plain := by simp
  have hnone : d.Holds none none := rfl
  have hd : d.Holds (some 0) (some listed) := addPage_holds {} listed
  have hspecs : Joinable p.defaultSpecs := ⟨by decide, by decide, by decide⟩
  have hcolumn : listed.column = ",".intercalate p.defaultSpecs := by decide
  obtain ⟨hclauses, hignored, -⟩ :=
    (specs_in_column (p := p) (q := .reference) rfl hnone hplain hd rfl).1 hspecs hcolumn
  have htexts : (d.clauses p.configuration none).2 = .ok ["name DESC", "id ASC"] := by
    rw [clauses_of_holds p hnone]
    exact Pager.clauses_of_keys [⟨"Name", some .descending⟩, ⟨"id", some .ascending⟩] (by decide) rfl
  refine ⟨rfl, hnone, hplain, hd, rfl, hspecs, hcolumn, ?_⟩
  rw [← hclauses]
  exact Prod.ext hignored htexts

end Desk
end Folio
