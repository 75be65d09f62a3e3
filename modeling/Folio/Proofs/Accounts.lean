/-
# What is reported of the work on a page

The events of a narrowing account for every spec that was consulted. The specs are gone
through in order, and each is either the next key that the statement is ordered by or the
next one that is reported as ignored (`SortedOut`, `Pager.Sifts`). Behind the ignored
specs comes one event that tells the window and the clauses which the statement has
got, or no event if the column map failed (`Pager.Accounts`). Collecting reports one
event, which tells what the page and the rows are then (`Desk.collect_accounts`).

Key definitions: `SortedOut`, `Pager.Sifts`, `Pager.Accounts`.
Key theorems: `sortedOut_iff`, `Pager.sifts_iff`, `Desk.narrow_accounts`,
`Desk.collect_accounts`.
-/
import Folio.Proofs.Assigned
import Folio.Proofs.Retrying

namespace Folio

/-! ### Specs sorted out -/

/-- Specs are gone through in order: one that names a key gives the next key, and one
that does not is the next that is ignored. -/
inductive SortedOut : List String → List SortKey → List String → Prop
  | nil : SortedOut [] [] []
  | taken {spec : String} {key : SortKey} {specs : List String} {keys : List SortKey}
      {ignored : List String} (hspec : SortKey.ofSpec? spec = some key)
      (h : SortedOut specs keys ignored) : SortedOut (spec :: specs) (key :: keys) ignored
  | ignored {spec : String} {specs : List String} {keys : List SortKey} {ignored : List String}
      (hspec : SortKey.ofSpec? spec = none) (h : SortedOut specs keys ignored) :
      SortedOut (spec :: specs) keys (spec :: ignored)

/-- Specs are sorted out in one way only. -/
theorem sortedOut_iff {specs : List String} {keys : List SortKey} {ignored : List String} :
    SortedOut specs keys ignored ↔
      keys = specs.filterMap SortKey.ofSpec? ∧
        ignored = specs.filter fun spec => (SortKey.ofSpec? spec).isNone := by
  constructor
  · intro h
    induction h with
    | nil => exact ⟨rfl, rfl⟩
    | taken hspec _ ih => simp [hspec, ih.1, ih.2]
    | ignored hspec _ ih => simp [hspec, ih.1, ih.2]
  · rintro ⟨rfl, rfl⟩
    induction specs with
    | nil => exact .nil
    | cons spec rest ih =>
      cases hspec : SortKey.ofSpec? spec with
      | some key =>
        rw [List.filterMap_cons_some hspec, List.filter_cons_of_neg (by simp [hspec])]
        exact .taken hspec ih
      | none =>
        rw [List.filterMap_cons_none hspec, List.filter_cons_of_pos (by simp [hspec])]
        exact .ignored hspec ih

namespace Pager

variable {p : Pager} {page : Option Page} {keys : List SortKey} {ignored : List String}

theorem sift_ignored_texts (specs : List String) :
    (KeyChoice.sift (specs.map some)).ignored =
      (specs.filter fun spec => (SortKey.ofSpec? spec).isNone).map some := by
  rw [KeyChoice.sift_ignored, List.filter_map]
  rfl

theorem map_some_injective : Function.Injective (List.map (some : String → Option String)) :=
  List.map_injective_iff.mpr (Option.some_injective _)

theorem sortedOut_iff_sift {specs : List String} :
    SortedOut specs keys ignored ↔
      (KeyChoice.sift (specs.map some)).keys = keys ∧
        (KeyChoice.sift (specs.map some)).ignored = ignored.map some := by
  rw [sortedOut_iff, sift_keys_texts, sift_ignored_texts, map_some_injective.eq_iff]
  exact and_congr eq_comm eq_comm

/-- What is reported about the specs of a choice are those that it ignored. -/
theorem events_of_ignored {choice : KeyChoice SortKey} (h : choice.ignored = ignored.map some) :
    choice.events = ignored.map fun spec => .specIgnored (.text spec) := by
  rw [KeyChoice.events, h, List.map_map]
  rfl

/-! ### Specs consulted for a page -/

/-- The keys that a page is sorted by, and the specs that are ignored on the way. Keys of
its own are taken as they are; else the specs in its column are sorted out, or the default
specs if it has no column. -/
inductive Sifts (p : Pager) : Option Page → List SortKey → List String → Prop
  | own {page : Page} (hkeys : page.keys ≠ []) : p.Sifts (some page) page.keys []
  | column {page : Page} {parts : List String} {keys : List SortKey} {ignored : List String}
      (hkeys : page.keys = []) (hcolumn : page.column ≠ "")
      (hparts : CommaSeparated page.column parts) (h : SortedOut parts keys ignored) :
      p.Sifts (some page) keys ignored
  | default {page : Option Page} {keys : List SortKey} {ignored : List String}
      (hplain : ∀ q ∈ page, q.keys = [] ∧ q.column = "")
      (h : SortedOut p.defaultSpecs keys ignored) : p.Sifts page keys ignored

theorem choice_of_sifts (h : p.Sifts page keys ignored) :
    (p.choice page).keys = keys ∧ (p.choice page).ignored = ignored.map some := by
  cases h with
  | own hkeys =>
    rw [choice_own p hkeys]
    exact ⟨rfl, rfl⟩
  | column hkeys hcolumn hparts h =>
    rw [choice_column p hkeys hcolumn hparts]
    exact sortedOut_iff_sift.mp h
  | default hplain h =>
    rw [choice_default p hplain]
    exact sortedOut_iff_sift.mp h

theorem exists_sifts (p : Pager) (page : Option Page) :
    ∃ keys ignored, p.Sifts page keys ignored := by
  have hsorted : p.SortedBy page (p.choice page).keys := sortedBy_iff.mpr rfl
  generalize (p.choice page).keys = keys at hsorted
  cases hsorted with
  | own hkeys => exact ⟨_, _, .own hkeys⟩
  | column hkeys hcolumn hparts =>
    exact ⟨_, _, .column hkeys hcolumn hparts (sortedOut_iff.mpr ⟨rfl, rfl⟩)⟩
  | default hplain => exact ⟨_, _, .default hplain (sortedOut_iff.mpr ⟨rfl, rfl⟩)⟩

/-- A page is sifted in one way only, and sorted by the keys that are found. -/
theorem sifts_iff :
    p.Sifts page keys ignored ↔
      (p.choice page).keys = keys ∧ (p.choice page).ignored = ignored.map some := by
  refine ⟨choice_of_sifts, ?_⟩
  rintro ⟨rfl, hignored⟩
  -- the page is sifted in some way, and what is found then is what was chosen
  obtain ⟨found, left, h⟩ := exists_sifts p page
  obtain ⟨hfound, hleft⟩ := choice_of_sifts h
  have hsame : left = ignored := map_some_injective (hleft.symm.trans hignored)
  rwa [hfound, ← hsame]

/-! ### Narrowing -/

/-- What is reported when a statement is narrowed for keys that were found, and specs that
were ignored on the way. The ignored specs come first, each in an event of its own. If
the column map did not fail on any key, an event with the window and the clauses that the
statement has got stands behind them; else nothing does. -/
inductive Accounts (p : Pager) (statement : Statement) (keys : List SortKey)
    (ignored : List String) : List Event → Except Failure Prepared → Prop
  | prepared {limit offset : Int} {clauses : List String} {r : Prepared}
      (hclauses : List.Forall₂ p.Writes keys clauses)
      (hr : statement.NarrowedTo (limit + 1) offset clauses r.statement) :
      p.Accounts statement keys ignored
        ((ignored.map fun spec => .specIgnored (.text spec)) ++
          [.queryPrepared (.int limit) (.int offset) clauses]) (.ok r)
  | failed {failure : Failure} (h : p.FailsFirst keys failure) :
      p.Accounts statement keys ignored (ignored.map fun spec => .specIgnored (.text spec))
        (.error failure)

theorem prepare_accounts (hp : p.Legible) (statement : Statement) (limit offset : Int)
    (keys : List SortKey) (ignored : List String) :
    let r := prepare statement (.int limit) (.int offset)
      (ignored.map fun spec => .specIgnored (.text spec)) (p.clausesOf (keys.map SortKey.term))
    p.Accounts statement keys ignored r.1 r.2 := by
  intro r
  unfold r prepare
  cases hclauses : p.clausesOf (keys.map SortKey.term) with
  | error failure => exact .failed ((failsFirst_iff hp).mp hclauses)
  | ok texts =>
    obtain ⟨narrowed, hok, hnarrowed⟩ := statement.windowed_narrowedTo limit offset texts
    dsimp only
    rw [hok]
    exact .prepared (clausesOf_eq_ok_iff.mp hclauses) hnarrowed

/-- The events of a narrowing account for what was done. -/
theorem narrow_accounts (hp : p.Legible) (h : p.Sifts page keys ignored) (statement : Statement) :
    p.Accounts statement keys ignored (p.narrow statement page).events
      (p.narrow statement page).prepared := by
  obtain ⟨hkeys, hignored⟩ := sifts_iff.mp h
  have hevents : (p.choice (page.map p.fit)).events =
      ignored.map fun spec => .specIgnored (.text spec) := by
    rw [choice_fit]
    exact events_of_ignored hignored
  have hclauses : p.clauses (page.map p.fit) = p.clausesOf (keys.map SortKey.term) := by
    rw [clauses_fit, clauses, hkeys]
  have hprepared := prepare_accounts hp statement (Window.limit (page.map p.fit))
    (Window.offset (page.map p.fit)) keys ignored
  rw [← hevents, ← hclauses] at hprepared
  exact hprepared

end Pager

namespace Desk

variable {α : Type} {d : Desk} {ref : Option PageRef} {page : Option Page}

/-- Narrowing on a desk reports every spec that was consulted, and what it did. -/
theorem narrow_accounts {p : Pager} (hp : p.Legible) (h : d.Holds ref page)
    (statement : Statement) :
    let r := (d.narrow p.configuration statement ref).2
    ∃ keys ignored, p.Sifts page keys ignored ∧
      p.Accounts statement keys ignored r.events r.prepared := by
  intro r
  obtain ⟨keys, ignored, hsifts⟩ := Pager.exists_sifts p page
  have hr : r = ⟨(p.narrow statement page).events, (p.narrow statement page).prepared⟩ :=
    (narrow_of_holds p h statement).2
  refine ⟨keys, ignored, hsifts, ?_⟩
  rw [hr]
  exact Pager.narrow_accounts hp hsifts statement

/-- Collecting on a desk reports once, with the number of rows that are kept and what the
page then has. An absent page counts as an empty one, which nobody gets to see. -/
theorem collect_accounts (h : d.Holds ref page) (rows : List α) :
    let r := d.collect ref (some rows)
    ∃ batch after, r.2.rows = .ok batch ∧ r.1.Holds ref (page.map fun _ => after) ∧
      after.number = page.elim 1 (fun q => max q.number 1) ∧
      after.more = decide (Window.limit page < rows.length) ∧
      r.2.events = [.resultPrepared batch.length (.int after.number) after.more] := by
  intro r
  obtain ⟨hleft, hr⟩ := collect_of_holds h rows
  have hnumber := Window.numberFor_eq_elim page
  have hrows := congrArg Collected.rows hr
  have hevents := congrArg Collected.events hr
  rw [Pager.collect_eq] at hleft hrows hevents
  exact ⟨_, _, hrows, hleft, hnumber, rfl, hevents⟩

end Desk
end Folio
