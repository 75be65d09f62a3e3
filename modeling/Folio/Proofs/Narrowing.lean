/-
# What narrowing does to a statement

A narrowed statement asks the same table for the same columns under the same
condition. Its window is put in place of any that it had, and is the one that the
page has when narrowing is done with it; the order clauses come behind those that
it had, and are the ones that the page had before, since a size that is fitted in
between says nothing about the order. On a recording this shows as a call each for
the limit and the offset, and one for the order only if there are clauses
(`Statement.NarrowedTo`, `Desk.narrow_appends`).

Key definitions: `Statement.NarrowedTo`.
Key theorems: `Statement.windowed_narrowedTo`, `Desk.window_of_holds`,
`Desk.narrow_appends`.
-/
import Folio.Proofs.Tasks
import Folio.Session

namespace Folio

/-! ### Statements before and after -/

/-- What becomes of a statement under a limit, an offset and order clauses. -/
inductive Statement.NarrowedTo (limit offset : Int) (clauses : List String) :
    Statement → Statement → Prop
  /-- The window replaces an earlier one, the clauses come behind earlier ones, and
  the rest stays. -/
  | select {s : Select} :
      NarrowedTo limit offset clauses (.select s)
        (.select { s with
          limit := some limit, offset := some offset, clauses := s.clauses ++ clauses })
  | unordered {calls : List RecordedCall} (h : clauses = []) :
      NarrowedTo limit offset clauses (.recording calls)
        (.recording (calls ++ [.limit (.int limit), .offset (.int offset)]))
  | ordered {calls : List RecordedCall} (h : clauses ≠ []) :
      NarrowedTo limit offset clauses (.recording calls)
        (.recording (calls ++ [.limit (.int limit), .offset (.int offset), .orderBy clauses]))

theorem Statement.windowed_narrowedTo (statement : Statement) (limit offset : Int)
    (clauses : List String) :
    ∃ narrowed, Pager.windowed statement (.int limit) (.int offset) clauses = .ok narrowed ∧
      statement.NarrowedTo (limit + 1) offset clauses narrowed := by
  cases statement with
  | select s =>
    refine ⟨_, Pager.windowed_int s limit offset clauses, ?_⟩
    unfold Pager.ordered
    have hselect : (select s).NarrowedTo (limit + 1) offset clauses (.select { s with
        limit := some (limit + 1), offset := some offset, clauses := s.clauses ++ clauses }) :=
      .select
    by_cases h : clauses = []
    · subst h
      rw [if_pos rfl]
      rwa [List.append_nil] at hselect
    · rw [if_neg h]
      exact hselect
  | recording calls =>
    have hwindow : Pager.windowed (.recording calls) (.int limit) (.int offset) clauses =
        .ok (Pager.ordered clauses
          (.recording (calls ++ [.limit (.int (limit + 1))] ++ [.offset (.int offset)]))) := rfl
    refine ⟨_, hwindow, ?_⟩
    unfold Pager.ordered
    by_cases h : clauses = []
    · rw [if_pos h, List.append_assoc]
      exact .unordered h
    · rw [if_neg h, Statement.orderBy, List.append_assoc, List.append_assoc]
      exact .ordered h

/-- When the clauses of a page can be written, narrowing gives a statement in their
order, under the window of the fitted page. -/
theorem Pager.narrow_of_clauses {p : Pager} {page : Option Page} {clauses : List String}
    (h : p.clauses page = .ok clauses) (statement : Statement) :
    ∃ narrowed, (p.narrow statement page).prepared = .ok ⟨narrowed, []⟩ ∧
      statement.NarrowedTo (Window.limit (page.map p.fit) + 1) (Window.offset (page.map p.fit))
        clauses narrowed := by
  obtain ⟨narrowed, hok, hnarrowed⟩ := statement.windowed_narrowedTo
    (Window.limit (page.map p.fit)) (Window.offset (page.map p.fit)) clauses
  refine ⟨narrowed, ?_, hnarrowed⟩
  rw [← clauses_fit] at h
  simp only [narrow, prepare, h, hok]

namespace Desk

variable {d : Desk} {ref : Option PageRef}

/-! ### Narrowing on a desk -/

/-- A page that a desk holds has its window there too. -/
theorem window_of_holds {page : Option Page} (h : d.Holds ref page) :
    d.window ref = .ok (.int (Window.limit page), .int (Window.offset page)) := by
  cases page with
  | none =>
    have hc : d.card? ref = none := h
    rw [window, hc, Option.getD_none, Card.window_empty]
  | some page =>
    obtain ⟨refs, hcard, -⟩ := h
    rw [window, hcard, Option.getD_some, Card.window_ofPage]

/-- Whoever looks at the statement that was narrowed finds it as it was. -/
theorem narrowApart_shown {s : Session} {name : Name} {statement : Statement}
    {prepared : Pager.Prepared}
    (h : (s.desk.narrow s.options statement (s.ref name)).2.prepared = .ok prepared) :
    (s.perform (.narrowApart name (.given statement))).2.answer =
      .ofResult .apart statement.shown := by
  simp only [Session.perform, Session.narrowApart, Session.statementOf, h, Except.bind]

/-- **Narrowing changes the window of a statement and appends the order**, and
nothing else. The window is that of the page as narrowing leaves it, the order that
of the page before. There are no rows yet, and the statement that was given stays
as it was. What is reported of it is left out here: a report that cannot be logged would
take the place of the statement. -/
theorem narrow_appends {p : Pager} (hp : p.Total) {page : Option Page} (h : d.Holds ref page)
    (statement : Statement) :
    let r := d.narrow p.configuration statement ref
    ∃ (clauses : List String) (limit offset : Int) (prepared : Pager.Prepared),
      (d.clauses p.configuration ref).2 = .ok clauses ∧
      r.2.prepared = .ok prepared ∧ prepared.rows = [] ∧
      r.1.window ref = .ok (.int limit, .int offset) ∧
      statement.NarrowedTo (limit + 1) offset clauses prepared.statement ∧
      ∀ (s : Session) (name : Name), s.desk = d → s.options = p.configuration →
        s.ref name = ref →
        (s.perform (.narrowApart name (.given statement))).2.answer =
          .ofResult .apart statement.shown := by
  intro r
  obtain ⟨clauses, hclauses⟩ := Pager.clauses_ok hp page
  obtain ⟨narrowed, hok, hnarrowed⟩ := Pager.narrow_of_clauses hclauses statement
  obtain ⟨hleft, hr⟩ := narrow_of_holds p h statement
  have hprepared : r.2.prepared = .ok ⟨narrowed, []⟩ := by rw [← hok, hr]
  refine ⟨clauses, _, _, ⟨narrowed, []⟩, ?_, hprepared, rfl, window_of_holds hleft, hnarrowed, ?_⟩
  · rw [clauses_of_holds p h, hclauses]
  · rintro s name rfl hoptions rfl
    apply narrowApart_shown
    rw [hoptions]
    exact hprepared

/-- Nine rows a batch are wanted and five granted. The statement had a window and a
clause of its own. -/
theorem narrow_appends_ordered :
    let page : Page := { size := 9, number := 2, column := "-Name" }
    let d : Desk := (({} : Desk).addPage page).1
    let s : Select := {
      columns := ["id"], table := "items", filter := some "price > 1"
      clauses := ["stock ASC"], limit := some 99, offset := some 7 }
    Pager.reference.Total ∧ d.Holds (some 0) (some page) ∧
      ∃ prepared,
        (d.narrow Pager.reference.configuration (.select s) (some 0)).2.prepared = .ok prepared ∧
        prepared.rows = [] ∧
        prepared.statement = .select { s with
          clauses := ["stock ASC", "name DESC"], limit := some 6, offset := some 5 } := by
  intro page d s
  have hd : d.Holds (some 0) (some page) := addPage_holds {} page
  obtain ⟨clauses, limit, offset, prepared, hclauses, hok, hrows, hwindow, hnarrowed, -⟩ :=
    narrow_appends Pager.reference_total hd (.select s)
  have hleft := (narrow_of_holds .reference hd (.select s)).1
  obtain ⟨rfl, rfl⟩ : limit = 5 ∧ offset = 5 := by
    cases hwindow.symm.trans (window_of_holds hleft)
    exact ⟨rfl, rfl⟩
  obtain rfl : clauses = ["name DESC"] := by
    have hpage : Pager.reference.clauses (some page) = .ok ["name DESC"] :=
      Pager.clauses_of_keys [⟨"Name", some .descending⟩] (by decide) rfl
    rw [clauses_of_holds .reference hd, hpage] at hclauses
    exact (Except.ok.inj hclauses).symm
  refine ⟨Pager.reference_total, hd, prepared, hok, hrows, ?_⟩
  generalize prepared.statement = narrowed at hnarrowed
  cases hnarrowed
  rfl

end Desk
end Folio
