/-
# Pagers at work under a journal

Whatever pagers do with the pages of a desk they report to a journal, and a report that
cannot be logged ends what they do. The desk is then as it would be without any reports
(`Journal.carryOut_desk`), and the journal goes on treating reports as it did
(`Journal.alike_carryOut`). In a longer pursuit tasks on the desk take turns with steps on
the journal, which may choose a mode, replace the context or use loggers: the desk comes
out as after the tasks alone (`Journal.pursue_desk`), and of the journal all is kept that
the steps and the reports keep one by one (`Journal.pursue_keeps`).

Key definitions: `Desk.Given`, `Journal.carryOut`, `Journal.Move`, `Journal.pursue`.
Key theorems: `Journal.carryOut_eq`, `Journal.carryOut_of_takes`, `Journal.pursue_desk`,
`Journal.pursue_keeps`, `Journal.pursue_proper`.
-/
import Folio.Proofs.Reports
import Folio.Proofs.Tasks

namespace Folio

variable {α β γ : Type} {time : String}

/-! ### What tasks report and give -/

namespace Desk

/-- What a task gives when nothing fails: what a page is sorted by, its order clauses, a
prepared statement, the rows that are kept, or nothing but that the page is turned. -/
inductive Given (α : Type) where
  | keys (chosen : Chosen)
  | clauses (texts : List String)
  | prepared (statement : Pager.Prepared)
  | rows (batch : List α)
  | turned

/-- What is reported of a task. Nothing is reported of a page that is turned. -/
def Outcome.events : Outcome α → List Event
  | keys choice => choice.events
  | clauses events _ => events
  | narrowed n => n.events
  | collected c => c.events
  | turned _ => []

/-- What a task gives if no report takes its place. -/
def Outcome.given : Outcome α → Except Failure (Given α)
  | keys choice => choice.chosen.map .keys
  | clauses _ texts => texts.map .clauses
  | narrowed n => n.prepared.map .prepared
  | collected c => c.rows.map .rows
  | turned failure => failure.elim (.ok .turned) .error

end Desk

namespace Journal

variable {j : Journal} {d : Desk}

/-! ### Tasks under a journal -/

/-- The work, with what it gives seen in another way. -/
def Work.map (f : β → γ) (w : Work β) : Work γ where
  journal := w.journal
  desk := w.desk
  written := w.written
  result := w.result.map f

/-- A task of a pager with a page, with its reports. -/
def carryOut (j : Journal) (time : String) (d : Desk) (c : Configuration)
    (ref : Option PageRef) : Desk.Task α → Work (Desk.Given α)
  | .keys defaults =>
    let choice := d.choice ref defaults
    j.report time d choice.events (choice.chosen.map .keys)
  | .clauses =>
    let clauses := d.clauses c ref
    j.report time d clauses.1 (clauses.2.map .clauses)
  | .narrow statement => (j.narrowing time d c statement ref).map .prepared
  | .collect rows => (j.collecting time d ref (some rows)).map .rows
  | .turn =>
    let turned := d.change ref Desk.raised
    ⟨j, turned.left, [], turned.failure.elim (.ok .turned) .error⟩

theorem map_report (j : Journal) (time : String) (d : Desk) (events : List Event)
    (result : Except Failure β) (f : β → γ) :
    (j.report time d events result).map f = j.report time d events (result.map f) := by
  unfold report Work.map
  dsimp only
  cases (j.logAll time events).2.failure <;> rfl

/-- A task under a journal is the task itself with its reports. -/
theorem carryOut_eq (j : Journal) (time : String) (d : Desk) (c : Configuration)
    (ref : Option PageRef) (task : Desk.Task α) :
    j.carryOut time d c ref task =
      let r := d.perform c ref task
      j.report time r.1 r.2.events r.2.given := by
  cases task with
  | keys defaults => rfl
  | clauses => rfl
  | narrow statement => exact map_report ..
  | collect rows => exact j.map_report time (d.collect ref (some rows)).1 _ _ Desk.Given.rows
  | turn => rfl

/-- Reports leave the desk as the task does, even if they fail. -/
theorem carryOut_desk (j : Journal) (time : String) (d : Desk) (c : Configuration)
    (ref : Option PageRef) (task : Desk.Task α) :
    (j.carryOut time d c ref task).desk = (d.perform c ref task).1 := by
  rw [carryOut_eq]
  rfl

theorem alike_carryOut (j : Journal) (time : String) (d : Desk) (c : Configuration)
    (ref : Option PageRef) (task : Desk.Task α) :
    j.Alike (j.carryOut time d c ref task).journal := by
  rw [carryOut_eq]
  exact alike_report ..

/-- A task whose reports are taken gives what it gives without them. -/
theorem carryOut_of_takes {c : Configuration} {ref : Option PageRef} {task : Desk.Task α}
    (htakes : ∀ event ∈ (d.perform c ref task).2.events, j.Takes event) (time : String) :
    (j.carryOut time d c ref task).result = (d.perform c ref task).2.given := by
  rw [carryOut_eq]
  exact result_of_takes htakes ..

/-! ### Pursuits -/

/-- A task of some pager with some page, or a step on the journal. -/
inductive Move (α : Type) where
  | task (step : Desk.Step α)
  | log (step : Step)

/-- The task of a move, if it is one. -/
def Move.task? : Move α → Option (Desk.Step α)
  | task step => some step
  | log _ => none

/-- The journal and the desk after several moves. -/
def pursue (j : Journal) (time : String) (d : Desk) : List (Move α) → Journal × Desk
  | [] => (j, d)
  | .task step :: rest =>
    let w := j.carryOut time d step.pager.configuration step.page step.task
    w.journal.pursue time w.desk rest
  | .log step :: rest => (j.perform time step).1.pursue time d rest

/-- The desk comes out as after the tasks alone. -/
theorem pursue_desk (time : String) (moves : List (Move α)) :
    ∀ (j : Journal) (d : Desk), (j.pursue time d moves).2 = d.run (moves.filterMap Move.task?) := by
  induction moves with
  | nil => exact fun _ _ => rfl
  | cons move rest ih =>
    intro j d
    cases move with
    | task step =>
      rw [pursue, ih, carryOut_desk]
      rfl
    | log step =>
      rw [pursue, ih]
      rfl

/-- What every step of a pursuit keeps, and what is the same in journals that treat reports
alike, the pursuit keeps. -/
theorem pursue_keeps (time : String) {P : Journal → Prop}
    (halike : ∀ {j next : Journal}, j.Alike next → P j → P next) {moves : List (Move α)}
    (hkeeps : ∀ step, .log step ∈ moves → ∀ j, P j → P (j.perform time step).1) :
    ∀ {j : Journal} (d : Desk), P j → P (j.pursue time d moves).1 := by
  induction moves with
  | nil => exact fun _ h => h
  | cons move rest ih =>
    intro j d h
    have hrest := @ih fun step hstep => hkeeps step (List.mem_cons_of_mem _ hstep)
    cases move with
    | task step => exact hrest _ (halike (j.alike_carryOut ..) h)
    | log step => exact hrest d (hkeeps step List.mem_cons_self j h)

/-- The context is replaced by fields that keep no entry from being written, if at all. -/
theorem pursue_proper (h : j.Proper) (time : String) (d : Desk) {moves : List (Move α)}
    (hmoves : ∀ step, .log step ∈ moves → ∀ fields ∈ step.context?,
      Entry.Ordinary fields ∧ Entry.Short fields) :
    (j.pursue time d moves).1.Proper :=
  pursue_keeps time (fun halike hproper => halike.proper hproper)
    (fun step hstep _ hproper => perform_proper hproper (hmoves step hstep) time) d h

/-- What a journal falls back on is not up to it. -/
theorem pursue_fallsBack (h : j.FallsBack) (time : String) (d : Desk) (moves : List (Move α)) :
    (j.pursue time d moves).1.FallsBack := by
  refine pursue_keeps time (fun halike hfalls => halike.fallsBack hfalls) ?_ d h
  intro step _ next hfalls
  rcases next.perform_cases time step with ⟨m, -, h'⟩ | ⟨fields, -, h'⟩ | ⟨-, halike⟩ |
    ⟨loggers, h'⟩
  · rw [h']
    exact hfalls
  · rw [h']
    exact hfalls
  · exact halike.fallsBack hfalls
  · rw [h']
    exact hfalls

end Journal
end Folio
