/-
# Sharing a pager

Several requests share one pager, each with a page of its own or without one.
Their operations come in any order that keeps the order of each request: tasks
with its page, and attempts to assign an option of the pager. What an operation
does depends on nothing but the options, the sort keys and the page of its
request (`Shared.perform_congr`), and it leaves the pages of the others alone
(`Shared.perform_frame`). The options are frozen, so that an attempt to assign one
is refused and changes nothing; what is taken, a record in place of all options
for one, changes them for every request. As long as all attempts are refused no
request can tell that it shares the pager (`Shared.interleave_isolated`).

Key definitions: `Configuration.Refuses`, `Desk.SamePage`, `Shared`,
`Shared.interleave`, `Shared.serve`, `Shared.Isolated`.
Key theorems: `Configuration.assign_of_refuses`, `Shared.perform_congr`,
`Shared.perform_frame`, `Shared.interleave_alike`, `Shared.interleave_isolated`.
-/
import Folio.Proofs.Tasks

namespace Folio

/-! ### Refused attempts -/

namespace Configuration

/-- Is an attempt to assign an option, or a private name, refused? -/
def Refuses (c : Configuration) (option : String) (v : Value) : Prop :=
  (c.assign option v).failure.isSome = true

variable {c : Configuration} {option : String} {v : Value}

theorem assignPrivate_of_failure (h : (c.assignPrivate option v).failure.isSome = true) :
    (c.assignPrivate option v).left = c := by
  unfold assignPrivate at h ⊢
  split
  · simp at h
  · -- all options at once were the only way to change one of them
    rename_i hrecord
    split at h
    · exact absurd rfl (hrecord _ rfl)
    · cases hassigned : c.hidden.assign Pager.model option v with
      | error failure => rfl
      | ok hidden => simp [hassigned, Attempt.ofResult, Attempt.map] at h

/-- What is refused changes nothing. -/
theorem assign_of_refuses (h : c.Refuses option v) : (c.assign option v).left = c := by
  unfold Refuses assign at h
  unfold assign
  split
  · rfl
  · rename_i hallowed
    rw [hallowed] at h
    by_cases hprivate : isPrivate option = true
    · simp only [hprivate, if_true] at h ⊢
      exact assignPrivate_of_failure h
    · simp only [hprivate, Bool.false_eq_true, if_false]

/-- A configuration that hides nothing refuses every name that is not private. -/
theorem refuses_of_not_isPrivate (v : Value) (hc : c.hidden = [])
    (ho : isPrivate option = false) : c.Refuses option v := by
  rw [Refuses, assign_of_not_isPrivate v hc ho]
  rfl

/-- A record in place of all options is taken. -/
theorem assign_record (hc : c.hidden = []) (fields : List (String × Value)) :
    c.assign "__dict__" (.record fields) = { left := c.replaced fields } := by
  have hprivate : isPrivate "__dict__" = true := by simp [isPrivate]
  simp [assign, hc, Hidden.allow, Hidden.has, hprivate, assignPrivate]

end Configuration

/-! ### Desks that agree on a page -/

namespace Desk

variable {α : Type} {ref : Option PageRef} {d d' : Desk}

/-- Two desks with the same sort keys and with the same card under a reference. -/
structure SamePage (ref : Option PageRef) (d d' : Desk) : Prop where
  slips : d'.slips = d.slips
  card : d'.card? ref = d.card? ref

theorem SamePage.modify (h : SamePage ref d d') (f : Card → Card) :
    SamePage ref (d.modify ref f) (d'.modify ref f) where
  slips := by rw [slips_modify, slips_modify, h.slips]
  card := by rw [card?_modify_self, card?_modify_self, h.card]

theorem SamePage.clauses (h : SamePage ref d d') (c : Configuration) :
    d'.clauses c ref = d.clauses c ref :=
  clauses_congr h.slips (congrArg (Option.map ordering) h.card) c

theorem SamePage.prepare (h : SamePage ref d d') (c : Configuration) (statement : Statement)
    (card : Card) : d'.prepare c statement ref card = d.prepare c statement ref card := by
  unfold Desk.prepare
  rw [h.clauses c]

theorem narrow_congr (h : SamePage ref d d') (c : Configuration) (statement : Statement) :
    (d'.narrow c statement ref).2 = (d.narrow c statement ref).2 ∧
      SamePage ref (d.narrow c statement ref).1 (d'.narrow c statement ref).1 := by
  unfold narrow
  rw [h.card]
  cases d.card? ref with
  | none => exact ⟨h.prepare c statement {}, h⟩
  | some card =>
    have hnext := h.modify fun _ => (fitted c card).left
    dsimp only
    cases (fitted c card).failure with
    | some failure => exact ⟨rfl, hnext⟩
    | none => exact ⟨hnext.prepare c statement _, hnext⟩

theorem collect_congr (h : SamePage ref d d') (rows : List α) :
    (d'.collect ref (some rows)).2 = (d.collect ref (some rows)).2 ∧
      SamePage ref (d.collect ref (some rows)).1 (d'.collect ref (some rows)).1 := by
  unfold collect
  rw [h.card]
  dsimp only
  cases ((d.card? ref).getD {}).window with
  | error failure => exact ⟨rfl, h⟩
  | ok w => exact ⟨rfl, h.modify _⟩

theorem change_congr (h : SamePage ref d d') (f : Card → Attempt Card) :
    (d'.change ref f).failure = (d.change ref f).failure ∧
      SamePage ref (d.change ref f).left (d'.change ref f).left := by
  unfold change
  rw [h.card]
  cases d.card? ref with
  | none => exact ⟨rfl, h⟩
  | some card => exact ⟨rfl, h.modify fun _ => (f card).left⟩

/-- What a task does depends on nothing but the sort keys and its page. -/
theorem perform_congr (h : SamePage ref d d') (c : Configuration) (task : Task α) :
    (d'.perform c ref task).2 = (d.perform c ref task).2 ∧
      SamePage ref (d.perform c ref task).1 (d'.perform c ref task).1 := by
  cases task with
  | keys defaults =>
    have hchoice := choice_congr (congrArg (Option.map ordering) h.card) defaults
    exact ⟨congrArg Outcome.keys hchoice, h⟩
  | clauses =>
    simp only [perform, h.clauses c]
    exact ⟨trivial, h⟩
  | narrow statement =>
    obtain ⟨hnarrowed, hnext⟩ := narrow_congr h c statement
    exact ⟨congrArg Outcome.narrowed hnarrowed, hnext⟩
  | collect rows =>
    obtain ⟨hcollected, hnext⟩ := collect_congr h rows
    exact ⟨congrArg Outcome.collected hcollected, hnext⟩
  | turn =>
    obtain ⟨hfailure, hnext⟩ := change_congr h raised
    exact ⟨congrArg Outcome.turned hfailure, hnext⟩

end Desk

/-! ### Requests -/

/-- What a request does: a task of the pager with the page of the request, or an
attempt to assign an option of the pager. -/
inductive Operation (α : Type) where
  | task (task : Desk.Task α)
  | assign (option : String) (v : Value)

/-- What a request is told. -/
inductive Response (α : Type) where
  | task (outcome : Desk.Outcome α)
  | assign (failure : Option Failure)

/-- The options of a pager that is shared, and the desk with the pages of all
requests. -/
structure Shared where
  options : Configuration
  desk : Desk

/-- Would a configuration refuse the operation, if it is an attempt to assign an
option? -/
def Operation.Refused {α : Type} (c : Configuration) : Operation α → Prop
  | task _ => True
  | assign option v => c.Refuses option v

namespace Shared

variable {α ι : Type}

/-- What is shared after an operation, and what the request is told. -/
def perform (s : Shared) (ref : Option PageRef) : Operation α → Shared × Response α
  | .task task =>
    let r := s.desk.perform s.options ref task
    ({ s with desk := r.1 }, .task r.2)
  | .assign option v =>
    let x := s.options.assign option v
    ({ s with options := x.left }, .assign x.failure)

/-- A request alone: what is shared after its operations, and what it is told. -/
def serve (s : Shared) (ref : Option PageRef) : List (Operation α) → Shared × List (Response α)
  | [] => (s, [])
  | operation :: rest =>
    let r := (s.perform ref operation).1.serve ref rest
    (r.1, (s.perform ref operation).2 :: r.2)

/-- Several requests: what is shared after their operations, and what each is
told. -/
def interleave (s : Shared) (pages : ι → Option PageRef) :
    List (ι × Operation α) → Shared × List (ι × Response α)
  | [] => (s, [])
  | (i, operation) :: rest =>
    let r := (s.perform (pages i) operation).1.interleave pages rest
    (r.1, (i, (s.perform (pages i) operation).2) :: r.2)

/-! ### One operation -/

/-- Two shared states that are the same for a request: they have the same
options, and the desks agree on its page. -/
structure Alike (ref : Option PageRef) (s t : Shared) : Prop where
  options : t.options = s.options
  desk : Desk.SamePage ref s.desk t.desk

theorem Alike.refl (ref : Option PageRef) (s : Shared) : Alike ref s s :=
  ⟨rfl, rfl, rfl⟩

/-- What an operation does depends on nothing but what is the same for its
request. -/
theorem perform_congr {ref : Option PageRef} {s t : Shared} (h : Alike ref s t)
    (operation : Operation α) :
    (t.perform ref operation).2 = (s.perform ref operation).2 ∧
      Alike ref (s.perform ref operation).1 (t.perform ref operation).1 := by
  cases operation with
  | task task =>
    obtain ⟨houtcome, hdesk⟩ := Desk.perform_congr h.desk s.options task
    simp only [perform, h.options]
    exact ⟨congrArg Response.task houtcome, rfl, hdesk⟩
  | assign option v =>
    simp only [perform, h.options]
    exact ⟨trivial, rfl, h.desk⟩

theorem perform_options {s : Shared} (ref : Option PageRef) {operation : Operation α}
    (h : operation.Refused s.options) : (s.perform ref operation).1.options = s.options := by
  cases operation with
  | task task => rfl
  | assign option v => exact Configuration.assign_of_refuses h

/-- An operation of a request that has another page, or none, changes nothing for a
request unless it changes an option. -/
theorem perform_frame {ref other : Option PageRef} {s t : Shared} (h : Alike ref s t)
    (ho : ref = other → ref = none) {operation : Operation α}
    (hr : operation.Refused s.options) : Alike ref (s.perform other operation).1 t := by
  refine ⟨h.options.trans (perform_options other hr).symm, ?_⟩
  cases operation with
  | assign option v => exact h.desk
  | task task =>
    have hchanged := Desk.perform_changedIn s.desk s.options other task
    have hcard : (s.desk.perform s.options other task).1.card? ref = s.desk.card? ref := by
      by_cases hsame : ref = other
      · rw [ho hsame]
        rfl
      · exact hchanged.others ref hsame
    exact ⟨h.desk.slips.trans hchanged.slips.symm, h.desk.card.trans hcard.symm⟩

/-! ### All operations -/

/-- What is refused before an operation is refused after it. -/
theorem refused_after (pages : ι → Option PageRef) {s : Shared} {i : ι}
    {operation : Operation α} {rest : List (ι × Operation α)}
    (h : ∀ step ∈ (i, operation) :: rest, step.2.Refused s.options) :
    ∀ step ∈ rest, step.2.Refused (s.perform (pages i) operation).1.options := by
  rw [perform_options (pages i) (h _ List.mem_cons_self)]
  exact fun step hstep => h step (List.mem_cons_of_mem _ hstep)

theorem interleave_options (pages : ι → Option PageRef) (steps : List (ι × Operation α))
    {s : Shared} (hrefused : ∀ step ∈ steps, step.2.Refused s.options) :
    (s.interleave pages steps).1.options = s.options := by
  induction steps generalizing s with
  | nil => rfl
  | cons step rest ih =>
    obtain ⟨i, operation⟩ := step
    have hnow := perform_options (pages i) (hrefused (i, operation) List.mem_cons_self)
    exact (ih (refused_after pages hrefused)).trans hnow

variable [DecidableEq ι]

/-- What concerns one request, in order. -/
def own {β : Type} (i : ι) (steps : List (ι × β)) : List β :=
  (steps.filter fun step => step.1 = i).map Prod.snd

theorem own_cons_self {β : Type} (i : ι) (b : β) (steps : List (ι × β)) :
    own i ((i, b) :: steps) = b :: own i steps := by
  simp [own]

theorem own_cons_other {β : Type} {i j : ι} (h : j ≠ i) (b : β) (steps : List (ι × β)) :
    own i ((j, b) :: steps) = own i steps := by
  simp [own, h]

/-- No two requests have the same page. -/
def Apart (pages : ι → Option PageRef) : Prop :=
  ∀ i j, i ≠ j → pages i = pages j → pages i = none

/-- A request that shares a pager, and one that is alone with another state which
is the same for it, are told the same and leave states that are the same for
it. -/
theorem interleave_alike {pages : ι → Option PageRef} (hpages : Apart pages)
    (steps : List (ι × Operation α)) {s : Shared}
    (hrefused : ∀ step ∈ steps, step.2.Refused s.options) (i : ι) {t : Shared}
    (h : Alike (pages i) s t) :
    own i (s.interleave pages steps).2 = (t.serve (pages i) (own i steps)).2 ∧
      Alike (pages i) (s.interleave pages steps).1 (t.serve (pages i) (own i steps)).1 := by
  induction steps generalizing s t with
  | nil => exact ⟨rfl, h⟩
  | cons step rest ih =>
    obtain ⟨j, operation⟩ := step
    have hnow : operation.Refused s.options := hrefused _ List.mem_cons_self
    have hrest := refused_after pages hrefused
    -- both take a step of the request itself, only the shared state one of another request
    by_cases hj : j = i
    · subst hj
      obtain ⟨hresponse, hnext⟩ := perform_congr h operation
      obtain ⟨hresponses, hend⟩ := ih hrest hnext
      rw [own_cons_self]
      refine ⟨?_, hend⟩
      simp only [interleave, serve, own_cons_self, hresponses, hresponse]
    · have hnext := perform_frame h (hpages i j fun hij => hj hij.symm) hnow
      obtain ⟨hresponses, hend⟩ := ih hrest hnext
      rw [own_cons_other hj]
      refine ⟨?_, hend⟩
      simp only [interleave, own_cons_other hj, hresponses]

/-- No request can tell that it shares the pager: each is told what it would be told
alone, and ends with the page that it would end with alone. The options are in
the end what they were at first. -/
structure Isolated (s : Shared) (pages : ι → Option PageRef) (programs : ι → List (Operation α))
    (steps : List (ι × Operation α)) : Prop where
  options : (s.interleave pages steps).1.options = s.options
  responses : ∀ i, own i (s.interleave pages steps).2 = (s.serve (pages i) (programs i)).2
  page : ∀ i, (s.interleave pages steps).1.desk.card? (pages i) =
    (s.serve (pages i) (programs i)).1.desk.card? (pages i)
  keys : ∀ i, (s.interleave pages steps).1.desk.slips =
    (s.serve (pages i) (programs i)).1.desk.slips

/-- **A pager can be shared between requests.** Take any number of requests, no two
with the same page, whose operations come in any order that keeps the order of
each request. If every attempt to assign an option is refused, as it is for every
name that is not private, then no request can tell that it shares the pager. -/
theorem interleave_isolated (p : Pager) (d : Desk) (pages : ι → Option PageRef)
    (programs : ι → List (Operation α)) (steps : List (ι × Operation α))
    (hpages : Apart pages) (hsteps : ∀ i, own i steps = programs i) :
    let s : Shared := ⟨p.configuration, d⟩
    (∀ option v, isPrivate option = false → s.options.Refuses option v) ∧
      ((∀ i, ∀ operation ∈ programs i, operation.Refused s.options) →
        s.Isolated pages programs steps) := by
  intro s
  refine ⟨fun option v => Configuration.refuses_of_not_isPrivate v rfl, fun hrefused => ?_⟩
  have hall : ∀ step ∈ steps, step.2.Refused s.options := by
    rintro ⟨i, operation⟩ hstep
    apply hrefused i
    rw [← hsteps i]
    simp only [own, List.mem_map, List.mem_filter]
    exact ⟨(i, operation), ⟨hstep, decide_eq_true rfl⟩, rfl⟩
  have halike i := interleave_alike hpages steps hall i (Alike.refl (pages i) s)
  refine ⟨interleave_options pages steps hall, fun i => ?_, fun i => ?_, fun i => ?_⟩
  · rw [← hsteps i]
    exact (halike i).1
  · rw [← hsteps i]
    exact (halike i).2.desk.card.symm
  · rw [← hsteps i]
    exact (halike i).2.desk.slips.symm

/-- A request with a page writes its clauses and narrows a statement. In between
another one, without a page, attempts to assign the largest size. -/
theorem interleave_isolated_two :
    let page : Page := { column := "Name" }
    let s : Shared := ⟨Pager.reference.configuration, (({} : Desk).addPage page).1⟩
    let pages : Bool → Option PageRef := fun i => if i then some 0 else none
    let programs : Bool → List (Operation ℕ) := fun i =>
      if i then [.task .clauses, .task (.narrow (.select {}))] else [.assign "max_size" (.int 9)]
    let steps : List (Bool × Operation ℕ) := [(true, .task .clauses),
      (false, .assign "max_size" (.int 9)), (true, .task (.narrow (.select {})))]
    Apart pages ∧ (∀ i, own i steps = programs i) ∧
      (∀ i, ∀ operation ∈ programs i, operation.Refused s.options) ∧
      s.Isolated pages programs steps := by
  intro page s pages programs steps
  have hpages : Apart pages := by
    intro i j hij h
    cases i <;> cases j <;> simp_all [pages]
  have hsteps : ∀ i, own i steps = programs i := by
    intro i
    cases i <;> rfl
  obtain ⟨hpublic, hisolated⟩ :=
    interleave_isolated .reference (({} : Desk).addPage page).1 pages programs steps hpages hsteps
  have hrefused : ∀ i, ∀ operation ∈ programs i, operation.Refused s.options := by
    intro i operation h
    cases i with
    | true =>
      obtain rfl | rfl : operation = .task .clauses ∨ operation = .task (.narrow (.select {})) := by
        simpa [programs] using h
      · trivial
      · trivial
    | false =>
      obtain rfl : operation = .assign "max_size" (.int 9) := by simpa [programs] using h
      exact hpublic "max_size" _ (by simp [isPrivate])
  exact ⟨hpages, hsteps, hrefused, hisolated hrefused⟩

/-- A request may put other options in the place of all: the next clauses that any
other request gets are not those that it would get alone. -/
theorem not_isolated_replaced :
    let s : Shared := ⟨Pager.reference.configuration, {}⟩
    let fields : List (String × Value) := [("default_size", .int 3), ("max_size", .int 4),
      ("default_sort", .list [.text "-x"]), ("column_func", .null)]
    let pages : Bool → Option PageRef := fun _ => none
    let programs : Bool → List (Operation ℕ) := fun i =>
      if i then [.task .clauses] else [.assign "__dict__" (.record fields)]
    let steps : List (Bool × Operation ℕ) :=
      [(false, .assign "__dict__" (.record fields)), (true, .task .clauses)]
    Apart pages ∧ (∀ i, own i steps = programs i) ∧ ¬s.Isolated pages programs steps := by
  intro s fields pages programs steps
  refine ⟨fun _ _ _ _ => rfl, fun i => by cases i <;> rfl, fun h => ?_⟩
  have htaken : s.options.assign "__dict__" (.record fields) =
      { left := s.options.replaced fields } := Configuration.assign_record rfl fields
  have hshared : own true (s.interleave pages steps).2 =
      [.task (.clauses [] (.ok ["x DESC"]))] := by
    simp only [steps, interleave, perform, htaken]
    rfl
  have halone : (s.serve (pages true) (programs true)).2 =
      [.task (.clauses [] (.ok ["id ASC"]))] := rfl
  have hsame := h.responses true
  rw [hshared, halone] at hsame
  simp at hsame

end Shared
end Folio
