/-
# Reporting the work on a page

What a pager reports accounts for what it does: the specs that it ignored, the window and
the clauses that the statement has got, and the rows that it kept. If all of the reports can
be laid out, whoever works gets the same with debugging and without; with debugging every
report is written, one line each and in order, and without none is
(`Journal.work_accounts`). They cannot all be laid out if a number is too long, and then
debugging fails where nothing fails without; and a logger that was first used without
debugging writes nothing any more (`Journal.not_same_work`).

Key definitions: `Journal.SameWork`.
Key theorems: `Journal.sameWork_report`, `Journal.work_accounts`.
-/
import Folio.Proofs.Accounts
import Folio.Proofs.Sanity

namespace Folio
namespace Journal

variable {α β : Type} {d : Desk} {ref : Option PageRef} {page : Option Page}

/-! ### With debugging and without -/

/-- The same work with debugging and without: with it some events are written, one line
each and in order, and without it nothing is; and both leave the same desk and give the
same. -/
structure SameWork (j : Journal) (time : String) (events : List Event) (loud silent : Work β) :
    Prop where
  written : j.Shows time events loud.written
  unwritten : silent.written = []
  desk : loud.desk = silent.desk
  result : loud.result = silent.result

theorem sameWork_report {on off : Journal} (hon : on.Proper) (hdebugs : on.Debugs)
    (hoff : off.Proper) (hplain : off.mode = some .plain) (time time' : String) (d : Desk)
    {events : List Event} (hshort : ∀ event ∈ events, event.Short) (result : Except Failure β) :
    SameWork on time events (on.report time d events result)
      (off.report time' d events result) := by
  have htakes : ∀ event ∈ events, on.Takes event := fun event hevent =>
    hon.takes (by rw [hdebugs.mode]; rfl) (hshort event hevent)
  have htakes' : ∀ event ∈ events, off.Takes event := fun event hevent =>
    hoff.takes (by rw [hplain]; rfl) (hshort event hevent)
  exact ⟨(logAll_of_takes time htakes).2.2 hdebugs, (logAll_of_takes time' htakes').2.1 hplain,
    rfl, by rw [result_of_takes htakes time d, result_of_takes htakes' time' d]⟩

/-- **Reports account for the work, and reporting does not change it.** Whether the page
is absent or passes every check, as long as its number and its offset are not too long to
be written: what is reported of a narrowing are the specs that were consulted and ignored,
and then, if the column map did not fail, the window and the clauses that the statement
has got; of a collecting it is the number of rows that are kept, and the number of the
page and whether more follow, as they are then. With debugging all of it is written, and
without nothing is, and in both cases the desk is left in the same way and the same
results and failures come of it. -/
theorem work_accounts {p : Pager} (hp : p.Legible) (h : d.Holds ref page)
    (hpage : ∀ q ∈ page, q.Sound) (hnumber : Value.isShort (Window.numberFor page) = true)
    (hoffset : Value.isShort ((Window.numberFor page - 1) * p.batchSize page) = true)
    {on off : Journal} (hon : on.Proper) (hdebugs : on.Debugs) (hoff : off.Proper)
    (hplain : off.mode = some .plain) (time time' : String) (statement : Statement)
    (rows : List α) :
    let narrowed := on.narrowing time d p.configuration statement ref
    let narrowed' := off.narrowing time' d p.configuration statement ref
    let collected := on.collecting time d ref (some rows)
    let collected' := off.collecting time' d ref (some rows)
    (∃ keys ignored events, p.Sifts page keys ignored ∧
      p.Accounts statement keys ignored events narrowed.result ∧
      SameWork on time events narrowed narrowed') ∧
    ∃ batch after, collected.result = .ok batch ∧
      collected.desk.Holds ref (page.map fun _ => after) ∧
      after.number = page.elim 1 (fun q => max q.number 1) ∧
      after.more = decide (Window.limit page < rows.length) ∧
      SameWork on time [.resultPrepared batch.length (.int after.number) after.more]
        collected collected' := by
  intro narrowed narrowed' collected collected'
  have hmode : on.mode.isSome := by
    rw [hdebugs.mode]
    rfl
  constructor
  · have hshort : ∀ event ∈ (d.narrow p.configuration statement ref).2.events, event.Short := by
      rw [(Desk.narrow_of_holds p h statement).2]
      exact p.short_of_mem_narrow hpage hoffset statement
    obtain ⟨keys, ignored, hsifts, haccounts⟩ := Desk.narrow_accounts hp h statement
    refine ⟨keys, ignored, _, hsifts, ?_, sameWork_report hon hdebugs hoff hplain _ _ _ hshort _⟩
    -- no report takes the place of the result
    have hresult : narrowed.result = (d.narrow p.configuration statement ref).2.prepared :=
      narrowing_of_takes (fun event hevent => hon.takes hmode (hshort event hevent)) time
    rw [hresult]
    exact haccounts
  · have hshort : ∀ event ∈ (d.collect ref (some rows)).2.events, event.Short := by
      rw [(Desk.collect_of_holds h rows).2]
      exact Pager.short_of_mem_collect hpage hnumber rows
    obtain ⟨batch, after, hrows, hleft, hafter, hmore, hevents⟩ := Desk.collect_accounts h rows
    have hresult : collected.result = (d.collect ref (some rows)).2.rows :=
      collecting_of_takes (fun event hevent => hon.takes hmode (hshort event hevent)) time
    refine ⟨batch, after, hresult.trans hrows, hleft, hafter, hmore, ?_⟩
    rw [← hevents]
    exact sameWork_report hon hdebugs hoff hplain _ _ _ hshort _

/-- One of three specs names nothing. Debugging has been turned on before a pager was at
work: two reports are written, one of them about this spec, and one more when rows are
collected. -/
theorem work_accounts_ignored :
    let page : Page := { size := 2, column := "Name,-,id" }
    let d : Desk := (({} : Desk).addPage page).1
    let before : List Step := [.configure (some false)]
    let after : List Step := [.paginate .absent (.ok (.int 1))]
    let on := (({} : Journal).run "then" (before ++ .configure (some true) :: after)).1
    let off := ({} : Journal).configure (some false)
    let narrowed := on.narrowing "now" d Pager.reference.configuration (.select {}) (some 0)
    let collected := on.collecting "now" d (some 0) (some (List.range 3))
    d.Holds (some 0) (some page) ∧ on.Debugs ∧ off.mode = some .plain ∧
      (∃ line, on.line "now" (.specIgnored (.text "-")) = .ok line ∧
        ∃ other, narrowed.written = [line, other]) ∧
      narrowed.result =
        (off.narrowing "now" d Pager.reference.configuration (.select {}) (some 0)).result ∧
      collected.written.length = 1 ∧
      (off.collecting "now" d (some 0) (some (List.range 3))).written = [] := by
  intro page d before after on off narrowed collected
  have hd : d.Holds (some 0) (some page) := Desk.addPage_holds {} page
  have hp : Pager.reference.Legible := fun f hf => (Pager.reference_total f hf).legible
  have hpage : ∀ q ∈ some page, q.Sound := by
    rintro q ⟨⟩
    decide
  have hbefore : ∀ step ∈ before, step.paginates = false := by decide
  have hafter : ∀ step ∈ after, step.chooses? {} ≠ some .plain := by decide
  have hon : on.Debugs := debugs_of_configured {} "then" hbefore hafter
  have hproper : on.Proper := run_proper "then" (proper_fresh {}) (by simp [before, after, Step.context?])
  have hproper' : off.Proper := (proper_fresh {}).configure _
  obtain ⟨⟨keys, ignored, events, hsifts, haccounts, hnarrowed⟩, batch, after, -, -, -, -,
      hcollected⟩ :=
    work_accounts hp hd hpage (by decide +kernel) (by decide +kernel) hproper hon hproper' rfl
      "now" "now" (.select {}) (List.range 3)
  obtain rfl : ignored = ["-"] := by
    have hignored : (Pager.reference.choice (some page)).ignored = ["-"].map some := by decide
    exact Pager.map_some_injective ((Pager.sifts_iff.mp hsifts).2.symm.trans hignored)
  refine ⟨hd, hon, rfl, ?_, hnarrowed.result, hcollected.written.length_eq.symm,
    hcollected.unwritten⟩
  have hwritten : on.Shows "now" events narrowed.written := hnarrowed.written
  generalize narrowed.written = lines at hwritten ⊢
  generalize narrowed.result = result at haccounts
  cases haccounts with
  | failed h =>
    obtain ⟨before, key, after, f, fault, -, -, hf, hfault, -⟩ := h
    obtain ⟨v, hv, -⟩ := Pager.reference_total f hf key.column
    cases hv.symm.trans hfault
  | prepared hclauses hr =>
    cases hwritten with
    | cons hfirst hrest =>
      cases hrest with
      | cons hsecond hrest =>
        cases hrest
        exact ⟨_, hfirst, _, rfl⟩

/-- A page whose offset is too long to be written is narrowed for without debugging but
not with it. Once that has been done nothing is reported any more, even if debugging is
turned on. -/
theorem narrowings_of_far {number : Int} (hnumber : 0 ≤ number)
    (hoffset : Value.isShort (Window.offset (some { number, size := 10 })) = false) :
    let page : Page := { number }
    let d : Desk := (({} : Desk).addPage page).1
    let on := ({} : Journal).configure (some true)
    let off := ({} : Journal).configure (some false)
    let narrowing := fun j : Journal =>
      j.narrowing "now" d Pager.usual.configuration (.select {}) (some 0)
    let late := (narrowing off).journal.configure (some true)
    page.Sound ∧ d.Holds (some 0) (some page) ∧ on.Debugs ∧ off.mode = some .plain ∧
      (narrowing on).result = .error .tooManyDigits ∧
      (∃ prepared, (narrowing off).result = .ok prepared) ∧
      late.mode = some .debugging ∧ (narrowing late).written = [] := by
  intro page d on off narrowing late
  obtain ⟨hpage, hd, hon, hfails⟩ := narrowing_of_far hnumber hoffset none
  have htotal : Pager.usual.Total := by rintro f ⟨⟩
  obtain ⟨prepared, hok, -⟩ := Pager.narrow_ok htotal (.select {}) (some page)
  have hnarrow := (Desk.narrow_of_holds .usual hd (.select {})).2
  let event : Event := .queryPrepared (.int 10)
    (.int (Window.offset (some { number, size := 10 }))) []
  have hevents : (d.narrow Pager.usual.configuration (.select {}) (some 0)).2.events = [event] := by
    rw [hnarrow]
    rfl
  have hplain : ∀ other ∈ [event], off.own other = some .plain := by
    intro other _
    cases other <;> rfl
  have hsilent : (off.logAll "now" [event]).2 = {} := logAll_of_own_plain "now" hplain
  refine ⟨hpage, hd, hon, rfl, hfails, ⟨prepared, ?succeeds⟩, rfl, ?late⟩
  case succeeds =>
    show (off.logAll "now" (d.narrow Pager.usual.configuration (.select {}) (some 0)).2.events
      ).2.failure.elim _ Except.error = _
    rw [hevents, hsilent, hnarrow]
    exact hok
  case late =>
    have hlate : ∀ other ∈ [event], late.own other = some .plain := by
      intro other hother
      obtain rfl := List.mem_singleton.mp hother
      show (((off.logAll "now" (d.narrow Pager.usual.configuration (.select {}) (some 0)).2.events
        ).1.configure (some true)).own event) = _
      rw [hevents]
      rfl
    show (late.logAll "now" (d.narrow Pager.usual.configuration (.select {}) (some 0)).2.events
      ).2.written = []
    rw [hevents, logAll_of_own_plain "now" hlate]

/-- **Reporting can change what comes of the work, or be left out.** A page may have a number
that can still be written and an offset that cannot. Narrowing for it fails with debugging
and does not without; and when it has been done without, nothing is reported any more,
even if debugging is turned on. A field of the context may keep reports from being written
too. -/
theorem not_same_work :
    let page : Page := { number := (2 * 10 ^ 4299 : Nat) }
    let d : Desk := (({} : Desk).addPage page).1
    let on := ({} : Journal).configure (some true)
    let off := ({} : Journal).configure (some false)
    let narrowing := fun j : Journal =>
      j.narrowing "now" d Pager.usual.configuration (.select {}) (some 0)
    let late := (narrowing off).journal.configure (some true)
    let foreign := { on with context := [("_record", .bool true)] }
    (page.Sound ∧ d.Holds (some 0) (some page) ∧ on.Debugs ∧ off.mode = some .plain ∧
      (narrowing on).result = .error .tooManyDigits ∧
      (∃ prepared, (narrowing off).result = .ok prepared) ∧
      late.mode = some .debugging ∧ (narrowing late).written = []) ∧
      (foreign.narrowing "now" {} Pager.usual.configuration (.select {}) none).result =
        .error .wrongKind :=
  ⟨narrowings_of_far (Int.natCast_nonneg _) (by decide +kernel), rfl⟩

end Journal
end Folio
