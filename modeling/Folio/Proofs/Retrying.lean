/-
# Trying again after a failure

Narrowing a statement for a page fails exactly when the column map does, on the first
column in the order of the page that it fails on (`Pager.prepared_eq_error_iff`), unless
it is a report that fails (`Journal.not_retried_reported`). By then the page has got its
size, so that a failure leaves something behind. It does no harm: the size is the one that
a call with any other column map would leave, since a page is fitted before its columns are
looked at and is fitted in the same way again (`Desk.narrow_left_congr`). Nor do the reports
made by then, as later ones are treated as before. Whoever narrows again with a map that
does not fail gets what he would have got at once (`Journal.narrowing_retried`).

Key definitions: `ColumnMap.Legible`, `Pager.Legible`, `Pager.FailsFirst`.
Key theorems: `Pager.failsFirst_iff`, `Pager.prepared_eq_error_iff`,
`Desk.narrow_left_congr`, `Journal.narrowing_after`, `Journal.narrowing_retried`.
-/
import Folio.Proofs.Narrowing
import Folio.Proofs.Repetition
import Folio.Proofs.Sanity

namespace Folio

/-! ### Column maps that may fail -/

/-- A map that may fail on the name of a column, but gives nothing that cannot be
written. -/
def ColumnMap.Legible (f : ColumnMap) : Prop :=
  ∀ (column : String) (v : Value), f (.text column) = .ok v → v.isWritable = true

/-- A map that gives nothing but names is legible, whether or not it fails. -/
theorem ColumnMap.legible_of_texts {f : ColumnMap}
    (h : ∀ (column : String) (v : Value), f (.text column) = .ok v → ∃ name, v = .text name) :
    f.Legible := by
  intro column v hv
  obtain ⟨name, rfl⟩ := h column v hv
  rfl

theorem ColumnMap.Total.legible {f : ColumnMap} (h : f.Total) : f.Legible := by
  intro column v hv
  obtain ⟨v', hv', hw⟩ := h column
  obtain rfl : v' = v := Except.ok.inj (hv'.symm.trans hv)
  exact hw

namespace Pager

variable {p : Pager} {page : Option Page} {key : SortKey} {failure : Failure}

/-- A pager whose column map, if it has one, is legible. -/
def Legible (p : Pager) : Prop :=
  ∀ f ∈ p.columnMap, f.Legible

/-- The failure of the column map on the first of some keys that it fails on. -/
def FailsFirst (p : Pager) (keys : List SortKey) (failure : Failure) : Prop :=
  ∃ before key after f fault, keys = before ++ key :: after ∧
    (∀ earlier ∈ before, ∃ v, p.renamed earlier.column = .ok v) ∧
    p.columnMap = some f ∧ f (.text key.column) = .error fault ∧ failure = .column fault

theorem isWritable_of_renamed (hp : p.Legible) {column : String} {v : Value}
    (h : p.renamed column = .ok v) : v.isWritable = true := by
  unfold renamed at h
  cases hf : p.columnMap with
  | none =>
    rw [hf] at h
    cases h
    rfl
  | some f =>
    rw [hf] at h
    cases hv : f (.text column) with
    | error fault => simp [hv, Except.mapError] at h
    | ok w =>
      obtain rfl : w = v := by simpa [hv, Except.mapError] using h
      exact hp f hf column w hv

/-- A key has a clause as soon as the column map does not fail on its column. -/
theorem writes_iff_renamed (hp : p.Legible) :
    (∃ text, p.Writes key text) ↔ ∃ v, p.renamed key.column = .ok v := by
  constructor
  · rintro ⟨text, h⟩
    obtain ⟨v, hv, -⟩ := h.cases
    exact ⟨v, hv⟩
  · rintro ⟨v, hv⟩
    cases hset : v.isSet with
    | true => exact ⟨_, .ordered hv hset (isWritable_of_renamed hp hv)⟩
    | false => exact ⟨_, .nothing hv hset⟩

theorem failsOn_iff (hp : p.Legible) :
    p.FailsOn key failure ↔
      ∃ f fault, p.columnMap = some f ∧ f (.text key.column) = .error fault ∧
        failure = .column fault := by
  constructor
  · rintro (⟨hf, hfault⟩ | ⟨hv, hw⟩)
    · exact ⟨_, _, hf, hfault, rfl⟩
    · rw [isWritable_of_renamed hp hv] at hw
      cases hw
  · rintro ⟨f, fault, hf, hfault, rfl⟩
    exact .column hf hfault

/-- The clauses of some keys fail as the column map does on the first of them that it
fails on. -/
theorem failsFirst_iff (hp : p.Legible) {keys : List SortKey} :
    p.clausesOf (keys.map SortKey.term) = .error failure ↔ p.FailsFirst keys failure := by
  rw [clausesOf_eq_error_iff, FailsFirst]
  simp only [writes_iff_renamed hp, failsOn_iff hp]
  constructor
  · rintro ⟨before, key, after, hkeys, hbefore, f, fault, hfault⟩
    exact ⟨before, key, after, f, fault, hkeys, hbefore, hfault⟩
  · rintro ⟨before, key, after, f, fault, hkeys, hbefore, hfault⟩
    exact ⟨before, key, after, hkeys, hbefore, f, fault, hfault⟩

/-- Narrowing fails exactly when the clauses of the page do, as any window of whole
numbers can be put on any statement. -/
theorem prepared_eq_error_iff (statement : Statement) :
    (p.narrow statement page).prepared = .error failure ↔ p.clauses page = .error failure := by
  simp only [narrow, prepare, clauses_fit]
  cases p.clauses page with
  | error failure' => simp
  | ok clauses =>
    obtain ⟨narrowed, hok, -⟩ := statement.windowed_ok (Window.limit (page.map p.fit))
      (Window.offset (page.map p.fit)) clauses
    simp [hok]

theorem prepared_eq_error_iff_failsFirst (hp : p.Legible) (statement : Statement) :
    (p.narrow statement page).prepared = .error failure ↔
      p.FailsFirst (p.choice page).keys failure := by
  rw [prepared_eq_error_iff, clauses, failsFirst_iff hp]

/-- The rows of a batch depend on nothing but the sizes. -/
theorem batchSize_congr {q : Pager} (hdefault : q.defaultSize = p.defaultSize)
    (hmax : q.maxSize = p.maxSize) (page : Option Page) :
    q.batchSize page = p.batchSize page := by
  cases page with
  | none => rfl
  | some page => simp only [batchSize, hdefault, hmax]

end Pager

namespace Desk

variable {d : Desk} {ref : Option PageRef}

/-! ### What a failure leaves behind -/

theorem fitted_congr {c c' : Configuration} (hdefault : c'.defaultSizeValue = c.defaultSizeValue)
    (hmax : c'.maxSizeValue = c.maxSizeValue) (card : Card) : fitted c' card = fitted c card := by
  have hfilled : filled c' card = filled c card := by rw [filled, filled, hdefault]
  have hcapped : capped c' = capped c := by
    funext card
    rw [capped, capped, hmax]
  rw [fitted, fitted, hfilled, hcapped]

/-- What narrowing leaves on the desk depends on nothing but the sizes of the pager,
whatever the page holds and whether or not it fails. -/
theorem narrow_left_congr {c c' : Configuration}
    (hdefault : c'.defaultSizeValue = c.defaultSizeValue)
    (hmax : c'.maxSizeValue = c.maxSizeValue) (d : Desk) (statement : Statement)
    (ref : Option PageRef) : (d.narrow c' statement ref).1 = (d.narrow c statement ref).1 := by
  unfold narrow
  cases d.card? ref with
  | none => rfl
  | some card =>
    dsimp only
    rw [fitted_congr hdefault hmax card]
    cases (fitted c card).failure <;> rfl

/-- A session in which narrowing fails keeps its statement. -/
theorem perform_narrow_of_error {s : Session} {name : Name} {failure : Failure}
    (h : (s.desk.narrow s.options s.statement (s.ref name)).2.prepared = .error failure) :
    (s.perform (.narrow name .latest)).1 =
        s.onDesk (s.desk.narrow s.options s.statement (s.ref name)).1 ∧
      (s.perform (.narrow name .latest)).2.answer = .failed failure := by
  simp only [Session.perform, Session.narrow, Session.statementOf, h]
  exact ⟨trivial, trivial⟩

/-- Narrowing after a narrowing with the same sizes, whether or not that failed, is
narrowing at once. -/
theorem narrow_after {p q : Pager} (hdefault : q.defaultSize = p.defaultSize)
    (hmax : q.maxSize = p.maxSize) {page : Option Page} (h : d.Holds ref page)
    (statement : Statement) :
    let tried := d.narrow p.configuration statement ref
    let direct := d.narrow q.configuration statement ref
    tried.1 = direct.1 ∧ tried.1.narrow q.configuration statement ref = direct := by
  intro tried direct
  have hsame : tried.1 = direct.1 := by
    apply narrow_left_congr
    · show Except.ok (Value.int p.defaultSize.rows) = .ok (.int q.defaultSize.rows)
      rw [hdefault]
    · show Except.ok (Value.int p.maxSize.rows) = .ok (.int q.maxSize.rows)
      rw [hmax]
  rw [hsame]
  exact ⟨rfl, narrow_again q h statement⟩

end Desk

namespace Journal

variable {j : Journal} {d : Desk} {ref : Option PageRef}

/-! ### Trying again -/

/-- Whatever is reported of narrowing for a sound page is taken as long as its offset is
short. -/
theorem takes_of_mem_narrow (hj : j.Proper) (hfalls : j.FallsBack) (p : Pager)
    {page : Option Page} (h : d.Holds ref page) (hpage : ∀ q ∈ page, q.Sound)
    (hoffset : Value.isShort ((Window.numberFor page - 1) * p.batchSize page) = true)
    {statement : Statement} {event : Event}
    (hevent : event ∈ (d.narrow p.configuration statement ref).2.events) : j.Takes event := by
  rw [(Desk.narrow_of_holds p h statement).2] at hevent
  exact .inr ⟨hj, p.short_of_mem_narrow hpage hoffset statement event hevent, fun _ => hfalls⟩

/-- Narrowing after a narrowing with the same sizes leaves, gives and writes what narrowing
at once would, whether or not the first one failed. -/
theorem narrowing_after {p q : Pager} (hdefault : q.defaultSize = p.defaultSize)
    (hmax : q.maxSize = p.maxSize) {page : Option Page} (h : d.Holds ref page)
    (statement : Statement) (j : Journal) (time time' : String) :
    let tried := j.narrowing time d p.configuration statement ref
    let direct := j.narrowing time' d q.configuration statement ref
    let retried := tried.journal.narrowing time' tried.desk q.configuration statement ref
    tried.desk = direct.desk ∧ retried.desk = direct.desk ∧ retried.result = direct.result ∧
      retried.written = direct.written := by
  intro tried direct retried
  obtain ⟨hsame, hagain⟩ := Desk.narrow_after hdefault hmax h statement
  -- the second narrowing is the direct one, reported to a journal that treats it alike
  have halike : j.Alike tried.journal := j.alike_narrowing time d p.configuration statement ref
  have hretried : retried = tried.journal.narrowing time' d q.configuration statement ref := by
    show tried.journal.narrowing time' (d.narrow p.configuration statement ref).1
      q.configuration statement ref = _
    unfold narrowing
    rw [hagain]
  obtain ⟨hdesk, hwritten, hresult⟩ := halike.report time'
    (d.narrow q.configuration statement ref).1 (d.narrow q.configuration statement ref).2.events
    (d.narrow q.configuration statement ref).2.prepared
  rw [hretried]
  exact ⟨hsame, hdesk, hresult, hwritten⟩

/-- **A narrowing that failed can be done again as if nothing had happened.** As long as the
journal takes what is reported, it fails exactly when the column map fails on a column of
the keys that the page is sorted by, and then as it does on the first such column. No
statement comes of it, the one that it started from is kept, and of the whole desk only the
size of the page is another one: that which any pager with the same sizes would leave. If
such a pager then narrows the statement for the page, with whatever column map, it gives,
leaves and writes what it would have before; and it does not fail if its map is total and
its reports are taken. Those about a sound page are, if its offset is short and the context
keeps no entry from being written. -/
theorem narrowing_retried {p q : Pager} (hp : p.Legible)
    (hdefault : q.defaultSize = p.defaultSize) (hmax : q.maxSize = p.maxSize)
    {page : Option Page} (h : d.Holds ref page) (statement : Statement) (j : Journal)
    (time time' : String) :
    let tried := j.narrowing time d p.configuration statement ref
    let direct := j.narrowing time' d q.configuration statement ref
    let retried := tried.journal.narrowing time' tried.desk q.configuration statement ref
    let reports := fun c : Configuration => (d.narrow c statement ref).2.events
    (∃ keys, p.SortedBy page keys ∧
      ((∀ event ∈ reports p.configuration, j.Takes event) →
        ∀ failure, tried.result = .error failure ↔ p.FailsFirst keys failure) ∧
      ∀ (s : Session) (name : Name) (failure : Failure), s.desk = d →
        s.options = p.configuration → s.ref name = ref → s.statement = statement →
        p.FailsFirst keys failure →
        (s.perform (.narrow name .latest)).1 = s.onDesk tried.desk ∧
          (s.perform (.narrow name .latest)).2.answer = .failed failure) ∧
    d.ChangedIn ["size"] ref tried.desk ∧ tried.desk.Holds ref (page.map p.fit) ∧
    tried.desk = direct.desk ∧
    retried.desk = direct.desk ∧ retried.result = direct.result ∧
    retried.written = direct.written ∧
    (q.Total → (∀ event ∈ reports q.configuration, j.Takes event) →
      ∃ prepared, retried.result = .ok prepared) ∧
    (j.Proper → j.FallsBack → (∀ q ∈ page, q.Sound) →
      Value.isShort ((Window.numberFor page - 1) * p.batchSize page) = true →
      ∀ c ∈ [p.configuration, q.configuration], ∀ event ∈ reports c, j.Takes event) := by
  intro tried direct retried reports
  obtain ⟨hleft, hr⟩ := Desk.narrow_of_holds p h statement
  obtain ⟨hsame, hdesk, hresult, hwritten⟩ := narrowing_after hdefault hmax h statement j time time'
  have hfails : ∀ failure, (d.narrow p.configuration statement ref).2.prepared = .error failure ↔
      p.FailsFirst (p.choice page).keys failure := by
    intro failure
    rw [hr, Pager.prepared_eq_error_iff_failsFirst hp]
  refine ⟨⟨(p.choice page).keys, Pager.sortedBy_iff.mpr rfl, fun htakes failure => ?fails,
    ?session⟩, Desk.narrow_changedIn d p.configuration statement ref, hleft, hsame, hdesk,
    hresult, hwritten, fun hq htakes => ?succeeds, ?takes⟩
  case fails =>
    rw [← hfails, ← narrowing_of_takes htakes time]
  case session =>
    rintro s name failure rfl hoptions rfl rfl hfailed
    have hperform : (s.desk.narrow s.options s.statement (s.ref name)).2.prepared =
        .error failure := by
      rw [hoptions]
      exact (hfails failure).mpr hfailed
    have hkept := Desk.perform_narrow_of_error hperform
    rwa [hoptions] at hkept
  case succeeds =>
    obtain ⟨prepared, hok, -⟩ := Pager.narrow_ok hq statement page
    refine ⟨prepared, hresult.trans ?_⟩
    rw [narrowing_of_takes htakes, (Desk.narrow_of_holds q h statement).2]
    exact hok
  case takes =>
    intro hj hfalls hpage hoffset c hc event hevent
    rcases List.mem_pair.mp hc with rfl | rfl
    · exact takes_of_mem_narrow hj hfalls p h hpage hoffset hevent
    · rw [← Pager.batchSize_congr hdefault hmax] at hoffset
      exact takes_of_mem_narrow hj hfalls q h hpage hoffset hevent

/-- A table has a name for the first of two columns only. Nine rows a batch were wanted
and five are granted, also when the second column fails; with small letters in place of
the table the second page of five is then prepared. Debugging is on all the time. -/
theorem narrowing_retried_listed :
    let table : Value := .record [("id", .text "item_id")]
    let p : Pager := { Pager.reference with columnMap := some (Renaming.listed table).toMap }
    let page : Page := { size := 9, number := 2, column := "id,-Name" }
    let d : Desk := (({} : Desk).addPage page).1
    let j := ({} : Journal).configure (some true)
    let tried := j.narrowing "now" d p.configuration (.select {}) (some 0)
    let retried :=
      tried.journal.narrowing "then" tried.desk Pager.reference.configuration (.select {}) (some 0)
    p.Legible ∧ Pager.reference.defaultSize = p.defaultSize ∧
      Pager.reference.maxSize = p.maxSize ∧ d.Holds (some 0) (some page) ∧
      tried.result = .error (.column (.lookup (.missing "Name"))) ∧
      tried.desk.Holds (some 0) (some { page with size := 5 }) ∧
      ∃ prepared, retried.result = .ok prepared ∧
        prepared.statement =
          .select { clauses := ["id ASC", "name DESC"], limit := some 6, offset := some 5 } := by
  intro table p page d j tried retried
  have hp : p.Legible := by
    rintro f ⟨⟩
    apply ColumnMap.legible_of_texts
    intro column v hv
    by_cases hid : column = "id"
    · subst hid
      exact ⟨"item_id", (Except.ok.inj hv).symm⟩
    · have hne : (column == "id") = false := by simpa using hid
      simp [Renaming.toMap, Renaming.lookUp, table, Value.part, Value.fieldAt, List.lookup_cons, hne,
        Except.mapError] at hv
  have hd : d.Holds (some 0) (some page) := Desk.addPage_holds {} page
  have hpage : ∀ q ∈ some page, q.Sound := by
    rintro q ⟨⟩
    decide
  have hproper : j.Proper := (proper_fresh {}).configure _
  have hfalls : j.FallsBack := fallsBack_fresh {}
  obtain ⟨⟨keys, hkeys, hfails, -⟩, -, hleft, -, -, hdirect, -, hok, htakes⟩ :=
    narrowing_retried hp rfl rfl hd (.select {}) j "now" "then" (q := .reference)
  have htaken := htakes hproper hfalls hpage (by decide +kernel)
  obtain ⟨prepared, hprepared⟩ := hok Pager.reference_total (htaken _ (by simp))
  obtain rfl : keys = [⟨"id", some .ascending⟩, ⟨"Name", some .descending⟩] := by
    rw [Pager.sortedBy_iff.mp hkeys]
    decide
  refine ⟨hp, rfl, rfl, hd, (hfails (htaken _ (by simp)) _).mpr ?_, hleft, prepared, hprepared, ?_⟩
  · exact ⟨[⟨"id", some .ascending⟩], ⟨"Name", some .descending⟩, [], _, .lookup (.missing "Name"),
      rfl, by simpa using ⟨_, rfl⟩, rfl, rfl, rfl⟩
  · have hclauses : Pager.reference.clauses (some page) = .ok ["id ASC", "name DESC"] :=
      Pager.clauses_of_keys [⟨"id", some .ascending⟩, ⟨"Name", some .descending⟩] (by decide) rfl
    obtain ⟨narrowed, hnarrow, hnarrowed⟩ := Pager.narrow_of_clauses hclauses (.select {})
    rw [hdirect, narrowing_of_takes (htaken _ (by simp)),
      (Desk.narrow_of_holds .reference hd (.select {})).2, hnarrow] at hprepared
    cases hprepared
    cases hnarrowed
    rfl

/-- A narrowing for a sound page that is far behind can fail though the column map does
not. -/
theorem narrowing_listed_of_far {number : Int} (hnumber : 0 ≤ number)
    (hoffset : Value.isShort (Window.offset (some { number, size := 10 })) = false) :
    let table : Value := .record [("id", .text "item_id")]
    let map := (Renaming.listed table).toMap
    let p : Pager := { Pager.usual with columnMap := some map }
    let page : Page := { number }
    let d : Desk := (({} : Desk).addPage page).1
    let on := ({} : Journal).configure (some true)
    page.Sound ∧ d.Holds (some 0) (some page) ∧
      map (.text "Name") = .error (.lookup (.missing "Name")) ∧ p.SortedBy (some page) [] ∧
      (∀ failure, ¬ p.FailsFirst [] failure) ∧
      (on.narrowing "now" d p.configuration (.select {}) (some 0)).result =
        .error .tooManyDigits := by
  intro table map p page d on
  obtain ⟨hpage, hd, -, hresult⟩ := narrowing_of_far hnumber hoffset (some map)
  refine ⟨hpage, hd, rfl, Pager.sortedBy_iff.mpr rfl, ?_, hresult⟩
  rintro failure ⟨before, key, after, -, -, hkeys, -⟩
  simp at hkeys

/-- **It can fail though the column map does not.** The map fails on some columns, but the
page is not sorted by any. Its number can still be written and its offset cannot: with
debugging narrowing fails. -/
theorem not_retried_reported :
    let table : Value := .record [("id", .text "item_id")]
    let map := (Renaming.listed table).toMap
    let p : Pager := { Pager.usual with columnMap := some map }
    let page : Page := { number := (2 * 10 ^ 4299 : Nat) }
    let d : Desk := (({} : Desk).addPage page).1
    let on := ({} : Journal).configure (some true)
    page.Sound ∧ d.Holds (some 0) (some page) ∧
      map (.text "Name") = .error (.lookup (.missing "Name")) ∧ p.SortedBy (some page) [] ∧
      (∀ failure, ¬ p.FailsFirst [] failure) ∧
      (on.narrowing "now" d p.configuration (.select {}) (some 0)).result =
        .error .tooManyDigits :=
  narrowing_listed_of_far (Int.natCast_nonneg _) (by decide +kernel)

end Journal
end Folio
