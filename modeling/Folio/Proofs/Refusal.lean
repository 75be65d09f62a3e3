/-
# Why no pager is made

Two things may speak against the options of a pager. With a size below zero, or a
column map that is no map, no pager can ever work: the first such option ends the
check, whatever is wrong with the others (`Pager.Unworkable`). If there is none, all
that cannot be read is listed, in the order of the options and the specs by their
positions (`Pager.issues`). What is left are options that make a pager, and it has
no size that would leave a page empty (`Pager.ofOptions_outcome`,
`Pager.ofFields_outcome`).

Key definitions: `Checked.Reports`, `Pager.Unworkable`, `Pager.issues`,
`Pager.MadeFrom`, `Pager.Outcome`.
Key theorems: `Checked.each_reports`, `Pager.readSize_reading`,
`Pager.ofOptions_outcome`, `Pager.ofFields_outcome`.
-/
import Folio.Proofs.Deployment
import Folio.Proofs.Drafting

namespace Folio

/-! ### What a check reports -/

namespace Checked

variable {α β γ : Type}

/-- A check passes and reports nothing, or fails and reports at least one issue. -/
inductive Reports : Checked α → List Issue → Prop
  | passed {a : α} : Reports (.ok a) []
  | failed {issues : List Issue} (h : issues ≠ []) : Reports (.error issues) issues

/-- The issues of a check. -/
def issues : Checked α → List Issue
  | .ok _ => []
  | .error issues => issues

theorem reports_ok_iff {a : α} {issues : List Issue} :
    Reports (.ok a) issues ↔ issues = [] := by
  constructor
  · intro h
    cases h
    rfl
  · rintro rfl
    exact .passed

theorem reports_error_iff {issues reported : List Issue} :
    Reports (.error issues : Checked α) reported ↔ issues ≠ [] ∧ reported = issues := by
  constructor
  · intro h
    cases h with
    | failed h => exact ⟨h, rfl⟩
  · rintro ⟨h, rfl⟩
    exact .failed h

theorem refuse_reports (complaint : Complaint) :
    (refuse complaint : Checked α).Reports [⟨complaint, []⟩] :=
  .failed (List.cons_ne_nil _ _)

theorem Reports.under {x : Checked α} {issues : List Issue} (h : x.Reports issues)
    (place : Place) : (x.under place).Reports (issues.map (Issue.under place)) := by
  cases h with
  | passed => exact .passed
  | failed h => exact .failed (h ∘ List.map_eq_nil_iff.mp)

theorem Reports.map {x : Checked α} {issues : List Issue} (h : x.Reports issues) (f : α → γ) :
    Reports (x.map f) issues := by
  cases h with
  | passed => exact .passed
  | failed h => exact .failed h

theorem Reports.zip {x : Checked α} {y : Checked β} {issues more : List Issue}
    (hx : x.Reports issues) (hy : y.Reports more) : (x.zip y).Reports (issues ++ more) := by
  cases hx with
  | passed =>
    cases hy with
    | passed => exact .passed
    | failed hy => exact .failed hy
  | failed hx =>
    cases hy with
    | passed =>
      rw [List.append_nil]
      exact .failed hx
    | failed hy => exact .failed (List.append_ne_nil_of_left_ne_nil hx _)

theorem eachFrom_reports {check : β → Checked α} {issuesOf : β → List Issue}
    (h : ∀ b, (check b).Reports (issuesOf b)) : ∀ (n : Nat) (items : List β),
      (eachFrom check n items).Reports
        ((items.zipIdx n).flatMap fun r => (issuesOf r.1).map (Issue.under (.index r.2)))
  | _, [] => .passed
  | n, b :: rest => by
    rw [eachFrom, List.zipIdx_cons, List.flatMap_cons]
    exact (((h b).under (.index n)).zip (eachFrom_reports h (n + 1) rest)).map _

/-- A check of every item reports the issues of all items, by their positions. -/
theorem each_reports {check : β → Checked α} {issuesOf : β → List Issue}
    (h : ∀ b, (check b).Reports (issuesOf b)) (items : List β) :
    (each check items).Reports
      (items.zipIdx.flatMap fun r => (issuesOf r.1).map (Issue.under (.index r.2))) :=
  eachFrom_reports h 0 items

end Checked

/-! ### What is wrong with an argument -/

/-- A value is read as a whole number, or there is one complaint about it. -/
theorem Value.readInt_cases (v : Value) :
    (∃ n, v.readInt = .ok n) ∨ ∃ complaint, v.readInt = Checked.refuse complaint := by
  unfold readInt
  split
  · exact .inl ⟨_, rfl⟩
  · exact .inl ⟨_, rfl⟩
  · split
    · exact .inr ⟨_, rfl⟩
    · split
      · exact .inr ⟨_, rfl⟩
      · split
        · exact .inl ⟨_, rfl⟩
        · exact .inr ⟨_, rfl⟩
  · split
    · exact .inl ⟨_, rfl⟩
    · exact .inr ⟨_, rfl⟩
  · exact .inr ⟨_, rfl⟩

/-- A value that is no text has one issue where a text is wanted. -/
def Value.textIssues : Value → List Issue
  | .text _ => []
  | _ => [⟨.notText, []⟩]

theorem Value.readText_reports (v : Value) : v.readText.Reports v.textIssues := by
  cases v with
  | text s => exact .passed
  | _ => exact Checked.refuse_reports .notText

theorem Value.readText_eq_ok_iff {v : Value} {s : String} : v.readText = .ok s ↔ v = .text s := by
  cases v <;> simp [readText, Checked.refuse]

theorem Value.map_readText_eq_iff {items : List Value} {texts : List String} :
    items.map readText = texts.map .ok ↔ items = texts.map .text := by
  induction items generalizing texts with
  | nil => cases texts <;> simp
  | cons v rest ih => cases texts <;> simp [readText_eq_ok_iff, ih]

namespace Argument

theorem readInt_reports (arg : Argument) : arg.readInt.Reports arg.readInt.issues := by
  cases arg with
  | value v =>
    rw [readInt]
    rcases v.readInt_cases with ⟨n, h⟩ | ⟨complaint, h⟩
    · rw [h]
      exact .passed
    · rw [h]
      exact Checked.refuse_reports complaint
  | map f => exact Checked.refuse_reports .notInteger

/-- The issues of an argument that an option is given. A size is a whole number, and
the default specs are a list of texts. -/
def issuesAs : OptionName → Argument → List Issue
  | .defaultSize, arg => arg.readInt.issues
  | .maxSize, arg => arg.readInt.issues
  | .defaultSpecs, .value (.list items) =>
    items.zipIdx.flatMap fun r => r.1.textIssues.map (Issue.under (.index r.2))
  | .defaultSpecs, _ => [⟨.notTuple, []⟩]
  | .columnMap, _ => []

theorem readSpecs_reports (arg : Argument) : arg.readSpecs.Reports (arg.issuesAs .defaultSpecs) := by
  cases arg with
  | value v =>
    cases v with
    | list items => exact Checked.each_reports Value.readText_reports items
    | _ => exact Checked.refuse_reports .notTuple
  | map f => exact Checked.refuse_reports .notTuple

theorem readSpecs_eq_ok_iff {arg : Argument} {specs : List String} :
    arg.readSpecs = .ok specs ↔ arg = .value (.list (specs.map .text)) := by
  cases arg with
  | value v =>
    cases v with
    | list items =>
      rw [readSpecs, Checked.each_eq_ok_iff, Value.map_readText_eq_iff, value.injEq,
        Value.list.injEq]
    | _ => simp [readSpecs, Checked.refuse]
  | map f => simp [readSpecs, Checked.refuse]

end Argument

/-! ### What is wrong with the options -/

/-- Is the option a number of rows? -/
def OptionName.IsSize (name : OptionName) : Prop :=
  name = defaultSize ∨ name = maxSize

/-- The options that come before one. -/
def OptionName.before (name : OptionName) : List OptionName :=
  all.takeWhile (· ≠ name)

theorem Options.get_ofFields (fields : List (String × Argument)) :
    (ofFields fields).get = fun name => fields.lookup name.text := by
  funext name
  cases name <;> rfl

namespace Pager

/-- No pager can work with what an option is given, and that is the value to blame: a
size below zero, as it was read, or something else than a column map. -/
inductive Unworkable : OptionName → Option Argument → Value → Prop
  | size {name : OptionName} {arg : Argument} {n : Int} (hname : name.IsSize)
      (hread : arg.readInt = .ok n) (hneg : n < 0) : Unworkable name (some arg) (.int n)
  | columnMap {v : Value} (hnull : v ≠ .null) : Unworkable .columnMap (some (.value v)) v

/-- The issues of what an option is given, if it is given anything. -/
def issuesAt (name : OptionName) (given : Option Argument) : List Issue :=
  given.elim [] fun arg => (arg.issuesAs name).map (Issue.under (.field name.text))

/-- The issues of all that the options are given, in the order of the options. -/
def issues (given : OptionName → Option Argument) : List Issue :=
  OptionName.all.flatMap fun name => issuesAt name (given name)

/-- What becomes of a single option: no pager can work with it, or it is checked and
reports its issues. -/
inductive Reading (name : OptionName) (given : Option Argument) {α : Type} :
    Except Failure (Checked α) → Prop
  | unworkable {v : Value} (h : Unworkable name given v) :
      Reading name given (.error (.misconfigured name.text v))
  | checked {x : Checked α} (h : ∀ v, ¬ Unworkable name given v)
      (hx : x.Reports (issuesAt name given)) : Reading name given (.ok x)

theorem issuesAs_of_isSize {name : OptionName} (h : name.IsSize) (arg : Argument) :
    arg.issuesAs name = arg.readInt.issues := by
  rcases h with rfl | rfl <;> rfl

theorem not_unworkable_none {name : OptionName} {v : Value} : ¬ Unworkable name none v := by
  rintro ⟨⟩

theorem unworkable_size_iff {name : OptionName} (hname : name.IsSize) {arg : Argument}
    {v : Value} :
    Unworkable name (some arg) v ↔ ∃ n, arg.readInt = .ok n ∧ n < 0 ∧ v = .int n := by
  constructor
  · intro h
    cases h with
    | size _ hread hneg => exact ⟨_, hread, hneg, rfl⟩
    | columnMap hnull => exact absurd hname (by simp [OptionName.IsSize])
  · rintro ⟨n, hread, hneg, rfl⟩
    exact .size hname hread hneg

theorem readSize_reading {name : OptionName} (hname : name.IsSize) (usual : PageSize) :
    ∀ given, Reading name given (readSize name usual given)
  | none => .checked (fun _ => not_unworkable_none) .passed
  | some arg => by
    have hreports : (arg.readInt.under (.field name.text)).Reports (issuesAt name (some arg)) := by
      rw [issuesAt, Option.elim_some, issuesAs_of_isSize hname]
      exact arg.readInt_reports.under _
    rw [readSize]
    cases hread : arg.readInt with
    | error issues =>
      rw [hread, Checked.under, Checked.reports_error_iff] at hreports
      have hworkable : ∀ v, ¬ Unworkable name (some arg) v := by
        simp [unworkable_size_iff hname, hread]
      exact .checked hworkable (Checked.reports_error_iff.mpr hreports)
    | ok n =>
      rw [hread, Checked.under, Checked.reports_ok_iff] at hreports
      by_cases hn : 0 ≤ n
      · have hworkable : ∀ v, ¬ Unworkable name (some arg) v := by
          simp [unworkable_size_iff hname, hread, hn]
        simp only [Checked.under, dif_pos hn]
        exact .checked hworkable (Checked.reports_ok_iff.mpr hreports)
      · simp only [Checked.under, dif_neg hn]
        exact .unworkable (.size hname hread (by omega))

theorem not_unworkable_defaultSpecs {given : Option Argument} {v : Value} :
    ¬ Unworkable .defaultSpecs given v := by
  intro h
  cases h with
  | size hname => exact absurd hname (by simp [OptionName.IsSize])

theorem readSpecs_reports (given : Option Argument) :
    (readSpecs given).Reports (issuesAt .defaultSpecs given) := by
  cases given with
  | none => exact .passed
  | some arg => exact arg.readSpecs_reports.under _

theorem unworkable_columnMap_iff {given : Option Argument} {v : Value} :
    Unworkable .columnMap given v ↔ given = some (.value v) ∧ v ≠ .null := by
  constructor
  · intro h
    cases h with
    | size hname => exact absurd hname (by simp [OptionName.IsSize])
    | columnMap hnull => exact ⟨rfl, hnull⟩
  · rintro ⟨rfl, hnull⟩
    exact .columnMap hnull

theorem readMap_cases : ∀ given : Option Argument,
    (∃ v, Unworkable .columnMap given v ∧
      readMap given = .error (.misconfigured OptionName.columnMap.text v)) ∨
    (∀ v, ¬ Unworkable .columnMap given v) ∧ ∃ map, readMap given = .ok map
  | none => .inr ⟨fun _ => not_unworkable_none, none, rfl⟩
  | some (.map f) => .inr ⟨by simp [unworkable_columnMap_iff], some f, rfl⟩
  | some (.value v) => by
    by_cases hv : v = .null
    · subst hv
      exact .inr ⟨by simp [unworkable_columnMap_iff], none, rfl⟩
    · refine .inl ⟨v, .columnMap hv, ?_⟩
      cases v with
      | null => exact absurd rfl hv
      | _ => rfl

/-! ### What becomes of the options -/

/-- What becomes of options. -/
inductive Outcome (given : OptionName → Option Argument) : Except Failure Pager → Prop
  /-- The first option that no pager can work with ends the check. -/
  | misconfigured {name : OptionName} {v : Value} (h : Unworkable name (given name) v)
      (hfirst : ∀ earlier ∈ name.before, ∀ w, ¬ Unworkable earlier (given earlier) w) :
      Outcome given (.error (.misconfigured name.text v))
  /-- If there is none, all issues are listed. -/
  | rejected (h : ∀ name v, ¬ Unworkable name (given name) v) (hissues : issues given ≠ []) :
      Outcome given (.error (.rejected ⟨model, issues given⟩))
  | made {p : Pager} (h : ∀ name v, ¬ Unworkable name (given name) v)
      (hissues : issues given = []) : Outcome given (.ok p)

theorem issuesAt_columnMap (given : Option Argument) : issuesAt .columnMap given = [] := by
  cases given <;> rfl

theorem ofOptions_outcome (options : Options) : Outcome options.get (ofOptions options) := by
  have hd := readSize_reading (.inl rfl) usualSize options.defaultSize
  have hm := readSize_reading (.inr rfl) usualMaxSize options.maxSize
  have hs := readSpecs_reports options.defaultSpecs
  have hissues : issues options.get =
      issuesAt .defaultSize options.defaultSize ++ (issuesAt .maxSize options.maxSize ++
        issuesAt .defaultSpecs options.defaultSpecs) := by
    simp [issues, OptionName.all, Options.get, issuesAt_columnMap]
  unfold ofOptions
  generalize readSize .defaultSize usualSize options.defaultSize = defaultSize at hd
  cases hd with
  | unworkable h => exact .misconfigured h (by simp [OptionName.before, OptionName.all])
  | checked hdefault hd =>
    generalize readSize .maxSize usualMaxSize options.maxSize = maxSize at hm
    cases hm with
    | unworkable h =>
      refine .misconfigured h ?_
      simpa [OptionName.before, OptionName.all, Options.get] using hdefault
    | checked hmax hm =>
      rcases readMap_cases options.columnMap with ⟨v, h, hmap⟩ | ⟨hcolumn, map, hmap⟩
      · rw [hmap]
        refine .misconfigured h ?_
        simpa [OptionName.before, OptionName.all, Options.get, not_unworkable_defaultSpecs] using
          ⟨hdefault, hmax⟩
      · -- nothing ends the check, so all depends on what the checks report together
        have hworkable : ∀ name v, ¬ Unworkable name (options.get name) v
          | .defaultSize => hdefault
          | .maxSize => hmax
          | .defaultSpecs => fun _ => not_unworkable_defaultSpecs
          | .columnMap => hcolumn
        have hreports := hd.zip (hm.zip hs)
        rw [← hissues] at hreports
        rw [hmap]
        dsimp only
        split
        · next r hr =>
          rw [hr, Checked.reports_ok_iff] at hreports
          exact .made hworkable hreports
        · next listed hlisted =>
          rw [hlisted, Checked.reports_error_iff] at hreports
          obtain ⟨hne, rfl⟩ := hreports
          exact .rejected hworkable hne

/-- The rows that a size option allows: the usual number when it is left out, else the
number it is given, but the usual one again in place of zero. -/
inductive Allows (given : Option Argument) (usual : Int) : Int → Prop
  | missing (h : given = none) : Allows given usual usual
  | zero {arg : Argument} (h : given = some arg) (hread : arg.readInt = .ok 0) :
      Allows given usual usual
  | given {arg : Argument} {n : Int} (h : given = some arg) (hread : arg.readInt = .ok n)
      (hne : n ≠ 0) : Allows given usual n

theorem readSize_allows {name : OptionName} {usual size : PageSize} {given : Option Argument}
    (h : readSize name usual given = .ok (.ok size)) : Allows given usual.rows size.rows := by
  cases given with
  | none =>
    cases h
    exact .missing rfl
  | some arg =>
    obtain ⟨n, hn, hread, rfl⟩ := readSize_eq_ok_iff.mp h
    rw [sizeOr_rows]
    by_cases h0 : n = 0
    · rw [if_pos h0]
      exact .zero rfl (h0 ▸ hread)
    · rw [if_neg h0]
      exact .given rfl hread h0

/-- What a pager takes over from the options that it is made from. No size is below
one, so no page is empty for its size. -/
structure MadeFrom (given : OptionName → Option Argument) (p : Pager) : Prop where
  defaultSize : Allows (given .defaultSize) 10 p.defaultSize.rows
  maxSize : Allows (given .maxSize) 50 p.maxSize.rows
  one_le_defaultSize : 1 ≤ p.defaultSize.rows
  one_le_maxSize : 1 ≤ p.maxSize.rows
  defaultSpecs : (given .defaultSpecs = none ∧ p.defaultSpecs = []) ∨
    given .defaultSpecs = some (.value (.list (p.defaultSpecs.map .text)))
  columnMap : ∀ f, p.columnMap = some f ↔ given .columnMap = some (.map f)

theorem madeFrom_of_ofOptions {options : Options} {p : Pager} (h : ofOptions options = .ok p) :
    p.MadeFrom options.get := by
  obtain ⟨hd, hm, hs, hc⟩ := ofOptions_eq_ok_iff.mp h
  refine ⟨readSize_allows hd, readSize_allows hm, p.defaultSize.one_le_rows,
    p.maxSize.one_le_rows, ?_, ?_⟩
  · rw [Options.get]
    cases hgiven : options.defaultSpecs with
    | none =>
      rw [hgiven] at hs
      exact .inl ⟨rfl, (Except.ok.inj hs).symm⟩
    | some arg =>
      rw [hgiven, readSpecs, Checked.under_eq_ok_iff, Argument.readSpecs_eq_ok_iff] at hs
      exact .inr (congrArg some hs)
  · intro f
    rw [Options.get]
    unfold readMap at hc
    split at hc
    · next h =>
      rw [h, ← Except.ok.inj hc]
      simp
    · next map h =>
      rw [h, ← Except.ok.inj hc]
      simp
    · next h =>
      rw [h, ← Except.ok.inj hc]
      simp
    · cases hc

namespace Outcome

variable {given : OptionName → Option Argument} {made : Except Failure Pager}

theorem misconfigured_iff (h : Outcome given made) :
    (∃ text v, made = .error (.misconfigured text v)) ↔
      ∃ name v, Unworkable name (given name) v := by
  cases h with
  | misconfigured h => exact ⟨fun _ => ⟨_, _, h⟩, fun _ => ⟨_, _, rfl⟩⟩
  | rejected h => simp [h]
  | made h => simp [h]

theorem rejected_iff (h : Outcome given made) {rejection : Rejection} :
    made = .error (.rejected rejection) ↔
      (∀ name v, ¬ Unworkable name (given name) v) ∧ issues given ≠ [] ∧
        rejection = ⟨model, issues given⟩ := by
  cases h with
  | misconfigured hv =>
    simp only [Except.error.injEq, reduceCtorEq, false_iff]
    rintro ⟨h, -⟩
    exact h _ _ hv
  | rejected h hissues => simp [h, hissues, eq_comm]
  | made h hissues => simp [hissues]

theorem made_iff (h : Outcome given made) :
    (∃ p, made = .ok p) ↔
      (∀ name v, ¬ Unworkable name (given name) v) ∧ issues given = [] := by
  cases h with
  | misconfigured hv =>
    simp only [reduceCtorEq, exists_false, false_iff]
    rintro ⟨h, -⟩
    exact h _ _ hv
  | rejected h hissues => simp [hissues]
  | made h hissues => simp [h, hissues]

end Outcome

/-- **An option that no pager can work with comes first**, before all that cannot be
read; and the options that are left make a pager whose sizes are of use. -/
theorem ofFields_outcome (fields : List (String × Argument)) :
    let given := fun name : OptionName => fields.lookup name.text
    let made := ofOptions (.ofFields fields)
    ((∃ text v, made = .error (.misconfigured text v)) ↔
      ∃ name v, Unworkable name (given name) v) ∧
    (∀ text v, made = .error (.misconfigured text v) →
      ∃ name, name.text = text ∧ Unworkable name (given name) v ∧
        ∀ earlier ∈ name.before, ∀ w, ¬ Unworkable earlier (given earlier) w) ∧
    (∀ rejection, made = .error (.rejected rejection) ↔
      (∀ name v, ¬ Unworkable name (given name) v) ∧ issues given ≠ [] ∧
        rejection = ⟨model, issues given⟩) ∧
    ((∃ p, made = .ok p) ↔
      (∀ name v, ¬ Unworkable name (given name) v) ∧ issues given = []) ∧
    ∀ p, made = .ok p → p.MadeFrom given := by
  intro given made
  have hgiven : (Options.ofFields fields).get = given := Options.get_ofFields fields
  have hout : Outcome given made := hgiven ▸ ofOptions_outcome (.ofFields fields)
  have hmade : ∀ p, made = .ok p → p.MadeFrom given := fun p hp => hgiven ▸ madeFrom_of_ofOptions hp
  refine ⟨hout.misconfigured_iff, ?_, fun _ => hout.rejected_iff, hout.made_iff, hmade⟩
  intro text v htext
  generalize made = m at hout htext
  cases hout with
  | misconfigured h hfirst =>
    cases htext
    exact ⟨_, rfl, h, hfirst⟩
  | rejected => cases htext
  | made => cases htext

/-- The largest size is to blame, though the default size is no number and comes before
it, and the column map is no map. -/
example :
    let fields : List (String × Argument) := [("column_func", .value (.int 3)),
      ("default_size", .value (.text "ten")), ("max_size", .value (.text "-5"))]
    ofOptions (.ofFields fields) = .error (.misconfigured "max_size" (.int (-5))) := rfl

end Pager
end Folio
