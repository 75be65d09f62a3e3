/-
# The order clauses of a page

What a page is sorted by turns on what is empty: the keys of its own, if it has
any, come before the specs between the commas of its column, and only a page with
neither is sorted by the default specs (`Pager.SortedBy`). A column whose parts
all fail to name a column is still a column, so the default specs do not count
then. One clause is written for each key, in the place of the key and also if it
is empty (`Pager.Writes`), or there are no clauses at all but the failure of the
first key that has one (`Pager.FailsOn`, `Pager.clauses_sortedBy`).

Key definitions: `CommaSeparated`, `Pager.SortedBy`, `Pager.Writes`,
`Pager.FailsOn`.
Key theorems: `commaSeparated_iff`, `Pager.sortedBy_iff`,
`Pager.clausesOf_eq_ok_iff`, `Pager.clausesOf_eq_error_iff`,
`Pager.clauses_sortedBy`.
-/
import Folio.Proofs.Parameters
import Folio.Proofs.Tasks

namespace Folio

/-! ### Parts between commas -/

theorem Text.joined_eq_intercalate (sep : Char) : ∀ ps, joined sep ps = [sep].intercalate ps
  | [] => rfl
  | [part] => by rw [joined, List.intercalate_singleton]
  | part :: next :: others => by
    rw [joined, joined_eq_intercalate sep (next :: others), List.intercalate_cons_cons]
    simp

theorem Text.toList_intercalate_comma (parts : List String) :
    (",".intercalate parts).toList = joined ',' (parts.map String.toList) := by
  rw [String.toList_intercalate, joined_eq_intercalate]
  rfl

/-- A text is what some parts give with a comma between each two neighbours, and
there is no comma within a part. -/
structure CommaSeparated (text : String) (parts : List String) : Prop where
  ne_nil : parts ≠ []
  intercalate : ",".intercalate parts = text
  not_mem : ∀ part ∈ parts, ',' ∉ part.toList

/-- Every text has such parts, and no others. -/
theorem commaSeparated_iff {text : String} {parts : List String} :
    CommaSeparated text parts ↔ parts = Text.commaParts text := by
  constructor
  · rintro ⟨hne, rfl, hparts⟩
    have hcut := Text.parts_joined ',' (parts.map String.toList) (by simpa using hne)
      (by simpa using hparts)
    rw [Text.commaParts, Text.toList_intercalate_comma, hcut, List.map_map]
    simp
  · rintro rfl
    refine ⟨?_, ?_, ?_⟩
    · simp [Text.commaParts, Text.parts_ne_nil]
    · rw [← String.toList_inj, String.toList_intercalate, Text.commaParts, List.map_map]
      have hparts : (String.toList ∘ String.ofList) = id := by
        funext cs
        simp
      rw [hparts, List.map_id]
      exact (Text.joined_eq_intercalate ',' _).symm.trans (Text.joined_parts ',' text.toList)
    · intro part hpart
      obtain ⟨cs, hcs, rfl⟩ := List.mem_map.mp hpart
      rw [String.toList_ofList]
      exact Text.not_mem_of_mem_parts ',' _ cs hcs

namespace Pager

/-! ### The keys that a page is sorted by -/

/-- What a pager sorts a page by: the keys of the page, else those specs in its
column that name one, else those of the default specs that do. -/
inductive SortedBy (p : Pager) : Option Page → List SortKey → Prop
  | own {page : Page} (hkeys : page.keys ≠ []) : p.SortedBy (some page) page.keys
  | column {page : Page} {parts : List String} (hkeys : page.keys = [])
      (hcolumn : page.column ≠ "") (hparts : CommaSeparated page.column parts) :
      p.SortedBy (some page) (parts.filterMap SortKey.ofSpec?)
  | default {page : Option Page} (h : ∀ q ∈ page, q.keys = [] ∧ q.column = "") :
      p.SortedBy page (p.defaultSpecs.filterMap SortKey.ofSpec?)

theorem sift_keys_texts (specs : List String) :
    (KeyChoice.sift (specs.map some)).keys = specs.filterMap SortKey.ofSpec? := by
  rw [KeyChoice.sift_keys, List.filterMap_map]
  rfl

/-- A page with keys is sorted by these. -/
theorem choice_own (p : Pager) {page : Page} (hkeys : page.keys ≠ []) :
    p.choice (some page) = { keys := page.keys, explicit := true } := by
  rw [choice, KeyChoice.ofPage, if_neg hkeys]

/-- A page with a column and no keys is sorted by the specs in the column. -/
theorem choice_column (p : Pager) {page : Page} {parts : List String} (hkeys : page.keys = [])
    (hcolumn : page.column ≠ "") (hparts : CommaSeparated page.column parts) :
    p.choice (some page) = KeyChoice.sift (parts.map some) := by
  rw [commaSeparated_iff] at hparts
  rw [choice, KeyChoice.ofPage, if_pos hkeys, KeyChoice.specsFor, KeyChoice.specsIn,
    if_neg hcolumn, hparts]

/-- A page with neither, or none, is sorted by the default specs. -/
theorem choice_default (p : Pager) {page : Option Page}
    (h : ∀ q ∈ page, q.keys = [] ∧ q.column = "") :
    p.choice page = KeyChoice.sift (p.defaultSpecs.map some) := by
  cases page with
  | none => rfl
  | some page =>
    obtain ⟨hkeys, hcolumn⟩ := h page rfl
    rw [choice, KeyChoice.ofPage, if_pos hkeys, KeyChoice.specsFor, KeyChoice.specsIn,
      if_pos hcolumn]

/-- A page is sorted by exactly one list of keys, the one that is chosen for it. -/
theorem sortedBy_iff {p : Pager} {page : Option Page} {keys : List SortKey} :
    p.SortedBy page keys ↔ keys = (p.choice page).keys := by
  constructor
  · intro h
    cases h with
    | own hkeys => rw [choice_own p hkeys]
    | column hkeys hcolumn hparts =>
      rw [choice_column p hkeys hcolumn hparts, sift_keys_texts]
    | default h => rw [choice_default p h, sift_keys_texts]
  · rintro rfl
    cases page with
    | none =>
      have hnone : ∀ q ∈ (none : Option Page), q.keys = [] ∧ q.column = "" := by simp
      rw [choice_default p hnone, sift_keys_texts]
      exact .default hnone
    | some page =>
      by_cases hkeys : page.keys = []
      · by_cases hcolumn : page.column = ""
        · -- only here the default specs count
          have hplain : ∀ q ∈ some page, q.keys = [] ∧ q.column = "" := by
            rintro q ⟨⟩
            exact ⟨hkeys, hcolumn⟩
          rw [choice_default p hplain, sift_keys_texts]
          exact .default hplain
        · have hparts := commaSeparated_iff.mpr (rfl : Text.commaParts page.column = _)
          rw [choice_column p hkeys hcolumn hparts, sift_keys_texts]
          exact .column hkeys hcolumn hparts
      · rw [choice_own p hkeys]
        exact .own hkeys

/-! ### The clause of a key -/

/-- What says nothing can be written. -/
theorem isWritable_of_not_isSet {v : Value} (h : v.isSet = false) : v.isWritable = true := by
  cases v with
  | int n =>
    obtain rfl : n = 0 := by simpa [Value.isSet] using h
    decide +kernel
  | list items =>
    obtain rfl : items = [] := by simpa [Value.isSet] using h
    rfl
  | record fields =>
    obtain rfl : fields = [] := by simpa [Value.isSet] using h
    rfl
  | _ => rfl

/-- The direction that is written behind a column: ascending unless the key is
descending. -/
def wording (key : SortKey) : String :=
  if key.direction = some .descending then "DESC" else "ASC"

/-- The clause that a pager writes for a key. Its column is sent through the column
map; if what comes of it says nothing the clause is empty. A text is written as it is,
then a space and the direction. The map may also give a value of another kind, which is
written in the plain way. -/
inductive Writes (p : Pager) (key : SortKey) : String → Prop
  | nothing {v : Value} (hv : p.renamed key.column = .ok v) (hset : v.isSet = false) :
      p.Writes key ""
  | text {s : String} (hv : p.renamed key.column = .ok (.text s)) (hset : s ≠ "") :
      p.Writes key (s ++ " " ++ wording key)
  | other {v : Value} (hv : p.renamed key.column = .ok v) (htext : ∀ s, v ≠ .text s)
      (hset : v.isSet = true) (hw : v.isWritable = true) :
      p.Writes key (v.plain ++ " " ++ wording key)

/-- Whatever the column map gives, and says something, is written in the plain way: a text
as it is. -/
theorem Writes.ordered {p : Pager} {key : SortKey} {v : Value}
    (hv : p.renamed key.column = .ok v) (hset : v.isSet = true) (hw : v.isWritable = true) :
    p.Writes key (v.plain ++ " " ++ wording key) := by
  by_cases htext : ∃ s, v = .text s
  · obtain ⟨s, rfl⟩ := htext
    have hne : s ≠ "" := by simpa [Value.isSet] using hset
    exact .text hv hne
  · exact .other hv (fun s hs => htext ⟨s, hs⟩) hset hw

/-- A clause is empty, or the column in the plain way and the direction. -/
theorem Writes.cases {p : Pager} {key : SortKey} {text : String} (h : p.Writes key text) :
    ∃ v, p.renamed key.column = .ok v ∧ v.isWritable = true ∧
      text = if v.isSet then v.plain ++ " " ++ wording key else "" := by
  cases h with
  | nothing hv hset => exact ⟨_, hv, isWritable_of_not_isSet hset, by rw [hset]; rfl⟩
  | text hv hset => exact ⟨_, hv, rfl, by simp [Value.isSet, Value.plain, hset]⟩
  | other hv _ hset hw => exact ⟨_, hv, hw, by rw [if_pos hset]⟩

/-- The failure that keeps a pager from writing a clause for a key: that of the
column map on its column, or that the map gave a number too long to be written. -/
inductive FailsOn (p : Pager) (key : SortKey) : Failure → Prop
  | column {f : ColumnMap} {fault : ColumnFault} (hf : p.columnMap = some f)
      (hfault : f (.text key.column) = .error fault) : p.FailsOn key (.column fault)
  | digits {v : Value} (hv : p.renamed key.column = .ok v) (hw : v.isWritable = false) :
      p.FailsOn key .tooManyDigits

theorem renamed_eq_error_iff {p : Pager} {column : String} {failure : Failure} :
    p.renamed column = .error failure ↔
      ∃ f fault, p.columnMap = some f ∧ f (.text column) = .error fault ∧
        failure = .column fault := by
  unfold renamed
  cases p.columnMap with
  | none => simp
  | some f =>
    cases hf : f (.text column) with
    | ok v => simp [Except.mapError, hf]
    | error fault => simp [Except.mapError, hf, eq_comm]

theorem keyword_getD (key : SortKey) :
    (key.direction.getD .ascending).keyword = wording key := by
  unfold wording
  rcases key.direction with _ | ⟨⟨⟩⟩ <;> rfl

theorem clause_eq_ok_iff {p : Pager} {key : SortKey} {text : String} :
    p.clause key.term = .ok text ↔ p.Writes key text := by
  rw [clause_term, renamedClause]
  cases hv : p.renamed key.column with
  | error failure =>
    simp only [bind, Except.bind, reduceCtorEq, false_iff]
    intro h
    obtain ⟨v, hv', -⟩ := h.cases
    cases hv.symm.trans hv'
  | ok v =>
    simp only [bind, Except.bind, written, OrderTerm.clause, keyword_getD]
    constructor
    · intro h
      split at h
      · next hw =>
        cases h
        split
        · next hset => exact .ordered hv hset hw
        · next hset => exact .nothing hv (by simpa using hset)
      · cases h
    · intro h
      obtain ⟨v', hv', hw, rfl⟩ := h.cases
      cases hv.symm.trans hv'
      rw [if_pos hw]

theorem clause_eq_error_iff {p : Pager} {key : SortKey} {failure : Failure} :
    p.clause key.term = .error failure ↔ p.FailsOn key failure := by
  rw [clause_term, renamedClause]
  cases hv : p.renamed key.column with
  | error failure' =>
    obtain ⟨f, fault, hf, hfault, rfl⟩ := renamed_eq_error_iff.mp hv
    constructor
    · intro h
      cases h
      exact .column hf hfault
    · rintro (⟨hf', hfault'⟩ | ⟨hv', -⟩)
      · cases hf.symm.trans hf'
        cases hfault.symm.trans hfault'
        rfl
      · cases hv.symm.trans hv'
  | ok v =>
    simp only [bind, Except.bind, written]
    constructor
    · intro h
      split at h
      · cases h
      · next hw =>
        cases h
        exact .digits hv (by simpa using hw)
    · rintro (⟨hf, hfault⟩ | ⟨hv', hw⟩)
      · cases hv.symm.trans (renamed_eq_error_iff.mpr ⟨_, _, hf, hfault, rfl⟩)
      · cases hv.symm.trans hv'
        rw [if_neg (by simp [hw])]

/-! ### The clauses of several keys -/

/-- Clauses are written one for each key, in the order of the keys. -/
theorem clausesOf_eq_ok_iff {p : Pager} {keys : List SortKey} {texts : List String} :
    p.clausesOf (keys.map SortKey.term) = .ok texts ↔ List.Forall₂ p.Writes keys texts := by
  induction keys generalizing texts with
  | nil =>
    rw [List.map_nil, clausesOf, List.forall₂_nil_left_iff, Except.ok.injEq, eq_comm]
  | cons key rest ih =>
    rw [List.map_cons, clausesOf, List.forall₂_cons_left_iff]
    simp only [← clause_eq_ok_iff, ← ih]
    cases p.clause key.term with
    | error failure => simp
    | ok text =>
      cases p.clausesOf (rest.map SortKey.term) with
      | error failure => simp
      | ok others => simp [eq_comm]

theorem clausesOf_cons_eq_error_iff {p : Pager} {term : OrderTerm} {rest : List OrderTerm}
    {failure : Failure} :
    p.clausesOf (term :: rest) = .error failure ↔
      p.clause term = .error failure ∨
        (∃ text, p.clause term = .ok text) ∧ p.clausesOf rest = .error failure := by
  rw [clausesOf]
  cases p.clause term with
  | error failure' => simp
  | ok text => cases p.clausesOf rest <;> simp

/-- There are none exactly if some key has a failure, and then it is that of the
first one that has. -/
theorem clausesOf_eq_error_iff {p : Pager} {keys : List SortKey} {failure : Failure} :
    p.clausesOf (keys.map SortKey.term) = .error failure ↔
      ∃ before key after, keys = before ++ key :: after ∧
        (∀ earlier ∈ before, ∃ text, p.Writes earlier text) ∧ p.FailsOn key failure := by
  induction keys with
  | nil => simp [clausesOf]
  | cons first rest ih =>
    rw [List.map_cons, clausesOf_cons_eq_error_iff, clause_eq_error_iff, ih]
    simp only [clause_eq_ok_iff]
    constructor
    · rintro (hfirst | ⟨hfirst, before, key, after, rfl, hbefore, hkey⟩)
      · exact ⟨[], first, rest, rfl, by simp, hfirst⟩
      · exact ⟨first :: before, key, after, rfl, by simpa using ⟨hfirst, hbefore⟩, hkey⟩
    · rintro ⟨before, key, after, hkeys, hbefore, hkey⟩
      cases before with
      | nil =>
        cases hkeys
        exact .inl hkey
      | cons other before =>
        cases hkeys
        exact .inr ⟨hbefore first List.mem_cons_self, before, key, after, rfl,
          fun earlier h => hbefore earlier (List.mem_cons_of_mem _ h), hkey⟩

/-- **The clauses of a page are those of the keys that it is sorted by**, as many
as there are keys and each in the place of its key; or there are none, and the
first key that cannot be written tells why. -/
theorem clauses_sortedBy (p : Pager) (page : Option Page) :
    ∃ keys, p.SortedBy page keys ∧ (∀ others, p.SortedBy page others → others = keys) ∧
      (∀ texts, p.clauses page = .ok texts ↔ texts.length = keys.length ∧
        ∀ i (hk : i < keys.length) (ht : i < texts.length), p.Writes keys[i] texts[i]) ∧
      ∀ failure, p.clauses page = .error failure ↔
        ∃ before key after, keys = before ++ key :: after ∧
          (∀ earlier ∈ before, ∃ text, p.Writes earlier text) ∧ p.FailsOn key failure := by
  refine ⟨(p.choice page).keys, sortedBy_iff.mpr rfl, fun _ => sortedBy_iff.mp, ?_, ?_⟩
  · intro texts
    rw [clauses, clausesOf_eq_ok_iff, List.forall₂_iff_get, eq_comm]
    rfl
  · intro failure
    exact clausesOf_eq_error_iff

/-- A column of commas and dashes names nothing to sort by, but the default specs do
not stand in for it. -/
example : reference.clauses (some { column := ",-," }) = .ok [] := rfl

end Pager
end Folio
