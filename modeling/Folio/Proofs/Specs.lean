/-
# Specs and the keys that they stand for

A spec is taken if a run of ASCII letters and digits is found in it, perhaps behind a
dash; it does not matter where, so that one such character will do
(`SortKey.hasRun_iff`, `SortKey.isSpec_iff`). Only a dash at the very start is more
than a part of the column. So the key of a spec tells the spec
(`SortKey.ofSpec?_eq_some_iff`), and the keys that have one are those with a letter or
a digit in the column that are sorted by in descending order, or in ascending order
without a dash at the start of the column (`SortKey.Speakable`). The clause of such a
key ends in its direction, which is told by the fourth character from the end, and
therefore tells the spec as well (`SortKey.ofSpec_bijOn`).

Key definitions: `Text.IsLetterOrDigit`, `SortKey.HasRun`, `SortKey.Speakable`.
Key theorems: `SortKey.isSpec_iff`, `SortKey.ofSpec?_eq_some_iff`,
`SortKey.clause_inj`, `SortKey.ofSpec_bijOn`.
-/
import Mathlib.Data.Set.Function
import Folio.SortKey

namespace Folio

/-- An ASCII letter or digit. -/
def Text.IsLetterOrDigit (c : Char) : Prop :=
  ('a' ≤ c ∧ c ≤ 'z') ∨ ('A' ≤ c ∧ c ≤ 'Z') ∨ ('0' ≤ c ∧ c ≤ '9')

namespace SortKey

open Text (IsLetterOrDigit)

/-! ### What is a spec -/

/-- Somewhere in a text stands a run of letters and digits, perhaps behind a dash. -/
def HasRun (s : List Char) : Prop :=
  ∃ before dash run after, s = before ++ (dash ++ (run ++ after)) ∧
    (dash = [] ∨ dash = ['-']) ∧ run ≠ [] ∧ ∀ c ∈ run, IsLetterOrDigit c

theorem isSpecChar_iff {c : Char} : isSpecChar c = true ↔ IsLetterOrDigit c := by
  have hupper : c.isUpper = true ↔ 'A' ≤ c ∧ c ≤ 'Z' := decide_eq_true_iff
  have hlower : c.isLower = true ↔ 'a' ≤ c ∧ c ≤ 'z' := by
    rw [← decide_eq_true_iff (p := 'a' ≤ c), ← decide_eq_true_iff (p := c ≤ 'z'),
      ← Bool.and_eq_true_iff]
    rfl
  have hdigit : c.isDigit = true ↔ '0' ≤ c ∧ c ≤ '9' := Char.isDigit_iff_toNat
  have hor : isSpecChar c = (c.isUpper || c.isLower || c.isDigit) := rfl
  rw [hor, Bool.or_eq_true, Bool.or_eq_true, hupper, hlower, hdigit, or_assoc, or_left_comm,
    IsLetterOrDigit]

theorem isSpec_iff {spec : String} :
    isSpec spec = true ↔ ∃ c ∈ spec.toList, IsLetterOrDigit c := by
  simp only [isSpec, List.any_eq_true, isSpecChar_iff]

/-- A run may be as short as one character. -/
theorem hasRun_iff {s : List Char} : HasRun s ↔ ∃ c ∈ s, IsLetterOrDigit c := by
  constructor
  · rintro ⟨before, dash, run, after, rfl, -, hne, hrun⟩
    obtain ⟨c, hc⟩ := List.exists_mem_of_ne_nil run hne
    have hmem : c ∈ before ++ (dash ++ (run ++ after)) := by simp [hc]
    exact ⟨c, hmem, hrun c hc⟩
  · rintro ⟨c, hc, hletter⟩
    obtain ⟨before, after, rfl⟩ := List.append_of_mem hc
    refine ⟨before, [], [c], after, rfl, .inl rfl, by simp, ?_⟩
    intro d hd
    rw [List.mem_singleton.mp hd]
    exact hletter

/-! ### The keys of specs -/

/-- A key that some spec stands for. -/
structure Speakable (key : SortKey) : Prop where
  named : ∃ c ∈ key.column.toList, IsLetterOrDigit c
  directed : key.direction = some .descending ∨
    key.direction = some .ascending ∧ key.column.toList.head? ≠ some '-'

theorem not_isLetterOrDigit_dash : ¬ IsLetterOrDigit '-' := by
  unfold IsLetterOrDigit
  decide

theorem toList_spec_descending (column : String) :
    (SortKey.spec ⟨column, some .descending⟩).toList = '-' :: column.toList := by
  rw [SortKey.spec, if_pos rfl, String.toList_append]
  rfl

theorem ofSpec?_of_dash {spec : String} {column : List Char} (h : spec.toList = '-' :: column)
    (hspec : isSpec spec = true) :
    ofSpec? spec = some ⟨String.ofList column, some .descending⟩ := by
  rw [ofSpec?, if_pos hspec, h]
  rfl

theorem ofSpec?_of_not_dash {spec : String} (h : spec.toList.head? ≠ some '-')
    (hspec : isSpec spec = true) : ofSpec? spec = some ⟨spec, some .ascending⟩ := by
  rw [ofSpec?, if_pos hspec]
  split
  · next column hs => simp [hs] at h
  · rfl

theorem speakable_of_ofSpec? {spec : String} {key : SortKey} (h : ofSpec? spec = some key) :
    key.Speakable ∧ key.spec = spec := by
  by_cases hspec : isSpec spec = true
  · obtain ⟨c, hc, hletter⟩ := isSpec_iff.mp hspec
    by_cases hdash : spec.toList.head? = some '-'
    · obtain ⟨column, hcolumn⟩ := List.head?_eq_some_iff.mp hdash
      rw [ofSpec?_of_dash hcolumn hspec] at h
      cases h
      -- the dash is no letter, so the one that was found is behind it
      have hmem : c ∈ column := by
        rw [hcolumn] at hc
        refine (List.mem_cons.mp hc).resolve_left ?_
        rintro rfl
        exact not_isLetterOrDigit_dash hletter
      refine ⟨⟨⟨c, ?_, hletter⟩, .inl rfl⟩, ?_⟩
      · rw [String.toList_ofList]
        exact hmem
      · rw [← String.toList_inj, toList_spec_descending, String.toList_ofList, hcolumn]
    · rw [ofSpec?_of_not_dash hdash hspec] at h
      cases h
      exact ⟨⟨⟨c, hc, hletter⟩, .inr ⟨rfl, hdash⟩⟩, rfl⟩
  · rw [ofSpec?, if_neg hspec] at h
    cases h

theorem ofSpec?_spec {key : SortKey} (h : key.Speakable) : ofSpec? key.spec = some key := by
  obtain ⟨column, direction⟩ := key
  obtain ⟨⟨c, hc, hletter⟩, hdirected⟩ := h
  rcases hdirected with rfl | ⟨rfl, hdash⟩
  · have hspec := toList_spec_descending column
    rw [ofSpec?_of_dash hspec, String.ofList_toList]
    rw [isSpec_iff, hspec]
    exact ⟨c, List.mem_cons_of_mem _ hc, hletter⟩
  · exact ofSpec?_of_not_dash hdash (isSpec_iff.mpr ⟨c, hc, hletter⟩)

/-- **A key stands for a spec exactly if the spec is its short form.** -/
theorem ofSpec?_eq_some_iff {spec : String} {key : SortKey} :
    ofSpec? spec = some key ↔ key.Speakable ∧ key.spec = spec := by
  constructor
  · exact speakable_of_ofSpec?
  · rintro ⟨hkey, rfl⟩
    exact ofSpec?_spec hkey

theorem ofSpec?_isSome_iff {spec : String} : (ofSpec? spec).isSome ↔ isSpec spec = true := by
  rw [ofSpec?]
  split
  · next hspec =>
    split <;> simp [hspec]
  · next hspec => simp [hspec]

theorem ofSpec_snd_iff {spec : String} : (ofSpec spec).2 = true ↔ isSpec spec = true := by
  rw [← ofSpec?_isSome_iff, ofSpec]
  cases ofSpec? spec <;> simp

theorem ofSpec_of_snd {spec : String} (h : (ofSpec spec).2 = true) :
    ofSpec? spec = some (ofSpec spec).1 := by
  revert h
  rw [ofSpec]
  cases ofSpec? spec <;> simp

theorem ofSpec_of_not_snd {spec : String} (h : (ofSpec spec).2 = false) :
    ofSpec? spec = none ∧ ofSpec spec = (⟨"", none⟩, false) := by
  revert h
  rw [ofSpec]
  cases ofSpec? spec <;> simp

theorem ofSpec_spec {key : SortKey} (h : key.Speakable) : ofSpec key.spec = (key, true) := by
  rw [ofSpec, ofSpec?_spec h]

theorem ofSpec_speakable {spec : String} (h : (ofSpec spec).2 = true) :
    (ofSpec spec).1.Speakable ∧ (ofSpec spec).1.spec = spec :=
  ofSpec?_eq_some_iff.mp (ofSpec_of_snd h)

/-! ### Clauses -/

theorem Speakable.column_ne {key : SortKey} (h : key.Speakable) : key.column ≠ "" := by
  intro he
  obtain ⟨c, hc, -⟩ := h.named
  simp [he] at hc

theorem clause_of_column {key : SortKey} (h : key.column ≠ "") :
    key.clause = key.column ++ " " ++ (key.direction.getD .ascending).keyword := by
  have hset : (Value.text key.column).isSet = true := by simpa [Value.isSet] using h
  simp only [clause, OrderTerm.clause, term, hset, if_true, Value.plain]

theorem Speakable.direction_eq {key : SortKey} (h : key.Speakable) :
    key.direction = some (key.direction.getD .ascending) := by
  rcases h.directed with hd | ⟨hd, -⟩ <;> rw [hd] <;> rfl

/-- What is sorted by in ascending order has a blank where the other keyword starts. -/
theorem ascending_ne_descending (column other : String) :
    column ++ " " ++ Direction.ascending.keyword ≠ other ++ " " ++ Direction.descending.keyword := by
  intro h
  have hlist : column.toList ++ (" ".toList ++ "ASC".toList) =
      (other.toList ++ " ".toList) ++ "DESC".toList := by
    rw [← List.append_assoc, ← String.toList_append, ← String.toList_append,
      ← String.toList_append, ← String.toList_append]
    exact congrArg String.toList h
  exact absurd (List.append_inj_right' hlist rfl) (by decide)

/-- Clauses end in different ways when the directions are different. -/
theorem direction_inj {column other : String} {d e : Direction}
    (h : column ++ " " ++ d.keyword = other ++ " " ++ e.keyword) : d = e := by
  cases d <;> cases e
  case ascending.ascending => rfl
  case ascending.descending => exact absurd h (ascending_ne_descending column other)
  case descending.ascending => exact absurd h.symm (ascending_ne_descending other column)
  case descending.descending => rfl

/-- **Keys of specs are told by their clauses.** -/
theorem clause_inj {key other : SortKey} (hkey : key.Speakable) (hother : other.Speakable)
    (h : key.clause = other.clause) : key = other := by
  rw [clause_of_column hkey.column_ne, clause_of_column hother.column_ne] at h
  have hdirection := direction_inj h
  rw [hdirection, String.append_left_inj, String.append_left_inj] at h
  have hd : key.direction = other.direction := by
    rw [hkey.direction_eq, hother.direction_eq, hdirection]
  cases key
  cases other
  cases h
  cases hd
  rfl

/-! ### Specs and keys -/

/-- **Specs stand for keys one to one.** A spec is taken exactly if it has a letter or
a digit, or in other words a run of them, perhaps behind a dash; one that is not taken
stands for the empty key. Those that are taken stand for the speakable keys, each for
another one, and are written as clauses that are not empty and all different. -/
theorem ofSpec_bijOn :
    (∀ spec, ((ofSpec spec).2 = true ↔ ∃ c ∈ spec.toList, IsLetterOrDigit c) ∧
      ((ofSpec spec).2 = true ↔ HasRun spec.toList) ∧
      ((ofSpec spec).2 = false → (ofSpec spec).1 = ⟨"", none⟩) ∧
      ofSpec? spec = if (ofSpec spec).2 then some (ofSpec spec).1 else none) ∧
    Set.BijOn (fun spec => (ofSpec spec).1) { spec | (ofSpec spec).2 = true }
      { key | key.Speakable } ∧
    (∀ spec, (ofSpec spec).2 = true → (ofSpec spec).1.clause ≠ "") ∧
    Set.InjOn (fun spec => (ofSpec spec).1.clause) { spec | (ofSpec spec).2 = true } := by
  refine ⟨fun spec => ⟨?taken, ?run, ?refused, ?parsed⟩, ?keys, ?written, ?clauses⟩
  case taken => rw [ofSpec_snd_iff, isSpec_iff]
  case run => rw [ofSpec_snd_iff, isSpec_iff, hasRun_iff]
  case refused =>
    intro h
    rw [(ofSpec_of_not_snd h).2]
  case parsed =>
    by_cases h : (ofSpec spec).2 = true
    · rw [if_pos h, ofSpec_of_snd h]
    · rw [if_neg h, (ofSpec_of_not_snd (Bool.eq_false_iff.mpr h)).1]
  case keys =>
    have hinverse : Set.InvOn SortKey.spec (fun spec => (ofSpec spec).1)
        { spec | (ofSpec spec).2 = true } { key | key.Speakable } := by
      constructor
      · intro spec h
        exact (ofSpec_speakable h).2
      · intro key h
        exact congrArg Prod.fst (ofSpec_spec h)
    apply hinverse.bijOn
    · intro spec h
      exact (ofSpec_speakable h).1
    · intro key h
      exact congrArg Prod.snd (ofSpec_spec h)
  case written =>
    intro spec h
    have hcolumn := (ofSpec_speakable h).1.column_ne
    rw [clause_of_column hcolumn]
    simp [hcolumn]
  case clauses =>
    intro spec h other h' hclause
    have hkey := ofSpec_speakable h
    have hkey' := ofSpec_speakable h'
    calc spec = (ofSpec spec).1.spec := hkey.2.symm
      _ = (ofSpec other).1.spec := by rw [clause_inj hkey.1 hkey'.1 hclause]
      _ = other := hkey'.2

/-- A second dash belongs to the column. -/
example : ofSpec "--id" = (⟨"-id", some .descending⟩, true) := by decide

end SortKey
end Folio
