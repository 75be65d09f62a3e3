/-
# Checks that report everything at once

A check gives a result or the list of all issues. Two checks side by side
(`zip`) give the issues of both, in order, so a record reports every field
that is wrong and a list every item.

Key definitions: `Checked`, `Checked.zip`, `Checked.under`, `Checked.each`,
`Checked.titled`.
Key theorems: `Checked.zip_eq_ok_iff`, `Checked.each_eq_ok_iff`.
-/
import Folio.Issue

namespace Folio

/-- A result, or everything that speaks against it. -/
abbrev Checked (α : Type) : Type := Except (List Issue) α

namespace Checked

variable {α β : Type}

/-- A check that finds one thing wrong. -/
def refuse (complaint : Complaint) : Checked α :=
  .error [⟨complaint, []⟩]

/-- The same check seen from one step further out. -/
def under (place : Place) : Checked α → Checked α
  | .ok a => .ok a
  | .error issues => .error (issues.map (Issue.under place))

/-- Both results, or the issues of both checks in order. -/
def zip : Checked α → Checked β → Checked (α × β)
  | .ok a, .ok b => .ok (a, b)
  | .ok _, .error issues => .error issues
  | .error issues, .ok _ => .error issues
  | .error issues, .error more => .error (issues ++ more)

/-- The results of a check on every item, the first of which has position
`n`. -/
def eachFrom (check : β → Checked α) : Nat → List β → Checked (List α)
  | _, [] => .ok []
  | n, b :: rest =>
    (((check b).under (.index n)).zip (eachFrom check (n + 1) rest)).map fun r => r.1 :: r.2

/-- The results of a check on every item of a list. -/
def each (check : β → Checked α) (items : List β) : Checked (List α) :=
  eachFrom check 0 items

/-- The outcome of checking a whole model. -/
def titled (model : String) : Checked α → Except Rejection α
  | .ok a => .ok a
  | .error issues => .error ⟨model, issues⟩

theorem zip_eq_ok_iff {x : Checked α} {y : Checked β} {r : α × β} :
    x.zip y = .ok r ↔ x = .ok r.1 ∧ y = .ok r.2 := by
  obtain ⟨a, b⟩ := r
  cases x <;> cases y <;> simp [zip]

theorem under_eq_ok_iff {place : Place} {x : Checked α} {a : α} :
    x.under place = .ok a ↔ x = .ok a := by
  cases x <;> simp [under]

theorem map_eq_ok_iff {γ : Type} {x : Checked α} {f : α → γ} {c : γ} :
    x.map f = .ok c ↔ ∃ a, x = .ok a ∧ f a = c := by
  cases x <;> simp [Except.map]

theorem eachFrom_eq_ok_iff {check : β → Checked α} :
    ∀ {n : Nat} {items : List β} {as : List α},
      eachFrom check n items = .ok as ↔ items.map check = as.map .ok
  | _, [], as => by cases as <;> simp [eachFrom]
  | n, b :: rest, as => by
    rw [eachFrom, map_eq_ok_iff]
    constructor
    · rintro ⟨r, hr, rfl⟩
      obtain ⟨hb, hrest⟩ := zip_eq_ok_iff.1 hr
      simp [under_eq_ok_iff.1 hb, eachFrom_eq_ok_iff.1 hrest]
    · intro h
      cases as with
      | nil => simp at h
      | cons a as =>
        simp only [List.map_cons, List.cons.injEq] at h
        exact ⟨(a, as), zip_eq_ok_iff.2 ⟨under_eq_ok_iff.2 h.1, eachFrom_eq_ok_iff.2 h.2⟩, rfl⟩

/-- A list passes when each of its items does. -/
theorem each_eq_ok_iff {check : β → Checked α} {items : List β} {as : List α} :
    each check items = .ok as ↔ items.map check = as.map .ok :=
  eachFrom_eq_ok_iff

end Checked
end Folio
