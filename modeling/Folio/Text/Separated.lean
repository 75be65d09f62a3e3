/-
# Texts joined by a separator

A text with `n` separators has `n + 1` parts, some of them perhaps empty, and
joining the parts gives the text back. The other way round a list of parts
comes back from its joined text when it is not empty and no part holds the
separator.

Key definitions: `Text.parts`, `Text.joined`, `Text.commaParts`.
Key theorems: `Text.joined_parts`, `Text.parts_joined`.
-/

namespace Folio
namespace Text

/-- The parts of a text between its separators. -/
def parts (sep : Char) : List Char → List (List Char)
  | [] => [[]]
  | c :: rest =>
    if c = sep then [] :: parts sep rest
    else match parts sep rest with
      | [] => [[c]]
      | part :: others => (c :: part) :: others

/-- The parts with one separator between each two neighbours. -/
def joined (sep : Char) : List (List Char) → List Char
  | [] => []
  | [part] => part
  | part :: next :: others => part ++ sep :: joined sep (next :: others)

/-- The comma separated parts of a string. -/
def commaParts (s : String) : List String :=
  (parts ',' s.toList).map String.ofList

theorem parts_ne_nil (sep : Char) : ∀ s, parts sep s ≠ []
  | [] => by simp [parts]
  | c :: rest => by
    unfold parts
    split
    · simp
    · split <;> simp

theorem parts_sep (sep : Char) (rest : List Char) :
    parts sep (sep :: rest) = [] :: parts sep rest := by
  simp [parts]

theorem joined_cons (sep : Char) (part : List Char) {others : List (List Char)}
    (h : others ≠ []) : joined sep (part :: others) = part ++ sep :: joined sep others := by
  cases others with
  | nil => exact absurd rfl h
  | cons next others => rfl

/-- **Nothing is lost.** Joining the parts of a text gives the text. -/
theorem joined_parts (sep : Char) : ∀ s, joined sep (parts sep s) = s
  | [] => rfl
  | c :: rest => by
    have ih := joined_parts sep rest
    by_cases h : c = sep
    · subst h
      rw [parts_sep, joined_cons _ _ (parts_ne_nil _ _), ih, List.nil_append]
    · simp only [parts, h, if_false]
      split
      · next hp => exact absurd hp (parts_ne_nil sep rest)
      · next part others hp =>
        rw [hp] at ih
        cases others with
        | nil => simp_all [joined]
        | cons next others => simp_all [joined]

theorem parts_of_not_mem (sep : Char) : ∀ s, sep ∉ s → parts sep s = [s]
  | [], _ => rfl
  | c :: rest, h => by
    have hc : c ≠ sep := fun e => h (e ▸ List.mem_cons_self)
    have hr : sep ∉ rest := fun e => h (List.mem_cons_of_mem _ e)
    simp [parts, hc, parts_of_not_mem sep rest hr]

theorem parts_append_sep (sep : Char) : ∀ s rest, sep ∉ s →
    parts sep (s ++ sep :: rest) = s :: parts sep rest
  | [], rest, _ => by simp [parts]
  | c :: s, rest, h => by
    have hc : c ≠ sep := fun e => h (e ▸ List.mem_cons_self)
    have hs : sep ∉ s := fun e => h (List.mem_cons_of_mem _ e)
    simp [parts, hc, parts_append_sep sep s rest hs]

/-- **Parts come back.** A list of parts without the separator is recovered
from its joined text. -/
theorem parts_joined (sep : Char) : ∀ ps : List (List Char), ps ≠ [] → (∀ p ∈ ps, sep ∉ p) →
    parts sep (joined sep ps) = ps
  | [], h, _ => absurd rfl h
  | [part], _, h => parts_of_not_mem sep part (h part List.mem_cons_self)
  | part :: next :: others, _, h => by
    have hp : sep ∉ part := h part List.mem_cons_self
    have hr : ∀ p ∈ next :: others, sep ∉ p := fun p hp => h p (List.mem_cons_of_mem _ hp)
    rw [joined, parts_append_sep sep part _ hp, parts_joined sep (next :: others) (by simp) hr]

end Text
end Folio
