/-
# Which keys a page is sorted by

The explicit keys of a page win. Without any, the comma separated specs of its
`column` count, and only without those the default specs. Specs that name no
column are ignored, and reported.

Key definitions: `KeyChoice`, `KeyChoice.sift`, `KeyChoice.ofPage`.
Key theorems: `KeyChoice.sift_keys`, `KeyChoice.sift_ignored`.
-/
import Folio.Failure
import Folio.Page
import Folio.Text.Separated

namespace Folio

/-- The keys chosen for a page, the specs ignored on the way, and whether the
keys are the page's explicit ones. -/
structure KeyChoice (κ : Type) where
  keys : List κ
  ignored : List (Option String) := []
  explicit : Bool := false
  deriving DecidableEq, Repr

namespace KeyChoice

/-- The same choice with other things in place of the keys. -/
def map {κ ν : Type} (f : κ → ν) (choice : KeyChoice κ) : KeyChoice ν :=
  ⟨choice.keys.map f, choice.ignored, choice.explicit⟩

/-- The key of a spec, if there is a spec and it names a column. -/
def keyOf? (spec : Option String) : Option SortKey :=
  spec.bind SortKey.ofSpec?

/-- The spec as a value, null when there is none. -/
def specValue : Option String → Value
  | some s => .text s
  | none => .null

/-- The keys of those specs that name a column, and the other specs. -/
def sift : List (Option String) → KeyChoice SortKey
  | [] => { keys := [] }
  | spec :: rest =>
    match keyOf? spec with
    | some key => { sift rest with keys := key :: (sift rest).keys }
    | none => { sift rest with ignored := spec :: (sift rest).ignored }

/-- The specs in a column, the default ones when it is empty. -/
def specsIn (column : String) (defaults : List (Option String)) : List (Option String) :=
  if column = "" then defaults else (Text.commaParts column).map some

/-- The specs consulted for a page without explicit keys. -/
def specsFor (page : Option Page) (defaults : List (Option String)) : List (Option String) :=
  match page with
  | none => defaults
  | some p => specsIn p.column defaults

/-- The keys chosen for a page. -/
def ofPage (page : Option Page) (defaults : List (Option String)) : KeyChoice SortKey :=
  match page with
  | some p =>
    if p.keys = [] then sift (specsFor page defaults) else { keys := p.keys, explicit := true }
  | none => sift (specsFor page defaults)

/-- What is reported about a choice. -/
def events {κ : Type} (choice : KeyChoice κ) : List Event :=
  choice.ignored.map fun spec => .specIgnored (specValue spec)

theorem sift_keys : ∀ specs, (sift specs).keys = specs.filterMap keyOf?
  | [] => rfl
  | spec :: rest => by
    unfold sift
    cases h : keyOf? spec <;> simp [h, sift_keys rest]

theorem sift_ignored : ∀ specs,
    (sift specs).ignored = specs.filter fun spec => (keyOf? spec).isNone
  | [] => rfl
  | spec :: rest => by
    unfold sift
    cases h : keyOf? spec <;> simp [h, sift_ignored rest]

end KeyChoice
end Folio
