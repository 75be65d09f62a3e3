/-
# What work on a page changes

A pager at work on a desk changes some fields of one page. `Card.ChangedIn` and
`Desk.ChangedIn` say that nothing else has changed: the other fields, whatever
the page hides, the order of its fields as long as none of them was missing, all
other pages and every sort key. Narrowing changes the size only, collecting the
size, the number and the flag (`Desk.narrow_changedIn`,
`Desk.collect_changedIn`), also when they fail halfway.

Key definitions: `Card.ChangedIn`, `Desk.ChangedIn`.
Key theorems: `Card.put_changedIn`, `Desk.narrow_changedIn`,
`Desk.collect_changedIn`.
-/
import Folio.Proofs.Holding

namespace Folio

/-! ### Cards that differ in some fields -/

/-- A card after changes to some fields. The order of its fields stays the same
unless one of them was missing. -/
structure Card.ChangedIn (fields : List String) (card next : Card) : Prop where
  size : "size" ∉ fields → next.size = card.size
  number : "page" ∉ fields → next.number = card.number
  more : "more" ∉ fields → next.more = card.more
  column : "column" ∉ fields → next.column = card.column
  keys : "order" ∉ fields → next.keys = card.keys
  hidden : next.hidden = card.hidden
  sequence : fields ⊆ card.sequence → next.sequence = card.sequence

namespace Card

variable {fields wider : List String} {a b c : Card}

theorem ChangedIn.refl (fields : List String) (card : Card) : card.ChangedIn fields card :=
  ⟨fun _ => rfl, fun _ => rfl, fun _ => rfl, fun _ => rfl, fun _ => rfl, rfl, fun _ => rfl⟩

theorem ChangedIn.trans (h : a.ChangedIn fields b) (h' : b.ChangedIn fields c) :
    a.ChangedIn fields c where
  size hf := (h'.size hf).trans (h.size hf)
  number hf := (h'.number hf).trans (h.number hf)
  more hf := (h'.more hf).trans (h.more hf)
  column hf := (h'.column hf).trans (h.column hf)
  keys hf := (h'.keys hf).trans (h.keys hf)
  hidden := h'.hidden.trans h.hidden
  sequence hf := by
    have hb := h.sequence hf
    exact (h'.sequence (hb ▸ hf)).trans hb

theorem ChangedIn.mono (h : a.ChangedIn fields b) (hf : fields ⊆ wider) :
    a.ChangedIn wider b where
  size hw := h.size fun hs => hw (hf hs)
  number hw := h.number fun hs => hw (hf hs)
  more hw := h.more fun hs => hw (hf hs)
  column hw := h.column fun hs => hw (hf hs)
  keys hw := h.keys fun hs => hw (hf hs)
  hidden := h.hidden
  sequence hw := h.sequence fun _ hs => hw (hf hs)

/-- Putting something into a field changes that field only, if anything. -/
theorem put_changedIn {field : String} {f : Card → Card}
    (hf : ∀ card : Card, card.ChangedIn [field] (f card)) (card : Card) :
    card.ChangedIn [field] (card.put field f).left := by
  unfold put Hidden.change
  cases card.hidden.allow true field with
  | error failure => exact .refl _ _
  | ok _ =>
    have h := hf card
    by_cases hs : (f card).sequence.contains field = true
    · simp only [hs, if_true]
      exact h
    · simp only [hs]
      refine ⟨h.size, h.number, h.more, h.column, h.keys, h.hidden, fun hsub => ?_⟩
      rw [h.sequence hsub] at hs
      exact absurd (List.contains_iff_mem.mpr (hsub List.mem_cons_self)) hs

theorem putSize_changedIn (v : Value) (card : Card) :
    card.ChangedIn ["size"] (card.put "size" fun card => { card with size := some v }).left := by
  apply put_changedIn
  intro card
  constructor <;> simp

theorem putNumber_changedIn (v : Value) (card : Card) :
    card.ChangedIn ["page"] (card.put "page" fun card => { card with number := some v }).left := by
  apply put_changedIn
  intro card
  constructor <;> simp

theorem putMore_changedIn (v : Value) (card : Card) :
    card.ChangedIn ["more"] (card.put "more" fun card => { card with more := some v }).left := by
  apply put_changedIn
  intro card
  constructor <;> simp

theorem andThen_changedIn {x : Attempt Card} {f : Card → Attempt Card}
    (hx : a.ChangedIn fields x.left) (hf : ∀ card : Card, card.ChangedIn fields (f card).left) :
    a.ChangedIn fields (x.andThen f).left := by
  unfold Attempt.andThen
  split
  · exact hx.trans (hf x.left)
  · exact hx

end Card

namespace Desk

variable {α : Type} {d : Desk} {ref : Option PageRef}

theorem resized_changedIn (option : Except Failure Value) (card : Card) :
    card.ChangedIn ["size"] (resized option card).left := by
  cases option with
  | error failure => exact .refl _ _
  | ok v => exact card.putSize_changedIn v

theorem filled_changedIn (c : Configuration) (card : Card) :
    card.ChangedIn ["size"] (filled c card).left := by
  unfold filled
  split
  · exact .refl _ _
  · split
    · exact resized_changedIn _ card
    · exact .refl _ _

theorem capped_changedIn (c : Configuration) (card : Card) :
    card.ChangedIn ["size"] (capped c card).left := by
  unfold capped
  split
  · exact .refl _ _
  · exact .refl _ _
  · split
    · exact .refl _ _
    · exact resized_changedIn _ card
    · exact .refl _ _

/-- Fitting a card changes its size only, also when it fails. -/
theorem fitted_changedIn (c : Configuration) (card : Card) :
    card.ChangedIn ["size"] (fitted c card).left :=
  Card.andThen_changedIn (filled_changedIn c card) (capped_changedIn c)

theorem settled_changedIn (card : Card) (limit : Number) (number : Except Failure Number) :
    card.ChangedIn ["size", "page"] (settled card limit number).left := by
  have hsize : card.ChangedIn ["size", "page"]
      (card.put "size" fun card => { card with size := some limit.value }).left :=
    (card.putSize_changedIn _).mono (by simp)
  refine Card.andThen_changedIn hsize fun card => ?_
  cases number with
  | error failure => exact .refl _ _
  | ok number => exact (card.putNumber_changedIn _).mono (by simp)

/-- Filing rows changes the size, the number and the flag of a card only, also
when it fails. -/
theorem filed_changedIn (card : Card) (limit offset : Number) (rows : List α) :
    card.ChangedIn ["size", "page", "more"] (filed card limit offset rows).1 := by
  have hmore : card.ChangedIn ["size", "page", "more"] (card.put "more" fun card =>
      { card with more := some (.bool (limit.lt (.int rows.length))) }).left :=
    (card.putMore_changedIn _).mono (by simp)
  unfold filed
  dsimp only
  split
  · exact hmore
  · exact hmore
  · exact hmore.trans ((settled_changedIn _ limit _).mono (by simp))

/-! ### Desks that differ in some fields of one page -/

/-- A desk after changes to some fields of one page. -/
structure ChangedIn (fields : List String) (ref : Option PageRef) (d d' : Desk) : Prop where
  slips : d'.slips = d.slips
  others : ∀ other, other ≠ ref → d'.card? other = d.card? other
  absent : d.card? ref = none → d'.card? ref = none
  card : ∀ card, d.card? ref = some card →
    ∃ next, d'.card? ref = some next ∧ card.ChangedIn fields next

theorem ChangedIn.refl (fields : List String) (ref : Option PageRef) (d : Desk) :
    d.ChangedIn fields ref d :=
  ⟨rfl, fun _ _ => rfl, id, fun card hc => ⟨card, hc, .refl _ _⟩⟩

theorem ChangedIn.mono {fields wider : List String} {d' : Desk} (h : d.ChangedIn fields ref d')
    (hf : fields ⊆ wider) : d.ChangedIn wider ref d' where
  slips := h.slips
  others := h.others
  absent := h.absent
  card card hc := by
    obtain ⟨next, hnext, hchanged⟩ := h.card card hc
    exact ⟨next, hnext, hchanged.mono hf⟩

theorem ChangedIn.trans {fields : List String} {d' d'' : Desk} (h : d.ChangedIn fields ref d')
    (h' : d'.ChangedIn fields ref d'') : d.ChangedIn fields ref d'' where
  slips := h'.slips.trans h.slips
  others other ho := (h'.others other ho).trans (h.others other ho)
  absent hc := h'.absent (h.absent hc)
  card card hc := by
    obtain ⟨next, hnext, hchanged⟩ := h.card card hc
    obtain ⟨last, hlast, hchanged'⟩ := h'.card next hnext
    exact ⟨last, hlast, hchanged.trans hchanged'⟩

theorem modify_changedIn {fields : List String} {next : Card}
    (h : ∀ card, d.card? ref = some card → card.ChangedIn fields next) :
    d.ChangedIn fields ref (d.modify ref fun _ => next) where
  slips := slips_modify d ref _
  others other ho := card?_modify_other d ho _
  absent hc := by rw [card?_modify_self, hc, Option.map_none]
  card card hc := ⟨next, by rw [card?_modify_self, hc, Option.map_some], h card hc⟩

theorem narrow_changedIn (d : Desk) (c : Configuration) (statement : Statement)
    (ref : Option PageRef) : d.ChangedIn ["size"] ref (d.narrow c statement ref).1 := by
  unfold narrow
  cases hc : d.card? ref with
  | none => exact .refl _ _ _
  | some card =>
    have h : d.ChangedIn ["size"] ref (d.modify ref fun _ => (fitted c card).left) := by
      apply modify_changedIn
      intro card' hc'
      cases hc.symm.trans hc'
      exact fitted_changedIn c card
    dsimp only
    split <;> exact h

theorem collect_changedIn (d : Desk) (ref : Option PageRef) (rows : Option (List α)) :
    d.ChangedIn ["size", "page", "more"] ref (d.collect ref rows).1 := by
  unfold collect
  dsimp only
  split
  · exact .refl _ _ _
  · exact .refl _ _ _
  · apply modify_changedIn
    intro card hc
    rw [hc, Option.getD_some]
    exact filed_changedIn card _ _ _

end Desk
end Folio
