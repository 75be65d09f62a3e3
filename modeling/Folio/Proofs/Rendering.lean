/-
# Order clauses as they are written

A clause goes into the text of a statement as it is, unless bind names are seen in
it or a backslash that keeps a colon (`BindNames.render_eq_self_iff`). Both are told
by their surroundings alone: a bind name is a colon with a whole word behind it, and
nothing that touches either; a kept colon has a backslash in front and nothing that
touches the word behind it. Where one of them is, the text written differs from the
clause in a character, so that no other clause can make up for it
(`BindNames.intercalate_render`).

So the ORDER BY clause of a narrowed statement lists the clauses of the page that
are not empty, and is left out when all are (`Pager.orderText_narrow`); and it lists
them word for word exactly if none of them has a bind name or a kept colon.

Key definitions: `Text.Diverge`, `BindNames.HasBindName`,
`BindNames.HasKeptColon`, `Select.verbatimOrder`.
Key theorems: `BindNames.hasBindName_cons_iff`, `BindNames.hasKeptColon_cons_iff`,
`BindNames.render_eq_self_iff`, `BindNames.render_bindName`,
`BindNames.intercalate_render`, `Pager.orderText_narrow`.
-/
import Mathlib.Data.List.TakeWhile
import Folio.Proofs.Narrowing
import Folio.Statement.Sql

namespace Folio

/-! ### Texts that differ in a character -/

/-- Two texts begin alike and then go on with different characters. -/
def Text.Diverge (s t : List Char) : Prop :=
  ∃ u a b v w, s = u ++ a :: v ∧ t = u ++ b :: w ∧ a ≠ b

/-- Whatever comes behind such texts, they stay different. -/
theorem Text.Diverge.append_ne {s t : List Char} (h : Diverge s t) (x y : List Char) :
    s ++ x ≠ t ++ y := by
  obtain ⟨u, a, b, v, w, rfl, rfl, hab⟩ := h
  intro heq
  rw [List.append_assoc, List.append_assoc] at heq
  exact hab (List.cons.inj (List.append_cancel_left heq)).1

theorem Text.Diverge.ne {s t : List Char} (h : Diverge s t) : s ≠ t := by
  have := h.append_ne [] []
  rwa [List.append_nil, List.append_nil] at this

namespace BindNames

open Text (isWord)

/-! ### Bind names -/

/-- A text, perhaps with a character before it, has a bind name: a colon and a word
with no further character of a word and no colon next to them, and no backslash
before them. -/
def HasBindName (prior : Option Char) (s : List Char) : Prop :=
  ∃ before name after, s = before ++ ':' :: (name ++ after) ∧
    name ≠ [] ∧ (∀ c ∈ name, isWord c = true) ∧
    (∀ c ∈ before.getLast?.or prior, touches c = false ∧ c ≠ '\\') ∧
    ∀ c ∈ after.head?, touches c = false

theorem isClear_iff {s : List Char} : isClear s = true ↔ ∀ c ∈ s.head?, touches c = false := by
  cases s <;> simp [isClear]

theorem isWord_of_touches {c : Char} (h : touches c = false) : isWord c = false :=
  (Bool.or_eq_false_iff.mp h).1

/-- A word ends before the first character that belongs to none. -/
theorem takeWhile_word {name after : List Char} (hname : ∀ c ∈ name, isWord c = true)
    (hafter : ∀ c ∈ after.head?, touches c = false) :
    (name ++ after).takeWhile isWord = name ∧ (name ++ after).dropWhile isWord = after := by
  rw [List.takeWhile_append_of_pos hname, List.dropWhile_append_of_pos hname]
  cases after with
  | nil => simp
  | cons c rest =>
    have hc : ¬ isWord c = true := by simp [isWord_of_touches (hafter c rfl)]
    rw [List.takeWhile_cons_of_neg hc, List.dropWhile_cons_of_neg hc, List.append_nil]
    exact ⟨rfl, rfl⟩

/-- The bind name is at the start of the text, or further on. -/
theorem hasBindName_cons_iff {prior : Option Char} {c : Char} {rest : List Char} :
    HasBindName prior (c :: rest) ↔
      (c = ':' ∧ (!prior.any fun b => touches b || b == '\\') = true ∧
        (!(rest.takeWhile isWord).isEmpty) = true ∧ isClear (rest.dropWhile isWord) = true) ∨
      HasBindName (some c) rest := by
  have hprior : (!prior.any fun b => touches b || b == '\\') = true ↔
      ∀ b ∈ prior, touches b = false ∧ b ≠ '\\' := by
    cases prior <;> simp
  rw [hprior, isClear_iff]
  constructor
  · rintro ⟨before, name, after, hs, hne, hname, hbefore, hafter⟩
    cases before with
    | nil =>
      obtain ⟨rfl, rfl⟩ := List.cons.inj hs
      obtain ⟨htake, hdrop⟩ := takeWhile_word hname hafter
      rw [htake, hdrop]
      exact .inl ⟨rfl, by simpa using hbefore, by simpa using hne, hafter⟩
    | cons b before =>
      obtain ⟨rfl, rfl⟩ := List.cons.inj hs
      refine .inr ⟨before, name, after, rfl, hne, hname, ?_, hafter⟩
      rw [List.getLast?_cons] at hbefore
      cases hlast : before.getLast? <;> simpa [hlast] using hbefore
  · rintro (⟨rfl, hbefore, hne, hafter⟩ | ⟨before, name, after, rfl, hne, hname, hbefore, hafter⟩)
    · refine ⟨[], rest.takeWhile isWord, rest.dropWhile isWord, ?_, by simpa using hne, ?_,
        by simpa using hbefore, hafter⟩
      · rw [List.takeWhile_append_dropWhile, List.nil_append]
      · exact fun c hc => List.mem_takeWhile_imp hc
    · refine ⟨c :: before, name, after, rfl, hne, hname, ?_, hafter⟩
      rw [List.getLast?_cons]
      cases hlast : before.getLast? <;> simpa [hlast] using hbefore

theorem fillFrom_eq_self {prior : Option Char} {s : List Char} (h : ¬ HasBindName prior s) :
    fillFrom prior 0 s = s := by
  induction s generalizing prior with
  | nil => rfl
  | cons c rest ih =>
    rw [hasBindName_cons_iff, not_or] at h
    rw [fillFrom, if_neg h.1, ih h.2]

/-- A bind name is filled in with something else than a colon. -/
theorem fillFrom_of_hasBindName {prior : Option Char} {s : List Char} (h : HasBindName prior s) :
    ∃ u v w, s = u ++ ':' :: v ∧ fillFrom prior 0 s = u ++ 'N' :: w := by
  induction s generalizing prior with
  | nil =>
    obtain ⟨before, name, after, hs, -⟩ := h
    simp at hs
  | cons c rest ih =>
    rw [hasBindName_cons_iff] at h
    rw [fillFrom]
    split
    · next hc =>
      obtain ⟨rfl, -⟩ := hc
      exact ⟨[], rest, _, rfl, rfl⟩
    · next hc =>
      obtain ⟨u, v, w, rfl, hfill⟩ := ih (h.resolve_left hc)
      exact ⟨c :: u, v, w, rfl, by rw [hfill, List.cons_append]⟩

/-! ### Kept colons -/

/-- A text has a colon with a backslash in front that is not needed for anything
else: there may be a word behind the colon, but then no further colon. -/
def HasKeptColon (s : List Char) : Prop :=
  ∃ before name after, s = before ++ '\\' :: ':' :: (name ++ after) ∧
    (∀ c ∈ name, isWord c = true) ∧ ∀ c ∈ after.head?, touches c = false

theorem not_hasKeptColon_singleton (c : Char) : ¬ HasKeptColon [c] := by
  rintro ⟨before, name, after, hs, -⟩
  have hlength := congrArg List.length hs
  simp at hlength
  omega

/-- The kept colon is at the start of the text, or further on. -/
theorem hasKeptColon_cons_iff {c d : Char} {rest : List Char} :
    HasKeptColon (c :: d :: rest) ↔
      (c = '\\' ∧ d = ':' ∧ isClear (rest.dropWhile isWord) = true) ∨ HasKeptColon (d :: rest) := by
  rw [isClear_iff]
  constructor
  · rintro ⟨before, name, after, hs, hname, hafter⟩
    cases before with
    | nil =>
      obtain ⟨rfl, htail⟩ := List.cons.inj hs
      obtain ⟨rfl, rfl⟩ := List.cons.inj htail
      rw [(takeWhile_word hname hafter).2]
      exact .inl ⟨rfl, rfl, hafter⟩
    | cons b before => exact .inr ⟨before, name, after, (List.cons.inj hs).2, hname, hafter⟩
  · rintro (⟨rfl, rfl, hafter⟩ | ⟨before, name, after, hs, hname, hafter⟩)
    · refine ⟨[], rest.takeWhile isWord, rest.dropWhile isWord, ?_, ?_, hafter⟩
      · rw [List.takeWhile_append_dropWhile, List.nil_append]
      · exact fun c hc => List.mem_takeWhile_imp hc
    · exact ⟨c :: before, name, after, by rw [hs, List.cons_append], hname, hafter⟩

theorem unescape_eq_self : ∀ {s : List Char}, ¬ HasKeptColon s → unescape s = s
  | [], _ => rfl
  | [c], _ => rfl
  | c :: d :: rest, h => by
    rw [hasKeptColon_cons_iff, not_or] at h
    rw [unescape, if_neg h.1, unescape_eq_self h.2]

/-- Where a backslash keeps a colon, the colon is written. -/
theorem unescape_of_hasKeptColon : ∀ {s : List Char}, HasKeptColon s →
    ∃ u v w, s = u ++ '\\' :: v ∧ unescape s = u ++ ':' :: w
  | [], ⟨before, name, after, hs, _⟩ => by simp at hs
  | [c], h => absurd h (not_hasKeptColon_singleton c)
  | c :: d :: rest, h => by
    rw [hasKeptColon_cons_iff] at h
    rw [unescape]
    split
    · next hc =>
      obtain ⟨rfl, rfl, -⟩ := hc
      exact ⟨[], ':' :: rest, _, rfl, rfl⟩
    · next hc =>
      obtain ⟨u, v, w, hs, hunescape⟩ := unescape_of_hasKeptColon (h.resolve_left hc)
      exact ⟨c :: u, v, w, by rw [hs, List.cons_append], by rw [hunescape, List.cons_append]⟩

/-- What is written before a filled in name is what was there, up to the first colon
that a backslash keeps. -/
theorem unescape_append_filled : ∀ u w : List Char,
    (∃ w', unescape (u ++ 'N' :: w) = u ++ 'N' :: w') ∨
      ∃ u₁ u₂ w', u = u₁ ++ '\\' :: u₂ ∧ unescape (u ++ 'N' :: w) = u₁ ++ ':' :: w'
  | [], [] => .inl ⟨[], rfl⟩
  | [], d :: w => by
    rw [List.nil_append, unescape, if_neg (by simp)]
    exact .inl ⟨unescape (d :: w), rfl⟩
  | [c], w => by
    rw [List.singleton_append, unescape, if_neg (by simp)]
    rcases unescape_append_filled [] w with ⟨w', hw⟩ | ⟨u₁, u₂, w', hu, -⟩
    · rw [List.nil_append] at hw
      exact .inl ⟨w', by rw [hw]; rfl⟩
    · simp at hu
  | c :: d :: u, w => by
    rw [List.cons_append, List.cons_append, unescape]
    split
    · next hc =>
      obtain ⟨rfl, rfl, -⟩ := hc
      exact .inr ⟨[], ':' :: u, _, rfl, rfl⟩
    · rcases unescape_append_filled (d :: u) w with ⟨w', hw⟩ | ⟨u₁, u₂, w', hu, hw⟩
      · rw [List.cons_append] at hw
        exact .inl ⟨w', by rw [hw]; rfl⟩
      · rw [List.cons_append] at hw
        exact .inr ⟨c :: u₁, u₂, w', by rw [hu]; rfl, by rw [hw]; rfl⟩

/-! ### Rendered clauses -/

/-- What is written for a text with a bind name or a kept colon differs from it in a
character. -/
theorem diverge_of_hasBindName_or {s : List Char} (h : HasBindName none s ∨ HasKeptColon s) :
    Text.Diverge s (unescape (fill s)) := by
  by_cases hname : HasBindName none s
  · obtain ⟨u, v, w, rfl, hfill⟩ := fillFrom_of_hasBindName hname
    rw [fill, hfill]
    -- a colon that is kept before the bind name is the first difference then
    rcases unescape_append_filled u w with ⟨w', hw⟩ | ⟨u₁, u₂, w', rfl, hw⟩
    · exact ⟨u, ':', 'N', v, w', rfl, hw, by decide⟩
    · exact ⟨u₁, '\\', ':', u₂ ++ ':' :: v, w', by simp, hw, by decide⟩
  · obtain ⟨u, v, w, hs, hunescape⟩ := unescape_of_hasKeptColon (h.resolve_left hname)
    rw [fill, fillFrom_eq_self hname]
    exact ⟨u, '\\', ':', v, w, hs, hunescape, by decide⟩

theorem toList_render (text : String) : (render text).toList = unescape (fill text.toList) :=
  String.toList_ofList

/-- **A text is written as it is** exactly if it has no bind name and no kept colon. -/
theorem render_eq_self_iff {text : String} :
    render text = text ↔ ¬ HasBindName none text.toList ∧ ¬ HasKeptColon text.toList := by
  rw [← String.toList_inj, toList_render]
  constructor
  · intro h
    rw [← not_or]
    exact fun hor => (diverge_of_hasBindName_or hor).ne h.symm
  · rintro ⟨hname, hkept⟩
    rw [fill, fillFrom_eq_self hname, unescape_eq_self hkept]

theorem diverge_render {text : String} (h : render text ≠ text) :
    Text.Diverge text.toList (render text).toList := by
  rw [toList_render]
  rw [Ne, render_eq_self_iff, not_and_or, not_not, not_not] at h
  exact diverge_of_hasBindName_or h

theorem render_eq_empty_iff {text : String} : render text = "" ↔ text = "" := by
  constructor
  · intro h
    by_cases hself : render text = text
    · rw [← hself, h]
    · obtain ⟨u, a, b, v, w, -, hw, -⟩ := diverge_render hself
      simp [h] at hw
  · rintro rfl
    rfl

theorem filter_render (texts : List String) :
    (texts.map render).filter (· ≠ "") = (texts.filter (· ≠ "")).map render := by
  rw [List.filter_map]
  congr 2
  funext text
  simp [render_eq_empty_iff]

/-- Between separators no text can make up for a character that is written otherwise
in another. -/
theorem intercalate_render (sep : String) : ∀ texts : List String,
    sep.intercalate (texts.map render) = sep.intercalate texts ↔
      ∀ text ∈ texts, render text = text
  | [] => by simp
  | [text] => by simp
  | text :: next :: rest => by
    rw [List.map_cons, List.map_cons, String.intercalate_cons_cons, String.intercalate_cons_cons,
      ← List.map_cons, List.forall_mem_cons, ← intercalate_render sep (next :: rest)]
    by_cases h : render text = text
    · rw [h, String.append_right_inj]
      simp
    · -- the texts part within this one, and what follows it does not count any more
      simp only [h, false_and, iff_false]
      intro heq
      apply (diverge_render h).append_ne
      simpa [String.append_assoc] using (congrArg String.toList heq).symm

/-- Where there is no colon there is no bind name. -/
theorem not_hasBindName_of_not_mem {prior : Option Char} {s : List Char} (h : ':' ∉ s) :
    ¬ HasBindName prior s := by
  rintro ⟨before, name, after, rfl, -⟩
  simp at h

theorem not_hasKeptColon_of_not_mem {s : List Char} (h : ':' ∉ s) : ¬ HasKeptColon s := by
  rintro ⟨before, name, after, rfl, -⟩
  simp at h

theorem render_of_not_mem {text : String} (h : ':' ∉ text.toList) : render text = text :=
  render_eq_self_iff.mpr ⟨not_hasBindName_of_not_mem h, not_hasKeptColon_of_not_mem h⟩

/-- Behind a bind name the text goes on as it is. -/
theorem fillFrom_length_append {prior : Option Char} {after : List Char} (h : ':' ∉ after) :
    ∀ name : List Char, fillFrom prior name.length (name ++ after) = after
  | [] => fillFrom_eq_self (not_hasBindName_of_not_mem h)
  | c :: name => by
    rw [List.cons_append, List.length_cons, fillFrom]
    exact fillFrom_length_append h name

/-- A bind name at the start of a text is written `NULL`. -/
theorem render_bindName {name after : List Char} (hne : name ≠ [])
    (hname : ∀ c ∈ name, isWord c = true) (hafter : ∀ c ∈ after.head?, touches c = false)
    (hcolon : ':' ∉ after) :
    render (String.ofList (':' :: (name ++ after))) =
      String.ofList ("NULL".toList ++ after) := by
  have hfill : fill (':' :: (name ++ after)) = "NULL".toList ++ after := by
    obtain ⟨htake, hdrop⟩ := takeWhile_word hname hafter
    rw [fill, fillFrom, htake, hdrop, if_pos, fillFrom_length_append hcolon]
    exact ⟨rfl, rfl, by simpa using hne, isClear_iff.mpr hafter⟩
  have hkept : ':' ∉ "NULL".toList ++ after := by simpa using hcolon
  rw [render, String.toList_ofList, hfill, unescape_eq_self (not_hasKeptColon_of_not_mem hkept)]

end BindNames

/-! ### The ORDER BY clause -/

namespace Select

/-- The ORDER BY clause that lists some texts word for word, but for the empty ones;
there is none if nothing is left. -/
def verbatimOrder (texts : List String) : String :=
  if texts.filter (· ≠ "") = [] then ""
  else " ORDER BY " ++ ", ".intercalate (texts.filter (· ≠ ""))

theorem intercalate_eq_empty_iff {sep : String} : ∀ {texts : List String},
    (∀ text ∈ texts, text ≠ "") → (sep.intercalate texts = "" ↔ texts = [])
  | [], _ => by simp
  | [text], h => by simpa using h text
  | text :: next :: rest, h => by
    have htext := h text List.mem_cons_self
    simp [String.intercalate_cons_cons, String.append_eq_empty_iff, htext]

/-- A statement's ORDER BY lists what is written for its clauses. -/
theorem orderText_eq (s : Select) :
    s.orderText = verbatimOrder (s.clauses.map BindNames.render) := by
  have hlist : orderList s.clauses = "" ↔ (s.clauses.map BindNames.render).filter (· ≠ "") = [] :=
    intercalate_eq_empty_iff fun text h => by simpa using (List.mem_filter.mp h).2
  unfold orderText verbatimOrder
  simp only [hlist]
  rfl

theorem verbatimOrder_eq_empty_iff {texts : List String} :
    verbatimOrder texts = "" ↔ ∀ text ∈ texts, text = "" := by
  rw [verbatimOrder]
  split
  · next h => simpa using h
  · next h => simpa [String.append_eq_empty_iff] using h

theorem verbatimOrder_render_iff {texts : List String} :
    verbatimOrder (texts.map BindNames.render) = verbatimOrder texts ↔
      ∀ text ∈ texts, BindNames.render text = text := by
  have hwritten : (∀ text ∈ texts.filter (· ≠ ""), BindNames.render text = text) ↔
      ∀ text ∈ texts, BindNames.render text = text := by
    constructor
    · intro h text htext
      by_cases hempty : text = ""
      · exact hempty ▸ rfl
      · exact h text (List.mem_filter.mpr ⟨htext, by simpa using hempty⟩)
    · exact fun h text htext => h text (List.mem_filter.mp htext).1
  rw [← hwritten, verbatimOrder, verbatimOrder, BindNames.filter_render]
  by_cases h : texts.filter (· ≠ "") = []
  · rw [h]
    simp
  · rw [if_neg h, if_neg (h ∘ List.map_eq_nil_iff.mp), String.append_right_inj,
      BindNames.intercalate_render]

end Select

namespace Pager

/-- **The ORDER BY clause of a narrowed statement lists the clauses of the page**, but
for the empty ones, and is left out when all are empty. It lists them word for word
exactly if none has a bind name or a kept colon. -/
theorem orderText_narrow {p : Pager} (hp : p.Total) {s : Select} (hs : s.clauses = [])
    (page : Option Page) :
    ∃ (texts : List String) (t : Select), p.clauses page = .ok texts ∧
      (p.narrow (.select s) page).prepared = .ok ⟨.select t, []⟩ ∧
      t.sql = "SELECT" ++ s.columnText ++ " \nFROM " ++ Identifier.write s.table ++
        s.filterText ++ t.orderText ++ t.windowText ∧
      t.orderText = Select.verbatimOrder (texts.map BindNames.render) ∧
      (t.orderText = "" ↔ ∀ text ∈ texts, text = "") ∧
      (t.orderText = Select.verbatimOrder texts ↔ ∀ text ∈ texts,
        ¬ BindNames.HasBindName none text.toList ∧ ¬ BindNames.HasKeptColon text.toList) := by
  obtain ⟨texts, htexts⟩ := clauses_ok hp page
  obtain ⟨narrowed, hok, hnarrowed⟩ := narrow_of_clauses htexts (.select s)
  cases hnarrowed
  rw [hs, List.nil_append] at hok
  refine ⟨texts, _, htexts, hok, rfl, Select.orderText_eq _, ?_, ?_⟩
  · rw [Select.orderText_eq, Select.verbatimOrder_eq_empty_iff]
    simp [BindNames.render_eq_empty_iff]
  · rw [Select.orderText_eq, Select.verbatimOrder_render_iff]
    simp only [BindNames.render_eq_self_iff]

/-- A column without colons is listed word for word. -/
theorem orderText_narrow_plain :
    let page : Page := { column := "Name,-Price" }
    reference.Total ∧ ({} : Select).clauses = [] ∧
      ∃ t, (reference.narrow (.select {}) (some page)).prepared = .ok ⟨.select t, []⟩ ∧
        t.orderText = " ORDER BY name ASC, price DESC" := by
  intro page
  obtain ⟨texts, t, htexts, hok, -, -, -, hverbatim⟩ :=
    orderText_narrow reference_total (s := {}) rfl (some page)
  have hclauses : reference.clauses (some page) = .ok ["name ASC", "price DESC"] :=
    clauses_of_keys [⟨"Name", some .ascending⟩, ⟨"Price", some .descending⟩] (by decide) rfl
  cases hclauses.symm.trans htexts
  refine ⟨reference_total, rfl, t, hok, ?_⟩
  rw [hverbatim.mpr]
  · decide
  · intro text htext
    rw [← BindNames.render_eq_self_iff]
    apply BindNames.render_of_not_mem
    revert text
    decide

/-- A column may be called by what is a bind name in a text. Nothing is bound to it, so
the rows are not sorted by that column. -/
theorem not_verbatim_bindName :
    let page : Page := { column := ":a" }
    usual.Total ∧ usual.clauses (some page) = .ok [":a ASC"] ∧
      ∃ t, (usual.narrow (.select {}) (some page)).prepared = .ok ⟨.select t, []⟩ ∧
        t.orderText = " ORDER BY NULL ASC" ∧
        t.orderText ≠ Select.verbatimOrder [":a ASC"] := by
  intro page
  have htotal : usual.Total := by
    intro f hf
    cases hf
  have hclauses : usual.clauses (some page) = .ok [":a ASC"] :=
    clauses_of_keys [⟨":a", some .ascending⟩] (by decide) rfl
  have hrender : BindNames.render ":a ASC" = "NULL ASC" := by
    have ha : Text.isWord 'a' = true := by
      rw [Text.isWord_eq]
      decide +kernel
    have hblank : BindNames.touches ' ' = false := by
      rw [BindNames.touches, Text.isWord_eq]
      decide +kernel
    exact @BindNames.render_bindName ['a'] [' ', 'A', 'S', 'C'] (by simp) (by simpa using ha)
      (by simpa using hblank) (by decide)
  obtain ⟨t, hok, ht⟩ : ∃ t : Select,
      (usual.narrow (.select {}) (some page)).prepared = .ok ⟨.select t, []⟩ ∧
        t.clauses = [":a ASC"] := by
    obtain ⟨narrowed, hok, hnarrowed⟩ := narrow_of_clauses hclauses (.select {})
    cases hnarrowed
    exact ⟨_, hok, rfl⟩
  have horder : t.orderText = " ORDER BY NULL ASC" := by
    rw [Select.orderText_eq, ht, List.map_singleton, hrender]
    rfl
  refine ⟨htotal, hclauses, t, hok, horder, ?_⟩
  rw [horder]
  decide

end Pager
end Folio
