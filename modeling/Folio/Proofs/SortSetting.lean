/-
# The setting for the default specs

The default specs of a deployment are one text with commas in it. What counts are its
parts without the blanks around them, and of those only the ones that are not empty
(`Text.stripped_iff`, `PagingSettings.mem_specsIn`). Such specs are read back from their
own text (`PagingSettings.specsIn_joined`), so nothing changes when they are written down
as they were read.

The column of a page keeps blanks and empty parts. An empty part names no column, though,
and is ignored in the end. So as long as there are no blanks around a part, pages that say
nothing about their order are sorted as those that have the whole text as their column
(`PagingSettings.specs_read`).

Key definitions: `Text.Unpadded`, `Text.Stripped`, `Pager.DefaultsTo`,
`PagingSettings.SortGiven`.
Key theorems: `Text.stripped_iff`, `PagingSettings.mem_specsIn`,
`PagingSettings.specsIn_joined`, `Pager.defaultsTo_of_parts`,
`PagingSettings.specs_read`.
-/
import Mathlib.Data.List.DropRight
import Mathlib.Data.List.TakeWhile
import Folio.Proofs.DefaultSpecs
import Folio.Proofs.Deployment

namespace Folio

/-! ### Blanks around a text -/

namespace Text

variable {p : Char → Bool} {s t : List Char}

/-- Neither end of a text is a character of a class. -/
def Unpadded (p : Char → Bool) (s : List Char) : Prop :=
  (∀ c ∈ s.head?, p c = false) ∧ ∀ c ∈ s.getLast?, p c = false

-- only the two ends are looked at, where deciding the definition would try every character
instance (p : Char → Bool) (s : List Char) : Decidable (Unpadded p s) :=
  decidable_of_iff (s.head?.any p = false ∧ s.getLast?.any p = false) <| by
    simp only [Unpadded, Option.any_eq_false]
    rfl

/-- A text that another one consists of, but for characters of a class around it. -/
structure Stripped (p : Char → Bool) (s t : List Char) : Prop where
  around : ∃ before after, s = before ++ (t ++ after) ∧
    (∀ c ∈ before, p c = true) ∧ ∀ c ∈ after, p c = true
  unpadded : Unpadded p t

theorem dropWhile_of_head? (h : ∀ c ∈ s.head?, p c = false) : s.dropWhile p = s := by
  cases s with
  | nil => rfl
  | cons c rest => rw [List.dropWhile_cons_of_neg (by simp [h c rfl])]

theorem trimmedEnd_append {after : List Char} (ha : ∀ c ∈ after, p c = true)
    (ht : ∀ c ∈ t.getLast?, p c = false) : trimmedEnd p (t ++ after) = t := by
  have hafter : ∀ c ∈ after.reverse, p c = true := by simpa using ha
  have hlast : ∀ c ∈ t.reverse.head?, p c = false := by rwa [List.head?_reverse]
  rw [trimmedEnd, List.reverse_append, List.dropWhile_append_of_pos hafter,
    dropWhile_of_head? hlast, List.reverse_reverse]

theorem Stripped.eq_trimmed (h : Stripped p s t) : t = trimmed p s := by
  obtain ⟨⟨before, after, rfl, hbefore, hafter⟩, hhead, hlast⟩ := h
  rw [trimmed, List.dropWhile_append_of_pos hbefore]
  cases t with
  | nil =>
    rw [List.nil_append, List.dropWhile_eq_nil_iff.mpr hafter]
    rfl
  | cons c rest =>
    have hstart : ∀ d ∈ (c :: rest ++ after).head?, p d = false := hhead
    rw [dropWhile_of_head? hstart, trimmedEnd_append hafter hlast]

theorem head?_dropWhile (p : Char → Bool) (s : List Char) :
    ∀ c ∈ (s.dropWhile p).head?, p c = false := by
  intro c hc
  have hnot := List.head?_dropWhile_not p s
  rwa [Option.mem_def.mp hc] at hnot

theorem unpadded_trimmed (p : Char → Bool) (s : List Char) : Unpadded p (trimmed p s) := by
  rw [trimmed, trimmedEnd]
  constructor
  · intro c hc
    -- it is also the first character of what is left when the start is dropped
    obtain ⟨rest, hrest⟩ := List.rdropWhile_prefix p (s.dropWhile p)
    refine head?_dropWhile p s c ?_
    rw [← hrest, List.head?_append]
    exact congrArg (Option.or · rest.head?) hc
  · rw [List.getLast?_reverse]
    exact head?_dropWhile p _

theorem stripped_trimmed (p : Char → Bool) (s : List Char) : Stripped p s (trimmed p s) where
  around := by
    refine ⟨s.takeWhile p, (s.dropWhile p).rtakeWhile p, ?_, ?_, ?_⟩
    · have htrimmed : trimmed p s = (s.dropWhile p).rdropWhile p := rfl
      rw [htrimmed, List.rdropWhile_append_rtakeWhile, List.takeWhile_append_dropWhile]
    · exact fun c hc => List.mem_takeWhile_imp hc
    · exact fun c hc => List.mem_rtakeWhile_imp hc
  unpadded := unpadded_trimmed p s

/-- **There is one way to strip a text.** -/
theorem stripped_iff : Stripped p s t ↔ t = trimmed p s := by
  constructor
  · exact Stripped.eq_trimmed
  · rintro rfl
    exact stripped_trimmed p s

theorem trimmed_of_unpadded (h : Unpadded p s) : trimmed p s = s :=
  (stripped_iff.mp ⟨⟨[], [], by simp, by simp, by simp⟩, h⟩).symm

end Text

/-! ### The specs in a text -/

namespace PagingSettings

open Text (isBlank Unpadded)

theorem mem_specsIn {s part : List Char} (h : part ∈ specsIn s) :
    part ≠ [] ∧ ',' ∉ part ∧ Unpadded isBlank part := by
  obtain ⟨hmem, hne⟩ := List.mem_filter.mp h
  obtain ⟨whole, hwhole, rfl⟩ := List.mem_map.mp hmem
  refine ⟨by simpa using hne, ?_, Text.unpadded_trimmed isBlank whole⟩
  -- the part is cut out of one that has no comma
  obtain ⟨before, after, heq, -⟩ := (Text.stripped_trimmed isBlank whole).around
  intro hcomma
  refine Text.not_mem_of_mem_parts ',' s whole hwhole ?_
  rw [heq]
  exact List.mem_append_right _ (List.mem_append_left _ hcomma)

/-- **Specs come back from their own text**, if they are not empty, have no comma and no
blanks around them. -/
theorem specsIn_joined {specs : List (List Char)}
    (h : ∀ spec ∈ specs, spec ≠ [] ∧ ',' ∉ spec ∧ Unpadded isBlank spec) :
    specsIn (Text.joined ',' specs) = specs := by
  by_cases hne : specs = []
  · subst hne
    rfl
  · have hparts : Text.parts ',' (Text.joined ',' specs) = specs :=
      Text.parts_joined ',' specs hne fun spec hspec => (h spec hspec).2.1
    have htrimmed : specs.map (Text.trimmed isBlank) = specs.map id :=
      List.map_congr_left fun spec hspec => Text.trimmed_of_unpadded (h spec hspec).2.2
    rw [specsIn, hparts, htrimmed, List.map_id, List.filter_eq_self]
    exact fun spec hspec => decide_eq_true (h spec hspec).1

theorem specs_intercalate (s : PagingSettings) {t : PagingSettings}
    (h : t.defaultSort = ",".intercalate s.specs) : t.specs = s.specs := by
  have hlists : s.specs.map String.toList = specsIn s.defaultSort.toList := by
    simp [specs, Function.comp_def]
  rw [specs, h, Text.toList_intercalate_comma, hlists, specsIn_joined fun _ => mem_specsIn, specs]

/-- The specs are those parts of the text that are not empty when they are stripped. -/
theorem specs_eq_filter (s : PagingSettings) :
    s.specs = ((Text.commaParts s.defaultSort).map fun part =>
      String.ofList (Text.trimmed isBlank part.toList)).filter (· ≠ "") := by
  have hstripped : (Text.commaParts s.defaultSort).map (fun part =>
      String.ofList (Text.trimmed isBlank part.toList)) =
        ((Text.parts ',' s.defaultSort.toList).map (Text.trimmed isBlank)).map String.ofList := by
    rw [Text.commaParts, List.map_map, List.map_map]
    simp only [Function.comp_def, String.toList_ofList]
  have hempty : ∀ cs : List Char, decide (String.ofList cs ≠ "") = decide (cs ≠ []) := by
    intro cs
    rw [decide_eq_decide, not_iff_not, ← String.toList_inj, String.toList_ofList]
    rfl
  rw [hstripped, List.filter_map, specs, specsIn]
  simp only [Function.comp_def, hempty]

/-- The specs of a text without blanks around its parts are the parts that are not
empty. -/
theorem specs_of_unpadded {s : PagingSettings} {parts : List String}
    (hparts : CommaSeparated s.defaultSort parts)
    (h : ∀ part ∈ parts, Unpadded isBlank part.toList) : s.specs = parts.filter (· ≠ "") := by
  have hstripped : parts.map (fun part => String.ofList (Text.trimmed isBlank part.toList)) =
      parts.map id := by
    apply List.map_congr_left
    intro part hpart
    rw [Text.trimmed_of_unpadded (h part hpart), String.ofList_toList, id]
  rw [specs_eq_filter, ← commaSeparated_iff.mp hparts, hstripped, List.map_id]

end PagingSettings

/-! ### Pages without an order of their own -/

namespace Pager

/-- A pager gives all pages that say nothing about their order the clauses of the pages
with a certain column. -/
def DefaultsTo (p : Pager) (column : String) : Prop :=
  ∀ (d d' : Desk) (ref ref' : Option PageRef) (page : Option Page) (listed : Page),
    d.Holds ref page → (∀ x ∈ page, x.Plain) →
    d'.Holds ref' (some listed) → listed.keys = [] → listed.column = column →
    ∃ texts, (d.clauses p.configuration ref).2 = .ok texts ∧
      (d'.clauses p.configuration ref').2 = .ok texts

/-- An empty spec names no column, so that it may as well be left out. -/
theorem filterMap_nonempty (specs : List String) :
    (specs.filter (· ≠ "")).filterMap SortKey.ofSpec? = specs.filterMap SortKey.ofSpec? := by
  rw [List.filterMap_filter]
  congr 1
  funext spec
  by_cases h : spec = ""
  · subst h
    rfl
  · rw [if_pos (decide_eq_true h)]

theorem defaultsTo_of_parts {p : Pager} (hp : p.Total) {column : String} {parts : List String}
    (hparts : CommaSeparated column parts) (hspecs : p.defaultSpecs = parts.filter (· ≠ "")) :
    p.DefaultsTo column := by
  rintro d d' ref ref' page listed h hpage h' hkeys rfl
  have hkeys : (p.choice (some listed)).keys = (p.choice page).keys := by
    rw [choice_default p hpage]
    by_cases hcolumn : listed.column = ""
    · have hplain : ∀ x ∈ some listed, x.Plain := by
        rintro x ⟨⟩
        exact ⟨hkeys, hcolumn⟩
      rw [choice_default p hplain]
    · rw [choice_column p hkeys hcolumn hparts, sift_keys_texts, sift_keys_texts, hspecs,
        filterMap_nonempty]
  obtain ⟨texts, htexts⟩ := clauses_ok hp page
  refine ⟨texts, ?_, ?_⟩
  · rw [Desk.clauses_of_holds p h, htexts]
  · rw [Desk.clauses_of_holds p h', ← htexts, clauses, clauses, hkeys]

end Pager

/-! ### Settings -/

namespace PagingSettings

open Text (isBlank Unpadded Stripped)

/-- Some sources have a text for the default specs. -/
def SortGiven (sources : Sources) (text : String) : Prop :=
  sources.find? "PAGINATION_DEFAULT_SORT" = some (.text text)

theorem defaultSort_of_load {sources : Sources} {text : String} {s : PagingSettings}
    (h : SortGiven sources text) (hs : load sources = .ok s) : s.defaultSort = text := by
  rcases Sources.read_eq_ok_iff.mp (load_eq_ok_iff.mp hs).2.2 with ⟨hnone, -⟩ | ⟨v, hv, hread⟩
  · cases hnone.symm.trans h
  · cases hv.symm.trans h
    exact (Except.ok.inj hread).symm

/-- Nothing but a text for the default specs, which is given directly. -/
def sortOnly (text : String) : Sources where
  given := [("PAGINATION_DEFAULT_SORT", .text text)]

theorem sortOnly_sortGiven (text : String) : SortGiven (sortOnly text) text := by
  have hfirst : Sources.firstOf "PAGINATION_DEFAULT_SORT" (sortOnly text).given =
      some (.text text) := by
    rw [sortOnly, Sources.firstOf_cons, if_pos rfl]
  rw [SortGiven, Sources.find?, hfirst]

theorem find?_sortOnly (text : String) {name : String}
    (h : "PAGINATION_DEFAULT_SORT".toList.map Char.toLower ≠ name.toList.map Char.toLower) :
    (sortOnly text).find? name = none := by
  have hfirst : Sources.firstOf name (sortOnly text).given = none := by
    rw [sortOnly, Sources.firstOf_cons, if_neg h]
    rfl
  have hfile : (sortOnly text).assigned = [] := rfl
  rw [Sources.find?, hfirst, hfile]
  rfl

/-- Settings load whatever the text for the default specs is. -/
theorem load_sortOnly (text : String) : load (sortOnly text) = .ok { defaultSort := text } := by
  refine load_eq_ok_iff.mpr ⟨?_, ?_, ?_⟩
  · exact Sources.read_eq_ok_iff.mpr (.inl ⟨find?_sortOnly text (by decide +kernel), rfl⟩)
  · exact Sources.read_eq_ok_iff.mpr (.inl ⟨find?_sortOnly text (by decide +kernel), rfl⟩)
  · exact Sources.read_eq_ok_iff.mpr (.inr ⟨_, sortOnly_sortGiven text, rfl⟩)

/-- **The text for the default specs is read in a stable way.** Settings load with every
text. The specs are its parts, stripped of the blanks around them, without the empty ones;
they are not empty, and they have no comma and no blanks around them, so that their own
text has the same specs. If there are no blanks around the parts in the first place, the
settings make a pager that sorts a page without an order of its own as if it had the text
for its column. -/
theorem specs_read (text : String) :
    (SortGiven (sortOnly text) text ∧ ∃ s, load (sortOnly text) = .ok s) ∧
    ∀ sources s, SortGiven sources text → load sources = .ok s →
      ∃ parts stripped : List String, CommaSeparated text parts ∧
        List.Forall₂ (fun part spec => Stripped isBlank part.toList spec.toList) parts stripped ∧
        s.specs = stripped.filter (· ≠ "") ∧
        (∀ spec ∈ s.specs, spec ≠ "" ∧ ',' ∉ spec.toList ∧ Unpadded isBlank spec.toList) ∧
        (∀ again s', SortGiven again (",".intercalate s.specs) → load again = .ok s' →
          s'.specs = s.specs) ∧
        ((∀ part ∈ parts, Unpadded isBlank part.toList) →
          ∃ p, (Draft.ofSettings s).finish = .ok p ∧ p.DefaultsTo text) := by
  refine ⟨⟨sortOnly_sortGiven text, _, load_sortOnly text⟩, ?_⟩
  intro sources s hgiven hload
  obtain rfl := defaultSort_of_load hgiven hload
  have hparts := commaSeparated_iff.mpr (rfl : Text.commaParts s.defaultSort = _)
  refine ⟨_, _, hparts, ?stripped, specs_eq_filter s, ?entries, ?again, ?alike⟩
  case stripped =>
    rw [List.forall₂_map_right_iff, List.forall₂_same]
    intro part _
    rw [String.toList_ofList]
    exact Text.stripped_trimmed isBlank part.toList
  case entries =>
    intro spec hspec
    obtain ⟨cs, hcs, rfl⟩ := List.mem_map.mp hspec
    obtain ⟨hne, hcomma, hunpadded⟩ := mem_specsIn hcs
    rw [String.toList_ofList]
    refine ⟨?_, hcomma, hunpadded⟩
    rwa [Ne, ← String.toList_inj, String.toList_ofList]
  case again =>
    intro again s' hagain hload'
    exact specs_intercalate s (defaultSort_of_load hagain hload')
  case alike =>
    intro hunpadded
    obtain ⟨hd, hm⟩ := sizes_nonneg hload
    refine ⟨_, Draft.finish_ofSettings hd hm, ?_⟩
    apply Pager.defaultsTo_of_parts _ hparts (specs_of_unpadded hparts hunpadded)
    rintro f ⟨⟩

/-- Of four parts one is empty, and another one names no column. The other two are what an
absent page is sorted by, and a page with the text for its column. -/
theorem specs_read_sparse :
    let text := "-id,,-,Name"
    let s : PagingSettings := { defaultSort := text }
    let listed : Page := { column := text }
    let d : Desk := (({} : Desk).addPage listed).1
    SortGiven (sortOnly text) text ∧ load (sortOnly text) = .ok s ∧
      s.specs = ["-id", "-", "Name"] ∧
      ∃ p, (Draft.ofSettings s).finish = .ok p ∧ p.DefaultsTo text ∧
        (d.clauses p.configuration none).2 = .ok ["id DESC", "Name ASC"] ∧
        (d.clauses p.configuration (some 0)).2 = .ok ["id DESC", "Name ASC"] := by
  intro text s listed d
  obtain ⟨⟨hgiven, -⟩, hread⟩ := specs_read text
  have hload : load (sortOnly text) = .ok s := load_sortOnly text
  obtain ⟨parts, stripped, hparts, -, -, -, -, halike⟩ := hread _ _ hgiven hload
  obtain rfl : parts = ["-id", "", "-", "Name"] :=
    (commaSeparated_iff.mp hparts).trans (by decide)
  obtain ⟨p, hp, hdefaults⟩ := halike (by decide)
  have hd : d.Holds (some 0) (some listed) := Desk.addPage_holds {} listed
  obtain ⟨texts, habsent, hlisted⟩ := hdefaults d d none (some 0) none listed rfl
    (fun _ h => nomatch h) hd rfl rfl
  have hkeys : p.clauses (some listed) = .ok ["id DESC", "Name ASC"] := by
    cases hp.symm.trans (Draft.finish_ofSettings (by decide) (by decide))
    exact Pager.clauses_of_keys [⟨"id", some .descending⟩, ⟨"Name", some .ascending⟩] (by decide)
      rfl
  obtain rfl : texts = ["id DESC", "Name ASC"] := by
    rw [Desk.clauses_of_holds p hd, hkeys] at hlisted
    exact (Except.ok.inj hlisted).symm
  exact ⟨hgiven, hload, by decide, p, hp, hdefaults, habsent, hlisted⟩

end PagingSettings
end Folio
