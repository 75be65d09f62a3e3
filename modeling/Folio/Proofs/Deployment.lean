/-
# Settings that load make a pager

The sizes in the settings and those among the options of a pager are checked
apart, and a size below zero is refused in different ways. Both take the same
sizes, though: a whole number, however it is given, that is not below zero
(`PagingSettings.readSize_eq_ok_iff`, `Pager.readSize_eq_ok_iff`). So settings that
load, whatever sources they come from, always make a pager
(`Draft.finish_ofSettings`), and it has the sizes that the same values give when
they are options of a pager themselves (`PagingSettings.load_agrees`).

Key definitions: `PagingSettings.SizesGiven`.
Key theorems: `Pager.ofOptions_eq_ok_iff`, `PagingSettings.load_eq_ok_iff`,
`Draft.finish_ofSettings`, `PagingSettings.load_agrees`.
-/
import Folio.Settings

namespace Folio

theorem Checked.titled_eq_ok_iff {α : Type} {model : String} {x : Checked α} {a : α} :
    titled model x = .ok a ↔ x = .ok a := by
  cases x <;> simp [titled]

/-! ### Sizes among the options -/

namespace Pager

theorem sizeOr_rows (usual : PageSize) {n : Int} (h : 0 ≤ n) :
    (sizeOr usual n h).rows = if n = 0 then usual.rows else n := by
  unfold sizeOr
  split <;> rfl

theorem readSize_eq_ok_iff {name : OptionName} {usual size : PageSize} {arg : Argument} :
    readSize name usual (some arg) = .ok (.ok size) ↔
      ∃ (n : Int) (h : 0 ≤ n), arg.readInt = .ok n ∧ sizeOr usual n h = size := by
  rw [readSize]
  cases hread : arg.readInt with
  | error issues => simp [Checked.under]
  | ok n =>
    simp only [Checked.under]
    by_cases h : 0 ≤ n
    · simp [h]
    · simp [h]

/-- The options that make a pager, and what it takes over from each. -/
theorem ofOptions_eq_ok_iff {options : Options} {p : Pager} :
    ofOptions options = .ok p ↔
      readSize .defaultSize usualSize options.defaultSize = .ok (.ok p.defaultSize) ∧
      readSize .maxSize usualMaxSize options.maxSize = .ok (.ok p.maxSize) ∧
      readSpecs options.defaultSpecs = .ok p.defaultSpecs ∧
      readMap options.columnMap = .ok p.columnMap := by
  unfold ofOptions
  cases readSize .defaultSize usualSize options.defaultSize with
  | error failure => simp
  | ok defaultSize =>
    cases readSize .maxSize usualMaxSize options.maxSize with
    | error failure => simp
    | ok maxSize =>
      cases readMap options.columnMap with
      | error failure => simp
      | ok columnMap =>
        simp only [Except.ok.injEq]
        constructor
        · intro h
          split at h
          · rename_i r hr
            cases h
            obtain ⟨hd, hrest⟩ := Checked.zip_eq_ok_iff.mp hr
            obtain ⟨hm, hs⟩ := Checked.zip_eq_ok_iff.mp hrest
            exact ⟨hd, hm, hs, rfl⟩
          · cases h
        · rintro ⟨rfl, rfl, hspecs, rfl⟩
          rw [hspecs]
          rfl

end Pager

/-! ### Settings -/

theorem Sources.folded_inj {name other : String} :
    folded name = folded other ↔
      name.toList.map Char.toLower = other.toList.map Char.toLower := by
  rw [folded, folded, ← String.toList_inj, String.toList_map, String.toList_map]

theorem Sources.firstOf_cons {α : Type} (name first : String) (a : α)
    (rest : List (String × α)) :
    firstOf name ((first, a) :: rest) =
      if first.toList.map Char.toLower = name.toList.map Char.toLower then some a
      else firstOf name rest := by
  by_cases h : folded first = folded name
  · rw [if_pos (folded_inj.mp h)]
    simp [firstOf, h]
  · rw [if_neg (mt folded_inj.mpr h)]
    simp [firstOf, h]

/-- A source has a value under a name, or no source has one and there is a
default. -/
theorem Sources.read_eq_ok_iff {α : Type} {sources : Sources} {name : String} {default a : α}
    {check : Value → Checked α} :
    sources.read name default check = .ok a ↔
      (sources.find? name = none ∧ default = a) ∨
        ∃ v, sources.find? name = some v ∧ check v = .ok a := by
  unfold read
  cases sources.find? name with
  | none => simp
  | some v => simp [Checked.under_eq_ok_iff]

namespace PagingSettings

theorem readSize_eq_ok_iff {v : Value} {n : Int} :
    readSize v = .ok n ↔ v.readInt = .ok n ∧ 0 ≤ n := by
  unfold readSize
  cases v.readInt with
  | error issues => simp
  | ok m =>
    by_cases h : 0 ≤ m
    · simp only [if_pos h, Except.ok.injEq]
      exact ⟨fun hm => ⟨hm, hm ▸ h⟩, fun hm => hm.1⟩
    · simp only [if_neg h, Checked.refuse, reduceCtorEq, false_iff, Except.ok.injEq]
      rintro ⟨rfl, hn⟩
      exact h hn

theorem load_eq_ok_iff {sources : Sources} {s : PagingSettings} :
    load sources = .ok s ↔
      sources.read "PAGINATION_DEFAULT_SIZE" 10 readSize = .ok s.defaultSize ∧
      sources.read "PAGINATION_MAX_SIZE" 50 readSize = .ok s.maxSize ∧
      sources.read "PAGINATION_DEFAULT_SORT" "" Value.readText = .ok s.defaultSort := by
  rw [load, Checked.titled_eq_ok_iff, Checked.map_eq_ok_iff]
  constructor
  · rintro ⟨r, hr, rfl⟩
    obtain ⟨hd, hrest⟩ := Checked.zip_eq_ok_iff.mp hr
    exact ⟨hd, Checked.zip_eq_ok_iff.mp hrest⟩
  · rintro ⟨hd, hm, hs⟩
    exact ⟨(s.defaultSize, s.maxSize, s.defaultSort),
      Checked.zip_eq_ok_iff.mpr ⟨hd, Checked.zip_eq_ok_iff.mpr ⟨hm, hs⟩⟩, rfl⟩

/-- Settings that load have no sizes below zero. -/
theorem sizes_nonneg {sources : Sources} {s : PagingSettings} (h : load sources = .ok s) :
    0 ≤ s.defaultSize ∧ 0 ≤ s.maxSize := by
  obtain ⟨hd, hm, -⟩ := load_eq_ok_iff.mp h
  constructor
  · rcases Sources.read_eq_ok_iff.mp hd with ⟨-, hn⟩ | ⟨v, -, hv⟩
    · omega
    · exact (readSize_eq_ok_iff.mp hv).2
  · rcases Sources.read_eq_ok_iff.mp hm with ⟨-, hn⟩ | ⟨v, -, hv⟩
    · omega
    · exact (readSize_eq_ok_iff.mp hv).2

end PagingSettings

/-! ### Pagers made from settings -/

/-- A draft of settings without sizes below zero can be finished. -/
theorem Draft.finish_ofSettings {s : PagingSettings} (hd : 0 ≤ s.defaultSize)
    (hm : 0 ≤ s.maxSize) :
    (Draft.ofSettings s).finish =
      .ok ⟨Pager.sizeOr Pager.usualSize _ hd, Pager.sizeOr Pager.usualMaxSize _ hm, s.specs,
        none⟩ := by
  have hspecs : Checked.each Value.readText (s.specs.map .text) = .ok s.specs := by
    rw [Checked.each_eq_ok_iff, List.map_map]
    rfl
  refine Pager.ofOptions_eq_ok_iff.mpr ⟨?_, ?_, ?_, rfl⟩
  · exact Pager.readSize_eq_ok_iff.mpr ⟨_, hd, rfl, rfl⟩
  · exact Pager.readSize_eq_ok_iff.mpr ⟨_, hm, rfl, rfl⟩
  · exact Checked.under_eq_ok_iff.mpr hspecs

namespace PagingSettings

/-- The sizes are given directly, and if default specs are given in that way too
they are a text. -/
structure SizesGiven (sources : Sources) (a b : Value) : Prop where
  defaultSize : Sources.firstOf "PAGINATION_DEFAULT_SIZE" sources.given = some a
  maxSize : Sources.firstOf "PAGINATION_MAX_SIZE" sources.given = some b
  defaultSort : ∀ v, Sources.firstOf "PAGINATION_DEFAULT_SORT" sources.given = some v →
    ∃ sort, v = .text sort

/-- What is given directly wins. -/
theorem read_firstOf {sources : Sources} {name : String} {v : Value} {default n : Int}
    (h : Sources.firstOf name sources.given = some v) :
    sources.read name default readSize = .ok n ↔ v.readInt = .ok n ∧ 0 ≤ n := by
  have hfind : sources.find? name = some v := by
    simp only [Sources.find?, h]
  rw [Sources.read_eq_ok_iff, ← readSize_eq_ok_iff, hfind]
  simp

/-- The environment and the file hold nothing but texts. -/
theorem readText_ok {sources : Sources} {name : String}
    (h : ∀ v, Sources.firstOf name sources.given = some v → ∃ s, v = .text s)
    (default : String) : ∃ s, sources.read name default Value.readText = .ok s := by
  have htext : ∀ v, sources.find? name = some v → ∃ s, v = .text s := by
    intro v hv
    unfold Sources.find? at hv
    split at hv
    · rename_i w hw
      exact h v (hw.trans hv)
    · split at hv
      · exact ⟨_, (Option.some.inj hv).symm⟩
      · obtain ⟨s, -, rfl⟩ := Option.map_eq_some_iff.mp hv
        exact ⟨s, rfl⟩
  cases hfind : sources.find? name with
  | none => exact ⟨default, Sources.read_eq_ok_iff.mpr (.inl ⟨hfind, rfl⟩)⟩
  | some v =>
    obtain ⟨s, rfl⟩ := htext v hfind
    exact ⟨s, Sources.read_eq_ok_iff.mpr (.inr ⟨_, hfind, rfl⟩)⟩

/-- Two values are sizes of a pager when both are whole numbers that are not below
zero. -/
theorem ofOptions_sizes {a b : Value} {p : Pager} :
    Pager.ofOptions { defaultSize := some (.value a), maxSize := some (.value b) } = .ok p ↔
      (∃ (n : Int) (h : 0 ≤ n), a.readInt = .ok n ∧
        Pager.sizeOr Pager.usualSize n h = p.defaultSize) ∧
      (∃ (n : Int) (h : 0 ≤ n), b.readInt = .ok n ∧
        Pager.sizeOr Pager.usualMaxSize n h = p.maxSize) ∧
      p.defaultSpecs = [] ∧ p.columnMap = none := by
  rw [Pager.ofOptions_eq_ok_iff, Pager.readSize_eq_ok_iff, Pager.readSize_eq_ok_iff]
  simp only [Pager.readSpecs, Pager.readMap, Argument.readInt, Except.ok.injEq, eq_comm]

/-- **Settings that load make a pager**, whatever sources they come from, with the
sizes that were loaded, the usual ones in place of zero, and with the default specs
and no column map. If the sizes are given directly, the settings load exactly when
a pager can be made with these values for its sizes, and it has the same sizes. -/
theorem load_agrees (sources : Sources) :
    (∀ s, load sources = .ok s → ∃ p, (Draft.ofSettings s).finish = .ok p ∧
      p.defaultSize.rows = (if s.defaultSize = 0 then 10 else s.defaultSize) ∧
      p.maxSize.rows = (if s.maxSize = 0 then 50 else s.maxSize) ∧
      p.defaultSpecs = s.specs ∧ p.columnMap = none) ∧
    ∀ a b, SizesGiven sources a b →
      let direct := Pager.ofOptions { defaultSize := some (.value a), maxSize := some (.value b) }
      ((∃ s, load sources = .ok s) ↔ ∃ p, direct = .ok p) ∧
      ∀ s p, load sources = .ok s → direct = .ok p →
        ∃ q, (Draft.ofSettings s).finish = .ok q ∧
          q.defaultSize = p.defaultSize ∧ q.maxSize = p.maxSize := by
  constructor
  · intro s hs
    obtain ⟨hd, hm⟩ := sizes_nonneg hs
    exact ⟨_, Draft.finish_ofSettings hd hm, Pager.sizeOr_rows _ hd, Pager.sizeOr_rows _ hm,
      rfl, rfl⟩
  · intro a b h direct
    refine ⟨⟨?loads, ?made⟩, ?sizes⟩
    case loads =>
      rintro ⟨s, hs⟩
      obtain ⟨hd, hm, -⟩ := load_eq_ok_iff.mp hs
      obtain ⟨ha, hd⟩ := (read_firstOf h.defaultSize).mp hd
      obtain ⟨hb, hm⟩ := (read_firstOf h.maxSize).mp hm
      exact ⟨⟨_, _, [], none⟩, ofOptions_sizes.mpr
        ⟨⟨_, hd, ha, rfl⟩, ⟨_, hm, hb, rfl⟩, rfl, rfl⟩⟩
    case made =>
      rintro ⟨p, hp⟩
      obtain ⟨⟨n, hn, ha, -⟩, ⟨m, hm, hb, -⟩, -⟩ := ofOptions_sizes.mp hp
      obtain ⟨sort, hsort⟩ := readText_ok h.defaultSort ""
      exact ⟨⟨n, m, sort⟩, load_eq_ok_iff.mpr
        ⟨(read_firstOf h.defaultSize).mpr ⟨ha, hn⟩, (read_firstOf h.maxSize).mpr ⟨hb, hm⟩, hsort⟩⟩
    case sizes =>
      intro s p hs hp
      obtain ⟨hd, hm, -⟩ := load_eq_ok_iff.mp hs
      obtain ⟨ha, hd⟩ := (read_firstOf h.defaultSize).mp hd
      obtain ⟨hb, hm⟩ := (read_firstOf h.maxSize).mp hm
      obtain ⟨⟨n, hn, ha', hp⟩, ⟨m, hm', hb', hp'⟩, -⟩ := ofOptions_sizes.mp hp
      -- both read the same numbers
      obtain rfl : s.defaultSize = n := Except.ok.inj (ha.symm.trans ha')
      obtain rfl : s.maxSize = m := Except.ok.inj (hb.symm.trans hb')
      exact ⟨_, Draft.finish_ofSettings hd hm, hp, hp'⟩

/-- The sizes are given directly, one as a numeral and one as a truth value; the
environment and the file have others. -/
def mixed : Sources where
  given := [("pagination_default_size", .text "0"), ("PAGINATION_MAX_SIZE", .bool true)]
  environment := [("PAGINATION_MAX_SIZE", "many")]
  file := ["PAGINATION_DEFAULT_SIZE=7", "PAGINATION_DEFAULT_SORT=' -id,, name'"]

theorem mixed_sizesGiven : SizesGiven mixed (.text "0") (.bool true) where
  defaultSize := by rw [mixed, Sources.firstOf_cons, if_pos (by decide +kernel)]
  maxSize := by
    rw [mixed, Sources.firstOf_cons, if_neg (by decide +kernel), Sources.firstOf_cons, if_pos rfl]
  defaultSort v hv := by
    rw [mixed, Sources.firstOf_cons, if_neg (by decide +kernel), Sources.firstOf_cons,
      if_neg (by decide +kernel)] at hv
    cases hv

theorem mixed_assigned : mixed.assigned =
    [("PAGINATION_DEFAULT_SIZE", some "7"), ("PAGINATION_DEFAULT_SORT", some " -id,, name")] := by
  decide +kernel

theorem load_mixed : load mixed = .ok ⟨0, 1, " -id,, name"⟩ := by
  have hgiven : Sources.firstOf "PAGINATION_DEFAULT_SORT" mixed.given = none := by
    rw [mixed, Sources.firstOf_cons, if_neg (by decide +kernel), Sources.firstOf_cons,
      if_neg (by decide +kernel)]
    rfl
  have hset : Sources.lastOf "PAGINATION_DEFAULT_SORT" mixed.environment = none := by
    rw [Sources.lastOf, mixed, List.reverse_singleton, Sources.firstOf_cons,
      if_neg (by decide +kernel)]
    rfl
  have hfile : Sources.lastOf "PAGINATION_DEFAULT_SORT" mixed.assigned =
      some (some " -id,, name") := by
    rw [Sources.lastOf, mixed_assigned, List.reverse_cons, List.reverse_singleton,
      List.singleton_append, Sources.firstOf_cons, if_pos rfl]
  have hfind : mixed.find? "PAGINATION_DEFAULT_SORT" = some (.text " -id,, name") := by
    simp only [Sources.find?, hgiven, hset, hfile]
    rfl
  exact load_eq_ok_iff.mpr ⟨(read_firstOf mixed_sizesGiven.defaultSize).mpr ⟨rfl, by decide⟩,
    (read_firstOf mixed_sizesGiven.maxSize).mpr ⟨rfl, by decide⟩,
    Sources.read_eq_ok_iff.mpr (.inr ⟨_, hfind, rfl⟩)⟩

/-- Zero and true are taken as sizes of ten and one, both from the settings and
directly; the default specs come from the file. -/
theorem load_agrees_mixed :
    let s : PagingSettings := ⟨0, 1, " -id,, name"⟩
    let direct := Pager.ofOptions
      { defaultSize := some (.value (.text "0")), maxSize := some (.value (.bool true)) }
    load mixed = .ok s ∧ SizesGiven mixed (.text "0") (.bool true) ∧
      ∃ p q, (Draft.ofSettings s).finish = .ok p ∧ direct = .ok q ∧
        p.defaultSize.rows = 10 ∧ p.maxSize.rows = 1 ∧ p.defaultSpecs = ["-id", "name"] ∧
        p.defaultSize = q.defaultSize ∧ p.maxSize = q.maxSize := by
  intro s direct
  have hdirect : direct = .ok ⟨⟨10, by decide⟩, ⟨1, by decide⟩, [], none⟩ := by rfl
  have hparts : s.specs = ["-id", "name"] := by decide +kernel
  obtain ⟨hmade, hsizes⟩ := load_agrees mixed
  obtain ⟨p, hp, hd, hm, hspecs, -⟩ := hmade s load_mixed
  obtain ⟨q, hq, hqd, hqm⟩ := (hsizes _ _ mixed_sizesGiven).2 s _ load_mixed hdirect
  obtain rfl : p = q := Except.ok.inj (hp.symm.trans hq)
  exact ⟨load_mixed, mixed_sizesGiven, p, _, hp, hdirect, hd, hm, hspecs.trans hparts, hqd, hqm⟩

end PagingSettings
end Folio
