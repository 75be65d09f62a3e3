/-
# Ways to make a pager

A pager is made from named arguments, by calls on a draft, or from a record of
options. The calls for the four options can be made in any order, as each of them
changes an option of its own (`Options.put_comm`, `Draft.follow_perm`), and in any
order may the arguments stand and the options in a record (`lookup_perm`). All
three ways give the same options to be checked, except that a column map of null
is left out among the arguments, which makes no difference
(`Pager.ofOptions_null_columnMap`). So they give the same pager, or fail in the
same way (`Pager.routes_agree`).

Key definitions: `Options.put`, `Draft.Call.given?`.
Key theorems: `lookup_perm`, `lookup_filter`, `Options.put_comm`, `Draft.follow_given`,
`Draft.follow_perm`, `Pager.routes_agree`.
-/
import Mathlib.Data.List.Nodup
import Folio.Pager.Draft

namespace Folio

/-! ### Named values in any order -/

section Lookup

variable {β : Type} {fields fields' : List (String × β)}

theorem lookup_eq_some_iff_mem (h : (fields.map Prod.fst).Nodup) (name : String) (b : β) :
    fields.lookup name = some b ↔ (name, b) ∈ fields := by
  induction fields with
  | nil => simp
  | cons field rest ih =>
    obtain ⟨other, c⟩ := field
    rw [List.map_cons, List.nodup_cons] at h
    by_cases hname : name = other
    · subst hname
      have hrest : (name, b) ∉ rest := fun hmem =>
        h.1 (List.mem_map.mpr ⟨(name, b), hmem, rfl⟩)
      simp [hrest, eq_comm]
    · have hother : (name == other) = false := beq_eq_false_iff_ne.mpr hname
      rw [List.lookup_cons, hother, ih h.2]
      simp [hname]

/-- Of values with different names each is found in whatever order they stand. -/
theorem lookup_perm (hp : fields.Perm fields') (h : (fields.map Prod.fst).Nodup)
    (name : String) : fields.lookup name = fields'.lookup name := by
  have h' : (fields'.map Prod.fst).Nodup := (hp.map Prod.fst).nodup_iff.mp h
  ext b
  rw [lookup_eq_some_iff_mem h, lookup_eq_some_iff_mem h', hp.mem_iff]

/-- Fields that are left out do not matter to a name that none of them has. -/
theorem lookup_filter {α : Type} [BEq α] [LawfulBEq α] {keep : α × β → Bool} {name : α}
    (h : ∀ b, keep (name, b) = true) :
    ∀ fields : List (α × β), (fields.filter keep).lookup name = fields.lookup name
  | [] => rfl
  | (other, b) :: rest => by
    have ih := lookup_filter h rest
    by_cases hkept : keep (other, b) = true
    · rw [List.filter_cons_of_pos hkept, List.lookup_cons, List.lookup_cons, ih]
    · have hother : (name == other) = false := by
        rw [beq_eq_false_iff_ne]
        rintro rfl
        exact hkept (h b)
      rw [List.filter_cons_of_neg hkept, List.lookup_cons, hother, ih]

end Lookup

theorem Options.ofFields_perm {fields fields' : List (String × Argument)}
    (hp : fields.Perm fields') (h : (fields.map Prod.fst).Nodup) :
    Options.ofFields fields = Options.ofFields fields' := by
  simp only [ofFields, lookup_perm hp h]

theorem Pager.ofArguments_perm {arguments arguments' : List (String × Argument)}
    (hp : arguments.Perm arguments') (h : (arguments.map Prod.fst).Nodup) :
    ofArguments arguments = ofArguments arguments' := by
  simp only [ofArguments, lookup_perm hp h, hp.all_eq]

/-! ### Calls in any order -/

/-- The options with another argument for one of them. -/
def Options.put (options : Options) : OptionName × Argument → Options
  | (.defaultSize, size) => { options with defaultSize := some size }
  | (.maxSize, size) => { options with maxSize := some size }
  | (.defaultSpecs, specs) => { options with defaultSpecs := some specs }
  | (.columnMap, f) => { options with columnMap := some f }

/-- Different options may be given their arguments in either order. -/
theorem Options.put_comm (options : Options) {given given' : OptionName × Argument}
    (h : given.1 ≠ given'.1) : (options.put given).put given' = (options.put given').put given := by
  obtain ⟨name, arg⟩ := given
  obtain ⟨name', arg'⟩ := given'
  cases name <;> cases name' <;> first | rfl | exact absurd rfl h

theorem Options.foldl_put_perm (options : Options) {given given' : List (OptionName × Argument)}
    (hp : given.Perm given') (h : (given.map Prod.fst).Nodup) :
    given.foldl put options = given'.foldl put options := by
  apply hp.foldl_eq'
  intro x hx y hy options
  -- two arguments for one option would not commute, but then they are the same member
  by_cases hxy : x.1 = y.1
  · rw [List.inj_on_of_nodup_map h hx hy hxy]
  · exact options.put_comm hxy

namespace Draft

/-- The option that a call is for, and the argument that the call gives it. -/
def Call.given? : Call → Option (OptionName × Argument)
  | defaultSize size => some (.defaultSize, size)
  | maxSize size => some (.maxSize, size)
  | specs members => members.spread.map fun specs => (.defaultSpecs, .value (.list specs))
  | columnMap f => some (.columnMap, f)
  | _ => none

theorem perform_given (d : Draft) {call : Call} {given : OptionName × Argument}
    (h : call.given? = some given) : d.perform call = (⟨d.options.put given⟩, .kept) := by
  cases call with
  | specs members =>
    obtain ⟨specs, hspecs, rfl⟩ := Option.map_eq_some_iff.mp h
    simp only [perform, hspecs]
    rfl
  | defaultSize size => cases h; rfl
  | maxSize size => cases h; rfl
  | columnMap f => cases h; rfl
  | _ => cases h

/-- Calls that each give an option an argument are all taken, and the draft is
finished with what they gave. -/
theorem follow_given (d : Draft) {calls : List Call} (h : ∀ call ∈ calls, call.given?.isSome) :
    d.follow calls =
      Pager.ofOptions ((calls.filterMap Call.given?).foldl Options.put d.options) := by
  induction calls generalizing d with
  | nil => rfl
  | cons call rest ih =>
    obtain ⟨given, hgiven⟩ := Option.isSome_iff_exists.mp (h call List.mem_cons_self)
    have hrest := ih ⟨d.options.put given⟩ fun later hlater =>
      h later (List.mem_cons_of_mem _ hlater)
    rw [List.filterMap_cons_some hgiven, List.foldl_cons, ← hrest]
    simp only [follow, perform_given d hgiven]

/-- Such calls, each for an option of its own, may be made in any order. -/
theorem follow_perm (d : Draft) {calls calls' : List Call} (hp : calls.Perm calls')
    (h : ∀ call ∈ calls, call.given?.isSome)
    (hnames : ((calls.filterMap Call.given?).map Prod.fst).Nodup) :
    d.follow calls = d.follow calls' := by
  have h' : ∀ call ∈ calls', call.given?.isSome := fun call hcall => h call (hp.mem_iff.mpr hcall)
  rw [follow_given d h, follow_given d h',
    Options.foldl_put_perm d.options (hp.filterMap Call.given?) hnames]

end Draft

/-! ### All ways agree -/

namespace Pager

/-- No column map, or null in its place: it makes no difference. -/
theorem ofOptions_null_columnMap (options : Options) :
    ofOptions { options with columnMap := some (.value .null) } =
      ofOptions { options with columnMap := none } := rfl

theorem make_eq (a b f : Argument) (specs : List Value) :
    make a b (.value (.list specs)) f =
      ofOptions ⟨some a, some b, some (.value (.list specs)), some f⟩ := by
  have hspread : (Argument.value (.list specs)).spread = some specs := rfl
  simp only [make, hspread]
  cases f with
  | map f => rfl
  | value v =>
    cases v with
    | null =>
      exact (ofOptions_null_columnMap ⟨some a, some b, some (.value (.list specs)), none⟩).symm
    | _ => rfl

/-- **All ways to make a pager agree**, whatever the sizes, the specs and the column
map are: named arguments, the four calls on a new draft, and a record of options,
each in any order. They give the same pager, or fail in the same way. -/
theorem routes_agree (a b f : Argument) (specs : List Value)
    {arguments : List (String × Argument)} {calls : List Draft.Call}
    {fields : List (String × Argument)}
    (harguments : arguments.Perm [("default_size", a), ("max_size", b),
      ("sort", .value (.list specs)), ("column_func", f)])
    (hcalls : calls.Perm [.defaultSize a, .maxSize b, .specs (.value (.list specs)), .columnMap f])
    (hfields : fields.Perm [("default_size", a), ("max_size", b),
      ("default_sort", .value (.list specs)), ("column_func", f)]) :
    ofArguments arguments = (Draft.mk {}).follow calls ∧
      (Draft.mk {}).follow calls = ofOptions (.ofFields fields) := by
  have hdraft : (Draft.mk {}).follow calls =
      ofOptions ⟨some a, some b, some (.value (.list specs)), some f⟩ := by
    rw [← Draft.follow_perm {} hcalls.symm]
    · rfl
    · simp [Draft.Call.given?, Argument.spread, Value.spread]
    · simp [Draft.Call.given?, Argument.spread, Value.spread]
  have hnamed : ofArguments arguments =
      ofOptions ⟨some a, some b, some (.value (.list specs)), some f⟩ := by
    rw [← ofArguments_perm harguments.symm (by simp), ← make_eq]
    rfl
  have hrecord : Options.ofFields fields =
      ⟨some a, some b, some (.value (.list specs)), some f⟩ := by
    rw [← Options.ofFields_perm hfields.symm (by simp)]
    rfl
  exact ⟨hnamed.trans hdraft.symm, hdraft.trans (congrArg ofOptions hrecord.symm)⟩

/-- Both sizes and a spec are wrong. All ways, taken backwards, report the size that
is below zero and nothing else. -/
theorem routes_agree_backwards :
    let a : Argument := .value (.text "many")
    let b : Argument := .value (.int (-1))
    let specs : Argument := .value (.list [.text "id", .int 5])
    let f : Argument := .value .null
    let arguments := [("column_func", f), ("sort", specs), ("max_size", b), ("default_size", a)]
    let calls : List Draft.Call := [.columnMap f, .specs specs, .maxSize b, .defaultSize a]
    let fields :=
      [("column_func", f), ("default_sort", specs), ("max_size", b), ("default_size", a)]
    let failed : Except Failure Pager := .error (.misconfigured "max_size" (.int (-1)))
    arguments.Perm [("default_size", a), ("max_size", b), ("sort", specs), ("column_func", f)] ∧
      calls.Perm [.defaultSize a, .maxSize b, .specs specs, .columnMap f] ∧
      fields.Perm
        [("default_size", a), ("max_size", b), ("default_sort", specs), ("column_func", f)] ∧
      ofArguments arguments = failed ∧ (Draft.mk {}).follow calls = failed ∧
      ofOptions (.ofFields fields) = failed := by
  intro a b specs f arguments calls fields failed
  have harguments := List.reverse_perm
    [("default_size", a), ("max_size", b), ("sort", specs), ("column_func", f)]
  have hcalls := List.reverse_perm
    [Draft.Call.defaultSize a, .maxSize b, .specs specs, .columnMap f]
  have hfields := List.reverse_perm
    [("default_size", a), ("max_size", b), ("default_sort", specs), ("column_func", f)]
  obtain ⟨hnamed, hdraft⟩ := routes_agree a b f [.text "id", .int 5] harguments hcalls hfields
  have hfailed : ofOptions (.ofFields fields) = failed := rfl
  exact ⟨harguments, hcalls, hfields, hnamed.trans (hdraft.trans hfailed), hdraft.trans hfailed,
    hfailed⟩

end Pager
end Folio
