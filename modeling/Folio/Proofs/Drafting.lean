/-
# Runs of calls on a draft

Whatever is called on a draft, and however often it is finished in between, the
draft holds for each option what the last call that was taken for it gave
(`Draft.get_run`). So finishing gives the pager of the record of those arguments,
in which an option that was never given any is left out. A call that sets no
option leaves the draft as it was (`Draft.perform_not_given`): finishing it, and
spreading a value that cannot be spread. The values themselves are not looked at
before the draft is finished, and what was finished before stays as it is
(`Draft.last_call_wins`).

Key definitions: `Options.get`, `namedArguments`, `Draft.lastGiven`,
`Draft.record`, `Draft.answer`.
Key theorems: `ofFields_namedArguments`, `Options.get_foldl_put`,
`Draft.get_run`, `Draft.perform_eq`, `Draft.last_call_wins`.
-/
import Folio.Proofs.Construction
import Folio.Settings

namespace Folio

/-! ### Options by name -/

/-- All options that have a name outside. -/
def OptionName.all : List OptionName :=
  [defaultSize, maxSize, defaultSpecs, columnMap]

theorem OptionName.mem_all (name : OptionName) : name ∈ all := by
  cases name <;> decide

theorem OptionName.text_injective : Function.Injective text := by
  intro name name' h
  cases name <;> cases name' <;> first | rfl | exact absurd h (by decide)

/-- The argument that an option is given, if it is given one. -/
def Options.get (options : Options) : OptionName → Option Argument
  | .defaultSize => options.defaultSize
  | .maxSize => options.maxSize
  | .defaultSpecs => options.defaultSpecs
  | .columnMap => options.columnMap

theorem Options.get_put (options : Options) (given : OptionName × Argument) (name : OptionName) :
    (options.put given).get name = if name = given.1 then some given.2 else options.get name := by
  obtain ⟨other, arg⟩ := given
  cases other <;> cases name <;> rfl

/-- Of several arguments for one option the last counts. -/
theorem Options.get_foldl_put (options : Options) (given : List (OptionName × Argument))
    (name : OptionName) :
    (given.foldl put options).get name = (given.reverse.lookup name).or (options.get name) := by
  induction given generalizing options with
  | nil => rfl
  | cons first rest ih =>
    have hfirst : (options.put first).get name =
        ([first].lookup name).or (options.get name) := by
      rw [get_put, List.lookup_cons, List.lookup_nil]
      by_cases hname : name = first.1
      · rw [if_pos hname, beq_iff_eq.mpr hname]
        rfl
      · rw [if_neg hname, beq_eq_false_iff_ne.mpr hname]
        rfl
    rw [List.foldl_cons, ih, hfirst, List.reverse_cons, List.lookup_append, Option.or_assoc]

/-- The named arguments of those options that are given one. -/
def namedArguments (given : OptionName → Option Argument) : List (String × Argument) :=
  OptionName.all.filterMap fun name => (given name).map (name.text, ·)

theorem namedArguments_nodup (given : OptionName → Option Argument) :
    ((namedArguments given).map Prod.fst).Nodup := by
  have hsub : ((namedArguments given).map Prod.fst).Sublist (OptionName.all.map OptionName.text) := by
    unfold namedArguments
    induction OptionName.all with
    | nil => exact List.Sublist.refl _
    | cons name rest ih =>
      rw [List.filterMap_cons, List.map_cons]
      cases given name with
      | none => exact ih.cons _
      | some arg => exact ih.cons_cons _
  exact (by decide : (OptionName.all.map OptionName.text).Nodup).sublist hsub

theorem lookup_namedArguments (given : OptionName → Option Argument) (name : OptionName) :
    (namedArguments given).lookup name.text = given name := by
  ext arg
  rw [lookup_eq_some_iff_mem (namedArguments_nodup given), namedArguments, List.mem_filterMap]
  constructor
  · rintro ⟨other, -, h⟩
    obtain ⟨arg', harg, hpair⟩ := Option.map_eq_some_iff.mp h
    obtain ⟨htext, rfl⟩ := Prod.mk.inj hpair
    rw [← OptionName.text_injective htext]
    exact harg
  · intro h
    exact ⟨name, name.mem_all, by rw [h]; rfl⟩

/-- Options are read back from their named arguments. -/
theorem ofFields_namedArguments (options : Options) :
    Options.ofFields (namedArguments options.get) = options := by
  simp only [Options.ofFields, lookup_namedArguments]
  rfl

namespace Draft

/-! ### What a call changes -/

theorem perform_not_given (d : Draft) {call : Call} (h : call.given? = none) :
    (d.perform call).1 = d := by
  cases call with
  | specs members =>
    have hspread : members.spread = none := Option.map_eq_none_iff.mp h
    simp only [perform, hspread]
  | finish =>
    simp only [perform]
    split <;> rfl
  | restart fresh => rfl
  | refused failure => rfl
  | defaultSize size => cases h
  | maxSize size => cases h
  | columnMap f => cases h

theorem run_append (d : Draft) (earlier later : List Call) :
    d.run (earlier ++ later) =
      (((d.run earlier).1.run later).1, (d.run earlier).2 ++ ((d.run earlier).1.run later).2) := by
  induction earlier generalizing d with
  | nil => rfl
  | cons call rest ih => simp only [List.cons_append, run, ih]

theorem length_run (d : Draft) (calls : List Call) : (d.run calls).2.length = calls.length := by
  induction calls generalizing d with
  | nil => rfl
  | cons call rest ih => simp only [run, List.length_cons, ih]

theorem run_options (d : Draft) (calls : List Call) :
    (d.run calls).1.options = (calls.filterMap Call.given?).foldl Options.put d.options := by
  induction calls generalizing d with
  | nil => rfl
  | cons call rest ih =>
    rw [run, ih]
    cases hgiven : call.given? with
    | none => rw [perform_not_given d hgiven, List.filterMap_cons_none hgiven]
    | some given =>
      rw [perform_given d hgiven, List.filterMap_cons_some hgiven, List.foldl_cons]

/-! ### The last call wins -/

/-- The argument that the last call taken for an option gave it. -/
def lastGiven (calls : List Call) (name : OptionName) : Option Argument :=
  (calls.filterMap Call.given?).reverse.lookup name

/-- The named arguments that a draft and the calls made on it come to: for each
option the argument of the last call, or else what it had at first. -/
def record (d : Draft) (calls : List Call) : List (String × Argument) :=
  namedArguments fun name => (lastGiven calls name).or (d.options.get name)

theorem get_run (d : Draft) (calls : List Call) (name : OptionName) :
    (d.run calls).1.options.get name = (lastGiven calls name).or (d.options.get name) := by
  rw [run_options, Options.get_foldl_put, lastGiven]

theorem ofFields_record (d : Draft) (calls : List Call) :
    Options.ofFields (d.record calls) = (d.run calls).1.options := by
  have hget : (d.run calls).1.options.get =
      fun name => (lastGiven calls name).or (d.options.get name) := funext (get_run d calls)
  rw [record, ← hget, ofFields_namedArguments]

/-- The outcome of making a pager or failing. -/
def Outcome.ofResult : Except Failure Pager → Outcome
  | .ok p => .finished p
  | .error failure => .failed failure

/-- What a call on a draft answers after some earlier calls. Only finishing looks
at the arguments given; of the specs no more is asked than that they are the
members of something. -/
def answer (d : Draft) (earlier : List Call) : Call → Outcome
  | .defaultSize _ => .kept
  | .maxSize _ => .kept
  | .specs members => if members.spread.isSome then .kept else .failed .badCall
  | .columnMap _ => .kept
  | .finish => .ofResult (Pager.ofOptions (.ofFields (d.record earlier)))
  | .restart fresh => .started fresh
  | .refused failure => .failed failure

theorem perform_eq (d : Draft) (earlier : List Call) (call : Call) :
    ((d.run earlier).1.perform call).2 = d.answer earlier call := by
  cases call with
  | specs members =>
    simp only [perform, answer]
    cases members.spread <;> rfl
  | finish =>
    rw [answer, ofFields_record, perform, finish]
    cases Pager.ofOptions (d.run earlier).1.options <;> rfl
  | _ => rfl

/-- A call that fails gives no option an argument. -/
theorem given?_of_failed {d : Draft} {call : Call} {failure : Failure}
    (h : (d.perform call).2 = .failed failure) : call.given? = none := by
  cases hgiven : call.given? with
  | none => rfl
  | some given =>
    rw [perform_given d hgiven] at h
    cases h

/-- A call that gives no option an argument leaves no trace but its answer. -/
theorem run_eraseIdx (d : Draft) (earlier later : List Call) {call : Call}
    (h : call.given? = none) :
    (d.run (earlier ++ call :: later)).1 = (d.run (earlier ++ later)).1 ∧
      (d.run (earlier ++ call :: later)).2.eraseIdx earlier.length =
        (d.run (earlier ++ later)).2 := by
  simp only [run_append, run, perform_not_given _ h]
  refine ⟨trivial, ?_⟩
  rw [← length_run d earlier, List.eraseIdx_append_of_length_le (Nat.le_refl _), Nat.sub_self]
  rfl

theorem run_swap (d : Draft) (earlier later : List Call) {call next : Call}
    {given given' : OptionName × Argument} (h : call.given? = some given)
    (h' : next.given? = some given') (hname : given.1 ≠ given'.1) :
    d.run (earlier ++ call :: next :: later) = d.run (earlier ++ next :: call :: later) := by
  simp only [run_append, run, perform_given _ h, perform_given _ h', Options.put_comm _ hname]

/-- **The last call for an option wins**, whatever draft the calls are made on and
whatever they give it. Each call answers as the record of the last arguments says,
so that only finishing looks at their values; later calls do not change an answer;
calls for different options may change places; and a call that fails, or finishes
the draft, might as well not have been made. -/
theorem last_call_wins (d : Draft) (earlier : List Call) (call : Call) (later : List Call) :
    let r := d.run (earlier ++ call :: later)
    r.2[earlier.length]? = some (d.answer earlier call) ∧
    r.2.take (earlier.length + 1) = (d.run (earlier ++ [call])).2 ∧
    (∀ next given given', call.given? = some given → next.given? = some given' →
      given.1 ≠ given'.1 →
        d.run (earlier ++ call :: next :: later) = d.run (earlier ++ next :: call :: later)) ∧
    (call = .finish ∨ (∃ failure, d.answer earlier call = .failed failure) →
      r.1 = (d.run (earlier ++ later)).1 ∧
      r.2.eraseIdx earlier.length = (d.run (earlier ++ later)).2) := by
  intro r
  have hlength := length_run d earlier
  have hr : r.2 = (d.run earlier).2 ++
      d.answer earlier call :: (((d.run earlier).1.perform call).1.run later).2 := by
    simp only [r, run_append, run, perform_eq]
  refine ⟨?answer, ?snapshot, ?swap, ?trace⟩
  case answer =>
    rw [hr, ← hlength]
    simp
  case snapshot =>
    have hone : (d.run (earlier ++ [call])).2 =
        (d.run earlier).2 ++ [d.answer earlier call] := by
      simp only [run_append, run, perform_eq]
    rw [hone, hr, ← hlength, List.take_length_add_append]
    rfl
  case swap =>
    intro next given given' h h' hname
    exact run_swap d earlier later h h' hname
  case trace =>
    intro h
    apply run_eraseIdx
    rcases h with rfl | ⟨failure, hfailed⟩
    · rfl
    · exact given?_of_failed ((perform_eq d earlier call).trans hfailed)

/-- A draft starts from settings. Its largest size is set below zero, which nobody
minds before it is finished; that fails, and so does spreading five into specs, and
neither makes a difference to what comes later. -/
theorem last_call_wins_after_failures :
    let d : Draft := .ofSettings { defaultSize := 4, defaultSort := "-id" }
    let below : Call := .maxSize (.value (.int (-1)))
    let five : Call := .specs (.value (.int 5))
    let enough : Call := .maxSize (.value (.text "8"))
    let unmapped : Call := .columnMap (.value .null)
    let earlier := [below, .finish]
    let later := [enough, unmapped, .finish]
    d.answer [below] .finish = .failed (.misconfigured "max_size" (.int (-1))) ∧
      d.answer earlier five = .failed .badCall ∧
      (d.run (earlier ++ five :: later)).2[5]? =
        some (.finished ⟨⟨4, by decide⟩, ⟨8, by decide⟩, ["-id"], none⟩) ∧
      (d.run (earlier ++ five :: later)).1 = (d.run (earlier ++ later)).1 ∧
      d.run (earlier ++ enough :: unmapped :: []) = d.run (earlier ++ unmapped :: enough :: []) := by
  intro d below five enough unmapped earlier later
  obtain ⟨hlast, -, -, -⟩ := last_call_wins d [below, .finish, five, enough, unmapped] .finish []
  obtain ⟨-, -, -, htrace⟩ := last_call_wins d earlier five later
  obtain ⟨-, -, hswap, -⟩ := last_call_wins d earlier enough []
  have hfive : d.answer earlier five = .failed .badCall := rfl
  exact ⟨rfl, hfive, hlast, (htrace (.inr ⟨_, hfive⟩)).1, hswap unmapped _ _ rfl rfl (by decide)⟩

end Draft
end Folio
