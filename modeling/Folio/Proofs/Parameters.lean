/-
# Parameters of a query string

A client that asks again for a page writes a parameter in place of another one.
What it writes is read as it was meant: a number written in digits is read back,
as long as it has no more digits than may be read (`Numeral.read_toString`),
characters that are not escaped come through decoding as they are
(`Percent.decode_plain`), and replacing a parameter changes the value under its
name and under no other one (`Query.last?_replace`).

Key definitions: `Text.Percent.isPlain`, `Query.isPlain`, `Query.replace`.
Key theorems: `Text.Numeral.read_toString`, `Text.Percent.decode_plain`,
`Query.parameters_replace`, `Query.last?_replace`.
-/
import Mathlib.Algebra.Group.Nat.Defs
import Folio.Proofs.Construction
import Folio.Query
import Folio.Text.Numeral

namespace Folio

/-! ### Numerals -/

namespace Text
namespace Numeral

/-- The digits of a number from one on start with another one than zero. -/
theorem toDigits_cons (n : ℕ) (h : 0 < n) :
    ∃ c rest, Nat.toDigits 10 n = c :: rest ∧ isCount c = true := by
  rcases Nat.lt_or_ge n 10 with hn | hn
  · refine ⟨n.digitChar, [], Nat.toDigits_of_lt_base hn, ?_⟩
    have : ∀ d < 10, 0 < d → isCount d.digitChar = true := by decide
    exact this n hn h
  · obtain ⟨c, rest, hc, hcount⟩ := toDigits_cons (n / 10) (by omega)
    refine ⟨c, rest ++ [(n % 10).digitChar], ?_, hcount⟩
    rw [Nat.toDigits_of_base_le (by decide) hn, hc, List.cons_append]

theorem all_toDigits (n : ℕ) : (Nat.toDigits 10 n).all Char.isDigit = true :=
  List.all_eq_true.mpr fun _ hc => Nat.isDigit_of_mem_toDigits (by decide) (by decide) hc

theorem value_toDigits (n : ℕ) : value (Nat.toDigits 10 n) = n :=
  Nat.ofDigitChars_ten_toDigits

theorem natural?_toDigits (n : ℕ) : natural? (Nat.toDigits 10 n) = some n := by
  rcases Nat.eq_zero_or_pos n with rfl | h
  · rfl
  · obtain ⟨c, rest, hc, hcount⟩ := toDigits_cons n h
    have hall := all_toDigits n
    have hvalue := value_toDigits n
    rw [hc] at hall hvalue ⊢
    have hzero : c ≠ '0' := by
      rintro rfl
      exact absurd hcount (by decide)
    rw [List.all_cons, Bool.and_eq_true] at hall
    rw [natural?, if_pos ⟨hcount, hall.2⟩, hvalue]
    rintro rfl -
    exact hzero rfl

theorem digitRun_toDigits_le (n : ℕ) : digitRun (Nat.toDigits 10 n) ≤ (Nat.toDigits 10 n).length := by
  cases Nat.toDigits 10 n with
  | nil => exact Nat.le_refl _
  | cons c rest =>
    rw [digitRun, List.length_cons]
    split
    · have hle : (rest.takeWhile Char.isDigit).length ≤ rest.length :=
        (List.takeWhile_sublist _).length_le
      omega
    · omega

/-- **A written number is read back**, unless it has too many digits. -/
theorem read_toString {n : ℕ} (h : n < 10 ^ longest) : read (toString n) = .ok (n : Int) := by
  have hlist : (toString n).toList = Nat.toDigits 10 n := by
    rw [Nat.toString_eq_repr, Nat.toList_repr]
  have hlen : (Nat.toDigits 10 n).length ≤ longest :=
    (Nat.length_toDigits_le_iff (by decide) (by decide)).mpr h
  have hrun := digitRun_toDigits_le n
  have hnat := natural?_toDigits n
  have hall := all_toDigits n
  rw [read, hlist]
  generalize Nat.toDigits 10 n = ds at hlen hrun hnat hall
  -- digits have no sign, so both readers take their second case
  have hminus : ∀ rest, ds = '-' :: rest → False := by
    rintro rest rfl
    exact absurd hall (by simp)
  have hlong : startsTooLong ds = false := by
    rw [startsTooLong, decide_eq_false (by omega)]
    exact hminus
  have hplain : plain? ds = some (n : Int) := by
    rw [plain?, hnat]
    · rfl
    · exact hminus
  rw [hlong, hplain]
  rfl

end Numeral

/-! ### Decoding -/

namespace Percent

/-- Is a character neither part of an escape nor encoded in more than one byte? -/
def isPlain (c : Char) : Bool :=
  c.toNat < 0x80 && c != '+' && c != '%'

theorem utf8EncodeChar_ascii {c : Char} (h : c.toNat < 0x80) :
    String.utf8EncodeChar c = [UInt8.ofNat c.toNat] := by
  have hv : c.val.toNat ≤ 0x7f := by
    have : c.val.toNat < 0x80 := h
    omega
  rw [String.utf8EncodeChar, if_pos hv]
  rfl

theorem unescape_cons {byte : UInt8} (h : byte ≠ 0x25) (rest : List UInt8) :
    unescape (byte :: rest) = byte :: unescape rest := by
  rw [unescape]
  rintro high low rest' rfl -
  exact h rfl

theorem decodeFrom_ascii {byte : UInt8} (h : byte.toNat < 0x80) (rest : List UInt8) :
    Utf8.decodeFrom none (byte :: rest) = Char.ofNat byte.toNat :: Utf8.decodeFrom none rest := by
  rw [Utf8.decodeFrom, Utf8.feed, Utf8.start, if_pos h]
  rfl

/-- **Plain characters come through decoding.** -/
theorem decode_plain : ∀ s : List Char, (∀ c ∈ s, isPlain c = true) → decode s = s
  | [], _ => rfl
  | c :: rest, h => by
    have ih := decode_plain rest fun d hd => h d (List.mem_cons_of_mem _ hd)
    have hc := h c List.mem_cons_self
    simp only [isPlain, Bool.and_eq_true, decide_eq_true_eq, bne_iff_ne] at hc
    obtain ⟨⟨hascii, hplus⟩, hpercent⟩ := hc
    have hbyte : (UInt8.ofNat c.toNat).toNat = c.toNat := by
      rw [UInt8.toNat_ofNat']
      omega
    have hne : UInt8.ofNat c.toNat ≠ 0x25 := by
      intro he
      have : c.toNat = '%'.toNat := by rw [← hbyte, he]; rfl
      exact hpercent (Char.toNat_inj.mp this)
    simp only [decode, Utf8.decode] at ih ⊢
    rw [List.map_cons, if_neg hplus, List.flatMap_cons, utf8EncodeChar_ascii hascii,
      List.singleton_append, unescape_cons hne, decodeFrom_ascii (by omega), ih, hbyte,
      Char.ofNat_toNat]

end Percent

theorem not_mem_of_mem_parts (sep : Char) : ∀ s, ∀ part ∈ parts sep s, sep ∉ part
  | [], part, h => by
    rw [parts, List.mem_singleton] at h
    simp [h]
  | c :: rest, part, h => by
    have ih := not_mem_of_mem_parts sep rest
    unfold parts at h
    split at h
    · rcases List.mem_cons.mp h with rfl | h
      · simp
      · exact ih part h
    · next hne =>
      split at h
      · next hnil => exact absurd hnil (parts_ne_nil sep rest)
      · next first others hp =>
        rw [hp] at ih
        rcases List.mem_cons.mp h with rfl | h
        · rw [List.mem_cons, not_or]
          exact ⟨fun e => hne e.symm, ih first List.mem_cons_self⟩
        · exact ih part (List.mem_cons_of_mem _ h)

end Text

/-! ### Replacing a parameter -/

namespace Query

/-- Does a character stand for itself in a parameter? -/
def isPlain (c : Char) : Bool :=
  Text.Percent.isPlain c && c != '&' && c != '='

/-- A query string with the parameters of a name replaced by one value. -/
def replace (query name value : String) : String :=
  String.ofList (Text.joined '&'
    ((Text.parts '&' query.toList).filter (fun part => (parameter part).1 ≠ name) ++
      [name.toList ++ '=' :: value.toList]))

theorem percent_of_isPlain {s : List Char} (h : ∀ c ∈ s, isPlain c = true) :
    ∀ c ∈ s, Text.Percent.isPlain c = true := by
  intro c hc
  have := h c hc
  simp only [isPlain, Bool.and_eq_true] at this
  exact this.1.1

theorem not_mem_of_isPlain {s : List Char} (h : ∀ c ∈ s, isPlain c = true) {c : Char}
    (hc : isPlain c = false) : c ∉ s := by
  intro hm
  rw [h c hm] at hc
  exact absurd hc (by decide)

theorem parameter_plain {name value : String} (hn : name.toList.all isPlain = true)
    (hv : value.toList.all isPlain = true) :
    parameter (name.toList ++ '=' :: value.toList) = (name, value) := by
  rw [List.all_eq_true] at hn hv
  have hne : ∀ c ∈ name.toList, decide (c ≠ '=') = true := by
    intro c hc
    have : c ≠ '=' := fun e => not_mem_of_isPlain hn (by decide) (e ▸ hc)
    simpa using this
  rw [parameter, List.takeWhile_append_of_pos hne, List.dropWhile_append_of_pos hne]
  have hd : (('=' :: value.toList).dropWhile (· ≠ '=')).drop 1 = value.toList := rfl
  have ht : ('=' :: value.toList).takeWhile (· ≠ '=') = [] := rfl
  rw [hd, ht, List.append_nil, Text.Percent.decode_plain _ (percent_of_isPlain hn),
    Text.Percent.decode_plain _ (percent_of_isPlain hv), String.ofList_toList, String.ofList_toList]

/-- Replacing a parameter drops those of the name and puts one behind the
others. -/
theorem parameters_replace (query : String) {name value : String}
    (hn : name.toList.all isPlain = true) (hv : value.toList.all isPlain = true) :
    parameters (replace query name value) =
      (parameters query).filter (fun q => q.1 ≠ name) ++ [(name, value)] := by
  have hnew : ∀ part ∈ (Text.parts '&' query.toList).filter (fun part => (parameter part).1 ≠ name) ++
      [name.toList ++ '=' :: value.toList], '&' ∉ part := by
    intro part hpart
    rcases List.mem_append.mp hpart with h | h
    · exact Text.not_mem_of_mem_parts '&' _ part (List.mem_filter.mp h).1
    · rw [List.mem_singleton.mp h, List.mem_append, List.mem_cons]
      rintro (h | h | h)
      · exact not_mem_of_isPlain (List.all_eq_true.mp hn) (by decide) h
      · exact absurd h (by decide)
      · exact not_mem_of_isPlain (List.all_eq_true.mp hv) (by decide) h
  rw [parameters, replace, String.toList_ofList, Text.parts_joined '&' _ (by simp) hnew,
    List.filter_append, List.map_append, List.filter_filter, parameters, List.filter_map,
    List.filter_filter]
  congr 1
  · congr 2
    funext part
    exact Bool.and_comm _ _
  · rw [List.filter_cons_of_pos (by simp), List.filter_nil, List.map_singleton,
      parameter_plain hn hv]

/-- **Replacing a parameter gives the name its value** and leaves every other
one alone. -/
theorem last?_replace (query : String) {name value : String}
    (hn : name.toList.all isPlain = true) (hv : value.toList.all isPlain = true)
    (other : String) :
    last? (parameters (replace query name value)) other =
      if other = name then some value else last? (parameters query) other := by
  rw [parameters_replace query hn hv, last?, List.reverse_append, List.reverse_singleton,
    List.singleton_append, List.lookup_cons]
  split
  · next h => rw [if_pos (beq_iff_eq.mp h)]
  · next h =>
    have hne : other ≠ name := by simpa using h
    rw [if_neg hne, ← List.filter_reverse, lookup_filter fun _ => decide_eq_true hne, last?]

theorem isPlain_of_isDigit {c : Char} (h : c.isDigit = true) : isPlain c = true := by
  have hb : 48 ≤ c.toNat ∧ c.toNat ≤ 57 := Char.isDigit_iff_toNat.mp h
  have hne : ∀ d : Char, d.toNat < 48 ∨ 57 < d.toNat → c ≠ d := by
    rintro d hd rfl
    omega
  simp only [isPlain, Text.Percent.isPlain, Bool.and_eq_true, decide_eq_true_eq, bne_iff_ne]
  exact ⟨⟨⟨⟨by omega, hne '+' (by decide)⟩, hne '%' (by decide)⟩, hne '&' (by decide)⟩,
    hne '=' (by decide)⟩

theorem all_isPlain_toString (n : ℕ) : (toString n).toList.all isPlain = true := by
  rw [Nat.toString_eq_repr, Nat.toList_repr, List.all_eq_true]
  intro c hc
  exact isPlain_of_isDigit (Nat.isDigit_of_mem_toDigits (by decide) (by decide) hc)

end Query
end Folio
