/-
# Answers to requests

A request is refused when its page or its size is wrong, and for no other
reason; otherwise it is answered with the batch of the number it asks for, and
with the page that was shown (`Endpoint.answer_asks`). The size in the answer
is one that is granted as it is: who asks for it gets the same answer again
(`Endpoint.answer_again`). So a client that asks for the next page of that size
as long as more rows follow gets all of them, from the page it started with on
(`Endpoint.follow_covers`).

Key definitions: `Endpoint.Asked`, `Endpoint.Wrong`, `Endpoint.Asks`,
`Endpoint.batch`, `Endpoint.again`, `Endpoint.next`, `Endpoint.follow`.
Key theorems: `Endpoint.readNumbers_eq_ok_iff`, `Endpoint.serve_eq`,
`Endpoint.answer_asks`, `Endpoint.answer_again`, `Endpoint.follow_covers`,
`Endpoint.answer_exact`.
-/
import Folio.Endpoint
import Folio.Proofs.Parameters
import Folio.Proofs.Round

namespace Folio

/-- What is prepared for a page depends on its size through its batches only. -/
theorem Pager.prepared_resized (p : Pager) (statement : Statement) (page : Page) {size : Int}
    (h : p.batchSize (some { page with size := size }) = p.batchSize (some page)) :
    (p.narrow statement (some { page with size := size })).prepared =
      (p.narrow statement (some page)).prepared :=
  p.prepared_congr statement h rfl rfl

theorem Value.readAtLeast_eq_ok_iff {bound n : Int} {v : Value} :
    Value.readAtLeast bound v = .ok n ↔ v.readInt = .ok n ∧ bound ≤ n := by
  unfold Value.readAtLeast
  cases v.readInt with
  | error issues => simp
  | ok m =>
    simp only
    split
    · constructor
      · rintro ⟨⟩
        exact ⟨rfl, by assumption⟩
      · exact fun h => h.1
    · constructor
      · rintro ⟨⟩
      · rintro ⟨⟨⟩, h⟩
        contradiction

theorem Value.readField_int {fields : List (String × Value)} {name : String} {n : Int}
    (h : fields.lookup name = some (.int n)) (hn : 0 ≤ n) (default : Int) :
    Value.readField fields name default (Value.readAtLeast 0) = .ok n := by
  simp only [Value.readField, h, Checked.under_eq_ok_iff]
  exact Value.readAtLeast_eq_ok_iff.mpr ⟨rfl, hn⟩

/-- Two numbers that are not below zero make a page with any column. -/
theorem Page.ofParams_eq {number size : Int} (hn : 0 ≤ number) (hs : 0 ≤ size) (sort : String) :
    Page.ofParams (.int number) (.int size) (.text sort) =
      .ok { size := size, number := number, column := sort } := by
  rw [Page.ofParams, Page.readFields, Value.readField_int rfl hs, Value.readField_int rfl hn]
  rfl

theorem Listing.ofItems_texts (texts : List String) (page : Page) :
    Listing.ofItems .text (.list (texts.map .text)) (some page) =
      .ok ⟨texts.map .text, page⟩ := by
  have he : Checked.each (ItemKind.read .text) (texts.map .text) = .ok (texts.map .text) := by
    rw [Checked.each_eq_ok_iff, List.map_map, List.map_map]
    rfl
  have hr : ItemKind.readItems .text (.list (texts.map .text)) = .ok (texts.map .text) := by
    rw [ItemKind.readItems, Value.readList, he]
    rfl
  rw [ofItems, gather, hr]
  rfl

namespace Endpoint

/-! ### What a request asks for -/

/-- The number that a parameter asks for: the default one if it is not given,
otherwise the whole number it holds, which is not below the bound. -/
def Asked (bound default : Int) : Option String → Int → Prop
  | none, n => n = default
  | some input, n => (Value.text input).readInt = .ok n ∧ bound ≤ n

/-- A parameter that is given and holds no whole number from the bound on. -/
def Wrong (bound : Int) (given : Option String) : Prop :=
  ∃ input, given = some input ∧ ¬ ∃ n, (Value.text input).readInt = .ok n ∧ bound ≤ n

theorem readNumber_eq_ok_iff {name : String} {bound default n : Int} {given : Option String} :
    readNumber name bound default given = .ok n ↔ Asked bound default given n := by
  cases given with
  | none =>
    simp only [readNumber, Asked, Except.ok.injEq]
    exact eq_comm
  | some input =>
    rw [Asked, ← Value.readAtLeast_eq_ok_iff, readNumber]
    cases Value.readAtLeast bound (.text input) <;> simp

theorem wrong_iff {bound default : Int} {given : Option String} :
    Wrong bound given ↔ ¬ ∃ n, Asked bound default given n := by
  cases given with
  | none => simp [Wrong, Asked]
  | some input => simp [Wrong, Asked]

/-- A query string whose page and size ask for a number each. -/
def Asks (query : String) (n size : Int) : Prop :=
  Asked 1 1 (Query.last? (Query.parameters query) "page") n ∧
    Asked 0 0 (Query.last? (Query.parameters query) "size") size

/-- **Both numbers are read when neither is wrong**, and they are those asked
for. -/
theorem readNumbers_eq_ok_iff {query : String} {n size : Int} :
    readNumbers (Query.parameters query) = .ok (n, size) ↔ Asks query n size := by
  rw [Asks, ← @readNumber_eq_ok_iff "page", ← @readNumber_eq_ok_iff "size", readNumbers]
  cases readNumber "page" 1 1 (Query.last? (Query.parameters query) "page") <;>
    cases readNumber "size" 0 0 (Query.last? (Query.parameters query) "size") <;> simp

theorem Asked.le {bound default n : Int} (h : bound ≤ default) :
    ∀ {given : Option String}, Asked bound default given n → bound ≤ n
  | none, hn => hn ▸ h
  | some _, hn => hn.2

theorem Asks.one_le {query : String} {n size : Int} (h : Asks query n size) : 1 ≤ n :=
  h.1.le (Int.le_refl 1)

/-- The page that a request asks for. -/
def wanted (query : String) (n size : Int) : Page where
  size := size
  number := n
  column := readSort (Query.parameters query)

theorem Asks.sound {query : String} {n size : Int} (h : Asks query n size) :
    (wanted query n size).Sound :=
  ⟨h.2.le (Int.le_refl 0), Int.le_trans (by decide) h.one_le⟩

/-! ### What it gets -/

variable {pager : Pager}

/-- The listing that shows one batch of some rows. -/
def batch (rows : List String) (L n : Int) (sort : String) : Listing where
  items := (Window.slice ((n - 1) * L) (n * L) rows).map .text
  page := { size := L, number := n, more := decide (n * L < rows.length), column := sort }

theorem fetch_fit (pager : Pager) {page : Page} (h : page.Sound) {L n : Int}
    (hL : pager.batchSize (some page) = L) (hn : Window.numberFor (some page) = n)
    {α : Type} (rows : List α) :
    fetch (some (pager.fit page)) rows =
      Window.slice ((n - 1) * L) ((n - 1) * L + (L + 1)) rows := by
  have hL1 : 1 ≤ L := hL ▸ pager.one_le_batchSize h.of_mem_some
  have hn1 : 1 ≤ n := hn ▸ Window.one_le_numberFor (some page)
  have hs := Window.start_nonneg hn1 hL1
  have hlimit : Window.limit (some (pager.fit page)) = L := (pager.limit_fit (some page)).trans hL
  have hoffset : Window.offset (some (pager.fit page)) = (n - 1) * L := by
    rw [← hL, ← hn]
    exact pager.offset_fit (some page)
  rw [fetch, hlimit, hoffset, Window.slice_eq hs (by omega)]

/-- **A page from one on is served with its batch.** -/
theorem serve_eq {page : Page} (h : page.Sound) (h1 : 1 ≤ page.number) (hk : page.keys = [])
    {prepared : Pager.Prepared}
    (hok : (pager.narrow (.select {}) (some page)).prepared = .ok prepared) (rows : List String) :
    serve pager (some (rows.map .text)) page =
      .ok (.listing (batch rows (pager.batchSize (some page)) page.number page.column)
        prepared.statement) := by
  have hn : Window.numberFor (some page) = page.number := by
    rw [Window.numberFor_some]
    omega
  have hf := fetch_fit pager h rfl hn (rows.map Value.text)
  have hc := Pager.collect_fetched pager h.of_mem_some rfl hn (rows.map Value.text)
  rw [Option.map_some, ← hf, Window.slice_map, List.length_map] at hc
  simp only [serve, hok, Pager.narrow_page, Option.map_some, hc, Listing.ofItems_texts]
  simp only [batch, Option.getD_some, hk]

/-- A request with two right numbers gets the batch of the one, with as many
rows as the other one is granted. -/
theorem answer_asks {query : String} {n size : Int} (h : Asks query n size)
    {prepared : Pager.Prepared}
    (hok : (pager.narrow (.select {}) (some (wanted query n size))).prepared = .ok prepared)
    (rows : List String) :
    answer pager (some (rows.map .text)) query =
      .ok (.listing (batch rows (pager.batchSize (some (wanted query n size))) n
        (readSort (Query.parameters query))) prepared.statement) := by
  have hread := readNumbers_eq_ok_iff.mpr h
  have hparams := Page.ofParams_eq h.sound.2 h.sound.1 (readSort (Query.parameters query))
  simp only [wanted] at hparams
  rw [answer, hread]
  simp only [hparams, Checked.titled]
  exact serve_eq h.sound h.one_le rfl hok rows

/-- A request with a wrong number is refused. -/
theorem answer_refused {query : String}
    (h : Wrong 1 (Query.last? (Query.parameters query) "page") ∨
      Wrong 0 (Query.last? (Query.parameters query) "size")) (rows : Option (List Value)) :
    ∃ details, answer pager rows query = .ok (.refused details) := by
  cases hr : readNumbers (Query.parameters query) with
  | error details => exact ⟨details, by rw [answer, hr]⟩
  | ok numbers =>
    obtain ⟨hn, hs⟩ := readNumbers_eq_ok_iff.mp hr
    rcases h with h | h
    · exact absurd ⟨_, hn⟩ (wrong_iff.mp h)
    · exact absurd ⟨_, hs⟩ (wrong_iff.mp h)

/-! ### Asking again -/

/-- The query string that asks for the same with another number under a name. -/
def again (query name : String) (n : Int) : String :=
  Query.replace query name (toString n)

section Again

variable {query name : String} (hname : name.toList.all Query.isPlain = true) {m : ℕ}

include hname

theorem last?_again : Query.last? (Query.parameters (again query name m)) name =
    some (toString (m : Int)) := by
  have h := Query.last?_replace query hname (Query.all_isPlain_toString m) name
  rwa [if_pos rfl] at h

theorem last?_again_of_ne {other : String} (hne : other ≠ name) :
    Query.last? (Query.parameters (again query name m)) other =
      Query.last? (Query.parameters query) other := by
  have h := Query.last?_replace query hname (Query.all_isPlain_toString m) other
  rwa [if_neg hne] at h

end Again

theorem asked_toString {bound default : Int} {m : ℕ} (hm : m < 10 ^ Text.Numeral.longest)
    (h : bound ≤ m) : Asked bound default (some (toString (m : Int))) m := by
  have hr : Text.Numeral.read (toString (m : Int)) = .ok (m : Int) :=
    Text.Numeral.read_toString hm
  exact ⟨by simp only [Value.readInt, hr], h⟩

theorem Asks.again_size {query : String} {n size : Int} (h : Asks query n size) {m : ℕ}
    (hm : m < 10 ^ Text.Numeral.longest) : Asks (again query "size" m) n m := by
  rw [Asks, last?_again (by decide), last?_again_of_ne (by decide) (by decide)]
  exact ⟨h.1, asked_toString hm (by omega)⟩

theorem Asks.again_page {query : String} {n size : Int} (h : Asks query n size) {m : ℕ}
    (hm : m < 10 ^ Text.Numeral.longest) (h1 : 1 ≤ m) : Asks (again query "page" m) m size := by
  rw [Asks, last?_again (by decide), last?_again_of_ne (by decide) (by decide)]
  exact ⟨asked_toString hm (by omega), h.2⟩

theorem readSort_again {name : String} (hname : name.toList.all Query.isPlain = true)
    (hne : "sort" ≠ name) (query : String) (m : ℕ) :
    readSort (Query.parameters (again query name m)) = readSort (Query.parameters query) := by
  rw [readSort, last?_again_of_ne hname hne, readSort]

/-- No more than fifty rows are granted, which is short enough to be read. -/
theorem batchSize_eq_natCast (pager : Pager) {page : Page} (h : page.Sound) :
    ∃ L : ℕ, pager.batchSize (some page) = L ∧ 0 < L ∧ L < 10 ^ Text.Numeral.longest := by
  have h1 := pager.one_le_batchSize h.of_mem_some
  have h50 : pager.batchSize (some page) ≤ 50 := Int.min_le_right _ _
  obtain ⟨L, hL⟩ := Int.eq_ofNat_of_zero_le (show 0 ≤ pager.batchSize (some page) by omega)
  refine ⟨L, hL, by omega, ?_⟩
  calc
    L < 10 ^ 2 := by omega
    _ ≤ 10 ^ Text.Numeral.longest := Nat.pow_le_pow_right (by decide) (by decide)

/-- **The size that was granted is granted again.** A request with it in place
of the size asked for gets the same answer. -/
theorem answer_again (hp : pager.Total) {query : String} {n size : Int} (h : Asks query n size)
    (rows : List String) :
    answer pager (some (rows.map .text))
        (again query "size" (pager.batchSize (some (wanted query n size)))) =
      answer pager (some (rows.map .text)) query := by
  obtain ⟨L, hL, -, hlong⟩ := batchSize_eq_natCast pager h.sound
  obtain ⟨prepared, hok, -⟩ := Pager.narrow_ok hp (.select {}) (some (wanted query n size))
  have hsort : readSort (Query.parameters (again query "size" L)) =
      readSort (Query.parameters query) := readSort_again (by decide) (by decide) query L
  have hw : wanted (again query "size" L) n L = { wanted query n size with size := L } := by
    rw [wanted, hsort, wanted]
  have hsame : pager.batchSize (some (wanted (again query "size" L) n L)) =
      pager.batchSize (some (wanted query n size)) := by
    rw [hw]
    exact pager.batchSize_of_size h.sound hL.symm
  have hok' : (pager.narrow (.select {}) (some (wanted (again query "size" L) n L))).prepared =
      .ok prepared := by
    rw [hw] at hsame ⊢
    rw [pager.prepared_resized _ _ hsame, hok]
  -- the two answers stand apart, since their query strings must not be compared
  have hagain := answer_asks (h.again_size hlong) hok' rows
  rw [hsame, hsort] at hagain
  rw [hL, hagain, answer_asks h hok]

/-! ### Asking for the next page -/

/-- The query string that asks for the page behind the one that was shown. -/
def next (query : String) (page : Page) : String :=
  again (again query "size" page.size) "page" (page.number + 1)

/-- The items of one listing after the other, for a client that asks for the
next page as long as more rows follow, in so many requests at most. -/
def follow (pager : Pager) (rows : Option (List Value)) :
    ℕ → String → Except Failure (List (List Item))
  | 0, _ => .ok []
  | k + 1, query =>
    match answer pager rows query with
    | .error failure => .error failure
    | .ok (.refused _) => .ok []
    | .ok (.listing l _) =>
      if l.page.more then (follow pager rows k (next query l.page)).map (l.items :: ·)
      else .ok [l.items]

/-- The next page is asked for with the size that was granted. -/
theorem Asks.next {query : String} {i L : ℕ} {size : Int} (h : Asks query (i + 1) size)
    (hL : pager.batchSize (some (wanted query (i + 1) size)) = L)
    (hi : i + 2 < 10 ^ Text.Numeral.longest) (page : Page) (hsize : page.size = L)
    (hnumber : page.number = i + 1) :
    Asks (next query page) ((i + 1 : ℕ) + 1) L ∧
      pager.batchSize (some (wanted (Endpoint.next query page) ((i + 1 : ℕ) + 1) L)) = L := by
  obtain ⟨L', hL', -, hlong⟩ := batchSize_eq_natCast pager h.sound
  obtain rfl : L = L' := by omega
  have hn : (i : Int) + 1 + 1 = (i + 2 : ℕ) := by omega
  have hn' : ((i + 1 : ℕ) : Int) + 1 = (i + 2 : ℕ) := by omega
  rw [Endpoint.next, hsize, hnumber, hn, hn']
  exact ⟨(h.again_size hlong).again_page hi (by omega),
    (pager.batchSize_of_size h.sound hL.symm).trans hL⟩

theorem batch_items (rows : List String) (L i : ℕ) (sort : String) :
    (batch rows L (i + 1) sort).items = ((rows.drop (i * L)).take L).map .text := by
  rw [batch, Int.add_sub_cancel, Window.slice_batch]

theorem batch_more (rows : List String) (L i : ℕ) (sort : String) :
    (batch rows L (i + 1) sort).page.more = true ↔ (i + 1) * L < rows.length := by
  rw [batch, decide_eq_true_eq, ← Int.ofNat_lt]
  simp

/-- **A client that asks for the next page as long as more rows follow gets
them all**, in order, from the page it starts with on. -/
theorem follow_covers (hp : pager.Total) {rows : List String}
    (hrows : rows.length < 10 ^ Text.Numeral.longest) {L : ℕ} :
    ∀ (k : ℕ) {query : String} {i : ℕ} {size : Int}, Asks query (i + 1) size →
      pager.batchSize (some (wanted query (i + 1) size)) = L → rows.length ≤ (i + k) * L →
      ∃ batches, follow pager (some (rows.map .text)) k query = .ok batches ∧
        batches.flatten = (rows.drop (i * L)).map .text
  | 0, query, i, size, h, hL, hk => by
    refine ⟨[], rfl, ?_⟩
    rw [Nat.add_zero] at hk
    rw [List.drop_eq_nil_of_le hk]
    rfl
  | k + 1, query, i, size, h, hL, hk => by
    obtain ⟨prepared, hok, -⟩ := Pager.narrow_ok hp (.select {}) (some (wanted query (i + 1) size))
    have hanswer := answer_asks h hok rows
    have hpos : 0 < L := by
      have := pager.one_le_batchSize h.sound.of_mem_some
      omega
    have he : (i + 1) * L = i * L + L := Nat.succ_mul i L
    rw [hL] at hanswer
    simp only [follow, hanswer, batch_more, batch_items]
    -- what follows this batch is asked for in one request less
    split
    · next hlt =>
      have hi : i + 1 ≤ (i + 1) * L := Nat.le_mul_of_pos_right _ hpos
      obtain ⟨hnext, hLnext⟩ := h.next hL (show i + 2 < _ by omega)
        (batch rows L (i + 1) (readSort (Query.parameters query))).page rfl rfl
      obtain ⟨batches, hb, hflat⟩ := follow_covers hp hrows k hnext hLnext
        (by rwa [Nat.add_right_comm, Nat.add_assoc])
      rw [hb]
      refine ⟨_, rfl, ?_⟩
      rw [List.flatten_cons, hflat, ← List.map_append, he, ← List.drop_drop, List.take_append_drop]
    · next hge =>
      refine ⟨_, rfl, ?_⟩
      rw [List.flatten_singleton, List.take_of_length_le]
      rw [List.length_drop]
      omega

/-! ### Every request -/

/-- The status of an answer. -/
def Reply.status : Reply → ℕ
  | listing _ _ => 200
  | refused _ => 422

/-- The body of a listing. -/
def Reply.body? : Reply → Option Value
  | listing l _ => some l.dump
  | refused _ => none

theorem body?_batch (rows : List String) (L n : Int) (sort : String) (statement : Statement) :
    (Reply.listing (batch rows L n sort) statement).body? = some (.record [
      ("items", .list ((Window.slice ((n - 1) * L) (n * L) rows).map .text)),
      ("page", .record [("size", .int L), ("page", .int n),
        ("more", .bool (decide (n * L < rows.length))), ("column", .text sort),
        ("sort", .list [])])]) := by
  rw [Reply.body?, Listing.dump, Listing.recordOf, batch, List.map_map]
  rfl

theorem asks_or_wrong (query : String) :
    (∃ n size, Asks query n size) ∨
      Wrong 1 (Query.last? (Query.parameters query) "page") ∨
      Wrong 0 (Query.last? (Query.parameters query) "size") := by
  by_cases hn : ∃ n, Asked 1 1 (Query.last? (Query.parameters query) "page") n
  · by_cases hs : ∃ size, Asked 0 0 (Query.last? (Query.parameters query) "size") size
    · obtain ⟨n, hn⟩ := hn
      obtain ⟨size, hs⟩ := hs
      exact .inl ⟨n, size, hn, hs⟩
    · exact .inr (.inr (wrong_iff.mpr hs))
  · exact .inr (.inl (wrong_iff.mpr hn))

/-- **Every request is answered.** It is refused exactly when its page or its
size is wrong. Otherwise the body shows the batch with the number asked for and
tells its size, and a request with that size gets the same answer; a client that
asks for the next page of that size as long as more rows follow gets all of
them, from the page it starts with on. Reports are left out, as a server with debugging
off drops them. -/
theorem answer_exact (hp : pager.Total) (rows : List String) (query : String) :
    ∃ reply, answer pager (some (rows.map .text)) query = .ok reply ∧
      let given := Query.last? (Query.parameters query)
      (reply.status = 422 ↔ Wrong 1 (given "page") ∨ Wrong 0 (given "size")) ∧
      (¬ (Wrong 1 (given "page") ∨ Wrong 0 (given "size")) →
        reply.status = 200 ∧ ∃ n size,
          Asked 1 1 (given "page") n ∧ Asked 0 0 (given "size") size ∧
          let L := min (min (if size = 0 then pager.defaultSize.rows else size) pager.maxSize.rows) 50
          reply.body? = some (.record [
            ("items", .list ((Window.slice ((n - 1) * L) (n * L) rows).map .text)),
            ("page", .record [("size", .int L), ("page", .int n),
              ("more", .bool (decide (n * L < rows.length))),
              ("column", .text ((given "sort").getD "")), ("sort", .list [])])]) ∧
          answer pager (some (rows.map .text)) (again query "size" L) = .ok reply ∧
          (rows.length < 10 ^ Text.Numeral.longest → ∀ k : ℕ, rows.length ≤ (n - 1 + k) * L →
            ∃ batches, follow pager (some (rows.map .text)) k query = .ok batches ∧
              batches.flatten = (rows.drop ((n - 1) * L).toNat).map .text)) := by
  rcases asks_or_wrong query with ⟨n, size, h⟩ | hwrong
  · obtain ⟨prepared, hok, -⟩ := Pager.narrow_ok hp (.select {}) (some (wanted query n size))
    have hanswer := answer_asks h hok rows
    have hagain := answer_again hp h rows
    obtain ⟨L, hL, -⟩ := batchSize_eq_natCast pager h.sound
    have hright : ¬ (Wrong 1 (Query.last? (Query.parameters query) "page") ∨
        Wrong 0 (Query.last? (Query.parameters query) "size")) := by
      rintro (hw | hw)
      · exact wrong_iff.mp hw ⟨n, h.1⟩
      · exact wrong_iff.mp hw ⟨size, h.2⟩
    have hsize : min (min (if size = 0 then pager.defaultSize.rows else size) pager.maxSize.rows) 50
        = (L : Int) := hL
    refine ⟨_, hanswer, ?_, fun _ => ⟨rfl, n, size, h.1, h.2, ?_⟩⟩
    · exact ⟨fun hs => absurd hs (show ¬ 200 = 422 by decide), fun hw => absurd hw hright⟩
    · simp only [hsize]
      rw [hL] at hagain hanswer ⊢
      refine ⟨body?_batch rows L n _ _, hagain.trans hanswer, fun hrows k hk => ?_⟩
      obtain ⟨i, rfl⟩ : ∃ i : ℕ, n = i + 1 := ⟨(n - 1).toNat, by have := h.one_le; omega⟩
      rw [Int.add_sub_cancel] at hk ⊢
      exact follow_covers hp hrows k h hL (by exact_mod_cast hk)
  · obtain ⟨details, hanswer⟩ := @answer_refused pager query hwrong (some (rows.map .text))
    exact ⟨_, hanswer, ⟨fun _ => hwrong, fun _ => rfl⟩, fun hright => absurd hwrong hright⟩

/-- Nine rows a page are wanted of thirteen, and five granted: the second page
shows five of them, and more follow. -/
theorem answer_exact_second :
    Pager.reference.Total ∧ ∃ reply,
      answer Pager.reference
        (some (((List.range 13).map fun i => toString i).map .text)) "page=2&size=9&sort=-Name" =
          .ok reply ∧
      reply.status = 200 ∧
      reply.body? = some (.record [
        ("items", .list [.text "5", .text "6", .text "7", .text "8", .text "9"]),
        ("page", .record [("size", .int 5), ("page", .int 2), ("more", .bool true),
          ("column", .text "-Name"), ("sort", .list [])])]) := by
  refine ⟨Pager.reference_total, ?_⟩
  obtain ⟨reply, hanswer, -, hright⟩ := answer_exact Pager.reference_total
    ((List.range 13).map fun i => toString i) "page=2&size=9&sort=-Name"
  have hpage : Query.last? (Query.parameters "page=2&size=9&sort=-Name") "page" = some "2" := by
    decide
  have hsize : Query.last? (Query.parameters "page=2&size=9&sort=-Name") "size" = some "9" := by
    decide
  have hsort : Query.last? (Query.parameters "page=2&size=9&sort=-Name") "sort" = some "-Name" := by
    decide
  have h2 : (Value.text "2").readInt = .ok 2 := rfl
  have h9 : (Value.text "9").readInt = .ok 9 := rfl
  simp only [hpage, hsize, hsort] at hright
  obtain ⟨hstatus, n, size, hn, hs, hbody, -⟩ := hright (by
    rintro (⟨_, ⟨⟩, hw⟩ | ⟨_, ⟨⟩, hw⟩)
    · exact hw ⟨2, h2, by decide⟩
    · exact hw ⟨9, h9, by decide⟩)
  obtain rfl : 2 = n := Except.ok.inj (h2.symm.trans hn.1)
  obtain rfl : 9 = size := Except.ok.inj (h9.symm.trans hs.1)
  exact ⟨reply, hanswer, hstatus, hbody⟩

end Endpoint
end Folio
