import Houfeng.Search.Proofs.QueryProofs
import Houfeng.Search.Service

/-!
# Search pagination

A page is the authorized part of the next 4000 candidates, cut at the page size. So the pages are an
initial part of the authorized matches in sort order; they are all of them unless some page, though
matches remain, found no more than a page's worth in its candidates.
-/

namespace Houfeng.Search

open Records List

variable {τ ρ : Type}

/-! ## The sorted matches -/

variable {d : Document}

section

variable {sort : String}

theorem ordered_iff {e : Document} :
    ordered sort d e = true ↔ d.sortKey = e.sortKey ∨ after sort d.sortKey e.sortKey := by
  simp only [ordered, after]
  split_ifs
  · rw [decide_eq_true_eq, le_iff_eq_or_lt]
  · rw [decide_eq_true_eq, le_iff_eq_or_lt, eq_comm]

variable {a : SortKey}

theorem after_trans {b c : SortKey} (hab : after sort a b) (hbc : after sort b c) :
    after sort a c := by
  simp only [after] at *
  split_ifs at * with h
  · exact hab.trans hbc
  · exact hbc.trans hab

theorem after_irrefl : ¬ after sort a a := by
  simp [after]

theorem after_total {b : SortKey} : a = b ∨ after sort a b ∨ after sort b a := by
  simp only [after]
  rcases lt_trichotomy a b with h | h | h <;> split_ifs <;> simp [h]

theorem ordered_sorted (ds : List Document) :
    (ds.mergeSort (ordered sort)).Pairwise fun d e => ordered sort d e = true := by
  refine pairwise_mergeSort ?_ ?_ ds
  · intro a b c hab hbc
    rw [ordered_iff] at *
    rcases hab with hab | hab
    · rwa [hab]
    · rcases hbc with hbc | hbc
      · exact .inr (hbc ▸ hab)
      · exact .inr (after_trans hab hbc)
  · intro a b
    rw [Bool.or_eq_true, ordered_iff, ordered_iff]
    rcases @after_total sort a.sortKey b.sortKey with h | h | h
    · exact .inl (.inl h)
    · exact .inl (.inr h)
    · exact .inr (.inr h)

def Keyed (ds : List Document) : Prop := ∀ d ∈ ds, ∀ e ∈ ds, d.sortKey = e.sortKey → d = e

theorem Index.keyed (ix : Index) : Keyed ix.documents := by
  intro d hd e he hkey
  have hid : d.recordID = e.recordID := congrArg (fun k : SortKey => (ofLex k).2) hkey
  exact inj_on_of_nodup_map ix.nodup hd he hid

theorem Keyed.filter {ds : List Document} (h : Keyed ds) (p : Document → Bool) :
    Keyed (ds.filter p) :=
  fun d hd e he => h d (mem_of_mem_filter hd) e (mem_of_mem_filter he)

theorem mergeSort_filter {ds : List Document} (h : Keyed ds) (p : Document → Bool) :
    (ds.filter p).mergeSort (ordered sort) = (ds.mergeSort (ordered sort)).filter p := by
  have hperm : ((ds.filter p).mergeSort (ordered sort)).Perm
      ((ds.mergeSort (ordered sort)).filter p) :=
    (mergeSort_perm _ _).trans ((mergeSort_perm ds _).filter p).symm
  refine hperm.eq_of_pairwise ?_ (ordered_sorted _) ((ordered_sorted ds).filter p)
  intro a b ha hb hab hba
  have ha' : a ∈ ds := mem_of_mem_filter (mem_mergeSort.mp ha)
  have hb' : b ∈ ds := mem_mergeSort.mp (mem_of_mem_filter hb)
  rw [ordered_iff] at hab hba
  rcases hab with hab | hab
  · exact h a ha' b hb' hab
  · rcases hba with hba | hba
    · exact (h b hb' a ha' hba).symm
    · exact absurd (after_trans hab hba) after_irrefl

end

variable {i : Nat}

namespace Setting

variable (s : Setting τ ρ) {now : Int}

def matching (now : Int) : List Document :=
  (s.index.documents.filter fun d => matchesQuery s.lower s.query.values now s.reserved d).mergeSort
    (ordered s.query.values.sort)

theorem mem_matching : d ∈ s.matching now ↔ d ∈ s.index.documents ∧
    matchesQuery s.lower s.query.values now s.reserved d = true := by
  rw [matching, mem_mergeSort, mem_filter]

theorem matching_sorted : (s.matching now).Pairwise fun d e =>
    after s.query.values.sort d.sortKey e.sortKey := by
  have hnodup : (s.matching now).Nodup := by
    rw [matching, (mergeSort_perm _ _).nodup_iff]
    exact (Nodup.of_map _ s.index.nodup).filter _
  have hsorted : (s.matching now).Pairwise fun d e => ordered s.query.values.sort d e = true :=
    ordered_sorted _
  refine (hsorted.and hnodup).imp_of_mem ?_
  rintro d e hd he ⟨hle, hne⟩
  rcases ordered_iff.mp hle with hkey | hafter
  · exact absurd (s.index.keyed d (s.mem_matching.mp hd).1 e (s.mem_matching.mp he).1 hkey) hne
  · exact hafter

def remaining (now : Int) (position : Option SortKey) : List Document :=
  (s.matching now).filter fun d => position.all fun key => after s.query.values.sort key d.sortKey

theorem remaining_none : s.remaining now none = s.matching now := by
  simp [remaining]

variable {pre post : List Document}

theorem remaining_some (h : s.matching now = pre ++ d :: post) :
    s.remaining now (some d.sortKey) = post := by
  have hsorted := @matching_sorted τ ρ s now
  rw [h, pairwise_append, pairwise_cons] at hsorted
  obtain ⟨-, ⟨hpost, -⟩, hpre⟩ := hsorted
  have hbefore : ∀ e ∈ pre, decide (after s.query.values.sort d.sortKey e.sortKey) = false := by
    intro e he
    refine decide_eq_false fun hde => ?_
    exact after_irrefl (after_trans hde (hpre e he d mem_cons_self))
  rw [remaining, h, filter_append, filter_cons]
  simp only [Option.all_some]
  rw [filter_eq_nil_iff.mpr fun e he => by simp [hbefore e he], nil_append,
    if_neg (by simp [after_irrefl]), filter_eq_self]
  exact fun e he => decide_eq_true (hpost e he)

def Dated : Prop := ∀ d ∈ s.index.documents, d.updatedAt ≠ zeroMicro

theorem validSortKey_document (hdated : s.Dated) (hd : d ∈ s.index.documents) :
    validSortKey d.sortKey = true := by
  rw [validSortKey, Bool.and_eq_true]
  exact ⟨decide_eq_true (hdated d hd), s.index.identity d hd⟩

variable {position : Option SortKey}

theorem listSearchCandidates_eq (hdated : s.Dated) {limit : Nat}
    (hposition : ∀ key ∈ position, validSortKey key = true) :
    listSearchCandidates s.lower s.index s.query.values now s.reserved position limit =
      .ok (((s.remaining now position).take limit).map Document.sortKey) := by
  have hvalid : (position.any fun key => !validSortKey key) = false := by
    cases position with
    | none => rfl
    | some key => simpa using hposition key rfl
  have hrows : ((s.index.documents.filter fun d =>
      matchesQuery s.lower s.query.values now s.reserved d &&
        position.all fun key => decide (after s.query.values.sort key d.sortKey)).mergeSort
        (ordered s.query.values.sort)) = s.remaining now position := by
    rw [remaining, matching, ← mergeSort_filter (s.index.keyed.filter _), filter_filter]
    congr 1
    refine filter_congr fun d _ => ?_
    rw [Bool.and_comm]
  rw [listSearchCandidates, hvalid]
  simp only [Bool.false_eq_true, reduceIte, hrows]
  refine if_pos (all_eq_true.mpr fun d hd => s.validSortKey_document hdated ?_)
  exact (s.mem_matching.mp (mem_of_mem_filter (mem_of_mem_take hd))).1

/-! ## Reading -/

def read (ds : List Document) : List (SortKey × ρ) :=
  ds.filterMap fun d => (s.reader d.recordID).toOption.map fun r => (d.sortKey, r)

/-- The read path answers every document with the record or with an error that is skipped. -/
def Answers : Prop := ∀ id, match s.reader id with
  | .ok _ => True
  | .error e => skippableSearchCandidateError e = true

theorem read_append (ds es : List Document) : s.read (ds ++ es) = s.read ds ++ s.read es :=
  filterMap_append

variable {matched : List (SortKey × ρ)} {ds : List Document}

theorem read_cons_of_error {e : ReadError} (h : s.reader d.recordID = .error e) :
    s.read (d :: ds) = s.read ds := by
  simp [read, h, Except.toOption]

theorem read_cons_of_ok {r : ρ} (h : s.reader d.recordID = .ok r) :
    s.read (d :: ds) = (d.sortKey, r) :: s.read ds := by
  simp [read, h, Except.toOption]

theorem hydrate_eq (hanswers : s.Answers) {pageSize : Nat} (hlength : matched.length ≤ pageSize) :
    hydrate s.reader pageSize (ds.map Document.sortKey) matched =
      .ok ((matched ++ s.read ds).take (pageSize + 1)) := by
  induction ds generalizing matched with
  | nil =>
    simp only [map_nil, hydrate, read, filterMap_nil, append_nil]
    rw [take_of_length_le (by omega)]
  | cons d ds ih =>
    have hanswer := hanswers d.recordID
    rw [map_cons, hydrate]
    simp only [Document.sortKey, ofLex_toLex]
    cases hread : s.reader d.recordID with
    | error e =>
      rw [hread] at hanswer
      dsimp only at hanswer ⊢
      rw [if_pos hanswer, ih hlength, s.read_cons_of_error hread]
    | ok r =>
      rw [s.read_cons_of_ok hread, append_cons]
      dsimp only
      by_cases hfull : pageSize < matched.length + 1
      · rw [if_pos hfull, take_left' (by simp; omega)]
        rfl
      · rw [if_neg hfull]
        exact ih (by simp; omega)

omit s in
theorem take_append_take {α : Type} (k : Nat) (l m : List α) :
    (l.take k ++ m).take k = (l ++ m).take k := by
  rw [take_append, take_append, take_take, Nat.min_self, length_take]
  congr 2
  omega

variable {rest : List Document}

theorem readAhead_eq (hdated : s.Dated) (hanswers : s.Answers) {batches : Nat}
    (hposition : ∀ key ∈ position, validSortKey key = true)
    (hrest : s.remaining now position = rest) (hmatching : s.matching now = pre ++ rest)
    (hlength : matched.length ≤ s.query.values.pageSize + 1) :
    readAhead s now batches position matched =
      .ok ((matched ++ s.read (rest.take (200 * batches))).take (s.query.values.pageSize + 1)) := by
  induction batches generalizing position pre rest matched with
  | zero =>
    simp only [readAhead, Nat.mul_zero, take_zero, read, filterMap_nil, append_nil]
    rw [take_of_length_le hlength]
  | succ batches ih =>
    rw [readAhead]
    by_cases hfull : s.query.values.pageSize < matched.length
    · rw [if_pos hfull, take_left' (by omega)]
    · rw [if_neg hfull, s.listSearchCandidates_eq hdated hposition, hrest]
      simp only [bind, Except.bind]
      rcases eq_nil_or_concat (rest.take candidateBatchSize) with hnil | ⟨front, last, hlast⟩
      · have hempty : rest = [] := by
          cases rest with
          | nil => rfl
          | cons d rest => simp [candidateBatchSize] at hnil
        subst hempty
        simp only [take_nil, map_nil, getLast?_nil, read, filterMap_nil, append_nil]
        rw [take_of_length_le (by omega)]
      · have hsplit : rest = front ++ last :: rest.drop candidateBatchSize := by
          conv_lhs => rw [← take_append_drop candidateBatchSize rest, hlast]
          simp
        have hmem : last ∈ s.index.documents := by
          have hlisted : last ∈ s.matching now := by
            rw [hmatching, hsplit]
            simp
          exact (s.mem_matching.mp hlisted).1
        have hnext : s.matching now = (pre ++ front) ++ last :: rest.drop candidateBatchSize := by
          rw [hmatching, append_assoc, ← hsplit]
        rw [s.hydrate_eq hanswers (by omega), hlast]
        simp only [concat_eq_append, map_append, map_cons, map_nil,
          getLast?_append, getLast?_singleton, Option.some_or, length_append,
          length_map, length_singleton]
        have htake : front ++ [last] = rest.take candidateBatchSize := by simp [hlast]
        have hcount : front.length + 1 = (rest.take candidateBatchSize).length := by simp [← htake]
        rw [htake, hcount]
        by_cases hshort : (rest.take candidateBatchSize).length < candidateBatchSize
        · -- the index is exhausted
          rw [if_pos hshort, take_of_length_le (l := rest) (by simp at hshort; omega),
            take_of_length_le (l := rest)]
          simp only [candidateBatchSize, length_take] at hshort
          omega
        · have hvalid : ∀ key ∈ some last.sortKey, validSortKey key = true := by
            rintro key hkey
            cases hkey
            exact s.validSortKey_document hdated hmem
          have hcut : rest.take (200 * (batches + 1)) =
              rest.take candidateBatchSize ++ (rest.drop candidateBatchSize).take (200 * batches) := by
            rw [← take_add]
            congr 1
            simp only [candidateBatchSize]
            omega
          have hpre : s.matching now =
              (pre ++ rest.take candidateBatchSize) ++ rest.drop candidateBatchSize := by
            rw [append_assoc, take_append_drop, hmatching]
          rw [if_neg hshort, ih hvalid (s.remaining_some hnext) hpre (by simp), hcut, s.read_append,
            ← append_assoc, take_append_take]

/-! ## Pages -/

/-- The matches that come behind a cursor. -/
inductive Stands (now : Int) : Option τ → List Document → Prop
  | start : Stands now none (s.matching now)
  | bound {token : τ} {pre rest : List Document} {d : Document}
      (h : s.matching now = pre ++ d :: rest) (hbind : bindCursor s now token = .ok d.sortKey) :
      Stands now (some token) rest

def ahead (rest : List Document) : List (SortKey × ρ) := s.read (rest.take 4000)

variable {cursor : Option τ}

theorem search_eq (hdated : s.Dated) (hanswers : s.Answers) (h : s.Stands now cursor rest) :
    search s now cursor = finishPage s now ((s.ahead rest).take (s.query.values.pageSize + 1)) := by
  have hread : ∀ (position : Option SortKey) (pre : List Document),
      (∀ key ∈ position, validSortKey key = true) → s.remaining now position = rest →
      s.matching now = pre ++ rest → readAhead s now maxCandidateBatches position [] =
        .ok ((s.ahead rest).take (s.query.values.pageSize + 1)) := by
    intro position pre hposition hrest hpre
    rw [s.readAhead_eq hdated hanswers hposition hrest hpre (by simp), nil_append]
    rfl
  cases h with
  | start =>
    simp only [search, startPosition, bind, Except.bind,
      hread none [] nofun s.remaining_none (nil_append _).symm]
  | @bound token pre rest d h hbind =>
    have hmem : d ∈ s.matching now := by simp [h]
    have hvalid : ∀ key ∈ some d.sortKey, validSortKey key = true := by
      rintro key hkey
      cases hkey
      exact s.validSortKey_document hdated (s.mem_matching.mp hmem).1
    have hpage := hread (some d.sortKey) (pre ++ [d]) hvalid (s.remaining_some h) (by simp [h])
    simp only [search, startPosition, hbind, Except.map, bind, Except.bind, hpage]

theorem finishPage_last (h : matched.length ≤ s.query.values.pageSize) :
    finishPage s now (matched.take (s.query.values.pageSize + 1)) =
      .ok ⟨matched.map (·.2), none⟩ := by
  rw [take_of_length_le (by omega), finishPage, if_neg (by omega)]

def AfterEpoch : Prop := ∀ d ∈ s.index.documents, d.updatedAt ≠ 0

variable {now' : Int}

theorem bindCursor_encodeCursor (hdated : s.Dated) (hepoch : s.AfterEpoch) (hnow' : 0 ≤ now')
    (hlater : now' < now + s.cursorTTL) (hd : d ∈ s.index.documents) :
    ∃ token, encodeCursor s (now + s.cursorTTL) d.sortKey = .ok token ∧
      bindCursor s now' token = .ok d.sortKey := by
  have hvalid := s.validSortKey_document hdated hd
  have hupdated : d.updatedAt ≠ 0 := hepoch d hd
  refine ⟨_, if_neg ?_, ?_⟩
  · simp only [hvalid, Bool.true_eq_false, false_or]
    have hzero : zeroMicro < 0 := by decide
    omega
  · rw [bindCursor, s.transport.decode_encode]
    dsimp only
    rw [if_neg (by simp), if_neg, if_neg (by omega), if_neg]
    · rfl
    · simpa using hvalid
    · simp only [Document.sortKey, ofLex_toLex, not_or]
      exact ⟨by omega, hupdated⟩

variable {front : List Document} {r : ρ}

theorem finishPage_full (hdated : s.Dated) (hepoch : s.AfterEpoch) (hnow' : 0 ≤ now')
    (hlater : now' < now + s.cursorTTL) {more : List (SortKey × ρ)}
    (hmatching : s.matching now' = pre ++ (front ++ d :: post))
    (hfront : (s.read front).length + 1 = s.query.values.pageSize) (hmore : more ≠ []) :
    ∃ token, finishPage s now
        ((s.read front ++ (d.sortKey, r) :: more).take (s.query.values.pageSize + 1)) =
          .ok ⟨(s.read front ++ [(d.sortKey, r)]).map (·.2), some token⟩ ∧
      s.Stands now' (some token) post := by
  have hmem : d ∈ s.matching now' := by simp [hmatching]
  obtain ⟨token, hencode, hbind⟩ := s.bindCursor_encodeCursor hdated hepoch hnow' hlater
    (s.mem_matching.mp hmem).1
  refine ⟨token, ?_, .bound (hmatching.trans (append_assoc pre front (d :: post)).symm) hbind⟩
  have hpage : ((s.read front ++ (d.sortKey, r) :: more).take
      (s.query.values.pageSize + 1)).take s.query.values.pageSize = s.read front ++ [(d.sortKey, r)] := by
    rw [take_take, Nat.min_eq_left (by omega), ← hfront, append_cons, take_left' (by simp)]
  have hfull : s.query.values.pageSize < ((s.read front ++ (d.sortKey, r) :: more).take
      (s.query.values.pageSize + 1)).length := by
    have := length_pos_iff.mpr hmore
    simp only [length_take, length_append, length_cons]
    omega
  rw [finishPage, if_pos hfull, hpage]
  simp [hencode, bind, Except.bind]

/-- Where a page ends: at the start, or at an authorized document after full pages. -/
def Boundary (pre : List Document) : Prop :=
  s.query.values.pageSize ∣ (s.read pre).length ∧
    (pre = [] ∨ ∃ front d, pre = front ++ [d] ∧ s.read [d] ≠ [])

/-- From the start and from the end of every full page, the next 4000 documents hold more than a
page of authorized ones, or all that are left. -/
def Fed (rest : List Document) : Prop :=
  ∀ pre post, rest = pre ++ post → s.Boundary pre →
    s.read (post.drop 4000) = [] ∨ s.query.values.pageSize < (s.ahead post).length

theorem read_split {k : Nat} (h : k < (s.read ds).length) :
    ∃ front d post r, ds = front ++ d :: post ∧ (s.read front).length = k ∧
      s.read [d] = [(d.sortKey, r)] := by
  induction ds generalizing k with
  | nil => simp [read] at h
  | cons d ds ih =>
    cases hr : s.reader d.recordID with
    | error e =>
      rw [s.read_cons_of_error hr] at h
      obtain ⟨front, d', post, r, rfl, hfront, hd'⟩ := ih h
      exact ⟨d :: front, d', post, r, rfl, by rwa [s.read_cons_of_error hr], hd'⟩
    | ok r =>
      cases k with
      | zero => exact ⟨[], d, ds, r, rfl, rfl, s.read_cons_of_ok hr⟩
      | succ k =>
        rw [s.read_cons_of_ok hr, length_cons] at h
        obtain ⟨front, d', post, r', rfl, hfront, hd'⟩ := ih (Nat.lt_of_succ_lt_succ h)
        refine ⟨d :: front, d', post, r', rfl, ?_, hd'⟩
        rw [s.read_cons_of_ok hr, length_cons, hfront]

theorem fed_append (hfront : (s.read front).length + 1 = s.query.values.pageSize)
    (hd : s.read [d] = [(d.sortKey, r)])
    (hmore : s.query.values.pageSize < (s.ahead (front ++ d :: post)).length) :
    s.Fed (front ++ d :: post) ↔ s.Fed post := by
  have hcount : (s.read (front ++ [d])).length = s.query.values.pageSize := by
    rw [s.read_append, hd, length_append, length_singleton, hfront]
  constructor
  · rintro h pre post' rfl ⟨hdvd, hlast⟩
    refine h (front ++ [d] ++ pre) post' (by simp) ⟨?_, .inr ?_⟩
    · rw [s.read_append, length_append, hcount]
      exact (Nat.dvd_add_right (Nat.dvd_refl _)).mpr hdvd
    · rcases hlast with rfl | ⟨f, e, rfl, he⟩
      · exact ⟨front, d, by simp, by simp [hd]⟩
      · exact ⟨front ++ [d] ++ f, e, by simp, he⟩
  · rintro h pre post' heq ⟨hdvd, hlast⟩
    rcases hlast with rfl | ⟨f, e, rfl, he⟩
    · rw [nil_append] at heq
      exact .inr (heq ▸ hmore)
    · -- a later boundary comes after the first page
      have hlong : (front ++ [d]).length ≤ (f ++ [e]).length := by
        by_contra hshort
        have hpre : f ++ [e] <+: front := by
          refine prefix_of_prefix_length_le ⟨post', heq.symm⟩ ⟨d :: post, rfl⟩ ?_
          simp only [length_append, length_singleton] at hshort ⊢
          omega
        obtain ⟨g, rfl⟩ := hpre
        have hpos : 0 < (s.read (f ++ [e])).length := by
          rw [s.read_append, length_append]
          have := length_pos_iff.mpr he
          omega
        have hle := Nat.le_of_dvd hpos hdvd
        rw [s.read_append, length_append] at hfront
        omega
      have hpre : front ++ [d] <+: f ++ [e] := by
        refine prefix_of_prefix_length_le ⟨post, ?_⟩ ⟨post', heq.symm⟩ hlong
        simp
      obtain ⟨g, hg⟩ := hpre
      rw [← hg] at heq hdvd
      have hpost : post = g ++ post' := by simpa using heq
      rw [s.read_append, length_append, hcount] at hdvd
      refine h g post' hpost ⟨(Nat.dvd_add_right (Nat.dvd_refl _)).mp hdvd, ?_⟩
      rcases eq_nil_or_concat g with rfl | ⟨g', x, rfl⟩
      · exact .inl rfl
      · refine .inr ⟨g', x, by simp, ?_⟩
        have hend : (front ++ [d] ++ g') ++ [x] = f ++ [e] := by
          rw [← hg]
          simp
        obtain ⟨-, hx⟩ := append_inj' hend rfl
        rw [hx]
        exact he

/-! ## Following the cursors -/

/-- The pages are asked for in time, after 1970, and no document starts or ceases to match
meanwhile. -/
structure Clocked (clock : Nat → Int) : Prop where
  nonneg : ∀ i, 0 ≤ clock i
  inTime : ∀ i, clock (i + 1) < clock i + s.cursorTTL
  stable : ∀ i, ∀ d ∈ s.index.documents,
    matchesQuery s.lower s.query.values (clock i) s.reserved d =
      matchesQuery s.lower s.query.values (clock 0) s.reserved d

variable {clock : Nat → Int} {s} in
theorem Clocked.matching (h : s.Clocked clock) (i : Nat) :
    s.matching (clock i) = s.matching (clock 0) := by
  rw [Setting.matching, Setting.matching, filter_congr (h.stable i)]

theorem pages_from (hdated : s.Dated) (hepoch : s.AfterEpoch) (hanswers : s.Answers)
    (hclock : s.Clocked clock) (hsize : 0 < s.query.values.pageSize) {n : Nat}
    (hn : rest.length ≤ n) (hmatching : s.matching (clock 0) = pre ++ rest)
    (hstands : s.Stands (clock i) cursor rest) :
    ∃ pages k, Pages s clock i cursor pages ∧ k ≤ (s.read rest).length ∧
      pages.flatMap (·.records) = ((s.read rest).take k).map (·.2) ∧
      (k = (s.read rest).length ↔ s.Fed rest) := by
  induction n generalizing rest pre i cursor with
  | zero =>
    have hempty : rest = [] := length_eq_zero_iff.mp (by omega)
    subst hempty
    refine ⟨[⟨[], none⟩], 0, .last ?_ rfl, by simp, by simp, by simp [read, Fed]⟩
    rw [s.search_eq hdated hanswers hstands, s.finishPage_last (by simp [ahead, read])]
    simp [ahead, read]
  | succ n ih =>
    have hpage := s.search_eq hdated hanswers hstands
    by_cases hfull : s.query.values.pageSize < (s.ahead rest).length
    · -- a full page: the rest is walked from its last record
      obtain ⟨front, d, b, r, htake, hfront, hd⟩ :=
        @read_split τ ρ s (rest.take 4000) (s.query.values.pageSize - 1) (by
          rw [ahead] at hfull
          omega)
      have hrest : rest = front ++ d :: (b ++ rest.drop 4000) := by
        conv_lhs => rw [← take_append_drop 4000 rest, htake]
        simp
      have hahead : s.ahead rest = s.read front ++ (d.sortKey, r) :: s.read b := by
        rw [ahead, htake, append_cons, s.read_append, s.read_append, hd]
        simp
      have hmore : s.read b ≠ [] := by
        intro hnil
        rw [hahead, hnil, length_append, length_singleton] at hfull
        omega
      have hlength : (s.read front).length + 1 = s.query.values.pageSize := by omega
      have hfed := s.fed_append hlength hd (hrest ▸ hfull)
      have hsplit : s.read rest =
          (s.read front ++ [(d.sortKey, r)]) ++ s.read (b ++ rest.drop 4000) := by
        conv_lhs => rw [hrest, append_cons, s.read_append, s.read_append, hd]
      rw [← hrest] at hfed
      generalize hpost : b ++ rest.drop 4000 = post at hrest hfed hsplit
      obtain ⟨token, hfinish, hnext⟩ := s.finishPage_full hdated hepoch
        (hclock.nonneg (i + 1)) (hclock.inTime i)
        (((hclock.matching (i + 1)).trans hmatching).trans (by rw [hrest])) hlength hmore
      rw [hahead, hfinish] at hpage
      have hshorter : post.length ≤ n := by
        have := congrArg List.length hrest
        simp only [length_append, length_cons] at this
        omega
      obtain ⟨pages, k, hpages, hk, hrecords, hiff⟩ := ih hshorter
        (hmatching.trans (by rw [hrest, append_cons, ← append_assoc])) hnext
      refine ⟨_, s.query.values.pageSize + k, .next hpage rfl hpages, ?_, ?_, ?_⟩
      · rw [hsplit, length_append, length_append, length_singleton]
        omega
      · have hcount : (s.read front ++ [(d.sortKey, r)]).length = s.query.values.pageSize := by
          rw [length_append, length_singleton, hlength]
        rw [flatMap_cons, hrecords, hsplit, take_append, hcount, Nat.add_sub_cancel_left,
          take_of_length_le (l := s.read front ++ [(d.sortKey, r)]) (by omega)]
        simp
      · rw [hfed, ← hiff, hsplit, length_append, length_append, length_singleton]
        omega
    · have hsplit : s.read rest = s.ahead rest ++ s.read (rest.drop 4000) := by
        rw [ahead, ← s.read_append, take_append_drop]
      rw [s.finishPage_last (by omega)] at hpage
      refine ⟨_, (s.ahead rest).length, .last hpage rfl, ?_, ?_, ?_⟩
      · rw [hsplit, length_append]
        omega
      · rw [hsplit, take_left]
        simp
      · rw [hsplit, length_append]
        constructor
        · intro hnone pre' post' heq hboundary
          have hempty : s.read (rest.drop 4000) = [] := length_eq_zero_iff.mp (by omega)
          have hlater : post'.drop 4000 = (rest.drop 4000).drop pre'.length := by
            rw [heq, drop_drop, Nat.add_comm, ← drop_drop, drop_left]
          have hcut := s.read_append ((rest.drop 4000).take pre'.length)
            ((rest.drop 4000).drop pre'.length)
          rw [take_append_drop, hempty] at hcut
          exact .inl (hlater ▸ (append_eq_nil_iff.mp hcut.symm).2)
        · intro hfed
          have hstart : s.Boundary [] := ⟨by simp [read], .inl rfl⟩
          rcases hfed [] rest rfl hstart with hnone | hmore
          · rw [hnone]
            simp
          · exact absurd hmore hfull

theorem pages_unique {pages pages' : List (Page τ ρ)}
    (h : Pages s clock i cursor pages) (h' : Pages s clock i cursor pages') : pages' = pages := by
  induction h generalizing pages' with
  | last h hnone =>
    cases h' with
    | last h' hnone' =>
      cases h.symm.trans h'
      rfl
    | next h' hsome' hrest' =>
      cases h.symm.trans h'
      cases hnone.symm.trans hsome'
  | next h hsome hrest ih =>
    cases h' with
    | last h' hnone' =>
      cases h.symm.trans h'
      cases hsome.symm.trans hnone'
    | next h' hsome' hrest' =>
      cases h.symm.trans h'
      cases hsome.symm.trans hsome'
      rw [ih hrest']

def Authorized (d : Document) : Prop := (s.reader d.recordID).isOk = true

instance (d : Document) : Decidable (s.Authorized d) := by
  unfold Authorized
  infer_instance

theorem read_take (ds : List Document) (k : Nat) :
    Forall₂ (fun d r => s.reader d.recordID = .ok r) ((ds.filter (s.Authorized ·)).take k)
      (((s.read ds).take k).map (·.2)) ∧ (s.read ds).length = (ds.filter (s.Authorized ·)).length := by
  induction ds generalizing k with
  | nil => simp [read]
  | cons d ds ih =>
    cases hr : s.reader d.recordID with
    | error e =>
      have hauth : ¬ s.Authorized d := by simp [Authorized, hr, Except.isOk, Except.toBool]
      rw [s.read_cons_of_error hr, filter_cons_of_neg (by simpa using hauth)]
      exact ih k
    | ok r =>
      have hauth : s.Authorized d := by simp [Authorized, hr, Except.isOk, Except.toBool]
      rw [s.read_cons_of_ok hr, filter_cons_of_pos (by simpa using hauth)]
      refine ⟨?_, by simp [(ih 0).2]⟩
      cases k with
      | zero => simp
      | succ k => exact .cons hr (ih k).1

end Setting

/-- Following the cursors from the start ends, and shows the authorized matches once each in strict
sort order up to some point; they are all shown exactly when no page starves, that is when from the
start and from the end of every full page the next 4000 matches hold more than a page of authorized
ones or all that are left. -/
theorem pages_list_authorized_matches (s : Setting τ ρ) {u : Unicode} {v : QueryValues}
    {clock : Nat → Int} (hquery : normalizeQuery u v = .ok s.query) (hclock : s.Clocked clock)
    (hanswers : s.Answers) (hdated : s.Dated) (hepoch : s.AfterEpoch) :
    ∃ (pages : List (Page τ ρ)) (listed : List Document) (k : Nat),
      (∀ pages', Pages s clock 0 none pages' ↔ pages' = pages) ∧
      (∀ d, d ∈ listed ↔ d ∈ s.index.documents ∧
        matchesQuery s.lower s.query.values (clock 0) s.reserved d = true ∧ s.Authorized d) ∧
      listed.Pairwise (fun d e => after s.query.values.sort d.sortKey e.sortKey) ∧
      Forall₂ (fun d r => s.reader d.recordID = .ok r) (listed.take k)
        (pages.flatMap (·.records)) ∧
      (listed.take k = listed ↔ s.Fed (s.matching (clock 0))) := by
  have hsize : 0 < s.query.values.pageSize := by
    have hn := (normalizeQuery_ok.mp hquery).1.pageSize.2
    rw [hn, QueryValues.pageLimit]
    split_ifs with hzero
    · decide
    · omega
  obtain ⟨pages, k, hpages, hk, hrecords, hiff⟩ := s.pages_from hdated hepoch hanswers hclock hsize
    (Nat.le_refl _) (nil_append _).symm .start
  obtain ⟨hread, hlength⟩ := s.read_take (s.matching (clock 0)) k
  refine ⟨pages, (s.matching (clock 0)).filter (s.Authorized ·), k, fun pages' => ⟨fun h => ?_, ?_⟩,
    fun d => ?_, (s.matching_sorted).filter _, hrecords ▸ hread, ?_⟩
  · exact s.pages_unique hpages h
  · rintro rfl
    exact hpages
  · rw [mem_filter, s.mem_matching, and_assoc, decide_eq_true_eq]
  · rw [← hiff, hlength]
    constructor
    · intro hall
      have hcount := congrArg List.length hall
      rw [length_take] at hcount
      omega
    · intro hall
      exact take_of_length_le (Nat.le_of_eq hall.symm)

/-! ### A run of denied records -/

def letter (k : Nat) : Char := Char.ofNat (97 + k)

def sampleID (i : Nat) : String :=
  String.ofList ['r', 'e', 'c', '_', letter (i / 625), letter (i / 25 % 25), letter (i % 25)]

theorem letter_word {k : Nat} (h : k < 25) : 'a' ≤ letter k ∧ letter k ≤ 'z' := by
  revert k
  decide

theorem letter_injective {k k' : Nat} (h : k < 25) (h' : k' < 25) (heq : letter k = letter k') :
    k = k' := by
  have hall : ∀ k < 25, ∀ k' < 25, letter k = letter k' → k = k' := by decide
  exact hall k h k' h' heq

theorem sampleID_valid (h : i < 15625) : validRecordRootID (sampleID i) = true := by
  have h1 := letter_word (k := i / 625) (by omega)
  have h2 := letter_word (k := i / 25 % 25) (by omega)
  have h3 := letter_word (k := i % 25) (by omega)
  have htag : "rec_".toList = ['r', 'e', 'c', '_'] := by decide
  have hlength : "rec_".length = 4 := by decide
  have hlist : (sampleID i).toList =
      ['r', 'e', 'c', '_', letter (i / 625), letter (i / 25 % 25), letter (i % 25)] :=
    String.toList_ofList
  have hcount : (sampleID i).length = 7 := by
    rw [← String.length_toList, hlist]
    rfl
  simp [validRecordRootID, wordIdentity, hlist, hcount, htag, hlength, h1, h2, h3]

theorem sampleID_injective {j : Nat} (hi : i < 15625) (hj : j < 15625) (h : sampleID i = sampleID j) :
    i = j := by
  simp only [sampleID, String.ofList_inj, cons.injEq, true_and, and_true] at h
  have h1 := letter_injective (by omega) (by omega) h.1
  have h2 := letter_injective (by omega) (by omega) h.2.1
  have h3 := letter_injective (by omega) (by omega) h.2.2
  omega

def sampleDocument (i : Nat) : Document :=
  ⟨sampleID i, "active", "note", none, none, none, "", [], [], 0, none, none, none, 1000000 - i, []⟩

def sampleIndex (n : Nat) (hn : n ≤ 15625) : Index where
  generation := 1
  documents := (List.range n).map sampleDocument
  published := by decide
  nodup := by
    rw [map_map]
    refine nodup_range.map_on fun i hi j hj heq => ?_
    rw [mem_range] at hi hj
    exact sampleID_injective (by omega) (by omega) heq
  identity d hd := by
    obtain ⟨i, hi, rfl⟩ := mem_map.mp hd
    exact sampleID_valid (by rw [mem_range] at hi; omega)
  range d hd := by
    obtain ⟨i, hi, rfl⟩ := mem_map.mp hd
    rw [mem_range] at hi
    simp only [sampleDocument]
    omega

def sampleNormalized : Query :=
  let values := { sampleQuery with sort := "updated_at_desc", pageSize := 50 }
  ⟨values, canonicalQueryBytes values⟩

theorem sampleNormalized_eq : normalizeQuery sampleUnicode sampleQuery = .ok sampleNormalized := rfl

/-- The index asked for everything by an actor who may see some of its records. -/
def sampleSetting (n : Nat) (hn : n ≤ 15625) (visible : String → Bool) :
    Setting CursorEnvelope String where
  lower := id
  digest _ := ""
  transport := ⟨id, some, fun _ => rfl⟩
  index := sampleIndex n hn
  reserved := []
  reader id := if visible id then .ok id else .error .denied
  query := sampleNormalized
  actorDigest := ""
  cursorTTL := 30 * 60 * 1000000

section

variable {n : Nat} {hn : n ≤ 15625} {visible : String → Bool}

theorem sampleSetting_matches (now : Int) (i : Nat) :
    matchesQuery id sampleNormalized.values now [] (sampleDocument i) = true := rfl

theorem sampleSetting_documents (h : i < n) :
    sampleDocument i ∈ (sampleSetting n hn visible).index.documents :=
  mem_map_of_mem (mem_range.mpr h)

theorem sampleSetting_clocked : (sampleSetting n hn visible).Clocked fun _ => 1 where
  nonneg _ := by decide
  inTime _ := by
    show (1 : Int) < 1 + 30 * 60 * 1000000
    decide
  stable _ _ _ := rfl

theorem sampleSetting_answers : (sampleSetting n hn visible).Answers := by
  intro id
  simp only [sampleSetting]
  split
  · trivial
  · rename_i e h
    split_ifs at h
    cases h
    rfl

theorem sampleSetting_updatedAt (hd : d ∈ (sampleSetting n hn visible).index.documents) :
    0 < d.updatedAt := by
  obtain ⟨i, hi, rfl⟩ := mem_map.mp hd
  rw [mem_range] at hi
  simp only [sampleDocument]
  omega

theorem sampleSetting_dated : (sampleSetting n hn visible).Dated := by
  intro d hd
  have hpos := sampleSetting_updatedAt hd
  have hzero : zeroMicro < 0 := by decide
  omega

theorem sampleSetting_epoch : (sampleSetting n hn visible).AfterEpoch := by
  intro d hd
  have hpos := sampleSetting_updatedAt hd
  omega

theorem sampleSetting_matching (now : Int) : (sampleSetting n hn visible).matching now =
    (List.range n).map sampleDocument := by
  have hfilter : ((List.range n).map sampleDocument).filter (fun d =>
      matchesQuery id sampleNormalized.values now [] d) = (List.range n).map sampleDocument := by
    refine filter_eq_self.mpr fun d hd => ?_
    obtain ⟨i, -, rfl⟩ := mem_map.mp hd
    exact sampleSetting_matches now i
  show mergeSort (((List.range n).map sampleDocument).filter (fun d =>
      matchesQuery id sampleNormalized.values now [] d)) (ordered "updated_at_desc") = _
  rw [hfilter]
  refine mergeSort_of_pairwise (pairwise_map.mpr ?_)
  refine pairwise_lt_range.imp fun {i j} hij => ?_
  rw [ordered_iff]
  refine .inr ?_
  simp only [after, Document.sortKey, sampleDocument]
  rw [if_neg (by decide), Prod.Lex.toLex_lt_toLex]
  exact .inl (by simp; omega)

end

/-- 51 notes, all of which the actor may see: the first page is full, and its cursor leads on to the
last of them. -/
theorem pages_list_authorized_matches_cursor :
    let s := sampleSetting 51 (by decide) fun _ => true
    ∃ (first : Page CursorEnvelope String) (token : CursorEnvelope)
      (rest : List (Page CursorEnvelope String)) (listed : List Document),
      first.nextCursor = some token ∧ Pages s (fun _ => 1) 0 none (first :: rest) ∧
      Pages s (fun _ => 1) 1 (some token) rest ∧ (∀ i < 51, sampleDocument i ∈ listed) ∧
      Forall₂ (fun d r => s.reader d.recordID = .ok r) listed
        ((first :: rest).flatMap (·.records)) := by
  intro s
  obtain ⟨pages, listed, k, hpages, hlisted, -, hrecords, hall⟩ := pages_list_authorized_matches
    s sampleNormalized_eq sampleSetting_clocked sampleSetting_answers sampleSetting_dated
    sampleSetting_epoch
  have hdocuments : ∀ i < 51, sampleDocument i ∈ listed := fun i hi =>
    (hlisted _).mpr ⟨sampleSetting_documents hi, sampleSetting_matches 1 i, rfl⟩
  have hfed : s.Fed (s.matching 1) := by
    intro pre post heq _
    have hlength := congrArg List.length heq
    rw [sampleSetting_matching, length_map, length_range, length_append] at hlength
    rw [drop_eq_nil_of_le (by omega)]
    exact .inl rfl
  rw [hall.mpr hfed] at hrecords
  cases (hpages pages).mpr rfl with
  | last h hnone =>
    have hahead : s.ahead (s.matching 1) =
        (List.range 51).map fun i => ((sampleDocument i).sortKey, sampleID i) := by
      rw [Setting.ahead, sampleSetting_matching, take_of_length_le (by simp), Setting.read,
        filterMap_map]
      exact congrFun (filterMap_eq_map (f := fun i => ((sampleDocument i).sortKey, sampleID i))) _
    rw [Setting.search_eq _ sampleSetting_dated sampleSetting_answers .start, hahead, finishPage] at h
    split_ifs at h with hlong
    · -- a full page has a cursor
      split at h
      · cases h
      · obtain ⟨token, -, h⟩ := except_bind_eq_ok h
        cases h
        cases hnone
    · exact absurd hlong (by decide)
  | next h hsome hrest => exact ⟨_, _, _, _, hsome, .next h hsome hrest, hrest, hdocuments, hrecords⟩

/-- 4000 denied notes hide the one after them: the only page is empty and has no cursor. -/
theorem denied_records_end_the_pages :
    let s := sampleSetting 4001 (by decide) (· == sampleID 4000)
    (s.Clocked (fun _ => 1) ∧ s.Answers ∧ s.Dated ∧ s.AfterEpoch) ∧
      (sampleDocument 4000 ∈ s.index.documents ∧
        matchesQuery s.lower s.query.values 1 s.reserved (sampleDocument 4000) = true ∧
        s.Authorized (sampleDocument 4000)) ∧
      Pages s (fun _ => 1) 0 none [⟨[], none⟩] := by
  refine ⟨⟨sampleSetting_clocked, sampleSetting_answers, sampleSetting_dated, sampleSetting_epoch⟩,
    ⟨?_, sampleSetting_matches 1 4000, ?_⟩, .last ?_ rfl⟩
  · exact sampleSetting_documents (by omega)
  · simp [Setting.Authorized, sampleSetting, sampleDocument, Except.isOk, Except.toBool]
  · have hnone : (sampleSetting 4001 (by decide) (· == sampleID 4000)).ahead
        ((sampleSetting 4001 (by decide) (· == sampleID 4000)).matching 1) = [] := by
      rw [Setting.ahead, sampleSetting_matching, ← map_take, take_range]
      refine filterMap_eq_nil_iff.mpr fun d hd => ?_
      obtain ⟨i, hi, rfl⟩ := mem_map.mp hd
      rw [mem_range] at hi
      have hdenied : (sampleDocument i).recordID ≠ sampleID 4000 := fun heq => by
        have := sampleID_injective (by omega) (by omega) heq
        omega
      simp [sampleSetting, hdenied, Except.toOption]
    rw [Setting.search_eq _ sampleSetting_dated sampleSetting_answers .start, hnone,
      take_nil, finishPage, if_neg (by simp)]
    rfl

end Houfeng.Search
