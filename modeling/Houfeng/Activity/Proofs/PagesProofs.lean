import Houfeng.Activity.Proofs.ProjectionProofs

/-!
# Pages are a snapshot

What the statement lists at a watermark depends on the rows up to the watermark only, so batches
published later do not change it. The reader's pages are a beginning of that listing at every moment,
and the position it holds is the end of that beginning. A reader who asks for the current versions is
refused: the statement reads a column that its relation does not have.
-/

namespace Houfeng.Activity

open List Keyset

/-! ## The listing at a watermark -/

/-- What is to be listed at a watermark: events of the subject that match the query and the
authorization. -/
def Listed (q : Query) (auth : AuthFilter) (rows : List Row) (asOf : Nat) (r : Row) : Prop :=
  r ∈ rows ∧ r.ingestSequence ≤ asOf ∧ (∃ s ∈ r.event.subjects, matchesSubject q s = true) ∧
    matchesEvent q auth r = true

variable {shown rest : List Row} {last : Row}

section

variable {db db' : Projection} {q : Query} {auth : AuthFilter} {asOf : Nat}
  {position : Option SortKey} {r : Row}

theorem keysetAfter_iff {k : SortKey} : keysetAfter k r = true ↔ k < r.sortKey := by
  have hlt : ∀ (a : Intᵒᵈ) (b : Int), a < OrderDual.toDual b ↔ b < OrderDual.ofDual a :=
    fun _ _ => Iff.rfl
  have heq : ∀ (a : Intᵒᵈ) (b : Int), a = OrderDual.toDual b ↔ b = OrderDual.ofDual a :=
    fun _ _ => eq_comm
  simp only [keysetAfter, Row.sortKey, SortKey.mk, Bool.or_eq_true, Bool.and_eq_true,
    decide_eq_true_eq, Prod.Lex.lt_iff, ofLex_toLex, hlt, heq, @eq_comm _ r.event.sourceKind]
  grind

theorem mem_matched (hdb : WellFormed db) : r ∈ matched db q auth asOf position ↔
    Listed q auth db.rows asOf r ∧ ∀ k ∈ position, k < r.sortKey := by
  simp only [matched, mem_dedup, mem_map, mem_filter, Projection.relations,
    mem_flatMap, Bool.and_eq_true, decide_eq_true_eq, Option.all_eq_true, keysetAfter_iff]
  constructor
  · rintro ⟨⟨r', s⟩, ⟨⟨r'', hr, s', hs, heq⟩, ⟨⟨hsubject, hevent⟩, -, hseq⟩, hafter⟩, rfl⟩
    cases heq
    exact ⟨⟨hr, hseq, ⟨s, hs, hsubject⟩, hevent⟩, hafter⟩
  · rintro ⟨⟨hr, hseq, ⟨s, hs, hsubject⟩, hevent⟩, hafter⟩
    exact ⟨(r, s), ⟨⟨r, hr, s, hs, rfl⟩, ⟨⟨hsubject, hevent⟩, (hdb.sequenced.bounds hr).1, hseq⟩,
      hafter⟩, rfl⟩

def listing (db : Projection) (q : Query) (auth : AuthFilter) (asOf : Nat)
    (position : Option SortKey) : List Row :=
  sorted Row.sortKey (matched db q auth asOf position)

theorem mem_listing (hdb : WellFormed db) : r ∈ listing db q auth asOf position ↔
    Listed q auth db.rows asOf r ∧ ∀ k ∈ position, k < r.sortKey := by
  rw [listing, mem_sorted, mem_matched hdb]

theorem sortKey_activityID {r r' : Row} (h : r.sortKey = r'.sortKey) : r.activityID = r'.activityID :=
  congrArg (fun k : SortKey => (ofLex (ofLex (ofLex k).2).2).2) h

theorem listing_listing (hdb : WellFormed db) :
    Listing Row.sortKey (listing db q auth asOf position) := by
  refine listing_sorted (nodup_dedup _) fun r hr r' hr' hkey => ?_
  exact inj_on_of_nodup_map hdb.identified ((mem_matched hdb).mp hr).1.1
    ((mem_matched hdb).mp hr').1.1 (sortKey_activityID hkey)

theorem listing_after (hdb : WellFormed db) (h : listing db q auth asOf none = shown ++ rest)
    (hlast : shown.getLast? = some last) :
    listing db q auth asOf (some last.sortKey) = rest := by
  have hshown : shown = shown.dropLast ++ [last] := (dropLast_append_getLast? last hlast).symm
  have hall := @listing_listing db q auth asOf none hdb
  have hafter : (listing db q auth asOf none).filter (fun r => last.sortKey < r.sortKey) = rest := by
    rw [h, hshown, append_assoc, singleton_append] at hall ⊢
    exact hall.filter_after
  rw [← hafter]
  refine (listing_listing hdb).eq (hall.filter _) fun r => ?_
  rw [mem_filter, mem_listing hdb, mem_listing hdb]
  simp

/-! ## Batches published later -/

variable {rows new : List Row}

theorem Sequenced.mem_of_le (hrows : Sequenced rows) (h : Sequenced (rows ++ new))
    (hr : r ∈ rows ++ new) (hle : r.ingestSequence ≤ rows.length) :
    r ∈ rows := by
  have hnew : new.map (·.ingestSequence) = range' (1 + rows.length) new.length := by
    rw [Sequenced, map_append, hrows, length_append, ← range'_append_1] at h
    exact append_cancel_left h
  refine (mem_append.mp hr).resolve_right fun hmem => ?_
  have hrange : r.ingestSequence ∈ range' (1 + rows.length) new.length := hnew ▸ mem_map_of_mem hmem
  rw [mem_range'_1] at hrange
  omega

theorem listed_append (hrows : Sequenced rows) (h : Sequenced (rows ++ new))
    (hasOf : asOf ≤ rows.length) :
    Listed q auth (rows ++ new) asOf r ↔ Listed q auth rows asOf r := by
  refine ⟨fun hl => ⟨?_, hl.2⟩, fun hl => ⟨mem_append_left _ hl.1, hl.2⟩⟩
  exact hrows.mem_of_le h hl.1 (hl.2.1.trans hasOf)

theorem listed_extends (hdb : WellFormed db) (hdb' : WellFormed db') (h : Extends db db')
    (hasOf : asOf ≤ db.rows.length) :
    Listed q auth db'.rows asOf r ↔ Listed q auth db.rows asOf r := by
  obtain ⟨new, hnew⟩ := h.rows
  have hsequenced := hdb'.sequenced
  rw [← hnew] at hsequenced ⊢
  exact listed_append hdb.sequenced hsequenced hasOf

theorem listing_extends (hdb : WellFormed db) (hdb' : WellFormed db') (h : Extends db db')
    (hasOf : asOf ≤ db.rows.length) :
    listing db' q auth asOf none = listing db q auth asOf none := by
  refine (listing_listing hdb').eq (listing_listing hdb) fun r => ?_
  rw [mem_listing hdb, mem_listing hdb', listed_extends hdb hdb' h hasOf]

theorem loadActivityEvents_eq (hdb : WellFormed db) (hrows : ∀ r ∈ rows, r ∈ db.rows) :
    loadActivityEvents db (rows.map (·.activityID)) = rows := by
  induction rows with
  | nil => rfl
  | cons r rows ih =>
    have hr := hrows r (mem_cons_self ..)
    have hfind : db.rows.find? (·.activityID = r.activityID) = some r := by
      cases hf : db.rows.find? (·.activityID = r.activityID) with
      | none => exact absurd (find?_eq_none.mp hf r hr) (by simp)
      | some r' =>
        have hid : r'.activityID = r.activityID := by simpa using find?_some hf
        rw [inj_on_of_nodup_map hdb.identified (mem_of_find?_eq_some hf) hr hid]
    have hrest := ih fun r' hr' => hrows r' (mem_cons_of_mem _ hr')
    rw [loadActivityEvents] at hrest ⊢
    simp only [map_cons, filterMap_cons, hfind, hrest]

end

/-! ## Cursors -/

variable {τ : Type} {s : Setting τ}

theorem unixMicro_eq {t : Int} (h : -2 ^ 63 ≤ t ∧ t < 2 ^ 63) : unixMicro t = t := by
  rw [unixMicro, Int.emod_eq_of_lt (by omega) (by omega)]
  omega

variable {generation : Nat} {now : Int}

theorem bindCursor_encodeCursor {generation' asOf : Nat} {expiresAt : Int} {token : τ}
    {bound : Nat × Option SortKey} (h : encodeCursor s generation asOf expiresAt last = .ok token)
    (h' : bindCursor s generation' now token = .ok bound) : bound = (asOf, some last.sortKey) := by
  obtain ⟨hvalid, h⟩ := except_guard_eq_ok h
  simp only [not_or, Bool.not_eq_false] at hvalid
  split at h
  · cases h
  rename_i hencrypt
  cases h
  rw [bindCursor, s.sealing.decrypt_encrypt _ _ hencrypt] at h'
  obtain ⟨-, h'⟩ := except_guard_eq_ok h'
  obtain ⟨-, h'⟩ := except_guard_eq_ok h'
  obtain ⟨-, h'⟩ := except_guard_eq_ok h'
  obtain ⟨-, h'⟩ := except_guard_eq_ok h'
  obtain ⟨-, h'⟩ := except_guard_eq_ok h'
  have hkind : last.event.sourceKind ≠ "" := by
    intro hempty
    have := hvalid.2.2
    simp [validPosition, hempty, sourceKinds] at this
  rw [if_pos (.inr (.inr (.inl hkind)))] at h'
  obtain ⟨-, h'⟩ := except_guard_eq_ok h'
  cases h'
  have hevent : unixMicro last.eventAt = last.eventAt := unixMicro_eq last.event.eventRange
  have hrecorded : unixMicro last.recordedAt = last.recordedAt :=
    unixMicro_eq last.event.recordedRange
  simp only [hevent, hrecorded]
  rfl

/-! ## The reader -/

/-- The shown rows end at the position. -/
def Boundary (s : Setting τ) (db : Projection) (asOf : Nat) (shown : List Row)
    (position : Option SortKey) : Prop :=
  (∃ rest, listing db s.query s.auth asOf none = shown ++ rest) ∧
    match position with
    | none => shown = []
    | some k => ∃ last, shown.getLast? = some last ∧ last.sortKey = k

def Reading (s : Setting τ) (db : Projection) (asOf : Nat) (shown : List Row) : Phase τ → Prop
  | .asking none => False
  | .asking (some token) => ∃ last, Boundary s db asOf shown (some last) ∧
      ∀ generation now bound, bindCursor s generation now token = .ok bound → bound = (asOf, some last)
  | .started asOf' position => asOf' = asOf ∧ Boundary s db asOf shown position
  | .listed asOf' _ ids => asOf' = asOf ∧ ∃ rest,
      listing db s.query s.auth asOf none = shown ++ rest ∧
      ids = (rest.take (s.query.limit + 1)).map (·.activityID)
  | .done asOf' => asOf' = asOf ∧ listing db s.query s.auth asOf none = shown

variable {asOf : Nat} {db db' : Projection}

/-- The listing does not change, so neither does what the reader holds. -/
theorem Reading.of_listing_eq {phase : Phase τ} (h : Reading s db asOf shown phase)
    (heq : listing db' s.query s.auth asOf none = listing db s.query s.auth asOf none) :
    Reading s db' asOf shown phase := by
  cases phase with
  | asking cursor =>
    cases cursor with
    | none => exact h
    | some token => simpa only [Reading, Boundary, heq] using h
  | started asOf' position => simpa only [Reading, Boundary, heq] using h
  | listed asOf' position ids => simpa only [Reading, heq] using h
  | done asOf' => simpa only [Reading, heq] using h

variable {db : Projection} {position : Option SortKey}

theorem listCandidates_eq_ok {q : Query} {auth : AuthFilter} {limit : Nat} {ids : List String}
    (h : listCandidates db q auth asOf position limit = .ok ids) :
    q.versions = .history ∧ ids = ((listing db q auth asOf position).take limit).map (·.activityID) := by
  cases hversions : q.versions with
  | history =>
    simp only [listCandidates, Query.versionColumns, hversions, find?_nil] at h
    exact ⟨rfl, (Except.ok.inj h).symm⟩
  | current =>
    have hlacks : ["revision_id", "project_id", "projection_generation", "record_id"].find?
        (· ∉ subjectColumns) = some "project_id" := by decide
    simp only [listCandidates, Query.versionColumns, hversions, hlacks] at h
    cases h

theorem Boundary.list (hdb : WellFormed db) {asOf limit : Nat} {ids : List String}
    (h : Boundary s db asOf shown position)
    (hids : listCandidates db s.query s.auth asOf position limit = .ok ids) :
    ∃ rest, listing db s.query s.auth asOf none = shown ++ rest ∧
      ids = (rest.take limit).map (·.activityID) := by
  obtain ⟨⟨rest, hrest⟩, hposition⟩ := h
  refine ⟨rest, hrest, ?_⟩
  have hlisting : listing db s.query s.auth asOf position = rest := by
    cases position with
    | none =>
      obtain rfl : shown = [] := hposition
      exact hrest
    | some k =>
      obtain ⟨last, hlast, rfl⟩ := hposition
      exact listing_after hdb hrest hlast
  rw [(listCandidates_eq_ok hids).2, hlisting]

variable {page : List Row}

theorem finishPage_reading (hdb : WellFormed db) {next : Option τ}
    (hrest : listing db s.query s.auth asOf none = shown ++ rest)
    (h : finishPage s generation asOf now
      (loadActivityEvents db ((rest.take (s.query.limit + 1)).map (·.activityID))) = .ok (page, next)) :
    Reading s db asOf (shown ++ page) (nextPhase asOf next) := by
  rw [loadActivityEvents_eq hdb fun r hr => ?_] at h
  · unfold finishPage at h
    split at h
    · rename_i hmore
      have htake : (rest.take (s.query.limit + 1)).take s.query.limit = rest.take s.query.limit := by
        rw [take_take, Nat.min_eq_left (Nat.le_succ _)]
      rw [htake] at h
      split at h
      · cases h
      · rename_i last hlast
        obtain ⟨token, htoken, h⟩ := except_bind_eq_ok h
        cases h
        refine ⟨last.sortKey, ⟨⟨rest.drop s.query.limit, ?_⟩, last, ?_, rfl⟩, ?_⟩
        · rw [hrest, append_assoc, take_append_drop]
        · rw [getLast?_append, hlast, Option.some_or]
        · exact fun generation' now' bound hbound => bindCursor_encodeCursor htoken hbound
    · rename_i hend
      cases h
      have hall : rest.take (s.query.limit + 1) = rest := by
        rw [length_take] at hend
        exact take_of_length_le (by omega)
      exact ⟨rfl, by rw [hrest, hall]⟩
  · have hmem : r ∈ listing db s.query s.auth asOf none :=
      hrest ▸ mem_append_right _ (mem_of_mem_take hr)
    exact ((mem_listing hdb).mp hmem).1.1

/-! ## Runs -/

/-- The reader began at the watermark: it asked for its first page when so much was published. -/
def Began (hist : List (RunStep (System τ) Label)) (db : Projection) (asOf : Nat) : Prop :=
  ∃ e ∈ hist, e.before.phase = .asking none ∧ e.after.phase = .started asOf none ∧
    e.before.db.published = asOf ∧ Consistent e.before.db ∧ Extends e.before.db db

/-- The tables are consistent, what is about to be committed extends them, and the reader has not
begun or reads at the watermark at which it began. -/
structure Invariant (s : Setting τ) (hist : List (RunStep (System τ) Label)) (sys : System τ) :
    Prop where
  db : Consistent sys.db
  locked : ∀ db ∈ sys.locked, Consistent db ∧ Extends sys.db db
  reader : (sys.phase = .asking none ∧ sys.pages = []) ∨
    ∃ asOf, Began hist sys.db asOf ∧ Reading s sys.db asOf sys.pages.flatten sys.phase

theorem Began.mono {hist new : List (RunStep (System τ) Label)}
    (h : Began hist db asOf) (hdb : Extends db db') : Began (hist ++ new) db' asOf := by
  obtain ⟨e, he, hbefore, hafter, hpublished, hconsistent, hextends⟩ := h
  exact ⟨e, mem_append_left _ he, hbefore, hafter, hpublished, hconsistent, hextends.trans hdb⟩

theorem Began.listing_eq {hist : List (RunStep (System τ) Label)}
    (h : Began hist db asOf) (hdb : Consistent db) (hdb' : Consistent db') (hextends : Extends db db') :
    listing db' s.query s.auth asOf none = listing db s.query s.auth asOf none := by
  obtain ⟨e, -, -, -, hpublished, hconsistent, hbegan⟩ := h
  have hlength : asOf ≤ e.before.db.rows.length := by rw [← hconsistent.published, hpublished]
  have hlater : asOf ≤ db.rows.length := hlength.trans hbegan.rows.length_le
  exact listing_extends hdb.toWellFormed hdb'.toWellFormed hextends hlater

theorem Invariant.initial (generation : Nat) (retired : List Row) :
    Invariant s [] (System.initial generation retired) where
  db := by
    exact ⟨⟨rfl, nodup_nil⟩, rfl⟩
  locked := by simp [System.initial]
  reader := .inl ⟨rfl, rfl⟩

theorem Invariant.step (hist : List (RunStep (System τ) Label)) (sys : System τ) (l : Label)
    (sys' : System τ) (h : Invariant s hist sys) (hstep : Step s sys l sys') :
    Invariant s (hist ++ [⟨sys, l, sys'⟩]) sys' := by
  have hkeep : ∀ asOf, Began hist sys.db asOf → Began (hist ++ [⟨sys, l, sys'⟩]) sys.db asOf :=
    fun _ hbegan => hbegan.mono (.refl _)
  cases hstep with
  | lock hfree hpublish =>
    refine ⟨h.db, fun db hdb => ?_, h.reader.imp_right fun ⟨asOf, hbegan, hreading⟩ =>
      ⟨asOf, hkeep asOf hbegan, hreading⟩⟩
    obtain rfl := Option.some.inj hdb
    exact publishActivityBatchInTx_ok hpublish h.db
  | commit hlocked =>
    obtain ⟨hconsistent, hextends⟩ := h.locked _ hlocked
    refine ⟨hconsistent, by simp, h.reader.imp_right fun ⟨asOf, hbegan, hreading⟩ =>
      ⟨asOf, hbegan.mono hextends, hreading.of_listing_eq ?_⟩⟩
    exact hbegan.listing_eq h.db hconsistent hextends
  | rollback =>
    exact ⟨h.db, by simp, h.reader.imp_right fun ⟨asOf, hbegan, hreading⟩ =>
      ⟨asOf, hkeep asOf hbegan, hreading⟩⟩
  | @start cursor now asOf position hphase hstart =>
    refine ⟨h.db, h.locked, .inr ?_⟩
    rcases h.reader with ⟨hfirst, hpages⟩ | ⟨asOf', hbegan, hreading⟩
    · obtain rfl : cursor = none := by simpa [hphase] using hfirst
      cases hstart
      have hnothing : sys.pages.flatten = [] := by rw [hpages, flatten_nil]
      refine ⟨sys.db.published, ⟨_, mem_append_right _ (mem_singleton.mpr rfl), hphase, rfl,
        rfl, h.db, .refl _⟩, rfl, ⟨listing sys.db s.query s.auth sys.db.published none, ?_⟩, hnothing⟩
      rw [hnothing, nil_append]
    · rw [hphase] at hreading
      cases cursor with
      | none => exact hreading.elim
      | some token =>
        obtain ⟨last, hboundary, hbind⟩ := hreading
        cases hbind _ _ _ hstart
        exact ⟨asOf, hkeep asOf hbegan, rfl, hboundary⟩
  | @list asOf position live ids hphase hlive hids =>
    refine ⟨h.db, h.locked, .inr ?_⟩
    rcases h.reader with ⟨hfirst, -⟩ | ⟨asOf', hbegan, hreading⟩
    · simp [hphase] at hfirst
    · rw [hphase] at hreading
      obtain ⟨rfl, hboundary⟩ := hreading
      exact ⟨asOf, hkeep asOf hbegan, rfl, hboundary.list h.db.toWellFormed hids⟩
  | @load asOf position ids now page next hphase hfinish =>
    refine ⟨h.db, h.locked, .inr ?_⟩
    rcases h.reader with ⟨hfirst, -⟩ | ⟨asOf', hbegan, hreading⟩
    · simp [hphase] at hfirst
    · rw [hphase] at hreading
      obtain ⟨rfl, rest, hrest, rfl⟩ := hreading
      refine ⟨asOf, hkeep asOf hbegan, ?_⟩
      have hpages : (sys.pages ++ [page]).flatten = sys.pages.flatten ++ page := by simp
      rw [hpages]
      exact finishPage_reading h.db.toWellFormed hrest hfinish

/-- The reader has got no page: it asks for its first one. -/
def Unserved (sys : System τ) : Prop :=
  sys.pages = [] ∧ (sys.phase = .asking none ∨ ∃ asOf, sys.phase = .started asOf none)

/-- No statement on current versions is answered, so the reader never gets past its first page. -/
theorem Unserved.step (hversions : s.query.versions = .current) (sys : System τ) (l : Label)
    (sys' : System τ) (h : Unserved sys) (hstep : Step s sys l sys') : Unserved sys' := by
  obtain ⟨hpages, hphase⟩ := h
  cases hstep with
  | lock => exact ⟨hpages, hphase⟩
  | commit => exact ⟨hpages, hphase⟩
  | rollback => exact ⟨hpages, hphase⟩
  | @start cursor now asOf position hasking hstart =>
    rcases hphase with hfirst | ⟨asOf', hstarted⟩
    · obtain rfl : cursor = none := by simpa [hasking] using hfirst
      cases hstart
      exact ⟨hpages, .inr ⟨_, rfl⟩⟩
    · simp [hasking] at hstarted
  | list _ _ hids => cases hversions.symm.trans (listCandidates_eq_ok hids).1
  | load hlisted => simp [hlisted] at hphase

def sampleEvent (name : String) : CandidateEvent where
  activityID := "act_" ++ name
  sourceKind := "record_domain"
  sourceEventID := name
  sourceVersion := 1
  eventKind := "record_revised"
  eventAt := 1700000000000000000
  recordedAt := 1700000000000000000
  subjects := [⟨"vps", "vps_0000000000000001", "affected", true⟩]
  recordID := "rec_a"
  revisionID := "rrv_" ++ name
  revisionNo := 1
  opensRevision := true
  authScopeDigest := ""
  canonicalHash := name
  content := ""
  eventRange := by decide
  recordedRange := by decide

def sampleSetting (versions : VersionScope) : Setting CursorEnvelope where
  sealing := ⟨some, some, fun _ _ h => h ▸ rfl⟩
  query := ⟨"vps", "vps_0000000000000001", .activity, [], [], none, none, versions, 1, by decide⟩
  queryDigest := ""
  actorDigest := ""
  auth := none
  cursorTTL := 1800000000

/-- The tables with the events published one by one; only the first has an interval. -/
def sampleTables (names : List String) : Projection :=
  ⟨1, names.length, names.length, names.zipIdx.map fun (name, i) => ⟨i + 1, sampleEvent name⟩,
    if names.isEmpty then [] else [⟨"rec_a", "rrv_a", 1, 1, none⟩], []⟩

section

variable {s : Setting CursorEnvelope} {phase : Phase CursorEnvelope} {pages : List (List Row)}
  {hist : List (RunStep (System CursorEnvelope) Label)} {sys : System CursorEnvelope}

end

end Houfeng.Activity
