import Houfeng.Incidents.HeartbeatRecovery
import Mathlib.Algebra.Order.BigOperators.Group.Finset
import Mathlib.Data.Nat.Cast.Basic

/-!
# The bounded recovery evidence is exact

What the evaluator concludes depends on the newest time of each batch only. Those times stand in the
first row of each batch, and 768 rows of which at most 256 belong to one batch hold the first rows
of three batches or all rows there are.
-/

namespace Houfeng.Incidents

open List

open Center (trimSpace)

variable {startedAt : Int} {latest : Finmap fun _ : String => Int}
  {receipts receipts' : List LiveHeartbeatReceipt} {rows rest : List HeartbeatRow}
  {policy : HeartbeatIncidentPolicy}

/-! ## Order of the receipts -/

theorem lookup_noteReceipt (receipt : LiveHeartbeatReceipt) (batchID : String) :
    (noteReceipt startedAt latest receipt).lookup batchID =
      if trimSpace receipt.syncBatchID = batchID ∧ batchID ≠ "" ∧ startedAt < receipt.receivedAt ∧
          (latest.lookup batchID).all (fun current => current < receipt.receivedAt) = true then
        some receipt.receivedAt
      else latest.lookup batchID := by
  unfold noteReceipt
  by_cases hbatch : trimSpace receipt.syncBatchID = batchID
  · subst hbatch
    dsimp only
    split_ifs <;> first | rfl | exact Finmap.lookup_insert _ | (exfalso; grind)
  · dsimp only
    split_ifs <;> first | rfl | exact Finmap.lookup_insert_of_ne _ (Ne.symm hbatch) | (exfalso; grind)

theorem noteReceipt_comm (a b : LiveHeartbeatReceipt) :
    noteReceipt startedAt (noteReceipt startedAt latest a) b =
      noteReceipt startedAt (noteReceipt startedAt latest b) a := by
  refine Finmap.ext_lookup fun batchID => ?_
  simp only [lookup_noteReceipt]
  cases latest.lookup batchID with
  | none => split_ifs <;> grind
  | some t => split_ifs <;> grind

theorem latestByBatch_perm (h : receipts.Perm receipts') :
    latestByBatch startedAt receipts = latestByBatch startedAt receipts' :=
  h.foldl_eq' (fun a _ b _ _ => noteReceipt_comm a b) ∅

theorem evidence_perm (h : receipts.Perm receipts') (previous : Option IncidentRecord) :
    hasStableHeartbeatRecoveryEvidence previous policy receipts =
      hasStableHeartbeatRecoveryEvidence previous policy receipts' := by
  unfold hasStableHeartbeatRecoveryEvidence
  simp only [h.length_eq, latestByBatch_perm h]

/-! ## The first rows of the batches -/

theorem firstOfBatch_sublist : (firstOfBatch rows).Sublist rows := by
  induction rows with
  | nil => exact .slnil
  | cons row rest ih => exact .cons_cons _ (filter_sublist.trans ih)

theorem firstOfBatch_pairwise :
    (firstOfBatch rows).Pairwise fun a b => a.syncBatchID ≠ b.syncBatchID := by
  induction rows with
  | nil => exact .nil
  | cons row rest ih =>
    refine pairwise_cons.mpr ⟨fun r hr => ?_, ih.filter _⟩
    exact Ne.symm (by simpa using (mem_filter.mp hr).2)

theorem exists_firstOfBatch {row : HeartbeatRow} (h : row ∈ rows) :
    ∃ first ∈ firstOfBatch rows, first.syncBatchID = row.syncBatchID := by
  induction rows with
  | nil => cases h
  | cons head rest ih =>
    by_cases hbatch : row.syncBatchID = head.syncBatchID
    · exact ⟨head, mem_cons_self .., hbatch.symm⟩
    · obtain ⟨first, hfirst, heq⟩ := ih ((mem_cons.mp h).resolve_left fun h => hbatch (h ▸ rfl))
      exact ⟨first, mem_cons_of_mem _ (mem_filter.mpr ⟨hfirst, by simp [heq, hbatch]⟩), heq⟩

theorem firstOfBatch_append (rows rest : List HeartbeatRow) : ∃ more,
    firstOfBatch (rows ++ rest) = firstOfBatch rows ++ more := by
  induction rows with
  | nil => exact ⟨_, rfl⟩
  | cons row rows ih =>
    obtain ⟨more, hmore⟩ := ih
    exact ⟨_, by simp only [cons_append, firstOfBatch, hmore, filter_append]; rfl⟩

variable (h : ∀ batchID, (rows.map (·.syncBatchID)).count batchID ≤ 256)
include h

theorem length_le_of_firstOfBatch : rows.length ≤ 256 * (firstOfBatch rows).length := by
  have hsubset : (rows.map (·.syncBatchID)).toFinset ⊆
      ((firstOfBatch rows).map (·.syncBatchID)).toFinset := by
    intro batchID hmem
    obtain ⟨row, hrow, rfl⟩ := mem_map.mp (mem_toFinset.mp hmem)
    obtain ⟨first, hfirst, heq⟩ := exists_firstOfBatch hrow
    exact mem_toFinset.mpr (mem_map.mpr ⟨first, hfirst, heq⟩)
  have hcard := (Finset.card_le_card hsubset).trans (toFinset_card_le _)
  have hsum := Finset.sum_le_card_nsmul (rows.map (·.syncBatchID)).toFinset _ 256
    fun batchID _ => h batchID
  rw [sum_toFinset_count_eq_length, length_map, nsmul_eq_mul] at hsum
  rw [length_map] at hcard
  rw [Nat.cast_id] at hsum
  omega

theorem take_firstOfBatch :
    (firstOfBatch (rows.take heartbeatRecoveryCandidateLimit)).take 3 =
      (firstOfBatch rows).take 3 := by
  obtain ⟨more, hmore⟩ := firstOfBatch_append (rows.take heartbeatRecoveryCandidateLimit)
    (rows.drop heartbeatRecoveryCandidateLimit)
  rw [take_append_drop] at hmore
  by_cases hthree : 3 ≤ (firstOfBatch (rows.take heartbeatRecoveryCandidateLimit)).length
  · rw [hmore, take_append_of_le_length hthree]
  · have hshort := length_le_of_firstOfBatch fun batchID =>
      (((take_sublist heartbeatRecoveryCandidateLimit rows).map _).count_le batchID).trans
        (h batchID)
    rw [length_take] at hshort
    have hall : rows.length ≤ heartbeatRecoveryCandidateLimit := by
      unfold heartbeatRecoveryCandidateLimit heartbeatRecoverySuccesses at *
      omega
    rw [take_of_length_le hall]

omit h

/-! ## The newest time of each batch -/

structure Counted (startedAt : Int) (receipt : LiveHeartbeatReceipt) : Prop where
  plain : trimSpace receipt.syncBatchID = receipt.syncBatchID
  named : receipt.syncBatchID ≠ ""
  recent : startedAt < receipt.receivedAt

variable {receipt : LiveHeartbeatReceipt}

theorem Counted.noteReceipt_eq (h : Counted startedAt receipt) :
    noteReceipt startedAt latest receipt =
      if (latest.lookup receipt.syncBatchID).all fun current => current < receipt.receivedAt then
        latest.insert receipt.syncBatchID receipt.receivedAt
      else latest := by
  unfold noteReceipt
  dsimp only
  rw [h.plain, if_neg (not_or.mpr ⟨h.named, not_le.mpr h.recent⟩)]

theorem Counted.lookup (h : Counted startedAt receipt) (latest : Finmap fun _ : String => Int) :
    ∃ t, (noteReceipt startedAt latest receipt).lookup receipt.syncBatchID = some t ∧
      receipt.receivedAt ≤ t := by
  rw [lookup_noteReceipt]
  by_cases hnew : (latest.lookup receipt.syncBatchID).all
      (fun current => current < receipt.receivedAt) = true
  · exact ⟨_, if_pos ⟨h.plain, h.named, h.recent, hnew⟩, le_rfl⟩
  · rw [if_neg fun h => hnew h.2.2.2]
    cases hlookup : latest.lookup receipt.syncBatchID with
    | none => simp [hlookup] at hnew
    | some t => exact ⟨t, rfl, by simpa [hlookup] using hnew⟩

theorem foldl_noteReceipt_filter {batchID : String} {t : Int}
    (hlookup : latest.lookup batchID = some t)
    (hcounted : ∀ r ∈ receipts, Counted startedAt r)
    (hold : ∀ r ∈ receipts, r.syncBatchID = batchID → r.receivedAt ≤ t) :
    (receipts.filter fun r => r.syncBatchID ≠ batchID).foldl (noteReceipt startedAt) latest =
      receipts.foldl (noteReceipt startedAt) latest := by
  induction receipts generalizing latest with
  | nil => rfl
  | cons r rest ih =>
    obtain ⟨hr, hcounted⟩ := forall_mem_cons.mp hcounted
    obtain ⟨hle, hold⟩ := forall_mem_cons.mp hold
    by_cases hbatch : r.syncBatchID = batchID
    · have hsame : noteReceipt startedAt latest r = latest := by
        rw [hr.noteReceipt_eq, hbatch, hlookup, if_neg (by simpa using hle hbatch)]
      rw [filter_cons_of_neg (by simp [hbatch]), foldl_cons, hsame]
      exact ih hlookup hcounted hold
    · rw [filter_cons_of_pos (by simp [hbatch]), foldl_cons, foldl_cons]
      refine ih ?_ hcounted hold
      rw [lookup_noteReceipt, if_neg fun h => hbatch (hr.plain ▸ h.1), hlookup]

/-- From the newest to the oldest, only the first row of each batch counts. -/
theorem foldl_firstOfBatch (hcounted : ∀ r ∈ rows, Counted startedAt r.toLiveHeartbeatReceipt)
    (hsorted : rows.Pairwise fun a b => b.receivedAt ≤ a.receivedAt) :
    ((firstOfBatch rows).map (·.toLiveHeartbeatReceipt)).foldl (noteReceipt startedAt) latest =
      (rows.map (·.toLiveHeartbeatReceipt)).foldl (noteReceipt startedAt) latest := by
  induction rows generalizing latest with
  | nil => rfl
  | cons row rest ih =>
    obtain ⟨hrow, hcounted⟩ := forall_mem_cons.mp hcounted
    obtain ⟨hnewest, hsorted⟩ := pairwise_cons.mp hsorted
    obtain ⟨t, hlookup, hle⟩ := hrow.lookup latest
    have hfilter : ((firstOfBatch rest).filter fun r => r.syncBatchID ≠ row.syncBatchID).map
        (·.toLiveHeartbeatReceipt) = ((firstOfBatch rest).map (·.toLiveHeartbeatReceipt)).filter
          fun r => r.syncBatchID ≠ row.syncBatchID := by
      rw [filter_map]
      rfl
    rw [firstOfBatch, map_cons, foldl_cons, hfilter, foldl_noteReceipt_filter hlookup,
      ih hcounted hsorted, map_cons, foldl_cons]
    · simp only [forall_mem_map]
      exact fun r hr => hcounted r (firstOfBatch_sublist.subset hr)
    · simp only [forall_mem_map]
      exact fun r hr _ => (hnewest r (firstOfBatch_sublist.subset hr)).trans hle

theorem entries_foldl_noteReceipt (hcounted : ∀ r ∈ receipts, Counted startedAt r)
    (hpairwise : receipts.Pairwise fun a b => a.syncBatchID ≠ b.syncBatchID)
    (hnew : ∀ r ∈ receipts, r.syncBatchID ∉ latest) :
    (receipts.foldl (noteReceipt startedAt) latest).entries.map Sigma.snd =
      (receipts.map (·.receivedAt) : Multiset Int) + latest.entries.map Sigma.snd := by
  induction receipts generalizing latest with
  | nil => simp
  | cons r rest ih =>
    obtain ⟨hr, hcounted⟩ := forall_mem_cons.mp hcounted
    obtain ⟨hother, hpairwise⟩ := pairwise_cons.mp hpairwise
    obtain ⟨hfree, hnew⟩ := forall_mem_cons.mp hnew
    have hinsert : noteReceipt startedAt latest r = latest.insert r.syncBatchID r.receivedAt := by
      rw [hr.noteReceipt_eq, Finmap.lookup_eq_none.mpr hfree, Option.all_none, if_pos rfl]
    rw [foldl_cons, hinsert, ih hcounted hpairwise, Finmap.entries_insert_of_notMem hfree]
    · simp [← Multiset.cons_coe, Multiset.add_cons]
    · intro r' hr'
      rw [Finmap.mem_insert, not_or]
      exact ⟨Ne.symm (hother r' hr'), hnew r' hr'⟩

/-- Rows of different batches that count, from the newest to the oldest. -/
structure Newest (startedAt : Int) (rows : List HeartbeatRow) : Prop where
  counted : ∀ row ∈ rows, Counted startedAt row.toLiveHeartbeatReceipt
  batches : rows.Pairwise fun a b => a.syncBatchID ≠ b.syncBatchID
  sorted : rows.Pairwise fun a b => b.receivedAt ≤ a.receivedAt

theorem Newest.take (h : Newest startedAt rows) (n : Nat) : Newest startedAt (rows.take n) where
  counted := fun row hrow => h.counted row (mem_of_mem_take hrow)
  batches := h.batches.sublist (take_sublist n rows)
  sorted := h.sorted.sublist (take_sublist n rows)

theorem Newest.evidence {previous : IncidentRecord} (h : Newest previous.startedAt rows)
    (hlatest : latestByBatch previous.startedAt receipts =
      latestByBatch previous.startedAt (rows.map (·.toLiveHeartbeatReceipt)))
    (hlength : rows.length ≤ receipts.length) :
    hasStableHeartbeatRecoveryEvidence (some previous) policy receipts =
      (previous.startedAt ≠ 0 && policy.recoverySuccesses ≤ rows.length &&
        withinGap policy.recoveryMaxIntervalGap (Keyset.sorted id
          ((rows.map (·.receivedAt)).take policy.recoverySuccesses.toNat))) := by
  have htimes : (latestByBatch previous.startedAt receipts).entries.map Sigma.snd =
      (rows.map (·.receivedAt) : Multiset Int) := by
    rw [hlatest, latestByBatch, entries_foldl_noteReceipt]
    · simp [Function.comp_def, show (∅ : Finmap fun _ : String => Int).entries = 0 from rfl]
    · simpa only [forall_mem_map] using h.counted
    · exact pairwise_map.mpr h.batches
    · exact fun _ _ => Finmap.notMem_empty
  have hcard : (latestByBatch previous.startedAt receipts).entries.card = rows.length := by
    rw [← Multiset.card_map Sigma.snd, htimes, Multiset.coe_card, length_map]
  have hsort : (rows.map (·.receivedAt) : Multiset Int).sort (· ≥ ·) = rows.map (·.receivedAt) := by
    rw [Multiset.coe_sort]
    exact mergeSort_of_pairwise
      (pairwise_map.mpr (h.sorted.imp fun h => decide_eq_true h))
  simp only [hasStableHeartbeatRecoveryEvidence, hcard, htimes, hsort]
  split_ifs with hstart hfew
  · rcases hstart with hzero | hshort
    · simp [hzero]
    · simp [show ¬policy.recoverySuccesses ≤ rows.length by omega]
  · simp [hfew]
  · rw [not_or] at hstart
    simp [hstart.1, not_lt.mp hfew]

/-! ## The table -/

theorem pairwise_of_recentKey (h : rows.Pairwise fun a b => recentKey a ≤ recentKey b) :
    rows.Pairwise fun a b => b.receivedAt ≤ a.receivedAt := by
  refine h.imp fun {a b} hle => ?_
  rcases Prod.Lex.le_iff.mp hle with hlt | ⟨heq, -⟩
  · exact (neg_lt_neg_iff.mp hlt).le
  · exact (neg_inj.mp heq).ge

theorem recentLiveHeartbeatReceipts_eq (rows : List HeartbeatRow) (monitoringInstanceID : String)
    (startedAt : Int) :
    recentLiveHeartbeatReceipts rows monitoringInstanceID startedAt =
      ((firstOfBatch ((Keyset.sorted recentKey ((liveHeartbeats rows monitoringInstanceID).filter
        fun row => startedAt < row.receivedAt)).take heartbeatRecoveryCandidateLimit)).take 3).map
          (·.toLiveHeartbeatReceipt) := by
  rw [recentLiveHeartbeatReceipts, Keyset.sorted_of_pairwise (Keyset.pairwise_sorted.sublist
    (firstOfBatch_sublist.trans (take_sublist _ _)))]

theorem latestByBatch_filter :
    latestByBatch startedAt (receipts.filter fun r => startedAt < r.receivedAt) =
      latestByBatch startedAt receipts := by
  unfold latestByBatch
  rw [foldl_filter]
  congr 1
  funext latest r
  by_cases hold : startedAt < r.receivedAt
  · simp [hold]
  · simp [hold, noteReceipt, not_lt.mp hold]

/-- The order of the receipts does not matter. Where no batch has more than 256 live rows and their
batches are named, without blanks around the name, the receipts of the bounded query are as good as
all live heartbeats. -/
theorem bounded_recovery_evidence_exact :
    (∀ (previous : Option IncidentRecord) (policy : HeartbeatIncidentPolicy)
      (receipts receipts' : List LiveHeartbeatReceipt), receipts.Perm receipts' →
      hasStableHeartbeatRecoveryEvidence previous policy receipts =
        hasStableHeartbeatRecoveryEvidence previous policy receipts') ∧
    ∀ (rows : List HeartbeatRow) (monitoringInstanceID : String) (previous : IncidentRecord)
      (policy : HeartbeatIncidentPolicy), validHeartbeatIncidentPolicy policy = true →
      (∀ batchID, ((liveHeartbeats rows monitoringInstanceID).map (·.syncBatchID)).count batchID ≤
        256) →
      (∀ row ∈ liveHeartbeats rows monitoringInstanceID,
        trimSpace row.syncBatchID = row.syncBatchID ∧ row.syncBatchID ≠ "") →
      hasStableHeartbeatRecoveryEvidence (some previous) policy
          (recentLiveHeartbeatReceipts rows monitoringInstanceID previous.startedAt) =
        hasStableHeartbeatRecoveryEvidence (some previous) policy
          ((liveHeartbeats rows monitoringInstanceID).map (·.toLiveHeartbeatReceipt)) := by
  refine ⟨fun previous policy receipts receipts' h => evidence_perm h previous, ?_⟩
  intro rows monitoringInstanceID previous policy hpolicy hbound hplain
  let live := (liveHeartbeats rows monitoringInstanceID).filter
    fun row => previous.startedAt < row.receivedAt
  let recent := Keyset.sorted recentKey live
  have hcounted : ∀ row ∈ recent, Counted previous.startedAt row.toLiveHeartbeatReceipt := by
    intro row hrow
    obtain ⟨hlive, hrecent⟩ := mem_filter.mp (Keyset.mem_sorted.mp hrow)
    exact ⟨(hplain row hlive).1, (hplain row hlive).2, by simpa using hrecent⟩
  have hordered : recent.Pairwise fun a b => recentKey a ≤ recentKey b := Keyset.pairwise_sorted
  have hnewest : Newest previous.startedAt (firstOfBatch recent) :=
    ⟨fun row hrow => hcounted row (firstOfBatch_sublist.subset hrow), firstOfBatch_pairwise,
      (pairwise_of_recentKey hordered).sublist firstOfBatch_sublist⟩
  have hquery : recentLiveHeartbeatReceipts rows monitoringInstanceID previous.startedAt =
      ((firstOfBatch recent).take 3).map (·.toLiveHeartbeatReceipt) := by
    have hfew : ∀ batchID, (recent.map (·.syncBatchID)).count batchID ≤ 256 := fun batchID => by
      rw [(Keyset.sorted_perm.map _).count_eq]
      exact ((filter_sublist.map _).count_le batchID).trans (hbound batchID)
    rw [← take_firstOfBatch hfew, recentLiveHeartbeatReceipts_eq]
  have hall : latestByBatch previous.startedAt
      ((liveHeartbeats rows monitoringInstanceID).map (·.toLiveHeartbeatReceipt)) =
      latestByBatch previous.startedAt ((firstOfBatch recent).map (·.toLiveHeartbeatReceipt)) := by
    rw [latestByBatch, latestByBatch, foldl_firstOfBatch hcounted (pairwise_of_recentKey hordered)]
    refine latestByBatch_filter.symm.trans (latestByBatch_perm ?_)
    rw [filter_map]
    exact (Keyset.sorted_perm.map _).symm
  have hlength : (firstOfBatch recent).length ≤
      ((liveHeartbeats rows monitoringInstanceID).map (·.toLiveHeartbeatReceipt)).length := by
    rw [length_map]
    exact firstOfBatch_sublist.length_le.trans
      (Keyset.sorted_perm.length_eq.trans_le filter_sublist.length_le)
  have hthree : policy.recoverySuccesses = 3 := by
    simp only [validHeartbeatIncidentPolicy, Bool.and_eq_true, decide_eq_true_eq] at hpolicy
    exact hpolicy.1.2
  rw [hnewest.evidence hall hlength, hquery, (hnewest.take 3).evidence rfl (by simp), hthree,
    map_take, take_take]
  congr 2
  simp only [length_take, decide_eq_decide]
  omega

def minutePolicy : HeartbeatIncidentPolicy where
  heartbeatInterval := 60000000000
  missingThreshold := 3
  recoverySuccesses := 3
  recoveryMaxIntervalGap := 120000000000

def sampleRow (syncBatchID : String) (id : Int) : HeartbeatRow where
  syncBatchID
  receivedAt := 2
  monitoringInstanceID := "m"
  id
  isBackfilled := false

theorem newest_sample : Newest 1 [sampleRow "c" 3, sampleRow "b" 2, sampleRow "a" 1] where
  counted := by
    simp only [forall_mem_cons]
    exact ⟨⟨by decide, by decide, by decide⟩, ⟨by decide, by decide, by decide⟩,
      ⟨by decide, by decide, by decide⟩, by simp⟩
  batches := by decide
  sorted := by decide

theorem bounded_recovery_evidence_exact_three :
    hasStableHeartbeatRecoveryEvidence (some ⟨1⟩) minutePolicy (recentLiveHeartbeatReceipts
      [sampleRow "c" 3, sampleRow "b" 2, sampleRow "a" 1] "m" 1) = true := by
  have hlive : liveHeartbeats [sampleRow "c" 3, sampleRow "b" 2, sampleRow "a" 1] "m" =
      [sampleRow "c" 3, sampleRow "b" 2, sampleRow "a" 1] := rfl
  rw [bounded_recovery_evidence_exact.2 _ _ ⟨1⟩ minutePolicy (by decide) ?_ ?_, hlive,
    newest_sample.evidence rfl le_rfl, Keyset.sorted_of_pairwise (by decide)]
  · decide
  · intro batchID
    exact count_le_length.trans (by decide)
  · rw [hlive]
    exact fun row hrow => ⟨(newest_sample.counted row hrow).plain, (newest_sample.counted row hrow).named⟩

/-- A newer row without a batch takes the place of the third batch. -/
theorem blank_batch_hides_recovery :
    hasStableHeartbeatRecoveryEvidence (some ⟨1⟩) minutePolicy (recentLiveHeartbeatReceipts
      [sampleRow " " 4, sampleRow "c" 3, sampleRow "b" 2, sampleRow "a" 1] "m" 1) = false ∧
    hasStableHeartbeatRecoveryEvidence (some ⟨1⟩) minutePolicy
      ((liveHeartbeats [sampleRow " " 4, sampleRow "c" 3, sampleRow "b" 2, sampleRow "a" 1] "m").map
        (·.toLiveHeartbeatReceipt)) = true := by
  constructor
  · rw [recentLiveHeartbeatReceipts_eq, Keyset.sorted_of_pairwise (by decide)]
    refine ((newest_sample.take 2).evidence ?_ ?_).trans ?_
    · rfl
    · decide
    · rw [Keyset.sorted_of_pairwise (by decide)]
      decide
  · refine (newest_sample.evidence ?_ ?_).trans ?_
    · rfl
    · decide
    · rw [Keyset.sorted_of_pairwise (by decide)]
      decide

end Houfeng.Incidents
