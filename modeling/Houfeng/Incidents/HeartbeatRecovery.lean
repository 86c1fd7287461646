import Houfeng.Center.Syncing
import Houfeng.Foundation.Keyset
import Houfeng.Foundation.Timestamp
import Mathlib.Data.Finmap
import Mathlib.Data.Multiset.Sort
import Mathlib.Data.Prod.Lex

/-!
# Recovery from missing heartbeats

An incident of missing heartbeats recovers once three sync batches with live heartbeats have been
received since it started, none more than two intervals after the one before. The evaluator gets
the newest row of each of the three newest batches, out of the newest 768 rows. Times are
nanoseconds since the zero time.
-/

namespace Houfeng.Incidents

open Center (trimSpace)

def heartbeatRecoverySuccesses : Nat := 3

/-- `heartbeatRecoverySuccesses * syncing.MaxBatchItems`. -/
def heartbeatRecoveryCandidateLimit : Nat := heartbeatRecoverySuccesses * 256

structure LiveHeartbeatReceipt where
  syncBatchID : String
  receivedAt : Int

structure HeartbeatRow extends LiveHeartbeatReceipt where
  monitoringInstanceID : String
  id : Int
  isBackfilled : Bool

structure IncidentRecord where
  startedAt : Int

structure HeartbeatIncidentPolicy where
  heartbeatInterval : Int
  missingThreshold : Int
  recoverySuccesses : Int
  recoveryMaxIntervalGap : Int

def validHeartbeatIncidentPolicy (policy : HeartbeatIncidentPolicy) : Bool :=
  0 < policy.heartbeatInterval && policy.heartbeatInterval ≤ maxDuration / 2 &&
    0 < policy.missingThreshold && policy.missingThreshold ≤ 9223372036854775807 / 4 &&
    policy.recoverySuccesses = heartbeatRecoverySuccesses &&
    policy.recoveryMaxIntervalGap = 2 * policy.heartbeatInterval

/-! ## The evaluator -/

/-- Keeps the latest receipt of a batch, after the start of the incident. -/
def noteReceipt (startedAt : Int) (latest : Finmap fun _ : String => Int)
    (receipt : LiveHeartbeatReceipt) : Finmap fun _ : String => Int :=
  let batchID := trimSpace receipt.syncBatchID
  if batchID = "" ∨ receipt.receivedAt ≤ startedAt then latest
  else if (latest.lookup batchID).all fun current => current < receipt.receivedAt then
    latest.insert batchID receipt.receivedAt
  else latest

def latestByBatch (startedAt : Int) (receipts : List LiveHeartbeatReceipt) :
    Finmap fun _ : String => Int :=
  receipts.foldl (noteReceipt startedAt) ∅

/-- No time is later than the one before it by more than the gap. -/
def withinGap (gap : Int) : List Int → Bool
  | t :: u :: rest => since u t ≤ gap && withinGap gap (u :: rest)
  | _ => true

/-- The order of a map's entries is not known, so what is sorted is a multiset. -/
def hasStableHeartbeatRecoveryEvidence (previous : Option IncidentRecord)
    (policy : HeartbeatIncidentPolicy) (receipts : List LiveHeartbeatReceipt) : Bool :=
  match previous with
  | none => false
  | some previous =>
    if previous.startedAt = 0 ∨ receipts.length < policy.recoverySuccesses then false
    else
      let latest := latestByBatch previous.startedAt receipts
      if latest.entries.card < policy.recoverySuccesses then false
      else
        let receivedAt := (latest.entries.map Sigma.snd).sort (· ≥ ·)
        withinGap policy.recoveryMaxIntervalGap
          (Keyset.sorted id (receivedAt.take policy.recoverySuccesses.toNat))

/-! ## The reader -/

/-- `received_at desc, id desc`. -/
def recentKey (row : HeartbeatRow) : Int ×ₗ Int := toLex (-row.receivedAt, -row.id)

/-- The rows with `batch_rank = 1`, of rows in the order of the rank. -/
def firstOfBatch : List HeartbeatRow → List HeartbeatRow
  | [] => []
  | row :: rest => row :: (firstOfBatch rest).filter fun r => r.syncBatchID ≠ row.syncBatchID

def liveHeartbeats (rows : List HeartbeatRow) (monitoringInstanceID : String) :
    List HeartbeatRow :=
  rows.filter fun row => row.monitoringInstanceID = monitoringInstanceID && !row.isBackfilled

/-- The latest receipts of three batches. -/
def recentLiveHeartbeatReceipts (rows : List HeartbeatRow) (monitoringInstanceID : String)
    (startedAt : Int) : List LiveHeartbeatReceipt :=
  let recentLive := (Keyset.sorted recentKey ((liveHeartbeats rows monitoringInstanceID).filter
    fun row => startedAt < row.receivedAt)).take heartbeatRecoveryCandidateLimit
  ((Keyset.sorted recentKey (firstOfBatch recentLive)).take 3).map (·.toLiveHeartbeatReceipt)

end Houfeng.Incidents
