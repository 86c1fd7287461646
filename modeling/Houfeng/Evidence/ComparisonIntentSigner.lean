import Houfeng.AgentApi.Encoding
import Houfeng.Evidence.Descriptor
import Houfeng.Foundation.Base64
import Houfeng.Foundation.JsonRead
import Houfeng.Foundation.Timestamp

/-!
# Comparison-intent tokens

The keyring that signs the claims of a comparison and verifies the tokens it has issued. A token is
`cmp1`, the key id, the encoded claims and their MAC, joined by dots. The MAC and the parser of
timestamps are functions of libraries.
-/

namespace Houfeng.Evidence

open AgentApi

structure ComparisonIntentItem where
  snapshotID : String
  hash : String
  kind : String
  revisionContext : String
  recordID : String
  revisionID : String
  chosenSnapshotIDs : Slice String
  recordType : String
  businessStatus : String
  statusGroup : String
  impactLevel : String
  occurredAt : String

structure ComparisonIntentClaims where
  purpose : String
  keyID : String
  actorHash : String
  projectID : String
  items : Slice ComparisonIntentItem
  baselineIndex : Int
  alignment : String
  requestedStart : String
  requestedEnd : String
  toleranceSeconds : Int
  bucketSeconds : Option Int
  digest : String
  registryVersion : String
  calculationVersion : String
  warningsDigest : String
  detailKind : String
  detailSchemaVersion : Int
  detailMetric : String
  issuedAt : Time
  expiresAt : Time
  issuedAtText : String
  expiresAtText : String

structure ComparisonIntent where
  token : String
  keyID : String
  issuedAt : Time
  expiresAt : Time

def comparisonIntentPurpose : String := "comparison-save/v1"

/-! ## The encoding of claims -/

/-- An integer under `omitempty`. -/
def omitZero (n : Int) : Option Json := if n = 0 then none else writeInt n

def intentItemFields (x : ComparisonIntentItem) : List (String × Option Json) :=
  [("snapshot_id", omitStr x.snapshotID), ("hash", omitStr x.hash), ("kind", omitStr x.kind),
   ("revision_context", writeStr x.revisionContext), ("record_id", omitStr x.recordID),
   ("revision_id", omitStr x.revisionID),
   ("chosen_snapshot_ids", omitSlice .str x.chosenSnapshotIDs),
   ("record_type", omitStr x.recordType), ("business_status", omitStr x.businessStatus),
   ("status_group", omitStr x.statusGroup), ("impact_level", omitStr x.impactLevel),
   ("occurred_at", omitStr x.occurredAt)]

def encodeIntentItem (x : ComparisonIntentItem) : Json := Json.ofFields (intentItemFields x)

def decodeIntentItem (j : Json) : Option ComparisonIntentItem := do
  let o ← readObject j
  let snapshotID ← readStr (o.get? "snapshot_id")
  let hash ← readStr (o.get? "hash")
  let kind ← readStr (o.get? "kind")
  let revisionContext ← readStr (o.get? "revision_context")
  let recordID ← readStr (o.get? "record_id")
  let revisionID ← readStr (o.get? "revision_id")
  let chosenSnapshotIDs ← readSlice readText (o.get? "chosen_snapshot_ids")
  let recordType ← readStr (o.get? "record_type")
  let businessStatus ← readStr (o.get? "business_status")
  let statusGroup ← readStr (o.get? "status_group")
  let impactLevel ← readStr (o.get? "impact_level")
  let occurredAt ← readStr (o.get? "occurred_at")
  pure
    { snapshotID, hash, kind, revisionContext, recordID, revisionID, chosenSnapshotIDs, recordType,
      businessStatus, statusGroup, impactLevel, occurredAt }

/-- The fields of encoded claims; the two instants are encoded as their texts only. -/
def intentClaimsFields (x : ComparisonIntentClaims) : List (String × Option Json) :=
  [("purpose", writeStr x.purpose), ("key_id", writeStr x.keyID),
   ("actor_hash", writeStr x.actorHash), ("project_id", writeStr x.projectID),
   ("items", writeSlice encodeIntentItem x.items), ("baseline_index", writeInt x.baselineIndex),
   ("alignment", writeStr x.alignment), ("requested_from", writeStr x.requestedStart),
   ("requested_to", writeStr x.requestedEnd), ("tolerance_seconds", writeInt x.toleranceSeconds),
   ("bucket_seconds", omitInt x.bucketSeconds), ("digest", writeStr x.digest),
   ("registry_version", writeStr x.registryVersion),
   ("calculation_version", writeStr x.calculationVersion),
   ("warnings_digest", writeStr x.warningsDigest), ("detail_kind", omitStr x.detailKind),
   ("detail_schema_version", omitZero x.detailSchemaVersion),
   ("detail_metric", omitStr x.detailMetric), ("issued_at", writeStr x.issuedAtText),
   ("expires_at", writeStr x.expiresAtText)]

def encodeIntentClaims (x : ComparisonIntentClaims) : Json := Json.ofFields (intentClaimsFields x)

def decodeIntentClaims (j : Json) : Option ComparisonIntentClaims := do
  let o ← readObject j
  let purpose ← readStr (o.get? "purpose")
  let keyID ← readStr (o.get? "key_id")
  let actorHash ← readStr (o.get? "actor_hash")
  let projectID ← readStr (o.get? "project_id")
  let items ← readSlice decodeIntentItem (o.get? "items")
  let baselineIndex ← readInt (o.get? "baseline_index")
  let alignment ← readStr (o.get? "alignment")
  let requestedStart ← readStr (o.get? "requested_from")
  let requestedEnd ← readStr (o.get? "requested_to")
  let toleranceSeconds ← readInt (o.get? "tolerance_seconds")
  let bucketSeconds ← readPtrInt (o.get? "bucket_seconds")
  let digest ← readStr (o.get? "digest")
  let registryVersion ← readStr (o.get? "registry_version")
  let calculationVersion ← readStr (o.get? "calculation_version")
  let warningsDigest ← readStr (o.get? "warnings_digest")
  let detailKind ← readStr (o.get? "detail_kind")
  let detailSchemaVersion ← readInt (o.get? "detail_schema_version")
  let detailMetric ← readStr (o.get? "detail_metric")
  let issuedAtText ← readStr (o.get? "issued_at")
  let expiresAtText ← readStr (o.get? "expires_at")
  pure
    { purpose, keyID, actorHash, projectID, items, baselineIndex, alignment, requestedStart,
      requestedEnd, toleranceSeconds, bucketSeconds, digest, registryVersion, calculationVersion,
      warningsDigest, detailKind, detailSchemaVersion, detailMetric, issuedAt := 0, expiresAt := 0,
      issuedAtText, expiresAtText }

def marshalClaims (claims : ComparisonIntentClaims) : List UInt8 :=
  ((encodeIntentClaims claims).text true).toUTF8.data.toList

def unmarshalClaims (payload : List UInt8) : Option ComparisonIntentClaims := do
  let text ← String.fromUTF8? ⟨payload.toArray⟩
  let j ← Json.read text
  decodeIntentClaims j

/-! ## Keyrings -/

def isKeyIDChar (c : Char) : Bool :=
  isLowerLetter c || isDecimalDigit c || c = '_' || c = '-' || c = '.'

def validComparisonKeyID (value : String) : Bool :=
  value.utf8ByteSize ≤ 64 && (match value.toList with
    | [] => false
    | c :: rest => (isLowerLetter c || isDecimalDigit c) && rest.all isKeyIDChar)

/-- Keys under valid ids, the current one among them. -/
structure FileComparisonIntentSigner where
  keys : List (String × List UInt8)
  currentID : String
  valid : ∀ entry ∈ keys, validComparisonKeyID entry.1 = true
  current : (keys.lookup currentID).isSome

inductive IntentError
  | unavailable
  | invalid
  | expired (claims : ComparisonIntentClaims)

/-- The keys of the files with valid names; the content of a file is missing if it may not or
cannot be read. -/
def readKeys : List (String × Option (List UInt8)) →
    Except IntentError { keys : List (String × List UInt8) //
      ∀ entry ∈ keys, validComparisonKeyID entry.1 = true }
  | [] => .ok ⟨[], by simp⟩
  | (name, content) :: rest =>
    if h : validComparisonKeyID name = false then readKeys rest
    else
      match content with
      | none => .error .unavailable
      | some material =>
        if material.length < 32 then .error .unavailable
        else
          match readKeys rest with
          | .error e => .error e
          | .ok keys => .ok ⟨(name, material) :: keys.1, by
              simpa [h] using keys.2⟩

/-- `OpenComparisonIntentKeyring` on the files of the directory. -/
def openComparisonIntentKeyring (files : List (String × Option (List UInt8)))
    (currentKeyID : String) : Except IntentError FileComparisonIntentSigner :=
  if validComparisonKeyID currentKeyID = false then .error .unavailable
  else
    match readKeys files with
    | .error e => .error e
    | .ok keys =>
      if h : (keys.1.lookup currentKeyID).isSome then .ok ⟨keys.1, currentKeyID, keys.2, h⟩
      else .error .unavailable

/-- What signing takes from libraries: HMAC-SHA256 and `time.Parse` of RFC 3339 texts, in UTC. -/
structure IntentServices where
  mac : List UInt8 → List UInt8 → List UInt8
  parseTime : String → Option Time

variable (lib : IntentServices)

def intentToken (keyID : String) (payload sum : List UInt8) : List Char :=
  ['c', 'm', 'p', '1'] ++ '.' :: keyID.toList ++ '.' :: Base64.encode Base64.url payload ++
    '.' :: Base64.encode Base64.url sum

def FileComparisonIntentSigner.sign (signer : FileComparisonIntentSigner)
    (claims : ComparisonIntentClaims) : Except IntentError ComparisonIntent :=
  if claims.purpose ≠ comparisonIntentPurpose then .error .invalid
  else
    let claims := if claims.keyID = "" then { claims with keyID := signer.currentID } else claims
    if claims.keyID ≠ signer.currentID then .error .invalid
    else
      match signer.keys.lookup claims.keyID with
      | none => .error .unavailable
      | some key =>
        let payload := marshalClaims claims
        .ok
          { token := String.ofList (intentToken claims.keyID payload (lib.mac key payload))
            keyID := claims.keyID
            issuedAt := claims.issuedAt
            expiresAt := claims.expiresAt }

/-- The checks of `Verify` after the MAC. -/
def verifyClaims (keyID : String) (payload : List UInt8) (now : Time) :
    Except IntentError ComparisonIntentClaims :=
  match unmarshalClaims payload with
  | none => .error .invalid
  | some claims =>
    if claims.purpose ≠ comparisonIntentPurpose ∨ claims.keyID ≠ keyID then .error .invalid
    else
      match lib.parseTime claims.issuedAtText, lib.parseTime claims.expiresAtText with
      | some issued, some expires =>
        let claims := { claims with issuedAt := issued, expiresAt := expires }
        if now < expires then .ok claims else .error (.expired claims)
      | _, _ => .error .invalid

/-- The checks of `Verify` on the parts of a token. -/
def FileComparisonIntentSigner.verifyParts (signer : FileComparisonIntentSigner) (now : Time) :
    List (List Char) → Except IntentError ComparisonIntentClaims
  | [version, keyID, encodedPayload, encodedSum] =>
    if version ≠ ['c', 'm', 'p', '1'] ∨ validComparisonKeyID (String.ofList keyID) = false then
      .error .invalid
    else
      match signer.keys.lookup (String.ofList keyID) with
      | none => .error .invalid
      | some key =>
        match Base64.decode Base64.url encodedPayload, Base64.decode Base64.url encodedSum with
        | some payload, some sum =>
          if sum ≠ lib.mac key payload then .error .invalid
          else verifyClaims lib (String.ofList keyID) payload now
        | _, _ => .error .invalid
  | _ => .error .invalid

def FileComparisonIntentSigner.verify (signer : FileComparisonIntentSigner) (token : String)
    (now : Time) : Except IntentError ComparisonIntentClaims :=
  signer.verifyParts lib now (token.toList.splitOn '.')

end Houfeng.Evidence
