import Houfeng.AgentApi.Proofs.EncodingProofs

/-!
# Batch identity

The document of a request is the canonical encoding of its session, producer, sequence and
instance, and of its facts without the backfill mark and without nil collections. So some changes of
a request leave the document unchanged, and it determines the rest.
-/

namespace Houfeng.AgentApi

open Option Function Json IPQualityReportPayload IPQualityProviderResultPayload HostSamplePayload

open Houfeng (Json)

/-! ## Facts without transmission state -/

def Slice.filled {α : Type} (s : Slice α) : Slice α := some s.items

variable {α : Type}

@[simp] theorem Slice.items_filled (s : Slice α) : s.filled.items = s.items := rfl

def StringMap.empty : StringMap := ⟨[], List.Pairwise.nil⟩

def HostSamplePayload.filled (x : HostSamplePayload) : HostSamplePayload :=
  { x with containers := x.containers.filled }

def IPQualityProviderDetails.filled (x : IPQualityProviderDetails) : IPQualityProviderDetails :=
  { x with scores := x.scores.filled, fieldStates := some (x.fieldStates.getD .empty) }

def IPQualityProviderResultPayload.filled (x : IPQualityProviderResultPayload) :
    IPQualityProviderResultPayload :=
  { x with details := x.details.map .filled }

def IPQualityServiceUnlockPayload.filled (x : IPQualityServiceUnlockPayload) :
    IPQualityServiceUnlockPayload :=
  { x with checks := x.checks.filled }

def IPQualityAgentProduct.filled (x : IPQualityAgentProduct) : IPQualityAgentProduct :=
  { x with ptrNames := x.ptrNames.filled, mail := x.mail.filled }

variable (x : IPQualityReportPayload)

def IPQualityReportPayload.filled : IPQualityReportPayload :=
  { x with
    providerResults := some (x.providerResults.items.map .filled)
    serviceUnlocks := some (x.serviceUnlocks.items.map .filled)
    product := x.product.map .filled }

/-- A request without nil collections. Two requests have the same filled form exactly when they
differ in nothing but nil and empty collections. -/
def SyncRequest.filled (r : SyncRequest) : SyncRequest :=
  { r with
    heartbeats := r.heartbeats.filled
    hostSamples := some (r.hostSamples.items.map .filled)
    probeObservations := r.probeObservations.filled
    ipQualityReports := some (r.ipQualityReports.items.map .filled)
    commandResults := r.commandResults.filled }

/-! ## What the edits of the document do -/

theorem whenObject_canonical_ofFields (f : Json → Json) (fs : List (String × Option Json)) :
    whenObject f (ofFields fs).canonical = f (ofFields fs).canonical := by
  rw [canonical_ofFields, whenObject]

variable {key : String} {fs : List (String × Option Json)}

@[simp] theorem normalizeDigestFact_of_ne (hkey : key ≠ "ip_quality_reports")
    (h : (fs.map Prod.fst).Nodup) :
    normalizeDigestFact key (ofFields fs).canonical =
      (ofFields (setField "is_backfilled" none fs)).canonical := by
  simp only [normalizeDigestFact]
  rw [if_neg hkey, delete_canonical_ofFields h]

theorem normalizeDigestFact_heartbeat (x : MonitoringInstanceHeartbeat) :
    normalizeDigestFact "heartbeats" (encodeHeartbeat x).canonical =
      (encodeHeartbeat { x with isBackfilled := false }).canonical := by
  simp [encodeHeartbeat, heartbeatFields, setField, omitBool]

theorem normalizeDigestFact_hostSample (x : HostSamplePayload) :
    normalizeDigestFact "host_samples" (encodeHostSample x).canonical =
      (encodeHostSample { x with isBackfilled := false }).canonical := by
  simp [encodeHostSample, hostSampleFields, setField, omitBool]

theorem normalizeDigestFact_probeObservation (x : ProbeObservationPayload) :
    normalizeDigestFact "probe_observations" (encodeProbeObservation x).canonical =
      (encodeProbeObservation { x with isBackfilled := false }).canonical := by
  simp [encodeProbeObservation, probeObservationFields, setField, omitBool]

theorem normalizeDigestFact_commandResult (x : CommandResult) :
    normalizeDigestFact "command_results" (encodeCommandResult x).canonical =
      (encodeCommandResult x).canonical := by
  simp [encodeCommandResult, commandResultFields, setField]

theorem canonical_emptyArr : (arr []).canonical = .arr [] := by
  rw [canonical, canonicalItems]

theorem canonical_emptyObj : (obj []).canonical = .obj [] := by
  rw [canonical, canonicalFields]

theorem normalizeDigestProduct_encode (x : IPQualityAgentProduct) :
    whenObject normalizeDigestProduct (encodeAgentProduct x).canonical =
      (encodeAgentProduct x.filled).canonical := by
  have hnodup := nodup_agentProductFields x
  rw [encodeAgentProduct, whenObject_canonical_ofFields, normalizeDigestProduct,
    setDefault_canonical_ofFields hnodup (by simp [agentProductFields]) canonical_emptyArr,
    setDefault_canonical_ofFields (by simpa using hnodup) (by simp [agentProductFields])
      canonical_emptyArr, encodeAgentProduct]
  obtain ⟨revision, ptrNames, mail⟩ := x
  cases ptrNames <;> cases mail <;>
    simp [agentProductFields, setField, field, IPQualityAgentProduct.filled,
      Slice.filled, writeSlice, nullable, orDefault, Slice.items]

theorem normalizeDigestDetails_encode (x : IPQualityProviderDetails) :
    whenObject normalizeDigestDetails (encodeProviderDetails x).canonical =
      (encodeProviderDetails x.filled).canonical := by
  have hnodup := nodup_providerDetailsFields x
  rw [encodeProviderDetails, whenObject_canonical_ofFields, normalizeDigestDetails,
    setDefault_canonical_ofFields hnodup (by simp [providerDetailsFields])
      canonical_emptyArr,
    setDefault_canonical_ofFields (by simpa using hnodup) (by simp [providerDetailsFields])
      canonical_emptyObj, encodeProviderDetails]
  rcases hs : x.scores with _ | scores <;> rcases hf : x.fieldStates with _ | states <;>
    simp [providerDetailsFields, setField, field, IPQualityProviderDetails.filled,
      Slice.filled, writeSlice, writeMap, nullable, orDefault, Slice.items,
      StringMap.empty, hs, hf]

theorem normalizeDigestProvider_encode (x : IPQualityProviderResultPayload) :
    normalizeDigestProvider (encodeProviderResult x).canonical =
      (encodeProviderResult x.filled).canonical := by
  rw [normalizeDigestProvider, encodeProviderResult, modify_canonical_ofFields
    (v := x.details.map fun details => encodeProviderDetails details.filled)
    (nodup_providerResultFields x) (by simp [providerResultFields])]
  · simp [encodeProviderResult, providerResultFields, setField,
      IPQualityProviderResultPayload.filled, comp_def]
  · cases hd : x.details with
    | none => simp [providerResultFields, field, hd]
    | some details => simp [providerResultFields, field, hd, normalizeDigestDetails_encode]

variable {f : Json → Json} {encode encode' : α → Json}

theorem mapItems_canonical
    (h : ∀ x, f (encode x).canonical = (encode' x).canonical) (items : List α) :
    mapItems f (arr (items.map encode)).canonical = (arr (items.map encode')).canonical := by
  simp only [canonical, canonicalItems_eq_map, mapItems, List.map_map, arr.injEq]
  exact List.map_congr_left fun x _ => h x

theorem map_mapItems_omitSlice
    (h : ∀ x, f (encode x).canonical = (encode' x).canonical) (s : Slice α) :
    ((omitSlice encode s).map canonical).map (mapItems f) =
      (omitSlice encode' s).map canonical := by
  rw [omitSlice, omitSlice]
  split_ifs
  · rfl
  · rw [map_some, map_some, mapItems_canonical h, map_some]

/-- The encoding sees a slice under `omitempty` only through its elements. -/
theorem omitSlice_congr {α β : Type} {encode : α → Json} {encode' : β → Json} {s : Slice α}
    {s' : Slice β} (h : s.items.map encode = s'.items.map encode') :
    omitSlice encode s = omitSlice encode' s' := by
  have hnil : s.items = [] ↔ s'.items = [] := by
    rw [← List.map_eq_nil_iff (f := encode), h, List.map_eq_nil_iff]
  rw [omitSlice, omitSlice, h]
  split_ifs with h1 h2 h2
  · rfl
  · exact absurd (hnil.mp h1) h2
  · exact absurd (hnil.mpr h2) h1
  · rfl

theorem encodeHostSample_filled (x : HostSamplePayload) :
    encodeHostSample x.filled = encodeHostSample x := rfl

theorem encodeServiceUnlock_filled (x : IPQualityServiceUnlockPayload) :
    encodeServiceUnlock x.filled = encodeServiceUnlock x := rfl

theorem normalizeDigestFact_report :
    normalizeDigestFact "ip_quality_reports" (encodeReport x).canonical =
      (encodeReport { x.filled with isBackfilled := false }).canonical := by
  have hnodup := nodup_reportFields x
  have hproduct : ((x.product.map encodeAgentProduct).map canonical).map
      (whenObject normalizeDigestProduct) =
      (x.filled.product.map encodeAgentProduct).map canonical := by
    cases hp : x.product with
    | none => simp [IPQualityReportPayload.filled, hp]
    | some product => simp [IPQualityReportPayload.filled, hp, normalizeDigestProduct_encode]
  have hproviders : omitSlice (fun p => encodeProviderResult p.filled) x.providerResults =
      omitSlice encodeProviderResult x.filled.providerResults :=
    omitSlice_congr (by simp [IPQualityReportPayload.filled, comp_def])
  have hunlocks : omitSlice encodeServiceUnlock x.filled.serviceUnlocks =
      omitSlice encodeServiceUnlock x.serviceUnlocks :=
    omitSlice_congr
      (by simp [IPQualityReportPayload.filled, comp_def, encodeServiceUnlock_filled])
  simp only [normalizeDigestFact, if_true, normalizeDigestReportCollections]
  rw [encodeReport, delete_canonical_ofFields hnodup,
    modify_canonical_ofFields (v := x.filled.product.map encodeAgentProduct)
      (by simpa using hnodup) (by simp [reportFields])
      (by rw [field_setField_of_ne (by decide)]
          simpa [reportFields, field] using hproduct),
    modify_canonical_ofFields
      (v := omitSlice encodeProviderResult x.filled.providerResults)
      (by simpa using hnodup) (by simp [reportFields])
      (by rw [field_setField_of_ne (by decide), field_setField_of_ne (by decide),
            ← hproviders]
          simpa [reportFields, field] using
            map_mapItems_omitSlice normalizeDigestProvider_encode x.providerResults),
    encodeReport]
  simp only [reportFields, hunlocks]
  simp [setField, IPQualityReportPayload.filled, omitBool]

/-! ## The document -/

def documentFields (r : SyncRequest) : List (String × Option Json) :=
  [("producer_id", writeStr r.producerID), ("batch_sequence", writeInt r.batchSequence),
   ("session_id", writeStr r.sessionID),
   ("monitoring_instance_id", writeStr r.monitoringInstanceID),
   ("heartbeats", some (.arr (r.heartbeats.items.map fun x =>
     encodeHeartbeat { x with isBackfilled := false }))),
   ("host_samples", some (.arr (r.hostSamples.items.map fun x =>
     encodeHostSample { x with isBackfilled := false }))),
   ("probe_observations", some (.arr (r.probeObservations.items.map fun x =>
     encodeProbeObservation { x with isBackfilled := false }))),
   ("ip_quality_reports", some (.arr (r.ipQualityReports.items.map fun x =>
     encodeReport { x.filled with isBackfilled := false }))),
   ("command_results", some (.arr (r.commandResults.items.map encodeCommandResult)))]

theorem normalizeDigestFacts_ofFields {s : Slice α}
    (h : (fs.map Prod.fst).Nodup) (hk : key ∈ fs.map Prod.fst)
    (hfield : field key fs = omitSlice encode s)
    (hfact : ∀ x, normalizeDigestFact key (encode x).canonical = (encode' x).canonical) :
    normalizeDigestFacts (ofFields fs).canonical key =
      (ofFields (setField key (some (.arr (s.items.map encode'))) fs)).canonical := by
  have hdefault : orDefault (.arr []) (omitSlice encode s) = .arr (s.items.map encode) := by
    rw [omitSlice]
    split_ifs with hs
    · rw [hs, orDefault, List.map_nil]
    · rw [orDefault]
      exact fun h => Json.noConfusion h
  rw [normalizeDigestFacts, setDefault_canonical_ofFields h hk canonical_emptyArr, hfield,
    hdefault, modify_canonical_ofFields (v := some (.arr (s.items.map encode')))
      (by simpa using h) (by simpa using hk), setField_setField]
  rw [field_setField_self hk, map_some, map_some, mapItems_canonical hfact, map_some]

theorem canonicalSyncBatchDocument_eq (r : SyncRequest) :
    canonicalSyncBatchDocument r = (ofFields (documentFields r)).canonical := by
  have hnodup := nodup_syncRequestFields r
  simp only [canonicalSyncBatchDocument, transportKeys, factKeys, List.foldl_cons, List.foldl_nil,
    encodeSyncRequest]
  repeat rw [delete_canonical_ofFields (by simpa using hnodup)]
  rw [normalizeDigestFacts_ofFields (s := r.heartbeats) (by simpa using hnodup)
    (by simp [syncRequestFields]) (by simp [field, setField, syncRequestFields])
    normalizeDigestFact_heartbeat]
  rw [normalizeDigestFacts_ofFields (s := r.hostSamples) (by simpa using hnodup)
    (by simp [syncRequestFields]) (by simp [field, setField, syncRequestFields])
    normalizeDigestFact_hostSample]
  rw [normalizeDigestFacts_ofFields (s := r.probeObservations) (by simpa using hnodup)
    (by simp [syncRequestFields]) (by simp [field, setField, syncRequestFields])
    normalizeDigestFact_probeObservation]
  rw [normalizeDigestFacts_ofFields (s := r.ipQualityReports) (by simpa using hnodup)
    (by simp [syncRequestFields]) (by simp [field, setField, syncRequestFields])
    normalizeDigestFact_report]
  rw [normalizeDigestFacts_ofFields (s := r.commandResults) (by simpa using hnodup)
    (by simp [syncRequestFields]) (by simp [field, setField, syncRequestFields])
    normalizeDigestFact_commandResult]
  simp [syncRequestFields, documentFields, setField, ofFields, present, writeStr, writeInt]

/-! ## Changes the document does not see -/

variable {r r' : SyncRequest}

theorem canonicalSyncBatchDocument_congr (h : documentFields r' = documentFields r) :
    canonicalSyncBatchDocument r' = canonicalSyncBatchDocument r := by
  rw [canonicalSyncBatchDocument_eq, canonicalSyncBatchDocument_eq, h]

@[simp] theorem IPQualityProviderDetails.filled_filled (x : IPQualityProviderDetails) :
    x.filled.filled = x.filled := rfl

@[simp] theorem IPQualityAgentProduct.filled_filled (x : IPQualityAgentProduct) :
    x.filled.filled = x.filled := rfl

@[simp] theorem IPQualityProviderResultPayload.filled_filled
    (x : IPQualityProviderResultPayload) : x.filled.filled = x.filled := by
  simp [IPQualityProviderResultPayload.filled, comp_def]

@[simp] theorem IPQualityServiceUnlockPayload.filled_filled
    (x : IPQualityServiceUnlockPayload) : x.filled.filled = x.filled := rfl

@[simp] theorem IPQualityReportPayload.filled_filled : x.filled.filled = x.filled := by
  simp [IPQualityReportPayload.filled, comp_def]

theorem documentFields_filled (r : SyncRequest) : documentFields r.filled = documentFields r := by
  have hhost (x : HostSamplePayload) :
      encodeHostSample { x.filled with isBackfilled := false } =
        encodeHostSample { x with isBackfilled := false } :=
    rfl
  simp [documentFields, SyncRequest.filled, comp_def, hhost]

theorem documentFields_withBackfilledFacts (r : SyncRequest) (backfilled : Bool) :
    documentFields (SyncQueue.withBackfilledFacts r backfilled) = documentFields r := by
  simp [documentFields, SyncQueue.withBackfilledFacts, SyncQueue.cloneRequest,
    SyncQueue.items_cloneIPQualityReports, comp_def, IPQualityReportPayload.filled]

theorem documentFields_decoded (r : SyncRequest) :
    documentFields (r.decoded id) = documentFields r := by
  have hhost (x : HostSamplePayload) :
      encodeHostSample { x.decoded with isBackfilled := false } =
        encodeHostSample { x with isBackfilled := false } := by
    rw [← encodeHostSample_filled, ← encodeHostSample_filled { x with isBackfilled := false }]
    simp [HostSamplePayload.filled, HostSamplePayload.decoded, Slice.filled]
  have hprovider (x : IPQualityProviderResultPayload) : (x.decoded id).filled = x.filled := by
    simp [IPQualityProviderResultPayload.decoded]
  have hunlock (x : IPQualityServiceUnlockPayload) : (x.decoded id).filled = x.filled := by
    simp [IPQualityServiceUnlockPayload.decoded, IPQualityServiceUnlockPayload.filled, Slice.filled]
  have hreport (x : IPQualityReportPayload) : (x.decoded id).filled = x.filled := by
    simp [IPQualityReportPayload.decoded, IPQualityReportPayload.filled, comp_def,
      hprovider, hunlock]
  have hmark (x : IPQualityReportPayload) :
      encodeReport { (x.decoded id).filled with isBackfilled := false } =
        encodeReport { x.filled with isBackfilled := false } := by
    rw [hreport]
  simp [documentFields, SyncRequest.decoded, comp_def, hhost, hmark]

/-! ## What the document determines -/

def IPQualityProviderResultPayload.canonicalRaw (x : IPQualityProviderResultPayload) :
    IPQualityProviderResultPayload :=
  { x with extraJSON := x.extraJSON.map canonical }

def IPQualityServiceUnlockPayload.canonicalRaw (x : IPQualityServiceUnlockPayload) :
    IPQualityServiceUnlockPayload :=
  { x with extraJSON := x.extraJSON.map canonical }

/-- A report whose raw messages are JSON values: the order of object keys is not part of them. -/
def IPQualityReportPayload.canonicalRaw : IPQualityReportPayload :=
  { x with
    rawJSON := x.rawJSON.map canonical
    diagnosticsJSON := x.diagnosticsJSON.map canonical
    providerResults := x.providerResults.map (List.map .canonicalRaw)
    serviceUnlocks := x.serviceUnlocks.map (List.map .canonicalRaw) }

structure Facts where
  heartbeats : List MonitoringInstanceHeartbeat
  hostSamples : List HostSamplePayload
  probeObservations : List ProbeObservationPayload
  ipQualityReports : List IPQualityReportPayload
  commandResults : List CommandResult

def SyncRequest.facts (r : SyncRequest) : Facts where
  heartbeats := r.heartbeats.items.map ({ · with isBackfilled := false })
  hostSamples := r.hostSamples.items.map ({ ·.filled with isBackfilled := false })
  probeObservations := r.probeObservations.items.map ({ · with isBackfilled := false })
  ipQualityReports :=
    r.ipQualityReports.items.map ({ ·.filled.canonicalRaw with isBackfilled := false })
  commandResults := r.commandResults.items

theorem nodup_documentFields (r : SyncRequest) : ((documentFields r).map Prod.fst).Nodup := by
  simp [documentFields]

theorem get?_canonicalSyncBatchDocument (r : SyncRequest) (k : String) :
    (canonicalSyncBatchDocument r).get? k = (field k (documentFields r)).map canonical := by
  rw [canonicalSyncBatchDocument_eq, get?_canonical_ofFields (nodup_documentFields r)]

variable (heq : canonicalSyncBatchDocument r' = canonicalSyncBatchDocument r)
include heq

theorem read_eq_of_document_eq {β : Type} (k : String) {read : Option Json → Option β} {x x' : β}
    (hx : read ((field k (documentFields r)).map canonical) = some x)
    (hx' : read ((field k (documentFields r')).map canonical) = some x') : x' = x := by
  rw [← get?_canonicalSyncBatchDocument] at hx hx'
  rw [heq, hx] at hx'
  exact (some.inj hx').symm

theorem map_eq_of_document_eq {α β : Type} (k : String)
    {encode : α → Json} {decode : Json → Option β} {f : α → β} {items items' : List α}
    (hfield : field k (documentFields r) = some (.arr (items.map encode)))
    (hfield' : field k (documentFields r') = some (.arr (items'.map encode)))
    (h : ∀ x, decode (encode x).canonical = some (f x)) : items'.map f = items.map f := by
  have hread (l : List α) :
      readSlice decode ((some (arr (l.map encode))).map canonical) = some (some (l.map f)) :=
    readSlice_writeSlice (c := canonical) h (some l)
  have hslices : some (items'.map f) = some (items.map f) :=
    read_eq_of_document_eq heq k (hfield.symm ▸ hread items) (hfield'.symm ▸ hread items')
  exact some.inj hslices

omit heq

theorem filled_decoded_hostSample (x : HostSamplePayload) :
    HostSamplePayload.filled { x with isBackfilled := false }.decoded =
      { x.filled with isBackfilled := false } := by
  simp [HostSamplePayload.filled, HostSamplePayload.decoded, Slice.filled]

theorem filled_decoded_report : IPQualityReportPayload.filled
        ({ x.filled with isBackfilled := false }.decoded canonical) =
      { x.filled.canonicalRaw with isBackfilled := false } := by
  have hprovider (x : IPQualityProviderResultPayload) :
      (x.filled.decoded canonical).filled = x.filled.canonicalRaw := by
    simp [IPQualityProviderResultPayload.filled, IPQualityProviderResultPayload.decoded,
      IPQualityProviderResultPayload.canonicalRaw, comp_def]
  have hunlock (x : IPQualityServiceUnlockPayload) :
      (x.filled.decoded canonical).filled = x.filled.canonicalRaw := by
    simp [IPQualityServiceUnlockPayload.filled, IPQualityServiceUnlockPayload.decoded,
      IPQualityServiceUnlockPayload.canonicalRaw, Slice.filled]
  simp [IPQualityReportPayload.filled, IPQualityReportPayload.decoded,
    IPQualityReportPayload.canonicalRaw, comp_def, hprovider, hunlock]

variable (h : canonicalSyncBatchDocument r' = canonicalSyncBatchDocument r)
include h

theorem facts_eq_of_document_eq : r'.facts = r.facts := by
  have hheartbeats := map_eq_of_document_eq h "heartbeats" rfl rfl
    fun x => decode_encodeHeartbeat { x with isBackfilled := false }
  have hsamples := map_eq_of_document_eq h "host_samples" rfl rfl
    fun x => decode_encodeHostSample { x with isBackfilled := false }
  have hprobes := map_eq_of_document_eq h "probe_observations" rfl rfl
    fun x => decode_encodeProbeObservation { x with isBackfilled := false }
  have hreports := map_eq_of_document_eq h "ip_quality_reports" rfl rfl
    fun x => decode_encodeReport { x.filled with isBackfilled := false }
  have hresults := map_eq_of_document_eq h "command_results" rfl rfl decode_encodeCommandResult
  replace hsamples := congrArg (List.map HostSamplePayload.filled) hsamples
  replace hreports := congrArg (List.map IPQualityReportPayload.filled) hreports
  simp only [List.map_map, comp_def, filled_decoded_hostSample] at hsamples
  simp only [List.map_map, comp_def, filled_decoded_report] at hreports
  rw [SyncRequest.facts, SyncRequest.facts, Facts.mk.injEq]
  exact ⟨hheartbeats, hsamples, hprobes, hreports, by simpa using hresults⟩

theorem identity_eq_of_document_eq :
    r'.sessionID = r.sessionID ∧ r'.producerID = r.producerID ∧
      r'.batchSequence = r.batchSequence ∧ r'.monitoringInstanceID = r.monitoringInstanceID := by
  refine ⟨?_, ?_, ?_, ?_⟩
  · exact read_eq_of_document_eq h "session_id" (readStr_writeStr _) (readStr_writeStr _)
  · exact read_eq_of_document_eq h "producer_id" (readStr_writeStr _) (readStr_writeStr _)
  · exact read_eq_of_document_eq h "batch_sequence" (readInt_writeInt _) (readInt_writeInt _)
  · exact read_eq_of_document_eq h "monitoring_instance_id" (readStr_writeStr _)
      (readStr_writeStr _)

omit h

/-- The document a batch is identified by does not depend on how the batch is transmitted, and it
determines everything else: session, producer, sequence, instance and facts. -/
theorem batch_identity (r : SyncRequest) :
    (∀ backfilled, canonicalSyncBatchDocument (SyncQueue.withBackfilledFacts r backfilled) =
      canonicalSyncBatchDocument r) ∧
    (∀ syncToken liveSignal protocolRevision allocatedThrough retiredThrough,
      canonicalSyncBatchDocument
        { r with syncToken, liveSignal, protocolRevision, allocatedThrough, retiredThrough } =
        canonicalSyncBatchDocument r) ∧
    (∀ r' : SyncRequest, r'.filled = r.filled →
      canonicalSyncBatchDocument r' = canonicalSyncBatchDocument r) ∧
    (∃ r', decodeSyncRequest (encodeSyncRequest r) = some r' ∧
      canonicalSyncBatchDocument r' = canonicalSyncBatchDocument r) ∧
    ∀ r' : SyncRequest, canonicalSyncBatchDocument r' = canonicalSyncBatchDocument r →
      r'.sessionID = r.sessionID ∧ r'.producerID = r.producerID ∧
        r'.batchSequence = r.batchSequence ∧
        r'.monitoringInstanceID = r.monitoringInstanceID ∧ r'.facts = r.facts := by
  refine ⟨fun backfilled => ?_, fun _ _ _ _ _ => ?_, fun r' h => ?_, ⟨r.decoded id, ?_, ?_⟩,
    fun r' h => ?_⟩
  · exact canonicalSyncBatchDocument_congr (documentFields_withBackfilledFacts r backfilled)
  · exact canonicalSyncBatchDocument_congr rfl
  · refine canonicalSyncBatchDocument_congr ?_
    rw [← documentFields_filled r', h, documentFields_filled]
  · exact decode_encodeSyncRequest (c := id) r
  · exact canonicalSyncBatchDocument_congr (documentFields_decoded r)
  · obtain ⟨hsession, hproducer, hsequence, hinstance⟩ := identity_eq_of_document_eq h
    exact ⟨hsession, hproducer, hsequence, hinstance, facts_eq_of_document_eq h⟩

def sampleRequest : SyncRequest where
  protocolRevision := syncProtocolRevision
  producerID := "00000000-0000-0000-0000-000000000001"
  batchSequence := 1
  allocatedThrough := 1
  retiredThrough := 0
  sessionID := "session"
  liveSignal := some { sequence := 1, fingerprint := "fp" }
  monitoringInstanceID := "instance"
  syncToken := "token"
  heartbeats := some [
    { observedAt := "2026-01-01T00:00:00Z"
      agentVersion := "1"
      fingerprint := "fp"
      syncBatchID := batchIdentity "00000000-0000-0000-0000-000000000001" 1
      isBackfilled := false }]
  hostSamples := none
  probeObservations := none
  ipQualityReports := none
  commandResults := none

theorem batch_identity_nil_lists :
    { sampleRequest with hostSamples := some [], ipQualityReports := some [] }.filled =
        sampleRequest.filled ∧
      canonicalSyncBatchDocument
          { sampleRequest with hostSamples := some [], ipQualityReports := some [] } =
        canonicalSyncBatchDocument sampleRequest :=
  ⟨rfl, (batch_identity sampleRequest).2.2.1 _ rfl⟩

end Houfeng.AgentApi
