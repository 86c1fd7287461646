import Houfeng.AgentApi.Proofs.EncodingProofs

/-!
# Duplicate keys in an encoded request

The keys of the structures are distinct, so only a raw message can bring duplicate keys into the
encoding of a request.
-/

namespace Houfeng.AgentApi

open Option Json

open Houfeng (Json)

def IPQualityReportPayload.rawClean (x : IPQualityReportPayload) : Bool :=
  clean x.rawJSON && clean x.diagnosticsJSON &&
    (x.providerResults.items.all fun p => clean p.extraJSON) &&
    x.serviceUnlocks.items.all fun s => clean s.extraJSON

def SyncRequest.rawClean (r : SyncRequest) : Bool :=
  r.ipQualityReports.items.all IPQualityReportPayload.rawClean

section Fields

variable {α : Type}

theorem all_true (l : List α) : (l.all fun _ => true) = true :=
  List.all_eq_true.mpr fun _ _ => rfl

@[simp] theorem clean_writeStr (s : String) : clean (writeStr s) = true := by
  simp [writeStr, clean]

@[simp] theorem clean_omitStr (s : String) : clean (omitStr s) = true := by
  unfold omitStr
  split_ifs <;> simp [clean]

@[simp] theorem clean_writeInt (n : Int) : clean (writeInt n) = true := by
  simp [writeInt, clean]

@[simp] theorem clean_omitInt (n : Option Int) : clean (omitInt n) = true := by
  cases n <;> simp [omitInt, clean]

@[simp] theorem clean_writeFloat (x : FloatText) : clean (writeFloat x) = true := by
  simp [writeFloat, clean]

@[simp] theorem clean_omitFloat (x : Option FloatText) : clean (omitFloat x) = true := by
  cases x <;> simp [omitFloat, clean]

@[simp] theorem clean_omitBool (b : Bool) : clean (omitBool b) = true := by
  cases b <;> simp [omitBool, clean]

@[simp] theorem clean_omitPtrBool (b : Option Bool) : clean (omitPtrBool b) = true := by
  cases b <;> simp [omitPtrBool, clean]

@[simp] theorem clean_nullable (v : Option Json) : clean (nullable v) = clean v := by
  cases v <;> simp [nullable, clean]

@[simp] theorem clean_writePtrInt (n : Option Int) : clean (writePtrInt n) = true := by
  rw [writePtrInt, clean_nullable, clean_omitInt]

@[simp] theorem clean_writePtrFloat (x : Option FloatText) : clean (writePtrFloat x) = true := by
  rw [writePtrFloat, clean_nullable, clean_omitFloat]

@[simp] theorem clean_writePtrBool (b : Option Bool) : clean (writePtrBool b) = true := by
  rw [writePtrBool, clean_nullable, clean_omitPtrBool]

@[simp] theorem clean_map (encode : α → Json) (x : Option α) :
    clean (x.map encode) = x.all fun x => (encode x).noDuplicateKeys := by
  cases x <;> rfl

@[simp] theorem clean_omitSlice (encode : α → Json) (s : Slice α) :
    clean (omitSlice encode s) = s.items.all fun x => (encode x).noDuplicateKeys := by
  unfold omitSlice
  split_ifs with h
  · simp [h, clean]
  · rw [clean, all_some, noDuplicateKeys_arr_map]

@[simp] theorem clean_writeSlice (encode : α → Json) (s : Slice α) :
    clean (writeSlice encode s) = s.items.all fun x => (encode x).noDuplicateKeys := by
  rw [writeSlice, clean_nullable]
  cases s with
  | none => rfl
  | some items =>
    rw [map_some, clean, all_some, noDuplicateKeys_arr_map, Slice.items, getD_some]

theorem noDuplicateKeysFields_texts (entries : List (String × String)) :
    noDuplicateKeysFields (entries.map fun e => (e.1, str e.2)) = true := by
  induction entries with
  | nil => rfl
  | cons e rest ih =>
    rw [List.map_cons, noDuplicateKeysFields, noDuplicateKeys_str, ih, Bool.and_self]

@[simp] theorem clean_writeMap (m : Option StringMap) : clean (writeMap m) = true := by
  rw [writeMap, clean_nullable]
  cases m with
  | none => rfl
  | some m =>
    have hnodup : ((m.entries.map fun e => (e.1, str e.2)).map Prod.fst).Nodup := by
      rw [List.map_map, Function.comp_def]
      exact List.pairwise_map.mpr (m.sorted.imp fun h => ne_of_lt h)
    rw [map_some, clean, all_some, noDuplicateKeys, noDuplicateKeysFields_texts, Bool.and_true]
    exact decide_eq_true hnodup

end Fields

/-! ## The structures -/

@[simp] theorem noDuplicateKeys_encodeHeartbeat (x : MonitoringInstanceHeartbeat) :
    (encodeHeartbeat x).noDuplicateKeys = true := by
  simp [encodeHeartbeat, heartbeatFields]

@[simp] theorem noDuplicateKeys_encodeContainerInfo (x : ContainerInfo) :
    (encodeContainerInfo x).noDuplicateKeys = true := by
  simp [encodeContainerInfo, containerInfoFields]

@[simp] theorem noDuplicateKeys_encodeHostSample (x : HostSamplePayload) :
    (encodeHostSample x).noDuplicateKeys = true := by
  simp [encodeHostSample, hostSampleFields]

@[simp] theorem noDuplicateKeys_encodeProbeObservation (x : ProbeObservationPayload) :
    (encodeProbeObservation x).noDuplicateKeys = true := by
  simp [encodeProbeObservation, probeObservationFields]

@[simp] theorem noDuplicateKeys_encodeScore (x : IPQualityScore) :
    (encodeScore x).noDuplicateKeys = true := by
  simp [encodeScore, scoreFields]

@[simp] theorem noDuplicateKeys_encodeProviderDetails (x : IPQualityProviderDetails) :
    (encodeProviderDetails x).noDuplicateKeys = true := by
  simp [encodeProviderDetails, providerDetailsFields]

@[simp] theorem noDuplicateKeys_encodeProviderResult (x : IPQualityProviderResultPayload) :
    (encodeProviderResult x).noDuplicateKeys = clean x.extraJSON := by
  simp [encodeProviderResult, providerResultFields]

@[simp] theorem noDuplicateKeys_encodeServiceCheck (x : IPQualityServiceCheck) :
    (encodeServiceCheck x).noDuplicateKeys = true := by
  simp [encodeServiceCheck, serviceCheckFields]

@[simp] theorem noDuplicateKeys_encodeServiceUnlock (x : IPQualityServiceUnlockPayload) :
    (encodeServiceUnlock x).noDuplicateKeys = clean x.extraJSON := by
  simp [encodeServiceUnlock, serviceUnlockFields]

@[simp] theorem noDuplicateKeys_encodeCoverage (x : IPQualityCoveragePayload) :
    (encodeCoverage x).noDuplicateKeys = true := by
  simp [encodeCoverage, coverageFields]

@[simp] theorem noDuplicateKeys_encodeMailResult (x : IPQualityMailResult) :
    (encodeMailResult x).noDuplicateKeys = true := by
  simp [encodeMailResult, mailResultFields]

@[simp] theorem noDuplicateKeys_encodeAgentProduct (x : IPQualityAgentProduct) :
    (encodeAgentProduct x).noDuplicateKeys = true := by
  simp [encodeAgentProduct, agentProductFields]

@[simp] theorem noDuplicateKeys_encodeReport (x : IPQualityReportPayload) :
    (encodeReport x).noDuplicateKeys = x.rawClean := by
  simp [encodeReport, reportFields, IPQualityReportPayload.rawClean, Bool.and_assoc]

@[simp] theorem noDuplicateKeys_encodeCommandResult (x : CommandResult) :
    (encodeCommandResult x).noDuplicateKeys = true := by
  simp [encodeCommandResult, commandResultFields]

@[simp] theorem noDuplicateKeys_encodeLiveSignal (x : LiveSignal) :
    (encodeLiveSignal x).noDuplicateKeys = true := by
  simp [encodeLiveSignal, liveSignalFields]

theorem noDuplicateKeys_encodeSyncRequest (x : SyncRequest) :
    (encodeSyncRequest x).noDuplicateKeys = x.rawClean := by
  simp [encodeSyncRequest, syncRequestFields, SyncRequest.rawClean, all_true]

end Houfeng.AgentApi
