import Houfeng.SyncQueue.Envelope

/-!
# Reading back an encoded request

Every reader inverts its writer, on a document as it was written and on its canonical form alike
(`Json.Coding`), so decoding an encoded structure gives the structure back. What a decoder cannot
see is an empty slice under `omitempty`, which comes back as nil.
-/

namespace Houfeng

namespace AgentApi

open Option Json

open Houfeng (Json parseInt parseInt_toString)

def Slice.collapse {α : Type} (s : Slice α) : Slice α := if s.items = [] then none else s

@[simp] theorem Slice.items_some {α : Type} (l : List α) : Slice.items (some l) = l := rfl

@[simp] theorem Slice.items_map {α β : Type} (f : α → β) (s : Slice α) :
    Slice.items (Option.map (List.map f) s) = s.items.map f := by
  cases s <;> rfl

@[simp] theorem Slice.items_collapse {α : Type} (s : Slice α) : s.collapse.items = s.items := by
  rw [Slice.collapse]
  split_ifs with h
  · exact h.symm
  · rfl

-- A decoder is a long chain of binds. It is run in the `do` form: over `Option.bind` the congruence
-- rule for the chain makes `simp` visit every tail of it again at each of its fields.
theorem some_bind {α β : Type} (a : α) (f : α → Option β) : (some a >>= f) = f a := rfl

section Fields

variable {c : Json → Json} [Coding c]

@[simp] theorem readObject_ofFields (fs : List (String × Option Json)) :
    readObject (c (ofFields fs)) = some (c (ofFields fs)) := by
  obtain ⟨fields, h⟩ := Coding.object (c := c) fs
  rw [h, readObject]

attribute [simp] Coding.get?

@[simp] theorem readStr_writeStr (s : String) : readStr ((writeStr s).map c) = some s := by
  rw [writeStr, map_some, Coding.str (c := c), readStr, readText]

@[simp] theorem readStr_omitStr (s : String) : readStr ((omitStr s).map c) = some s := by
  by_cases h : s = ""
  · rw [omitStr, if_pos h, h, map_none, readStr]
  · rw [omitStr, if_neg h, map_some, Coding.str (c := c), readStr, readText]

@[simp] theorem readInt_writeInt (n : Int) : readInt ((writeInt n).map c) = some n := by
  rw [writeInt, map_some, Coding.num (c := c), readInt, parseInt_toString]

@[simp] theorem readPtrInt_omitInt (n : Option Int) : readPtrInt ((omitInt n).map c) = some n := by
  cases n with
  | none => rfl
  | some n =>
    rw [omitInt, map_some, map_some, Coding.num (c := c), readPtrInt,
      parseInt_toString, map_some]

@[simp] theorem readPtrInt_writePtrInt (n : Option Int) :
    readPtrInt ((writePtrInt n).map c) = some n := by
  cases n with
  | none => simp [writePtrInt, omitInt, nullable, Coding.null, readPtrInt]
  | some n => exact readPtrInt_omitInt (some n)

@[simp] theorem readFloat_writeFloat (x : FloatText) :
    readFloat ((writeFloat x).map c) = some x := by
  rw [writeFloat, map_some, Coding.num (c := c), readFloat]

@[simp] theorem readPtrFloat_omitFloat (x : Option FloatText) :
    readPtrFloat ((omitFloat x).map c) = some x := by
  cases x with
  | none => rfl
  | some x => rw [omitFloat, map_some, map_some, Coding.num (c := c), readPtrFloat]

@[simp] theorem readPtrFloat_writePtrFloat (x : Option FloatText) :
    readPtrFloat ((writePtrFloat x).map c) = some x := by
  cases x with
  | none => simp [writePtrFloat, omitFloat, nullable, Coding.null, readPtrFloat]
  | some x => exact readPtrFloat_omitFloat (some x)

@[simp] theorem readBool_omitBool (b : Bool) : readBool ((omitBool b).map c) = some b := by
  cases b with
  | false => rfl
  | true => rw [omitBool, if_pos rfl, map_some, Coding.bool (c := c), readBool]

@[simp] theorem readPtrBool_omitPtrBool (b : Option Bool) :
    readPtrBool ((omitPtrBool b).map c) = some b := by
  cases b with
  | none => rfl
  | some b => rw [omitPtrBool, map_some, map_some, Coding.bool (c := c), readPtrBool]

@[simp] theorem readPtrBool_writePtrBool (b : Option Bool) :
    readPtrBool ((writePtrBool b).map c) = some b := by
  cases b with
  | none => simp [writePtrBool, omitPtrBool, nullable, Coding.null, readPtrBool]
  | some b => exact readPtrBool_omitPtrBool (some b)

theorem mapM_readText (entries : List (String × String)) :
    (entries.map fun e => (e.1, str e.2)).mapM
      (fun f => (readText f.2).map (f.1, ·)) = some entries := by
  induction entries with
  | nil => rfl
  | cons e rest ih => simp only [List.map_cons, List.mapM_cons, ih]; rfl

@[simp] theorem readMap_writeMap (m : Option StringMap) :
    readMap ((writeMap m).map c) = some m := by
  cases m with
  | none => simp [writeMap, nullable, Coding.null, readMap]
  | some m =>
    rw [writeMap, nullable, map_some, map_some, getD_some,
      Coding.texts (c := c) _ m.sorted, readMap, canonicalFields_texts m.sorted,
      mapM_readText]
    exact dif_pos m.sorted

variable {α β : Type} {encode : α → Json} {decode : Json → Option β} {f : α → β}
  (h : ∀ x, decode (c (encode x)) = some (f x))

include h

omit [Coding c] in
theorem mapM_map_encode (items : List α) :
    ((items.map encode).map c).mapM decode = some (items.map f) := by
  induction items with
  | nil => rfl
  | cons x rest ih => simp only [List.map_cons, List.mapM_cons, h, ih]; rfl

theorem readSlice_writeSlice (s : Slice α) :
    readSlice decode ((writeSlice encode s).map c) = some (s.map (List.map f)) := by
  cases s with
  | none => simp [writeSlice, nullable, Coding.null, readSlice]
  | some items =>
    rw [writeSlice, nullable, map_some, map_some, getD_some,
      Coding.arr (c := c), readSlice, mapM_map_encode h, map_some, map_some]

theorem readSlice_omitSlice (s : Slice α) :
    readSlice decode ((omitSlice encode s).map c) = some (s.collapse.map (List.map f)) := by
  by_cases hs : s.items = []
  · rw [omitSlice, Slice.collapse, if_pos hs, if_pos hs]
    rfl
  · cases s with
    | none => exact absurd rfl hs
    | some items =>
      rw [omitSlice, Slice.collapse, if_neg hs, if_neg hs, map_some,
        Coding.arr (c := c), readSlice, Slice.items, getD_some, mapM_map_encode h,
        map_some, map_some]

theorem readPtr_map {fields : α → List (String × Option Json)}
    (he : ∀ x, encode x = ofFields (fields x)) (x : Option α) :
    readPtr decode (x.map (c ∘ encode)) = some (x.map f) := by
  cases x with
  | none => rfl
  | some x =>
    obtain ⟨fs, hfs⟩ := Coding.object (c := c) (fields x)
    have hx : decode (.obj fs) = some (f x) := by rw [← hfs, ← he, h]
    rw [map_some, Function.comp_apply, he, hfs, readPtr, hx, map_some, map_some]
    exact fun h => Json.noConfusion h

end Fields

/-! ## What comes back -/

def HostSamplePayload.decoded (x : HostSamplePayload) : HostSamplePayload :=
  { x with containers := x.containers.collapse }

section Decoded

variable (c : Json → Json)

def IPQualityProviderResultPayload.decoded (x : IPQualityProviderResultPayload) :
    IPQualityProviderResultPayload :=
  { x with extraJSON := x.extraJSON.map c }

def IPQualityServiceUnlockPayload.decoded (x : IPQualityServiceUnlockPayload) :
    IPQualityServiceUnlockPayload :=
  { x with extraJSON := x.extraJSON.map c, checks := x.checks.collapse }

def IPQualityReportPayload.decoded (x : IPQualityReportPayload) : IPQualityReportPayload :=
  { x with
    rawJSON := x.rawJSON.map c
    diagnosticsJSON := x.diagnosticsJSON.map c
    providerResults := x.providerResults.collapse.map (List.map (.decoded c))
    serviceUnlocks := x.serviceUnlocks.collapse.map (List.map (.decoded c)) }

/-- A request after encoding and decoding, where the decoder sees raw messages through `c`. -/
def SyncRequest.decoded (r : SyncRequest) : SyncRequest :=
  { r with
    heartbeats := r.heartbeats.collapse
    hostSamples := r.hostSamples.collapse.map (List.map .decoded)
    probeObservations := r.probeObservations.collapse
    ipQualityReports := r.ipQualityReports.collapse.map (List.map (.decoded c))
    commandResults := r.commandResults.collapse }

end Decoded

/-! ## Round trips -/

section RoundTrip

variable {c : Json → Json} [Coding c]

theorem decode_encodeHeartbeat (x : MonitoringInstanceHeartbeat) :
    decodeHeartbeat (c (encodeHeartbeat x)) = some x := by
  simp [-bind_eq_bind, some_bind, decodeHeartbeat, encodeHeartbeat, heartbeatFields, field]

theorem decode_encodeContainerInfo (x : ContainerInfo) :
    decodeContainerInfo (c (encodeContainerInfo x)) = some x := by
  simp [-bind_eq_bind, some_bind, decodeContainerInfo, encodeContainerInfo, containerInfoFields,
    field]

theorem nodup_hostSampleFields (x : HostSamplePayload) :
    ((hostSampleFields x).map Prod.fst).Nodup := by
  simp [hostSampleFields]

theorem decode_encodeHostSample (x : HostSamplePayload) :
    decodeHostSample (c (encodeHostSample x)) = some x.decoded := by
  simp only [decodeHostSample, encodeHostSample, readObject_ofFields, some_bind,
    Coding.get? (c := c) _ (nodup_hostSampleFields x)]
  simp [-bind_eq_bind, some_bind, hostSampleFields, field,
    readSlice_omitSlice (c := c) decode_encodeContainerInfo,
    HostSamplePayload.decoded]

theorem decode_encodeProbeObservation (x : ProbeObservationPayload) :
    decodeProbeObservation (c (encodeProbeObservation x)) = some x := by
  simp [-bind_eq_bind, some_bind, decodeProbeObservation, encodeProbeObservation,
    probeObservationFields, field]

theorem decode_encodeScore (x : IPQualityScore) : decodeScore (c (encodeScore x)) = some x := by
  simp [-bind_eq_bind, some_bind, decodeScore, encodeScore, scoreFields, field]

theorem nodup_providerDetailsFields (x : IPQualityProviderDetails) :
    ((providerDetailsFields x).map Prod.fst).Nodup := by
  simp [providerDetailsFields]

theorem decode_encodeProviderDetails (x : IPQualityProviderDetails) :
    decodeProviderDetails (c (encodeProviderDetails x)) = some x := by
  simp only [decodeProviderDetails, encodeProviderDetails, readObject_ofFields, some_bind,
    Coding.get? (c := c) _ (nodup_providerDetailsFields x)]
  simp [-bind_eq_bind, some_bind, providerDetailsFields, field,
    readSlice_writeSlice (c := c) decode_encodeScore]

theorem nodup_providerResultFields (x : IPQualityProviderResultPayload) :
    ((providerResultFields x).map Prod.fst).Nodup := by
  simp [providerResultFields]

theorem decode_encodeProviderResult (x : IPQualityProviderResultPayload) :
    decodeProviderResult (c (encodeProviderResult x)) = some (x.decoded c) := by
  simp only [decodeProviderResult, encodeProviderResult, readObject_ofFields, some_bind,
    Coding.get? (c := c) _ (nodup_providerResultFields x)]
  simp [-bind_eq_bind, some_bind, providerResultFields, field, readRaw,
    readPtr_map (c := c) decode_encodeProviderDetails fun _ => rfl,
    IPQualityProviderResultPayload.decoded]

theorem decode_encodeServiceCheck (x : IPQualityServiceCheck) :
    decodeServiceCheck (c (encodeServiceCheck x)) = some x := by
  simp [-bind_eq_bind, some_bind, decodeServiceCheck, encodeServiceCheck, serviceCheckFields, field]

theorem decode_encodeServiceUnlock (x : IPQualityServiceUnlockPayload) :
    decodeServiceUnlock (c (encodeServiceUnlock x)) = some (x.decoded c) := by
  simp [-bind_eq_bind, some_bind, decodeServiceUnlock, encodeServiceUnlock, serviceUnlockFields,
    field, readRaw, readSlice_omitSlice (c := c) decode_encodeServiceCheck,
    IPQualityServiceUnlockPayload.decoded]

theorem decode_encodeCoverage (x : IPQualityCoveragePayload) :
    decodeCoverage (c (encodeCoverage x)) = some x := by
  simp [-bind_eq_bind, some_bind, decodeCoverage, encodeCoverage, coverageFields, field]

theorem decode_encodeMailResult (x : IPQualityMailResult) :
    decodeMailResult (c (encodeMailResult x)) = some x := by
  simp [-bind_eq_bind, some_bind, decodeMailResult, encodeMailResult, mailResultFields, field]

theorem readText_str (s : String) : readText (c (.str s)) = some s := by
  rw [Coding.str (c := c), readText]

theorem nodup_agentProductFields (x : IPQualityAgentProduct) :
    ((agentProductFields x).map Prod.fst).Nodup := by
  simp [agentProductFields]

theorem decode_encodeAgentProduct (x : IPQualityAgentProduct) :
    decodeAgentProduct (c (encodeAgentProduct x)) = some x := by
  simp only [decodeAgentProduct, encodeAgentProduct, readObject_ofFields, some_bind,
    Coding.get? (c := c) _ (nodup_agentProductFields x)]
  simp [-bind_eq_bind, some_bind, agentProductFields, field,
    readSlice_writeSlice (c := c) readText_str,
    readSlice_writeSlice (c := c) decode_encodeMailResult]

theorem nodup_reportFields (x : IPQualityReportPayload) :
    ((reportFields x).map Prod.fst).Nodup := by
  simp [reportFields]

theorem decode_encodeReport (x : IPQualityReportPayload) :
    decodeReport (c (encodeReport x)) = some (x.decoded c) := by
  simp only [decodeReport, encodeReport, readObject_ofFields, some_bind,
    Coding.get? (c := c) _ (nodup_reportFields x)]
  simp [-bind_eq_bind, some_bind, reportFields, field, readRaw,
    readPtr_map (c := c) decode_encodeCoverage fun _ => rfl,
    readSlice_omitSlice (c := c) decode_encodeProviderResult,
    readSlice_omitSlice (c := c) decode_encodeServiceUnlock,
    readPtr_map (c := c) decode_encodeAgentProduct fun _ => rfl, IPQualityReportPayload.decoded]

theorem decode_encodeCommandResult (x : CommandResult) :
    decodeCommandResult (c (encodeCommandResult x)) = some x := by
  simp [-bind_eq_bind, some_bind, decodeCommandResult, encodeCommandResult, commandResultFields,
    field]

theorem decode_encodeLiveSignal (x : LiveSignal) :
    decodeLiveSignal (c (encodeLiveSignal x)) = some x := by
  simp [-bind_eq_bind, some_bind, decodeLiveSignal, encodeLiveSignal, liveSignalFields, field]

theorem nodup_syncRequestFields (x : SyncRequest) : ((syncRequestFields x).map Prod.fst).Nodup := by
  simp [syncRequestFields]

theorem decode_encodeSyncRequest (x : SyncRequest) :
    decodeSyncRequest (c (encodeSyncRequest x)) = some (x.decoded c) := by
  simp only [decodeSyncRequest, encodeSyncRequest, readObject_ofFields, some_bind,
    Coding.get? (c := c) _ (nodup_syncRequestFields x)]
  simp [-bind_eq_bind, some_bind, syncRequestFields, field,
    readPtr_map (c := c) decode_encodeLiveSignal fun _ => rfl,
    readSlice_omitSlice (c := c) decode_encodeHeartbeat,
    readSlice_omitSlice (c := c) decode_encodeHostSample,
    readSlice_omitSlice (c := c) decode_encodeProbeObservation,
    readSlice_omitSlice (c := c) decode_encodeReport,
    readSlice_omitSlice (c := c) decode_encodeCommandResult, SyncRequest.decoded]

end RoundTrip

end AgentApi

/-! ## The facts of a copied request -/

namespace SyncQueue

open AgentApi

@[simp] theorem items_appendNil {α : Type} (s : Slice α) : (appendNil s).items = s.items :=
  Slice.items_collapse s

theorem items_cloneIPQualityReports (s : Slice IPQualityReportPayload) :
    (cloneIPQualityReports s).items = s.items.map fun report =>
      { report with
        providerResults := appendNil report.providerResults
        serviceUnlocks := appendNil report.serviceUnlocks } := by
  rw [cloneIPQualityReports]
  split_ifs with h
  · rw [h, List.map_nil]
    rfl
  · rfl

end SyncQueue

end Houfeng
