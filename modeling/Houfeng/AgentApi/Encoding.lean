import Houfeng.AgentApi.Types

/-!
# The JSON encoding of the sync request

`json.Marshal` and `json.Unmarshal` of the wire structures, as trees. Each structure has the list
of its fields with their tags: `write…` always writes the field, `omit…` is `omitempty`. A reader
takes the value under a key, and leaves the zero value when the key is missing or null.
-/

namespace Houfeng.AgentApi

open Houfeng (Json parseInt)

/-! ## Writing a field -/

def writeStr (s : String) : Option Json := some (.str s)

def omitStr (s : String) : Option Json := if s = "" then none else some (.str s)

def writeInt (n : Int) : Option Json := some (.num (toString n))

def omitInt (n : Option Int) : Option Json := n.map fun n => .num (toString n)

def writeFloat (x : FloatText) : Option Json := some (.num x)

def omitFloat (x : Option FloatText) : Option Json := x.map .num

def omitBool (b : Bool) : Option Json := if b then some (.bool true) else none

def omitPtrBool (b : Option Bool) : Option Json := b.map .bool

/-- A field without `omitempty`: a nil value is written as null. -/
def nullable (v : Option Json) : Option Json := some (v.getD .null)

def writePtrInt (n : Option Int) : Option Json := nullable (omitInt n)

def writePtrFloat (x : Option FloatText) : Option Json := nullable (omitFloat x)

def writePtrBool (b : Option Bool) : Option Json := nullable (omitPtrBool b)

def writeSlice {α : Type} (encode : α → Json) (s : Slice α) : Option Json :=
  nullable (s.map fun items => .arr (items.map encode))

def omitSlice {α : Type} (encode : α → Json) (s : Slice α) : Option Json :=
  if s.items = [] then none else some (.arr (s.items.map encode))

def writeMap (m : Option StringMap) : Option Json :=
  nullable (m.map fun m => .obj (m.entries.map fun e => (e.1, .str e.2)))

/-! ## Reading a field -/

def readObject : Json → Option Json
  | .null => some (.obj [])
  | .obj fields => some (.obj fields)
  | _ => none

def readText : Json → Option String
  | .null => some ""
  | .str s => some s
  | _ => none

def readStr : Option Json → Option String
  | none => some ""
  | some j => readText j

def readInt : Option Json → Option Int
  | none | some .null => some 0
  | some (.num t) => parseInt t
  | _ => none

def readPtrInt : Option Json → Option (Option Int)
  | none | some .null => some none
  | some (.num t) => (parseInt t).map some
  | _ => none

def readFloat : Option Json → Option FloatText
  | none | some .null => some "0"
  | some (.num t) => some t
  | _ => none

def readPtrFloat : Option Json → Option (Option FloatText)
  | none | some .null => some none
  | some (.num t) => some (some t)
  | _ => none

def readBool : Option Json → Option Bool
  | none | some .null => some false
  | some (.bool b) => some b
  | _ => none

def readPtrBool : Option Json → Option (Option Bool)
  | none | some .null => some none
  | some (.bool b) => some (some b)
  | _ => none

/-- `json.RawMessage` keeps whatever stands under the key, null included. -/
def readRaw (v : Option Json) : Option (Option Json) := some v

def readPtr {α : Type} (decode : Json → Option α) : Option Json → Option (Option α)
  | none | some .null => some none
  | some j => (decode j).map some

def readSlice {α : Type} (decode : Json → Option α) : Option Json → Option (Slice α)
  | none | some .null => some none
  | some (.arr items) => (items.mapM decode).map some
  | _ => none

def readMap : Option Json → Option (Option StringMap)
  | none | some .null => some none
  | some (.obj fields) => do
    let entries ← (Json.canonicalFields fields).mapM fun f => (readText f.2).map (f.1, ·)
    -- the keys of canonical fields are in order, so the test never fails
    if h : entries.Pairwise fun a b => a.1 < b.1 then some (some ⟨entries, h⟩) else none
  | _ => none

/-! ## The structures -/

def heartbeatFields (x : MonitoringInstanceHeartbeat) : List (String × Option Json) :=
  [("observed_at", writeStr x.observedAt), ("agent_version", writeStr x.agentVersion),
   ("fingerprint", writeStr x.fingerprint), ("sync_batch_id", writeStr x.syncBatchID),
   ("is_backfilled", omitBool x.isBackfilled)]

def encodeHeartbeat (x : MonitoringInstanceHeartbeat) : Json := Json.ofFields (heartbeatFields x)

variable (j : Json)

def decodeHeartbeat : Option MonitoringInstanceHeartbeat := do
  let o ← readObject j
  let observedAt ← readStr (o.get? "observed_at")
  let agentVersion ← readStr (o.get? "agent_version")
  let fingerprint ← readStr (o.get? "fingerprint")
  let syncBatchID ← readStr (o.get? "sync_batch_id")
  let isBackfilled ← readBool (o.get? "is_backfilled")
  pure
    { observedAt, agentVersion, fingerprint, syncBatchID, isBackfilled }

def containerInfoFields (x : ContainerInfo) : List (String × Option Json) :=
  [("id", writeStr x.id), ("name", writeStr x.name), ("image", writeStr x.image),
   ("status", writeStr x.status), ("cpu_pct", omitFloat x.cpuPct),
   ("mem_pct", omitFloat x.memPct)]

def encodeContainerInfo (x : ContainerInfo) : Json := Json.ofFields (containerInfoFields x)

def decodeContainerInfo : Option ContainerInfo := do
  let o ← readObject j
  let id ← readStr (o.get? "id")
  let name ← readStr (o.get? "name")
  let image ← readStr (o.get? "image")
  let status ← readStr (o.get? "status")
  let cpuPct ← readPtrFloat (o.get? "cpu_pct")
  let memPct ← readPtrFloat (o.get? "mem_pct")
  pure
    { id, name, image, status, cpuPct, memPct }

def hostSampleFields (x : HostSamplePayload) : List (String × Option Json) :=
  [("observed_at", writeStr x.observedAt), ("agent_version", writeStr x.agentVersion),
   ("fingerprint", writeStr x.fingerprint), ("sync_batch_id", writeStr x.syncBatchID),
   ("cpu_usage_pct", writeFloat x.cpuUsagePct),
   ("cpu_rates_valid", omitPtrBool x.cpuRatesValid), ("load_1", writeFloat x.load1),
   ("load_5", writeFloat x.load5), ("load_15", writeFloat x.load15),
   ("mem_used_pct", writeFloat x.memUsedPct),
   ("mem_available_bytes", writeInt x.memAvailableBytes),
   ("mem_total_bytes", writeInt x.memTotalBytes), ("swap_used_pct", writeFloat x.swapUsedPct),
   ("disk_used_pct", writeFloat x.diskUsedPct),
   ("disk_total_bytes", writeInt x.diskTotalBytes),
   ("inode_used_pct", writeFloat x.inodeUsedPct),
   ("net_in_bytes_per_sec", writeInt x.netInBytesPerSec),
   ("net_out_bytes_per_sec", writeInt x.netOutBytesPerSec),
   ("network_rates_valid", omitPtrBool x.networkRatesValid),
   ("cpu_iowait_pct", writeFloat x.cpuIOWaitPct), ("cpu_steal_pct", writeFloat x.cpuStealPct),
   ("disk_read_bytes_per_sec", writeInt x.diskReadBytesPerSec),
   ("disk_write_bytes_per_sec", writeInt x.diskWriteBytesPerSec),
   ("disk_busy_pct", writeFloat x.diskBusyPct), ("uptime_seconds", writeInt x.uptimeSeconds),
   ("maintenance_context", omitBool x.maintenanceContext),
   ("is_backfilled", omitBool x.isBackfilled),
   ("containers", omitSlice encodeContainerInfo x.containers)]

def encodeHostSample (x : HostSamplePayload) : Json := Json.ofFields (hostSampleFields x)

def decodeHostSample : Option HostSamplePayload := do
  let o ← readObject j
  let observedAt ← readStr (o.get? "observed_at")
  let agentVersion ← readStr (o.get? "agent_version")
  let fingerprint ← readStr (o.get? "fingerprint")
  let syncBatchID ← readStr (o.get? "sync_batch_id")
  let cpuUsagePct ← readFloat (o.get? "cpu_usage_pct")
  let cpuRatesValid ← readPtrBool (o.get? "cpu_rates_valid")
  let load1 ← readFloat (o.get? "load_1")
  let load5 ← readFloat (o.get? "load_5")
  let load15 ← readFloat (o.get? "load_15")
  let memUsedPct ← readFloat (o.get? "mem_used_pct")
  let memAvailableBytes ← readInt (o.get? "mem_available_bytes")
  let memTotalBytes ← readInt (o.get? "mem_total_bytes")
  let swapUsedPct ← readFloat (o.get? "swap_used_pct")
  let diskUsedPct ← readFloat (o.get? "disk_used_pct")
  let diskTotalBytes ← readInt (o.get? "disk_total_bytes")
  let inodeUsedPct ← readFloat (o.get? "inode_used_pct")
  let netInBytesPerSec ← readInt (o.get? "net_in_bytes_per_sec")
  let netOutBytesPerSec ← readInt (o.get? "net_out_bytes_per_sec")
  let networkRatesValid ← readPtrBool (o.get? "network_rates_valid")
  let cpuIOWaitPct ← readFloat (o.get? "cpu_iowait_pct")
  let cpuStealPct ← readFloat (o.get? "cpu_steal_pct")
  let diskReadBytesPerSec ← readInt (o.get? "disk_read_bytes_per_sec")
  let diskWriteBytesPerSec ← readInt (o.get? "disk_write_bytes_per_sec")
  let diskBusyPct ← readFloat (o.get? "disk_busy_pct")
  let uptimeSeconds ← readInt (o.get? "uptime_seconds")
  let maintenanceContext ← readBool (o.get? "maintenance_context")
  let isBackfilled ← readBool (o.get? "is_backfilled")
  let containers ← readSlice decodeContainerInfo (o.get? "containers")
  pure
    { observedAt, agentVersion, fingerprint, syncBatchID, cpuUsagePct, cpuRatesValid, load1,
      load5, load15, memUsedPct, memAvailableBytes, memTotalBytes, swapUsedPct, diskUsedPct,
      diskTotalBytes, inodeUsedPct, netInBytesPerSec, netOutBytesPerSec, networkRatesValid,
      cpuIOWaitPct, cpuStealPct, diskReadBytesPerSec, diskWriteBytesPerSec, diskBusyPct,
      uptimeSeconds, maintenanceContext, isBackfilled, containers }

def probeObservationFields (x : ProbeObservationPayload) : List (String × Option Json) :=
  [("target_id", writeStr x.targetID), ("probe_item_id", writeStr x.probeItemID),
   ("probe_kind", writeStr x.probeKind), ("observed_at", writeStr x.observedAt),
   ("agent_version", writeStr x.agentVersion), ("fingerprint", writeStr x.fingerprint),
   ("sync_batch_id", writeStr x.syncBatchID), ("result_kind", writeStr x.resultKind),
   ("latency_ms", omitInt x.latencyMS), ("http_status", omitInt x.httpStatus),
   ("tls_expiry_days", omitInt x.tlsExpiryDays), ("error_code", omitStr x.errorCode),
   ("error_summary", omitStr x.errorSummary),
   ("maintenance_context", omitBool x.maintenanceContext),
   ("is_backfilled", omitBool x.isBackfilled)]

def encodeProbeObservation (x : ProbeObservationPayload) : Json :=
  Json.ofFields (probeObservationFields x)

def decodeProbeObservation : Option ProbeObservationPayload := do
  let o ← readObject j
  let targetID ← readStr (o.get? "target_id")
  let probeItemID ← readStr (o.get? "probe_item_id")
  let probeKind ← readStr (o.get? "probe_kind")
  let observedAt ← readStr (o.get? "observed_at")
  let agentVersion ← readStr (o.get? "agent_version")
  let fingerprint ← readStr (o.get? "fingerprint")
  let syncBatchID ← readStr (o.get? "sync_batch_id")
  let resultKind ← readStr (o.get? "result_kind")
  let latencyMS ← readPtrInt (o.get? "latency_ms")
  let httpStatus ← readPtrInt (o.get? "http_status")
  let tlsExpiryDays ← readPtrInt (o.get? "tls_expiry_days")
  let errorCode ← readStr (o.get? "error_code")
  let errorSummary ← readStr (o.get? "error_summary")
  let maintenanceContext ← readBool (o.get? "maintenance_context")
  let isBackfilled ← readBool (o.get? "is_backfilled")
  pure
    { targetID, probeItemID, probeKind, observedAt, agentVersion, fingerprint, syncBatchID,
      resultKind, latencyMS, httpStatus, tlsExpiryDays, errorCode, errorSummary,
      maintenanceContext, isBackfilled }

def scoreFields (x : IPQualityScore) : List (String × Option Json) :=
  [("id", writeStr x.id), ("label", writeStr x.label), ("raw_value", writeStr x.rawValue),
   ("unit", writeStr x.unit), ("scope", writeStr x.scope), ("direction", writeStr x.direction),
   ("source_label", writeStr x.sourceLabel), ("value", writePtrFloat x.value),
   ("min", writePtrFloat x.min), ("max", writePtrFloat x.max)]

def encodeScore (x : IPQualityScore) : Json := Json.ofFields (scoreFields x)

def decodeScore : Option IPQualityScore := do
  let o ← readObject j
  let id ← readStr (o.get? "id")
  let label ← readStr (o.get? "label")
  let rawValue ← readStr (o.get? "raw_value")
  let unit ← readStr (o.get? "unit")
  let scope ← readStr (o.get? "scope")
  let direction ← readStr (o.get? "direction")
  let sourceLabel ← readStr (o.get? "source_label")
  let value ← readPtrFloat (o.get? "value")
  let min ← readPtrFloat (o.get? "min")
  let max ← readPtrFloat (o.get? "max")
  pure
    { id, label, rawValue, unit, scope, direction, sourceLabel, value, min, max }

def providerDetailsFields (x : IPQualityProviderDetails) : List (String × Option Json) :=
  [("queried_ip", writeStr x.queriedIP), ("observed_at", writeStr x.observedAt),
   ("method", writeStr x.method), ("api_tier", writeStr x.apiTier),
   ("country_code", writeStr x.countryCode), ("region", writeStr x.region),
   ("city", writeStr x.city), ("postal_code", writeStr x.postalCode),
   ("timezone", writeStr x.timezone), ("latitude", writePtrFloat x.latitude),
   ("longitude", writePtrFloat x.longitude),
   ("registered_country_code", writeStr x.registeredCountryCode), ("asn", writeStr x.asn),
   ("as_name", writeStr x.asName), ("as_domain", writeStr x.asDomain),
   ("as_country_code", writeStr x.asCountryCode), ("route", writeStr x.route),
   ("company_name", writeStr x.companyName), ("company_domain", writeStr x.companyDomain),
   ("is_mobile", writePtrBool x.isMobile), ("is_anycast", writePtrBool x.isAnycast),
   ("is_bogon", writePtrBool x.isBogon), ("scores", writeSlice encodeScore x.scores),
   ("field_states", writeMap x.fieldStates)]

def encodeProviderDetails (x : IPQualityProviderDetails) : Json :=
  Json.ofFields (providerDetailsFields x)

def decodeProviderDetails : Option IPQualityProviderDetails := do
  let o ← readObject j
  let queriedIP ← readStr (o.get? "queried_ip")
  let observedAt ← readStr (o.get? "observed_at")
  let method ← readStr (o.get? "method")
  let apiTier ← readStr (o.get? "api_tier")
  let countryCode ← readStr (o.get? "country_code")
  let region ← readStr (o.get? "region")
  let city ← readStr (o.get? "city")
  let postalCode ← readStr (o.get? "postal_code")
  let timezone ← readStr (o.get? "timezone")
  let latitude ← readPtrFloat (o.get? "latitude")
  let longitude ← readPtrFloat (o.get? "longitude")
  let registeredCountryCode ← readStr (o.get? "registered_country_code")
  let asn ← readStr (o.get? "asn")
  let asName ← readStr (o.get? "as_name")
  let asDomain ← readStr (o.get? "as_domain")
  let asCountryCode ← readStr (o.get? "as_country_code")
  let route ← readStr (o.get? "route")
  let companyName ← readStr (o.get? "company_name")
  let companyDomain ← readStr (o.get? "company_domain")
  let isMobile ← readPtrBool (o.get? "is_mobile")
  let isAnycast ← readPtrBool (o.get? "is_anycast")
  let isBogon ← readPtrBool (o.get? "is_bogon")
  let scores ← readSlice decodeScore (o.get? "scores")
  let fieldStates ← readMap (o.get? "field_states")
  pure
    { queriedIP, observedAt, method, apiTier, countryCode, region, city, postalCode, timezone,
      latitude, longitude, registeredCountryCode, asn, asName, asDomain, asCountryCode, route,
      companyName, companyDomain, isMobile, isAnycast, isBogon, scores, fieldStates }

def providerResultFields (x : IPQualityProviderResultPayload) : List (String × Option Json) :=
  [("provider", writeStr x.provider), ("status", omitStr x.status),
   ("source_type", omitStr x.sourceType), ("latency_ms", omitInt x.latencyMS),
   ("usage_type", omitStr x.usageType), ("company_type", omitStr x.companyType),
   ("risk_level", omitStr x.riskLevel), ("risk_score", omitStr x.riskScore),
   ("region_code", omitStr x.regionCode), ("region_name", omitStr x.regionName),
   ("is_proxy", omitPtrBool x.isProxy), ("is_tor", omitPtrBool x.isTor),
   ("is_vpn", omitPtrBool x.isVPN), ("is_server", omitPtrBool x.isServer),
   ("is_abuser", omitPtrBool x.isAbuser), ("is_robot", omitPtrBool x.isRobot),
   ("error_code", omitStr x.errorCode), ("error_summary", omitStr x.errorSummary),
   ("extra_json", x.extraJSON), ("details", x.details.map encodeProviderDetails)]

def encodeProviderResult (x : IPQualityProviderResultPayload) : Json :=
  Json.ofFields (providerResultFields x)

def decodeProviderResult : Option IPQualityProviderResultPayload := do
  let o ← readObject j
  let provider ← readStr (o.get? "provider")
  let status ← readStr (o.get? "status")
  let sourceType ← readStr (o.get? "source_type")
  let latencyMS ← readPtrInt (o.get? "latency_ms")
  let usageType ← readStr (o.get? "usage_type")
  let companyType ← readStr (o.get? "company_type")
  let riskLevel ← readStr (o.get? "risk_level")
  let riskScore ← readStr (o.get? "risk_score")
  let regionCode ← readStr (o.get? "region_code")
  let regionName ← readStr (o.get? "region_name")
  let isProxy ← readPtrBool (o.get? "is_proxy")
  let isTor ← readPtrBool (o.get? "is_tor")
  let isVPN ← readPtrBool (o.get? "is_vpn")
  let isServer ← readPtrBool (o.get? "is_server")
  let isAbuser ← readPtrBool (o.get? "is_abuser")
  let isRobot ← readPtrBool (o.get? "is_robot")
  let errorCode ← readStr (o.get? "error_code")
  let errorSummary ← readStr (o.get? "error_summary")
  let extraJSON ← readRaw (o.get? "extra_json")
  let details ← readPtr decodeProviderDetails (o.get? "details")
  pure
    { provider, status, sourceType, latencyMS, usageType, companyType, riskLevel, riskScore,
      regionCode, regionName, isProxy, isTor, isVPN, isServer, isAbuser, isRobot, errorCode,
      errorSummary, extraJSON, details }

def serviceCheckFields (x : IPQualityServiceCheck) : List (String × Option Json) :=
  [("id", writeStr x.id), ("label", writeStr x.label), ("status", writeStr x.status),
   ("region", writeStr x.region), ("error_code", writeStr x.errorCode),
   ("rule", writeStr x.rule), ("http_status", writePtrInt x.httpStatus)]

def encodeServiceCheck (x : IPQualityServiceCheck) : Json := Json.ofFields (serviceCheckFields x)

def decodeServiceCheck : Option IPQualityServiceCheck := do
  let o ← readObject j
  let id ← readStr (o.get? "id")
  let label ← readStr (o.get? "label")
  let status ← readStr (o.get? "status")
  let region ← readStr (o.get? "region")
  let errorCode ← readStr (o.get? "error_code")
  let rule ← readStr (o.get? "rule")
  let httpStatus ← readPtrInt (o.get? "http_status")
  pure
    { id, label, status, region, errorCode, rule, httpStatus }

def serviceUnlockFields (x : IPQualityServiceUnlockPayload) : List (String × Option Json) :=
  [("service", writeStr x.service), ("source", omitStr x.source),
   ("status", writeStr x.status), ("probe_status", omitStr x.probeStatus),
   ("latency_ms", omitInt x.latencyMS), ("region", omitStr x.region),
   ("unlock_type", omitStr x.unlockType), ("error_code", omitStr x.errorCode),
   ("error_summary", omitStr x.errorSummary), ("extra_json", x.extraJSON),
   ("checks", omitSlice encodeServiceCheck x.checks)]

def encodeServiceUnlock (x : IPQualityServiceUnlockPayload) : Json :=
  Json.ofFields (serviceUnlockFields x)

def decodeServiceUnlock : Option IPQualityServiceUnlockPayload := do
  let o ← readObject j
  let service ← readStr (o.get? "service")
  let source ← readStr (o.get? "source")
  let status ← readStr (o.get? "status")
  let probeStatus ← readStr (o.get? "probe_status")
  let latencyMS ← readPtrInt (o.get? "latency_ms")
  let region ← readStr (o.get? "region")
  let unlockType ← readStr (o.get? "unlock_type")
  let errorCode ← readStr (o.get? "error_code")
  let errorSummary ← readStr (o.get? "error_summary")
  let extraJSON ← readRaw (o.get? "extra_json")
  let checks ← readSlice decodeServiceCheck (o.get? "checks")
  pure
    { service, source, status, probeStatus, latencyMS, region, unlockType, errorCode,
      errorSummary, extraJSON, checks }

def coverageFields (x : IPQualityCoveragePayload) : List (String × Option Json) :=
  [("expected_provider_count", writeInt x.expectedProviderCount),
   ("successful_provider_count", writeInt x.successfulProviderCount),
   ("failed_provider_count", writeInt x.failedProviderCount),
   ("skipped_provider_count", writeInt x.skippedProviderCount),
   ("not_configured_provider_count", writeInt x.notConfiguredProviderCount),
   ("expected_service_count", writeInt x.expectedServiceCount),
   ("successful_service_count", writeInt x.successfulServiceCount),
   ("failed_service_count", writeInt x.failedServiceCount),
   ("skipped_service_count", writeInt x.skippedServiceCount),
   ("not_configured_service_count", writeInt x.notConfiguredServiceCount)]

def encodeCoverage (x : IPQualityCoveragePayload) : Json := Json.ofFields (coverageFields x)

def decodeCoverage : Option IPQualityCoveragePayload := do
  let o ← readObject j
  let expectedProviderCount ← readInt (o.get? "expected_provider_count")
  let successfulProviderCount ← readInt (o.get? "successful_provider_count")
  let failedProviderCount ← readInt (o.get? "failed_provider_count")
  let skippedProviderCount ← readInt (o.get? "skipped_provider_count")
  let notConfiguredProviderCount ← readInt (o.get? "not_configured_provider_count")
  let expectedServiceCount ← readInt (o.get? "expected_service_count")
  let successfulServiceCount ← readInt (o.get? "successful_service_count")
  let failedServiceCount ← readInt (o.get? "failed_service_count")
  let skippedServiceCount ← readInt (o.get? "skipped_service_count")
  let notConfiguredServiceCount ← readInt (o.get? "not_configured_service_count")
  pure
    { expectedProviderCount, successfulProviderCount, failedProviderCount,
      skippedProviderCount, notConfiguredProviderCount, expectedServiceCount,
      successfulServiceCount, failedServiceCount, skippedServiceCount,
      notConfiguredServiceCount }

def mailResultFields (x : IPQualityMailResult) : List (String × Option Json) :=
  [("provider", writeStr x.provider), ("domain", writeStr x.domain),
   ("status", writeStr x.status), ("mx_host", writeStr x.mxHost),
   ("target_ip", writeStr x.targetIP), ("error_code", writeStr x.errorCode),
   ("mx_preference", writePtrInt x.mxPreference),
   ("greeting_code", writePtrInt x.greetingCode), ("latency_ms", writePtrInt x.latencyMS),
   ("observed_at", writeStr x.observedAt)]

def encodeMailResult (x : IPQualityMailResult) : Json := Json.ofFields (mailResultFields x)

def decodeMailResult : Option IPQualityMailResult := do
  let o ← readObject j
  let provider ← readStr (o.get? "provider")
  let domain ← readStr (o.get? "domain")
  let status ← readStr (o.get? "status")
  let mxHost ← readStr (o.get? "mx_host")
  let targetIP ← readStr (o.get? "target_ip")
  let errorCode ← readStr (o.get? "error_code")
  let mxPreference ← readPtrInt (o.get? "mx_preference")
  let greetingCode ← readPtrInt (o.get? "greeting_code")
  let latencyMS ← readPtrInt (o.get? "latency_ms")
  let observedAt ← readStr (o.get? "observed_at")
  pure
    { provider, domain, status, mxHost, targetIP, errorCode, mxPreference, greetingCode,
      latencyMS, observedAt }

def agentProductFields (x : IPQualityAgentProduct) : List (String × Option Json) :=
  [("revision", writeInt x.revision), ("ptr_names", writeSlice Json.str x.ptrNames),
   ("mail", writeSlice encodeMailResult x.mail)]

def encodeAgentProduct (x : IPQualityAgentProduct) : Json := Json.ofFields (agentProductFields x)

def decodeAgentProduct : Option IPQualityAgentProduct := do
  let o ← readObject j
  let revision ← readInt (o.get? "revision")
  let ptrNames ← readSlice readText (o.get? "ptr_names")
  let mail ← readSlice decodeMailResult (o.get? "mail")
  pure
    { revision, ptrNames, mail }

def reportFields (x : IPQualityReportPayload) : List (String × Option Json) :=
  [("observed_at", writeStr x.observedAt), ("agent_version", writeStr x.agentVersion),
   ("fingerprint", writeStr x.fingerprint), ("sync_batch_id", writeStr x.syncBatchID),
   ("ip_address", writeStr x.ipAddress), ("ip_version", writeInt x.ipVersion),
   ("status", writeStr x.status), ("asn", omitStr x.asn),
   ("organization", omitStr x.organization), ("latitude", omitFloat x.latitude),
   ("longitude", omitFloat x.longitude), ("use_region_code", omitStr x.useRegionCode),
   ("use_region_name", omitStr x.useRegionName),
   ("registered_region_code", omitStr x.registeredRegionCode),
   ("registered_region_name", omitStr x.registeredRegionName),
   ("risk_level", omitStr x.riskLevel), ("error_code", omitStr x.errorCode),
   ("error_summary", omitStr x.errorSummary), ("is_backfilled", omitBool x.isBackfilled),
   ("raw_json", x.rawJSON), ("coverage", x.coverage.map encodeCoverage),
   ("diagnostics_json", x.diagnosticsJSON),
   ("provider_results", omitSlice encodeProviderResult x.providerResults),
   ("service_unlocks", omitSlice encodeServiceUnlock x.serviceUnlocks),
   ("product", x.product.map encodeAgentProduct)]

def encodeReport (x : IPQualityReportPayload) : Json := Json.ofFields (reportFields x)

def decodeReport : Option IPQualityReportPayload := do
  let o ← readObject j
  let observedAt ← readStr (o.get? "observed_at")
  let agentVersion ← readStr (o.get? "agent_version")
  let fingerprint ← readStr (o.get? "fingerprint")
  let syncBatchID ← readStr (o.get? "sync_batch_id")
  let ipAddress ← readStr (o.get? "ip_address")
  let ipVersion ← readInt (o.get? "ip_version")
  let status ← readStr (o.get? "status")
  let asn ← readStr (o.get? "asn")
  let organization ← readStr (o.get? "organization")
  let latitude ← readPtrFloat (o.get? "latitude")
  let longitude ← readPtrFloat (o.get? "longitude")
  let useRegionCode ← readStr (o.get? "use_region_code")
  let useRegionName ← readStr (o.get? "use_region_name")
  let registeredRegionCode ← readStr (o.get? "registered_region_code")
  let registeredRegionName ← readStr (o.get? "registered_region_name")
  let riskLevel ← readStr (o.get? "risk_level")
  let errorCode ← readStr (o.get? "error_code")
  let errorSummary ← readStr (o.get? "error_summary")
  let isBackfilled ← readBool (o.get? "is_backfilled")
  let rawJSON ← readRaw (o.get? "raw_json")
  let coverage ← readPtr decodeCoverage (o.get? "coverage")
  let diagnosticsJSON ← readRaw (o.get? "diagnostics_json")
  let providerResults ← readSlice decodeProviderResult (o.get? "provider_results")
  let serviceUnlocks ← readSlice decodeServiceUnlock (o.get? "service_unlocks")
  let product ← readPtr decodeAgentProduct (o.get? "product")
  pure
    { observedAt, agentVersion, fingerprint, syncBatchID, ipAddress, ipVersion, status, asn,
      organization, latitude, longitude, useRegionCode, useRegionName, registeredRegionCode,
      registeredRegionName, riskLevel, errorCode, errorSummary, isBackfilled, rawJSON,
      coverage, diagnosticsJSON, providerResults, serviceUnlocks, product }

def commandResultFields (x : CommandResult) : List (String × Option Json) :=
  [("action_id", writeStr x.actionID), ("command_id", writeStr x.commandID),
   ("stdout", writeStr x.stdout), ("stderr", writeStr x.stderr),
   ("exit_code", writeInt x.exitCode)]

def encodeCommandResult (x : CommandResult) : Json := Json.ofFields (commandResultFields x)

def decodeCommandResult : Option CommandResult := do
  let o ← readObject j
  let actionID ← readStr (o.get? "action_id")
  let commandID ← readStr (o.get? "command_id")
  let stdout ← readStr (o.get? "stdout")
  let stderr ← readStr (o.get? "stderr")
  let exitCode ← readInt (o.get? "exit_code")
  pure
    { actionID, commandID, stdout, stderr, exitCode }

def liveSignalFields (x : LiveSignal) : List (String × Option Json) :=
  [("sequence", writeInt x.sequence), ("fingerprint", writeStr x.fingerprint)]

def encodeLiveSignal (x : LiveSignal) : Json := Json.ofFields (liveSignalFields x)

def decodeLiveSignal : Option LiveSignal := do
  let o ← readObject j
  let sequence ← readInt (o.get? "sequence")
  let fingerprint ← readStr (o.get? "fingerprint")
  pure
    { sequence, fingerprint }

def syncRequestFields (x : SyncRequest) : List (String × Option Json) :=
  [("protocol_revision", writeInt x.protocolRevision), ("producer_id", writeStr x.producerID),
   ("batch_sequence", writeInt x.batchSequence),
   ("allocated_through", writeInt x.allocatedThrough),
   ("retired_through", writeInt x.retiredThrough), ("session_id", writeStr x.sessionID),
   ("live_signal", x.liveSignal.map encodeLiveSignal),
   ("monitoring_instance_id", writeStr x.monitoringInstanceID),
   ("sync_token", writeStr x.syncToken),
   ("heartbeats", omitSlice encodeHeartbeat x.heartbeats),
   ("host_samples", omitSlice encodeHostSample x.hostSamples),
   ("probe_observations", omitSlice encodeProbeObservation x.probeObservations),
   ("ip_quality_reports", omitSlice encodeReport x.ipQualityReports),
   ("command_results", omitSlice encodeCommandResult x.commandResults)]

def encodeSyncRequest (x : SyncRequest) : Json := Json.ofFields (syncRequestFields x)

def decodeSyncRequest : Option SyncRequest := do
  let o ← readObject j
  let protocolRevision ← readInt (o.get? "protocol_revision")
  let producerID ← readStr (o.get? "producer_id")
  let batchSequence ← readInt (o.get? "batch_sequence")
  let allocatedThrough ← readInt (o.get? "allocated_through")
  let retiredThrough ← readInt (o.get? "retired_through")
  let sessionID ← readStr (o.get? "session_id")
  let liveSignal ← readPtr decodeLiveSignal (o.get? "live_signal")
  let monitoringInstanceID ← readStr (o.get? "monitoring_instance_id")
  let syncToken ← readStr (o.get? "sync_token")
  let heartbeats ← readSlice decodeHeartbeat (o.get? "heartbeats")
  let hostSamples ← readSlice decodeHostSample (o.get? "host_samples")
  let probeObservations ← readSlice decodeProbeObservation (o.get? "probe_observations")
  let ipQualityReports ← readSlice decodeReport (o.get? "ip_quality_reports")
  let commandResults ← readSlice decodeCommandResult (o.get? "command_results")
  pure
    { protocolRevision, producerID, batchSequence, allocatedThrough, retiredThrough, sessionID,
      liveSignal, monitoringInstanceID, syncToken, heartbeats, hostSamples, probeObservations,
      ipQualityReports, commandResults }

/-! ## The canonical document of a sync batch

`CanonicalSyncBatchDigest` encodes the request, decodes it into maps, removes what belongs to the
transmission, and normalises the collections that a nil value would change. Its digest is the hash
of that document. -/

def transportKeys : List String :=
  ["sync_token", "live_signal", "protocol_revision", "allocated_through", "retired_through"]

def factKeys : List String :=
  ["heartbeats", "host_samples", "probe_observations", "ip_quality_reports", "command_results"]

def mapItems (f : Json → Json) : Json → Json
  | .arr items => .arr (items.map f)
  | j => j

def whenObject (f : Json → Json) : Json → Json
  | .obj fields => f (.obj fields)
  | j => j

def normalizeDigestProduct (product : Json) : Json :=
  (product.setDefault "ptr_names" (.arr [])).setDefault "mail" (.arr [])

def normalizeDigestDetails (details : Json) : Json :=
  (details.setDefault "scores" (.arr [])).setDefault "field_states" (.obj [])

def normalizeDigestProvider (provider : Json) : Json :=
  provider.modify "details" (whenObject normalizeDigestDetails)

def normalizeDigestReportCollections (report : Json) : Json :=
  (report.modify "product" (whenObject normalizeDigestProduct)).modify "provider_results"
    (mapItems normalizeDigestProvider)

/-- The loop body over the facts under `key`. -/
def normalizeDigestFact (key : String) (fact : Json) : Json :=
  let fact := fact.delete "is_backfilled"
  if key = "ip_quality_reports" then normalizeDigestReportCollections fact else fact

def normalizeDigestFacts (batch : Json) (key : String) : Json :=
  (batch.setDefault key (.arr [])).modify key (mapItems (normalizeDigestFact key))

def canonicalSyncBatchDocument (req : SyncRequest) : Json :=
  let batch := (encodeSyncRequest req).canonical
  let batch := transportKeys.foldl (fun batch key => batch.delete key) batch
  factKeys.foldl normalizeDigestFacts batch

/-- `CanonicalSyncBatchDigest`, over the hash of a marshalled document. -/
def canonicalSyncBatchDigest (hash : Json → Digest) (req : SyncRequest) : Digest :=
  hash (canonicalSyncBatchDocument req)

end Houfeng.AgentApi
