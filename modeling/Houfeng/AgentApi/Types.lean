import Houfeng.Foundation.Json

/-!
# Requests and answers of the agent API

The Go structures an agent sends, field by field. Times and floating-point numbers are their JSON
texts, since neither the queue nor the protocol computes with them. A slice is `none` when it is
nil; a raw message is `none` when it is nil or empty.
-/

namespace Houfeng.AgentApi

/-! ## Protocol -/

def syncProtocolRevision : Int := 2

/-- How far above the retired floor a receipt may lie. -/
def syncReplayWindow : Int := 131072

/-- The live sequences an agent reserves at once. -/
def liveSequenceReservation : Int := 1024

abbrev Digest := Vector UInt8 32

def hexDigit (n : Nat) : Char := if n < 10 then Char.ofNat (48 + n) else Char.ofNat (87 + n)

def hexEncode (d : Digest) : String :=
  String.ofList (d.toList.flatMap fun b => [hexDigit (b.toNat / 16), hexDigit (b.toNat % 16)])

def isHexDigit (c : Char) : Bool :=
  (48 ≤ c.toNat && c.toNat ≤ 57) || (65 ≤ c.toNat && c.toNat ≤ 70) ||
    (97 ≤ c.toNat && c.toNat ≤ 102)

/-- The hyphenated UUID representation, in either case. -/
def validSyncProducerID (id : String) : Bool :=
  id.toList.length = 36 && id.toList.zipIdx.all fun (c, i) =>
    if i ∈ [8, 13, 18, 23] then c = '-' else isHexDigit c

def uuidText (id : String) : String := String.ofList (id.toList.map Char.toLower)

/-- `strings.EqualFold` on UUID texts. -/
def equalFold (a b : String) : Bool := uuidText a = uuidText b

/-- `producer:sequence`, the identity every fact of a batch carries. -/
def batchIdentity (producerID : String) (batchSequence : Int) : String :=
  producerID ++ ":" ++ toString batchSequence

structure LiveSignal where
  sequence : Int
  fingerprint : String

inductive Disposition
  | recorded
  | exactDuplicate
  | suppressed
  | deferred
deriving DecidableEq

def Disposition.text : Disposition → String
  | .recorded => "recorded"
  | .exactDuplicate => "exact_duplicate"
  | .suppressed => "suppressed"
  | .deferred => "deferred"

/-! ## Requests -/

/-- A Go slice: nil, or the elements. -/
abbrev Slice (α : Type) := Option (List α)

def Slice.items {α : Type} (s : Slice α) : List α := s.getD []

abbrev TimeText := String

abbrev FloatText := String

/-- A Go map of strings, with its keys in order. -/
structure StringMap where
  entries : List (String × String)
  sorted : entries.Pairwise fun a b => a.1 < b.1

structure MonitoringInstanceHeartbeat where
  observedAt : TimeText
  agentVersion : String
  fingerprint : String
  syncBatchID : String
  isBackfilled : Bool

structure ContainerInfo where
  id : String
  name : String
  image : String
  status : String
  cpuPct : Option FloatText
  memPct : Option FloatText

structure HostSamplePayload where
  observedAt : TimeText
  agentVersion : String
  fingerprint : String
  syncBatchID : String
  cpuUsagePct : FloatText
  cpuRatesValid : Option Bool
  load1 : FloatText
  load5 : FloatText
  load15 : FloatText
  memUsedPct : FloatText
  memAvailableBytes : Int
  memTotalBytes : Int
  swapUsedPct : FloatText
  diskUsedPct : FloatText
  diskTotalBytes : Int
  inodeUsedPct : FloatText
  netInBytesPerSec : Int
  netOutBytesPerSec : Int
  networkRatesValid : Option Bool
  cpuIOWaitPct : FloatText
  cpuStealPct : FloatText
  diskReadBytesPerSec : Int
  diskWriteBytesPerSec : Int
  diskBusyPct : FloatText
  uptimeSeconds : Int
  maintenanceContext : Bool
  isBackfilled : Bool
  containers : Slice ContainerInfo

structure ProbeObservationPayload where
  targetID : String
  probeItemID : String
  probeKind : String
  observedAt : TimeText
  agentVersion : String
  fingerprint : String
  syncBatchID : String
  resultKind : String
  latencyMS : Option Int
  httpStatus : Option Int
  tlsExpiryDays : Option Int
  errorCode : String
  errorSummary : String
  maintenanceContext : Bool
  isBackfilled : Bool

structure IPQualityScore where
  id : String
  label : String
  rawValue : String
  unit : String
  scope : String
  direction : String
  sourceLabel : String
  value : Option FloatText
  min : Option FloatText
  max : Option FloatText

structure IPQualityProviderDetails where
  queriedIP : String
  observedAt : TimeText
  method : String
  apiTier : String
  countryCode : String
  region : String
  city : String
  postalCode : String
  timezone : String
  latitude : Option FloatText
  longitude : Option FloatText
  registeredCountryCode : String
  asn : String
  asName : String
  asDomain : String
  asCountryCode : String
  route : String
  companyName : String
  companyDomain : String
  isMobile : Option Bool
  isAnycast : Option Bool
  isBogon : Option Bool
  scores : Slice IPQualityScore
  fieldStates : Option StringMap

structure IPQualityProviderResultPayload where
  provider : String
  status : String
  sourceType : String
  latencyMS : Option Int
  usageType : String
  companyType : String
  riskLevel : String
  riskScore : String
  regionCode : String
  regionName : String
  isProxy : Option Bool
  isTor : Option Bool
  isVPN : Option Bool
  isServer : Option Bool
  isAbuser : Option Bool
  isRobot : Option Bool
  errorCode : String
  errorSummary : String
  extraJSON : Option Json
  details : Option IPQualityProviderDetails

structure IPQualityServiceCheck where
  id : String
  label : String
  status : String
  region : String
  errorCode : String
  rule : String
  httpStatus : Option Int

structure IPQualityServiceUnlockPayload where
  service : String
  source : String
  status : String
  probeStatus : String
  latencyMS : Option Int
  region : String
  unlockType : String
  errorCode : String
  errorSummary : String
  extraJSON : Option Json
  checks : Slice IPQualityServiceCheck

structure IPQualityCoveragePayload where
  expectedProviderCount : Int
  successfulProviderCount : Int
  failedProviderCount : Int
  skippedProviderCount : Int
  notConfiguredProviderCount : Int
  expectedServiceCount : Int
  successfulServiceCount : Int
  failedServiceCount : Int
  skippedServiceCount : Int
  notConfiguredServiceCount : Int

structure IPQualityMailResult where
  provider : String
  domain : String
  status : String
  mxHost : String
  targetIP : String
  errorCode : String
  mxPreference : Option Int
  greetingCode : Option Int
  latencyMS : Option Int
  observedAt : TimeText

structure IPQualityAgentProduct where
  revision : Int
  ptrNames : Slice String
  mail : Slice IPQualityMailResult

structure IPQualityReportPayload where
  observedAt : TimeText
  agentVersion : String
  fingerprint : String
  syncBatchID : String
  ipAddress : String
  ipVersion : Int
  status : String
  asn : String
  organization : String
  latitude : Option FloatText
  longitude : Option FloatText
  useRegionCode : String
  useRegionName : String
  registeredRegionCode : String
  registeredRegionName : String
  riskLevel : String
  errorCode : String
  errorSummary : String
  isBackfilled : Bool
  rawJSON : Option Json
  coverage : Option IPQualityCoveragePayload
  diagnosticsJSON : Option Json
  providerResults : Slice IPQualityProviderResultPayload
  serviceUnlocks : Slice IPQualityServiceUnlockPayload
  product : Option IPQualityAgentProduct

structure CommandResult where
  actionID : String
  commandID : String
  stdout : String
  stderr : String
  exitCode : Int

structure SyncRequest where
  protocolRevision : Int
  producerID : String
  batchSequence : Int
  allocatedThrough : Int
  retiredThrough : Int
  sessionID : String
  liveSignal : Option LiveSignal
  monitoringInstanceID : String
  syncToken : String
  heartbeats : Slice MonitoringInstanceHeartbeat
  hostSamples : Slice HostSamplePayload
  probeObservations : Slice ProbeObservationPayload
  ipQualityReports : Slice IPQualityReportPayload
  commandResults : Slice CommandResult

/-! ## Answers

The plan and the response of a sync request, the answer of an enrollment, and the error codes an
agent tells apart. -/

structure ProbeAssignment where
  targetID : String
  targetHost : String
  targetBasePort : Option Int
  maintenanceContext : Bool
  probeItemID : String
  probeKind : String
  frequencyTier : String
  timeoutSeconds : Int
  config : Option Json

structure IPQualityPlan where
  enabled : Bool
  frequencySeconds : Int
  timeoutSeconds : Int
  services : List String
  productRevision : Int
  mailEnabled : Option Bool
  collectRequestID : String
  collectionRevision : Int
  collectIPVersions : List Int

structure PendingAction where
  commandID : String
  actionID : String

structure SyncPlan where
  hostSampleFrequencyTier : String
  hostSampleMaintenanceContext : Bool
  probeAssignments : List ProbeAssignment
  ipQualityPlan : Option IPQualityPlan
  pendingAction : Option PendingAction

structure SyncResponse where
  sessionID : String
  producerID : String
  batchSequence : Int
  batchDigest : String
  disposition : String
  retiredThrough : Int
  stopCollection : Bool
  acceptedAt : TimeText
  status : String
  plan : Option SyncPlan

structure EnrollmentResponse where
  monitoringInstanceID : String
  status : String
  bindingStatus : String
  syncToken : String

def bindingStatusBound : String := "已绑定"

/-- `FrequencyTier5s` to `FrequencyTier6h`, with their durations in nanoseconds. -/
def frequencyTiers : List (String × Int) :=
  [("5s", 5000000000), ("1m", 60000000000), ("5m", 300000000000), ("15m", 900000000000),
    ("6h", 21600000000000)]

def errorCodeInvalidRequest : String := "invalid_request"

def errorCodeInvalidJSON : String := "invalid_json"

def agentErrorCodes : List String :=
  [errorCodeInvalidRequest, errorCodeInvalidJSON, "invalid_enrollment_token",
    "invalid_sync_token", "binding_not_accepted", "method_not_allowed",
    "monitoring_instance_not_found", "internal_error", "sync_protocol_required",
    "sync_producer_mismatch", "sync_batch_retired", "sync_batch_identity_conflict"]

/-- The session of a sync token: the text before its first dot. -/
def sessionOfToken (token : String) : String := String.ofList (token.toList.takeWhile (· ≠ '.'))

end Houfeng.AgentApi
