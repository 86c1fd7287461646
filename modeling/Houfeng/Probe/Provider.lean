import Mathlib.Data.List.Basic

/-!
# Probes of the agent

`CollectDue` runs the probes of a plan that are due and returns their observations. What the probes
of a call find, and the status range of a configuration, are its `Runners`; times are nanoseconds.
-/

namespace Houfeng.Probe

structure ProbeAssignment where
  targetID : String
  probeItemID : String
  probeKind : String
  frequencyTier : String
  maintenanceContext : Bool

/-- The fields of `ProbeObservationPayload` that the provider sets. -/
structure ProbeObservation where
  targetID : String
  probeItemID : String
  probeKind : String
  observedAt : Int
  maintenanceContext : Bool
  resultKind : String := ""
  latencyMS : Option Int := none
  httpStatus : Option Int := none
  tlsExpiryDays : Option Int := none
  errorCode : String := ""
  errorSummary : String := ""

structure ProbeError where
  timeout : Bool
  tlsHandshake : Bool
  message : String

structure Runners where
  tcpRun : ProbeAssignment → Except ProbeError Int
  httpRun : ProbeAssignment → Except ProbeError (Int × Int)
  tlsRun : ProbeAssignment → Except ProbeError (Int × Int)
  decodeHTTPConfig : ProbeAssignment → Except String (List Int)

def second : Int := 1000000000

def frequencyTierDuration : String → Option Int
  | "5s" => some (5 * second)
  | "1m" => some (60 * second)
  | "5m" => some (300 * second)
  | "15m" => some (900 * second)
  | "6h" => some (21600 * second)
  | _ => none

def statusWithinRange (statusCode : Int) : List Int → Bool
  | [low, high] => low ≤ statusCode && statusCode ≤ high
  | _ => true

def classifyProbeError (kind : String) (e : ProbeError) : String :=
  if e.timeout then "timeout"
  else if kind = "tls" && e.tlsHandshake then "tls_handshake"
  else "connect"

def failureObservation (base : ProbeObservation) (code summary : String) : ProbeObservation :=
  { base with resultKind := "failure", errorCode := code, errorSummary := summary }

def collectAssignment (r : Runners) (a : ProbeAssignment) (observedAt : Int) :
    Except String ProbeObservation :=
  let base : ProbeObservation := { a with observedAt }
  let failed (e : ProbeError) := .ok
    (failureObservation base (classifyProbeError a.probeKind e) e.message)
  match a.probeKind with
  | "tcp" =>
    match r.tcpRun a with
    | .error e => failed e
    | .ok latency => .ok { base with resultKind := "success", latencyMS := some latency }
  | "http" =>
    match r.httpRun a with
    | .error e => failed e
    | .ok (latency, statusCode) =>
      let base := { base with latencyMS := some latency, httpStatus := some statusCode }
      match r.decodeHTTPConfig a with
      | .error e => .error e
      | .ok expected =>
        if statusWithinRange statusCode expected then .ok { base with resultKind := "success" }
        else .ok (failureObservation base "http_status"
          ("unexpected http status " ++ toString statusCode))
  | "tls" =>
    match r.tlsRun a with
    | .error e => failed e
    | .ok (latency, expiryDays) => .ok { base with
        resultKind := "success", latencyMS := some latency, tlsExpiryDays := some expiryDays }
  | kind => .error ("unsupported probe kind " ++ kind.quote)

abbrev ProbeAssignment.duration (a : ProbeAssignment) : Option Int :=
  frequencyTierDuration a.frequencyTier

/-- The kinds of which a probe is run. -/
def ProbeAssignment.supported (a : ProbeAssignment) : Bool := a.probeKind ∈ ["tcp", "http", "tls"]

abbrev Observations := List (ProbeAssignment × ProbeObservation)

/-- The last runs, and of a call the probes it has run, what it observed and how it failed. -/
structure Collected where
  lastRun : String → Option Int
  executed : List ProbeAssignment := []
  observations : Observations := []
  err : Option String := none

/-- The loop of `CollectDue`. -/
def collectFrom (r : Runners) (now : Int) : List ProbeAssignment → Collected → Collected
  | [], c => c
  | a :: rest, c =>
    match a.duration with
    | none => collectFrom r now rest c
    | some duration =>
      if (c.lastRun a.probeItemID).any fun last => now < last + duration then
        collectFrom r now rest c
      else
        match collectAssignment r a now with
        | .error e => { c with
            executed := if a.supported then c.executed ++ [a] else c.executed
            err := some e }
        | .ok o => collectFrom r now rest { c with
            lastRun := Function.update c.lastRun a.probeItemID (some now)
            executed := c.executed ++ [a]
            observations := c.observations ++ [(a, o)] }

def collectDue (r : Runners) (lastRun : String → Option Int) (plan : List ProbeAssignment)
    (observedAt : Int) : Collected :=
  collectFrom r observedAt plan { lastRun }

/-- What a call returns: nothing if it failed. -/
def Collected.returned (c : Collected) : Observations :=
  if c.err = none then c.observations else []

end Houfeng.Probe
