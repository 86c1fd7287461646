import Houfeng.Center.Syncing
import Houfeng.Foundation.Digits
import Houfeng.Foundation.Fallible
import Mathlib.Data.Rat.Floor

/-!
# Host samples from procfs

Memory, swap and filesystem usage of one sample, and the CPU and network rates between two. Counters
are 64-bit words and percentages are rational; the floating point quotient of a network rate is a
parameter. A sample fails with the key of the line that does not parse, or for want of a total.
-/

namespace Houfeng.HostSample

open Center (isSpace)

/-! ## Usage -/

def fields (line : List Char) : List (List Char) := (line.splitOnP isSpace).filter (· ≠ [])

/-- `strconv.ParseUint` of 64 bits in base 10. -/
def parseUint (text : List Char) : Option UInt64 :=
  if text ≠ [] ∧ text.all Digits.isDigit = true ∧ Digits.val text < 2 ^ 64 then
    some (.ofNat (Digits.val text))
  else none

inductive MemInfoError
  | parse (key : List Char)
  | memTotalMissing
deriving DecidableEq

def trimColon (key : List Char) : List Char :=
  if key.getLast? = some ':' then key.dropLast else key

def memInfoValues (raw : List Char) : Except MemInfoError (List (List Char × UInt64)) :=
  (raw.splitOn '\n').foldlM (fun values line =>
    match fields line with
    | key :: text :: _ =>
      match parseUint text with
      | some value => .ok ((trimColon key, value) :: values)
      | none => .error (.parse (trimColon key))
    | _ => .ok values) []

/-- The value of a key, which is 0 if no line has it. -/
def valueOf (values : List (List Char × UInt64)) (key : String) : UInt64 :=
  (values.lookup key.toList).getD 0

def usedPct (total free : UInt64) : ℚ := ((total - free).toNat : ℚ) / total.toNat * 100

structure MemInfo where
  memUsedPct : ℚ
  memAvailableBytes : Int64
  memTotalBytes : Int64
  swapUsedPct : ℚ

def parseMemInfo (raw : List Char) : Except MemInfoError MemInfo := do
  let values ← memInfoValues raw
  let memTotal := valueOf values "MemTotal"
  let memAvailable := valueOf values "MemAvailable"
  let swapTotal := valueOf values "SwapTotal"
  ensure (memTotal ≠ 0) .memTotalMissing
  return {
    memUsedPct := usedPct memTotal memAvailable
    memAvailableBytes := (memAvailable * 1024).toInt64
    memTotalBytes := (memTotal * 1024).toInt64
    swapUsedPct := if 0 < swapTotal then usedPct swapTotal (valueOf values "SwapFree") else 0 }

structure FilesystemStats where
  blocks : UInt64
  bfree : UInt64
  bsize : UInt64
  files : UInt64
  ffree : UInt64

def deriveUsagePercents (stats : FilesystemStats) : ℚ × ℚ :=
  (if 0 < stats.blocks then usedPct stats.blocks stats.bfree else 0,
    if 0 < stats.files then usedPct stats.files stats.ffree else 0)

def diskTotalBytes (stats : FilesystemStats) : Int64 :=
  if stats.blocks = 0 ∨ stats.bsize = 0 then 0 else (stats.blocks * stats.bsize).toInt64

/-! ## Rates -/

structure CpuCounters where
  values : Fin 8 → UInt64
  fields : Nat

structure NetworkInterfaceCounters where
  name : String
  netIn : UInt64
  netOut : UInt64

/-- What the next sample compares with; times are nanoseconds since Go's zero time. -/
structure Snapshot where
  observedAt : Int
  cpu : CpuCounters
  cpuPresent : Bool
  netInterfaces : List NetworkInterfaceCounters

/-- The loop of `sumCPUCounterValues`, which gives up where the sum would wrap. -/
def checkedSum (values : List UInt64) : Option UInt64 :=
  values.foldlM (fun total value =>
    if value > 0xffffffffffffffff - total then none else some (total + value)) 0

structure CpuRates where
  usage : ℚ
  iowait : ℚ
  steal : ℚ

def cpuRatesForSnapshot (previous current : Snapshot) : Option CpuRates :=
  if previous.cpuPresent = false ∨ current.cpuPresent = false ∨
      previous.cpu.fields ≠ current.cpu.fields ∨ previous.observedAt = 0 ∨
      current.observedAt = 0 ∨ current.observedAt ≤ previous.observedAt then none
  else do
    let _ ← checkedSum (List.ofFn previous.cpu.values)
    let _ ← checkedSum (List.ofFn current.cpu.values)
    if ∃ i, current.cpu.values i < previous.cpu.values i then none
    else
      let deltas i := current.cpu.values i - previous.cpu.values i
      let deltaTotal ← checkedSum (List.ofFn deltas)
      if deltaTotal = 0 then none
      else
        let busy ← checkedSum (((List.finRange 8).filter fun i => i ≠ 3 ∧ i ≠ 4).map deltas)
        some
          { usage := (busy.toNat : ℚ) / deltaTotal.toNat * 100
            iowait := ((deltas 4).toNat : ℚ) / deltaTotal.toNat * 100
            steal := ((deltas 7).toNat : ℚ) / deltaTotal.toNat * 100 }

/-- `int64(float64(delta) / seconds)`: the rounding of Go's floating point numbers, and the conversion
to an integer, which Go leaves to the machine where the quotient does not fit. -/
abbrev Quotient := UInt64 → ℚ → Int64

variable (quotient : Quotient)

def rateBytesPerSecond (previous current : UInt64) (elapsedSeconds : ℚ) : Int64 :=
  if elapsedSeconds ≤ 0 ∨ current < previous then 0
  else quotient (current - previous) elapsedSeconds

def addInterface (sums : UInt64 × UInt64)
    (pair : NetworkInterfaceCounters × NetworkInterfaceCounters) : Option (UInt64 × UInt64) :=
  if pair.2.name ≠ pair.1.name ∨ pair.2.netIn < pair.1.netIn ∨ pair.2.netOut < pair.1.netOut then
    none
  else
    some (sums.1 + (pair.2.netIn - pair.1.netIn), sums.2 + (pair.2.netOut - pair.1.netOut))

def networkDeltas (previous current : Snapshot) : Option (UInt64 × UInt64) :=
  if previous.observedAt = 0 ∨ current.observedAt = 0 ∨
      current.observedAt ≤ previous.observedAt ∨
      previous.netInterfaces.length ≠ current.netInterfaces.length then none
  else (previous.netInterfaces.zip current.netInterfaces).foldlM addInterface (0, 0)

/-- The rates of the bytes received and sent. -/
def networkRatesForSnapshot (previous current : Snapshot) (elapsedSeconds : ℚ) :
    Option (Int64 × Int64) :=
  if elapsedSeconds ≤ 0 then none
  else do
    let deltas ← networkDeltas previous current
    some (rateBytesPerSecond quotient 0 deltas.1 elapsedSeconds,
      rateBytesPerSecond quotient 0 deltas.2 elapsedSeconds)

def elapsedSeconds (previous current : Snapshot) : ℚ :=
  (current.observedAt - previous.observedAt) / 1000000000

/-- The rates of a sample, given the snapshot of the sample before; `none` is not valid. -/
def collectRates : Option Snapshot → Snapshot → Option CpuRates × Option (Int64 × Int64)
  | none, _ => (none, none)
  | some previous, current =>
    if 0 < elapsedSeconds previous current then
      (cpuRatesForSnapshot previous current,
        networkRatesForSnapshot quotient previous current (elapsedSeconds previous current))
    else (none, none)

end Houfeng.HostSample
