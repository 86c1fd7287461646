import Houfeng.HostSample.Provider
import Mathlib.Algebra.BigOperators.Fin

/-!
# When host samples are sound

Usage is a percentage exactly if no more is free than there is, and a total is exact if it fits its
type. The sums of the CPU rates are checked, so these are always sound; the sums of the network rates
are not, and wrap.
-/

namespace Houfeng.HostSample

open List Option

/-! ## Usage -/

theorem usedPct_mem_iff {total free : UInt64} (h : 0 < total) :
    usedPct total free ∈ Set.Icc 0 100 ↔ free ≤ total := by
  have hpos : (0 : ℚ) < total.toNat := Nat.cast_pos.mpr (UInt64.lt_iff_toNat_lt.mp h)
  have hpct : usedPct total free ≤ 100 ↔ (total - free).toNat ≤ total.toNat := by
    rw [usedPct, div_mul_eq_mul_div, div_le_iff₀ hpos, mul_comm, mul_le_mul_iff_right₀ (by norm_num),
      Nat.cast_le]
  have hnonneg : 0 ≤ usedPct total free := by
    unfold usedPct
    positivity
  rw [Set.mem_Icc, hpct, UInt64.le_iff_toNat_le, UInt64.toNat_sub]
  have hfree := free.toNat_lt
  have htotal := total.toNat_lt
  constructor
  · intro hle
    have := hle.2
    omega
  · intro hle
    exact ⟨hnonneg, by omega⟩

theorem usedPct_or_zero_mem_iff {total free : UInt64} :
    (if 0 < total then usedPct total free else 0) ∈ Set.Icc (0 : ℚ) 100 ↔
      (0 < total → free ≤ total) := by
  split_ifs with h
  · simp [usedPct_mem_iff h, h]
  · simp [h]

theorem toInt64_mul_eq_iff {a b : UInt64} :
    (a * b).toInt64.toInt = (a.toNat * b.toNat : ℕ) ↔ a.toNat * b.toNat < 2 ^ 63 := by
  have hint : (a * b).toInt64.toInt = (a * b).toBitVec.toInt := rfl
  have hnat : (a * b).toBitVec.toNat = a.toNat * b.toNat % 2 ^ 64 := UInt64.toNat_mul a b
  rw [hint, BitVec.toInt_eq_toNat_cond, hnat]
  generalize a.toNat * b.toNat = n
  split_ifs <;> omega

theorem diskTotalBytes_eq_iff {stats : FilesystemStats} :
    (diskTotalBytes stats).toInt = (stats.blocks.toNat * stats.bsize.toNat : ℕ) ↔
      stats.blocks.toNat * stats.bsize.toNat < 2 ^ 63 := by
  unfold diskTotalBytes
  split_ifs with h
  · have hzero : stats.blocks.toNat * stats.bsize.toNat = 0 := by
      rcases h with h | h <;> simp [h]
    simp [hzero]
  · exact toInt64_mul_eq_iff

/-- The percentages of a sample are between 0 and 100, and its numbers of bytes are exact. -/
structure Exact (values : List (List Char × UInt64)) (info : MemInfo) (stats : FilesystemStats) :
    Prop where
  memUsed : info.memUsedPct ∈ Set.Icc 0 100
  swapUsed : info.swapUsedPct ∈ Set.Icc 0 100
  diskUsed : (deriveUsagePercents stats).1 ∈ Set.Icc 0 100
  inodeUsed : (deriveUsagePercents stats).2 ∈ Set.Icc 0 100
  memAvailable : info.memAvailableBytes.toInt = ((valueOf values "MemAvailable").toNat * 1024 : ℕ)
  memTotal : info.memTotalBytes.toInt = ((valueOf values "MemTotal").toNat * 1024 : ℕ)
  diskTotal : (diskTotalBytes stats).toInt = (stats.blocks.toNat * stats.bsize.toNat : ℕ)

/-- No more is free than there is, and the numbers of bytes fit 63 bits. -/
structure Plausible (values : List (List Char × UInt64)) (stats : FilesystemStats) : Prop where
  mem : valueOf values "MemAvailable" ≤ valueOf values "MemTotal"
  swap : 0 < valueOf values "SwapTotal" → valueOf values "SwapFree" ≤ valueOf values "SwapTotal"
  disk : 0 < stats.blocks → stats.bfree ≤ stats.blocks
  inode : 0 < stats.files → stats.ffree ≤ stats.files
  memAvailable : (valueOf values "MemAvailable").toNat * 1024 < 2 ^ 63
  memTotal : (valueOf values "MemTotal").toNat * 1024 < 2 ^ 63
  diskTotal : stats.blocks.toNat * stats.bsize.toNat < 2 ^ 63

/-- An accepted sample is exact exactly if its counters are plausible. -/
theorem usage_exact_iff {raw : List Char} {info : MemInfo} (h : parseMemInfo raw = .ok info)
    (stats : FilesystemStats) :
    ∃ values, memInfoValues raw = .ok values ∧ (Exact values info stats ↔ Plausible values stats) := by
  obtain ⟨values, hvalues, h⟩ := except_bind_eq_ok h
  obtain ⟨_, htotal, h⟩ := except_bind_eq_ok h
  have hpos : 0 < valueOf values "MemTotal" := UInt64.pos_iff_ne_zero.mpr (ensure_eq_ok htotal)
  cases h
  refine ⟨values, hvalues, fun hexact => ?_, fun hplausible => ?_⟩
  · exact ⟨(usedPct_mem_iff hpos).mp hexact.memUsed, usedPct_or_zero_mem_iff.mp hexact.swapUsed,
      usedPct_or_zero_mem_iff.mp hexact.diskUsed, usedPct_or_zero_mem_iff.mp hexact.inodeUsed,
      toInt64_mul_eq_iff.mp hexact.memAvailable, toInt64_mul_eq_iff.mp hexact.memTotal,
      diskTotalBytes_eq_iff.mp hexact.diskTotal⟩
  · exact ⟨(usedPct_mem_iff hpos).mpr hplausible.mem, usedPct_or_zero_mem_iff.mpr hplausible.swap,
      usedPct_or_zero_mem_iff.mpr hplausible.disk, usedPct_or_zero_mem_iff.mpr hplausible.inode,
      toInt64_mul_eq_iff.mpr hplausible.memAvailable, toInt64_mul_eq_iff.mpr hplausible.memTotal,
      diskTotalBytes_eq_iff.mpr hplausible.diskTotal⟩

def sampleStats : FilesystemStats := ⟨100, 40, 4096, 10, 3⟩

theorem usage_exact_iff_small : ∃ info values,
    parseMemInfo "MemTotal: 4 kB\nMemAvailable: 1 kB\n".toList = .ok info ∧
      Plausible values sampleStats ∧ Exact values info sampleStats := by
  have hvalues : memInfoValues "MemTotal: 4 kB\nMemAvailable: 1 kB\n".toList =
      .ok [("MemAvailable".toList, 1), ("MemTotal".toList, 4)] := by decide
  have hparse : ∃ info,
      parseMemInfo "MemTotal: 4 kB\nMemAvailable: 1 kB\n".toList = .ok info :=
    ⟨_, by rw [parseMemInfo, hvalues]; rfl⟩
  obtain ⟨info, hinfo⟩ := hparse
  obtain ⟨values, hvalues', hiff⟩ := usage_exact_iff hinfo sampleStats
  obtain rfl := Except.ok.inj (hvalues.symm.trans hvalues')
  have hplausible : Plausible [("MemAvailable".toList, 1), ("MemTotal".toList, 4)] sampleStats :=
    ⟨by decide, by decide, by decide, by decide, by decide, by decide, by decide⟩
  exact ⟨info, _, hinfo, hplausible, hiff.mpr hplausible⟩

/-- More is available than there is, and far more than everything is used. -/
theorem usage_out_of_range : ∃ info,
    parseMemInfo "MemTotal: 1 kB\nMemAvailable: 2 kB\n".toList = .ok info ∧
      info.memUsedPct = (2 ^ 64 - 1) * 100 := by
  have hvalues : memInfoValues "MemTotal: 1 kB\nMemAvailable: 2 kB\n".toList =
      .ok [("MemAvailable".toList, 2), ("MemTotal".toList, 1)] := by decide
  have hused : ((1 : UInt64) - 2).toNat = 2 ^ 64 - 1 := by decide
  have hone : (1 : UInt64).toNat = 1 := rfl
  refine ⟨_, by rw [parseMemInfo, hvalues]; rfl, ?_⟩
  show usedPct 1 2 = _
  rw [usedPct, hused, hone]
  norm_num

/-! ## Rates -/

variable {previous current : Snapshot}

theorem checkedSum_eq_some {values : List UInt64} {sum : UInt64}
    (h : checkedSum values = some sum) : sum.toNat = (values.map UInt64.toNat).sum := by
  have hfold : ∀ start : UInt64, values.foldlM (fun total value =>
      if value > 0xffffffffffffffff - total then none else some (total + value)) start = some sum →
      sum.toNat = start.toNat + (values.map UInt64.toNat).sum := by
    clear h
    induction values with
    | nil =>
      intro start h
      cases h
      rfl
    | cons value values ih =>
      intro start h
      rw [foldlM_cons] at h
      split_ifs at h with hwraps
      · cases h
      · have hstart := start.toNat_lt
        rw [gt_iff_lt, UInt64.lt_iff_toNat_lt, UInt64.toNat_sub] at hwraps
        have hmax : (0xffffffffffffffff : UInt64).toNat = 2 ^ 64 - 1 := rfl
        rw [ih _ h, UInt64.toNat_add, map_cons, sum_cons]
        omega
  simpa using hfold 0 h

def elapsed (previous current : Snapshot) (i : Fin 8) : Nat :=
  (current.cpu.values i).toNat - (previous.cpu.values i).toNat

def jiffies (previous current : Snapshot) : Nat := ∑ i, elapsed previous current i

structure CpuRates.Sound (previous current : Snapshot) (r : CpuRates) : Prop where
  grows : ∀ i, previous.cpu.values i ≤ current.cpu.values i
  total : r.usage + r.iowait + elapsed previous current 3 / jiffies previous current * 100 = 100
  steal : r.steal ≤ r.usage
  usage : r.usage ∈ Set.Icc 0 100
  iowait : r.iowait ∈ Set.Icc 0 100
  stealPct : r.steal ∈ Set.Icc 0 100

theorem share_mem {part total : Nat} (h : part ≤ total) : (part : ℚ) / total * 100 ∈ Set.Icc 0 100 := by
  have hle : (part : ℚ) / total ≤ 1 := div_le_one_of_le₀ (Nat.cast_le.mpr h) (Nat.cast_nonneg _)
  refine ⟨by positivity, ?_⟩
  linarith

theorem cpuRatesForSnapshot_sound {r : CpuRates}
    (h : cpuRatesForSnapshot previous current = some r) : r.Sound previous current := by
  unfold cpuRatesForSnapshot at h
  obtain ⟨-, h⟩ := ite_none_left_eq_some.mp h
  obtain ⟨_, -, h⟩ := bind_eq_some_iff.mp h
  obtain ⟨_, -, h⟩ := bind_eq_some_iff.mp h
  obtain ⟨hregress, h⟩ := ite_none_left_eq_some.mp h
  have hgrows : ∀ i, previous.cpu.values i ≤ current.cpu.values i :=
    fun i => UInt64.not_lt.mp fun hlt => hregress ⟨i, hlt⟩
  obtain ⟨total, htotal, h⟩ := bind_eq_some_iff.mp h
  obtain ⟨hzero, h⟩ := ite_none_left_eq_some.mp h
  obtain ⟨busy, hbusy, h⟩ := bind_eq_some_iff.mp h
  cases h
  have hdelta : ∀ i, (current.cpu.values i - previous.cpu.values i).toNat = elapsed previous current i :=
    fun i => UInt64.toNat_sub_of_le _ _ (hgrows i)
  have hjiffies : total.toNat = jiffies previous current := by
    rw [checkedSum_eq_some htotal, jiffies, ← sum_ofFn, map_ofFn]
    simp only [Function.comp_def, hdelta]
  have hcounted : (finRange 8).filter (fun i => i ≠ 3 ∧ i ≠ 4) = [0, 1, 2, 5, 6, 7] := by
    decide
  have hbusy := checkedSum_eq_some hbusy
  simp only [hcounted, map_cons, map_nil, sum_cons, sum_nil, hdelta] at hbusy
  have hsum : busy.toNat + elapsed previous current 3 + elapsed previous current 4 =
      jiffies previous current := by
    rw [hbusy, jiffies, Fin.sum_univ_eight]
    ring
  have hsteal : elapsed previous current 7 ≤ busy.toNat := by omega
  have hpos : (jiffies previous current : ℚ) ≠ 0 := by
    rw [← hjiffies]
    exact Nat.cast_ne_zero.mpr fun hnat => hzero (UInt64.toNat_inj.mp hnat)
  simp only [hdelta, hjiffies]
  refine ⟨hgrows, ?_, ?_, share_mem (by omega), share_mem (by omega), share_mem (by omega)⟩
  · field_simp
    rw [← hsum]
    push_cast
    ring
  · dsimp only
    gcongr

variable {pairs : List (NetworkInterfaceCounters × NetworkInterfaceCounters)}

/-- How far a counter has advanced on all interfaces together. -/
def advanced (counter : NetworkInterfaceCounters → UInt64)
    (pairs : List (NetworkInterfaceCounters × NetworkInterfaceCounters)) : Nat :=
  (pairs.map fun p => (counter p.2).toNat - (counter p.1).toNat).sum

/-- No interface was replaced, and no counter of it fell. -/
def Advances (pair : NetworkInterfaceCounters × NetworkInterfaceCounters) : Prop :=
  pair.2.name = pair.1.name ∧ pair.1.netIn ≤ pair.2.netIn ∧ pair.1.netOut ≤ pair.2.netOut

theorem foldlM_addInterface {start sums : UInt64 × UInt64}
    (h : pairs.foldlM addInterface start = some sums) :
    (∀ pair ∈ pairs, Advances pair) ∧
      sums.1.toNat = (start.1.toNat + advanced (·.netIn) pairs) % 2 ^ 64 ∧
      sums.2.toNat = (start.2.toNat + advanced (·.netOut) pairs) % 2 ^ 64 := by
  induction pairs generalizing start with
  | nil =>
    cases h
    simp [advanced, Nat.mod_eq_of_lt (UInt64.toNat_lt _)]
  | cons pair pairs ih =>
    rw [foldlM_cons, addInterface] at h
    obtain ⟨next, hnext, h⟩ := bind_eq_some_iff.mp h
    obtain ⟨hgrows, hnext⟩ := ite_none_left_eq_some.mp hnext
    cases hnext
    simp only [not_or, not_not, UInt64.not_lt] at hgrows
    obtain ⟨hrest, hin, hout⟩ := ih h
    refine ⟨forall_mem_cons.mpr ⟨hgrows, hrest⟩, ?_, ?_⟩
    · rw [hin, UInt64.toNat_add, UInt64.toNat_sub_of_le _ _ hgrows.2.1, Nat.mod_add_mod, advanced,
        advanced, map_cons, sum_cons, Nat.add_assoc]
    · rw [hout, UInt64.toNat_add, UInt64.toNat_sub_of_le _ _ hgrows.2.2, Nat.mod_add_mod, advanced,
        advanced, map_cons, sum_cons, Nat.add_assoc]

/-- Whatever the snapshot before was, valid CPU rates are sound and valid network rates come from
counters that have not fallen; the sums they are the quotients of are those of the advances exactly if
these fit 64 bits. -/
theorem rates_sound_iff (quotient : Quotient) (previous : Option Snapshot) (current : Snapshot) :
    (∀ r, (collectRates quotient previous current).1 = some r →
      ∃ p, previous = some p ∧ r.Sound p current) ∧
    ∀ rates, (collectRates quotient previous current).2 = some rates →
      ∃ (p : Snapshot) (sums : UInt64 × UInt64), previous = some p ∧
      rates = (quotient sums.1 (elapsedSeconds p current), quotient sums.2 (elapsedSeconds p current)) ∧
      p.netInterfaces.length = current.netInterfaces.length ∧
      (∀ pair ∈ p.netInterfaces.zip current.netInterfaces, Advances pair) ∧
      (sums.1.toNat = advanced (·.netIn) (p.netInterfaces.zip current.netInterfaces) ∧
          sums.2.toNat = advanced (·.netOut) (p.netInterfaces.zip current.netInterfaces) ↔
        advanced (·.netIn) (p.netInterfaces.zip current.netInterfaces) < 2 ^ 64 ∧
          advanced (·.netOut) (p.netInterfaces.zip current.netInterfaces) < 2 ^ 64) := by
  cases previous with
  | none => exact ⟨nofun, nofun⟩
  | some p =>
    unfold collectRates
    dsimp only
    split_ifs with helapsed
    · refine ⟨fun r h => ⟨p, rfl, cpuRatesForSnapshot_sound h⟩, fun rates h => ?_⟩
      obtain ⟨-, h⟩ := ite_none_left_eq_some.mp h
      obtain ⟨sums, hsums, hrates⟩ := bind_eq_some_iff.mp h
      obtain ⟨hguard, hfold⟩ := ite_none_left_eq_some.mp hsums
      simp only [not_or, not_not] at hguard
      obtain ⟨hadvances, hin, hout⟩ := foldlM_addInterface hfold
      have hquotient (sum : UInt64) : rateBytesPerSecond quotient 0 sum (elapsedSeconds p current) =
          quotient sum (elapsedSeconds p current) := by
        simp [rateBytesPerSecond, helapsed]
      rw [hquotient, hquotient] at hrates
      refine ⟨p, sums, rfl, (some.inj hrates).symm, hguard.2.2.2, hadvances, ?_⟩
      have hzero : (0 : UInt64).toNat = 0 := rfl
      rw [hin, hout, hzero, Nat.zero_add, Nat.zero_add]
      constructor
      · rintro ⟨h1, h2⟩
        exact ⟨h1 ▸ Nat.mod_lt _ (by norm_num), h2 ▸ Nat.mod_lt _ (by norm_num)⟩
      · rintro ⟨h1, h2⟩
        exact ⟨Nat.mod_eq_of_lt h1, Nat.mod_eq_of_lt h2⟩
    · exact ⟨nofun, nofun⟩

def quietSnapshot : Snapshot := ⟨1, ⟨fun _ => 0, 10⟩, true, [⟨"eth0", 0, 0⟩, ⟨"eth1", 0, 0⟩]⟩

/-- A second later every CPU counter has advanced, and both interfaces have received something. -/
def busySnapshot (received : UInt64) : Snapshot :=
  ⟨1000000001, ⟨fun _ => 1, 10⟩, true,
    [⟨"eth0", 0x8000000000000000, 0⟩, ⟨"eth1", received, 0⟩]⟩

theorem elapsedSeconds_busy (received : UInt64) :
    elapsedSeconds quietSnapshot (busySnapshot received) = 1 := by
  norm_num [elapsedSeconds, quietSnapshot, busySnapshot]

/-- The rates of a busy second, for a quotient that rounds down. -/
theorem rates_sound_iff_busy :
    let quotient : Quotient := fun delta seconds => .ofInt ⌊(delta.toNat : ℚ) / seconds⌋
    ∃ r, (collectRates quotient (some quietSnapshot) (busySnapshot 5)).1 = some r ∧
      r.Sound quietSnapshot (busySnapshot 5) ∧
      ∃ sums : UInt64 × UInt64, sums.1.toNat = 2 ^ 63 + 5 ∧ sums.2.toNat = 0 ∧
        (collectRates quotient (some quietSnapshot) (busySnapshot 5)).2 =
          some (quotient sums.1 1, quotient sums.2 1) := by
  intro quotient
  have hsome : (cpuRatesForSnapshot quietSnapshot (busySnapshot 5)).isSome = true := by decide
  obtain ⟨r, hrates⟩ := isSome_iff_exists.mp hsome
  have hdeltas : networkDeltas quietSnapshot (busySnapshot 5) = some (0x8000000000000005, 0) := by
    decide
  have hcollect : collectRates quotient (some quietSnapshot) (busySnapshot 5) =
      (some r, networkRatesForSnapshot quotient quietSnapshot (busySnapshot 5) 1) := by
    rw [collectRates, elapsedSeconds_busy, if_pos one_pos, hrates]
  obtain ⟨hcpu, hnetwork⟩ := rates_sound_iff quotient (some quietSnapshot) (busySnapshot 5)
  obtain ⟨p, hp, hsound⟩ := hcpu r (by rw [hcollect])
  cases hp
  obtain ⟨rates, hnet⟩ : ∃ rates, networkRatesForSnapshot quotient quietSnapshot (busySnapshot 5) 1 =
      some rates := by
    simp [networkRatesForSnapshot, hdeltas]
  obtain ⟨p, sums, hp, rfl, -, -, hexact⟩ := hnetwork rates (by rw [hcollect, hnet])
  cases hp
  obtain ⟨hin, hout⟩ := hexact.mpr (by decide)
  rw [elapsedSeconds_busy] at hnet
  exact ⟨r, by rw [hcollect], hsound, sums, hin, hout, by rw [hcollect, hnet]⟩

/-- The two interfaces have received `2 ^ 64` bytes, and the rate is that of nothing. -/
theorem network_sum_wraps :
    advanced (·.netIn)
        (quietSnapshot.netInterfaces.zip (busySnapshot 0x8000000000000000).netInterfaces) = 2 ^ 64 ∧
      ∀ quotient : Quotient,
        (collectRates quotient (some quietSnapshot) (busySnapshot 0x8000000000000000)).2 =
          some (quotient 0 1, quotient 0 1) := by
  have hdeltas : networkDeltas quietSnapshot (busySnapshot 0x8000000000000000) = some (0, 0) := by
    decide
  refine ⟨by decide, fun quotient => ?_⟩
  simp [collectRates, elapsedSeconds_busy, networkRatesForSnapshot, hdeltas, rateBytesPerSecond]

end Houfeng.HostSample
