import Houfeng.Foundation.Fallible
import Houfeng.Subscriptions.PriceHistory
import Mathlib.Data.List.Chain

/-!
# When the price history replays the subscription

An entry is written with the time at which its transaction began, but the transactions are ordered
by the lock. If the entries come in the order of their keys, the ordered history is a chain from the
row as it was created to the row as it is (`Chained`).
-/

namespace Houfeng.Subscriptions

open List Keyset

variable {γ δ ι : Type} {v : Services}

/-! ## What a patch does -/

theorem patchSubscription_cases [DecidableEq δ] {now : Int} {id : ι} {current record : Record γ δ}
    {input : PatchInput γ δ} {entry : Option (PriceHistory δ ι)}
    (h : patchSubscription v now id current input = .ok (record, entry)) :
    (entry = none ∧ record.toPriceState = current.toPriceState) ∨
      entry = some ⟨id, normalizeSubscriptionRecord v current.toPriceState,
        normalizeSubscriptionRecord v record.toPriceState, now, now⟩ := by
  obtain ⟨-, h⟩ := except_guard_eq_ok h
  obtain ⟨-, -, h⟩ := except_bind_eq_ok h
  dsimp only at h
  split_ifs at h with hchanges hsame
  · cases h
    exact .inl ⟨rfl, rfl⟩
  · cases h
    exact .inl ⟨rfl, hsame⟩
  · obtain ⟨e, hcreate, h⟩ := except_bind_eq_ok h
    cases h
    right
    simp only [createPriceHistory] at hcreate
    split_ifs at hcreate
    cases hcreate
    rfl

/-! ## Rows in normal form -/

/-- `createPriceHistory` writes the state as it is. -/
def Normal (v : Services) (state : PriceState δ) : Prop :=
  normalizeSubscriptionRecord v state = state

/-- What is assumed of Go's text functions. -/
structure Services.Lawful (v : Services) : Prop where
  trimSpace_trimSpace : ∀ s, v.trimSpace (v.trimSpace s) = v.trimSpace s
  trimSpace_cycle : ∀ unit length,
    v.trimSpace (billingCycleForPeriod unit length) = billingCycleForPeriod unit length
  currency : ∀ s, isValidCurrency s = true → normalizeCurrency v s = s
  renewalMode : ∀ mode : RenewalMode, normalizeRenewalMode v mode.text = mode.text

theorem billingCycleForPeriod_ne_empty (unit : BillingPeriodUnit) (length : Int) :
    billingCycleForPeriod (some unit) length ≠ "" := by
  intro h
  have hlength := congrArg String.length h
  cases unit <;> simp only [billingCycleForPeriod] at hlength <;> split_ifs at hlength <;>
    simp at hlength

theorem billingMonthsForPeriod_pos (unit : BillingPeriodUnit) (length : Int) :
    0 < billingMonthsForPeriod (some unit) length := by
  cases unit <;> simp only [billingMonthsForPeriod] <;> split_ifs <;> omega

/-- The normal form in terms of the columns. -/
theorem normal_iff (hv : v.Lawful) (s : PriceState δ) : Normal v s ↔
    normalizeCurrency v s.currency = s.currency ∧ v.trimSpace s.billingCycle = s.billingCycle ∧
      s.billingCycle ≠ "" ∧ 0 < s.billingMonths ∧ 0 < s.billingPeriodLength ∧
      legacyRenewalFlags (some s.renewalMode) = (s.autoRenew, s.autoRenewCancelled) := by
  obtain ⟨price, currency, cycle, months, unit, length, monthly, renewAt, auto, cancelled, mode,
    status⟩ := s
  simp only [Normal, normalizeSubscriptionRecord, PriceState.mk.injEq, true_and, and_true,
    Prod.ext_iff]
  have hcycle : ∀ n, v.trimSpace cycle = "" → billingCycleForPeriod (some unit) n ≠ cycle := by
    rintro n hblank rfl
    rw [hv.trimSpace_cycle] at hblank
    exact billingCycleForPeriod_ne_empty unit n hblank
  have hmonths : ∀ n, months ≤ 0 → billingMonthsForPeriod (some unit) n ≠ months := by
    intro n hle heq
    have := billingMonthsForPeriod_pos unit n
    omega
  grind

variable {input : PatchInput γ δ} {current : Record γ δ}

/-- The billing cycle of a normalized patch is trimmed, and blank only if the patch blanks it. -/
theorem normalizePatchPeriod_cycle (hv : v.Lawful)
    (hunit : ∀ unit ∈ (normalizePatchPeriod v input).billingPeriodUnit,
      (parseBillingPeriodUnit v unit).isSome)
    (htrim : ∀ cycle ∈ input.billingCycle, v.trimSpace cycle = cycle ∧ cycle ≠ "") :
    ∀ cycle ∈ (normalizePatchPeriod v input).billingCycle,
      v.trimSpace cycle = cycle ∧ cycle ≠ "" := by
  have hfilled : ∀ unit length, (parseBillingPeriodUnit v unit).isSome →
      billingCycleForPeriod (parseBillingPeriodUnit v unit) length ≠ "" := by
    intro unit length h
    obtain ⟨u, hu⟩ := Option.isSome_iff_exists.mp h
    rw [hu]
    exact billingCycleForPeriod_ne_empty u length
  have htrimmed := hv.trimSpace_cycle
  unfold normalizePatchPeriod at hunit ⊢
  grind

/-- The fields that `normalizePatchInput` trims. -/
def trimmed (v : Services) (input : PatchInput γ δ) : PatchInput γ δ :=
  { input with
    vpsID := input.vpsID.map v.trimSpace
    currency := input.currency.map (normalizeCurrency v)
    billingCycle := input.billingCycle.map v.trimSpace
    billingPeriodUnit := input.billingPeriodUnit.map (normalizeBillingPeriodUnit v) }

theorem normalizePatchInput_period (v : Services) (input : PatchInput γ δ) :
    (normalizePatchInput v input).billingCycle =
        (normalizePatchPeriod v (trimmed v input)).billingCycle ∧
      (normalizePatchInput v input).billingPeriodUnit =
        (normalizePatchPeriod v (trimmed v input)).billingPeriodUnit := by
  unfold normalizePatchInput
  dsimp only
  split <;> exact ⟨rfl, rfl⟩

theorem normalizePatchAgainstRecord_period (v : Services) (current : Record γ δ)
    (input : PatchInput γ δ) :
    (normalizePatchAgainstRecord v current input).billingCycle =
        (normalizePatchInput v input).billingCycle ∧
      (normalizePatchAgainstRecord v current input).billingPeriodUnit =
        (normalizePatchInput v input).billingPeriodUnit := by
  unfold normalizePatchAgainstRecord
  dsimp only
  split_ifs <;> exact ⟨rfl, rfl⟩

theorem normalizePatchAgainstRecord_cycle (hv : v.Lawful)
    (hunit : ∀ unit ∈ (normalizePatchAgainstRecord v current input).billingPeriodUnit,
      (parseBillingPeriodUnit v unit).isSome)
    (hcycle : ∀ cycle ∈ input.billingCycle, v.trimSpace cycle ≠ "") :
    ∀ cycle ∈ (normalizePatchAgainstRecord v current input).billingCycle,
      v.trimSpace cycle = cycle ∧ cycle ≠ "" := by
  obtain ⟨hcycle', hunit'⟩ := normalizePatchAgainstRecord_period v current input
  obtain ⟨hcycle'', hunit''⟩ := normalizePatchInput_period v input
  rw [hunit', hunit''] at hunit
  rw [hcycle', hcycle'']
  refine normalizePatchPeriod_cycle hv hunit fun cycle h => ?_
  obtain ⟨raw, hraw, rfl⟩ := Option.map_eq_some_iff.mp h
  exact ⟨hv.trimSpace_trimSpace raw, hcycle raw hraw⟩

/-- A normalized patch sets the two flags of the renewal mode it sets, and else none. -/
def FlagsFit (v : Services) (input : PatchInput γ δ) : Prop :=
  match input.renewalMode with
  | none => input.autoRenew = none ∧ input.autoRenewCancelled = none
  | some mode =>
    input.autoRenew = some (legacyRenewalFlags (parseRenewalMode v mode)).1 ∧
      input.autoRenewCancelled = some (legacyRenewalFlags (parseRenewalMode v mode)).2

theorem parseRenewalMode_text (hv : v.Lawful) (mode : RenewalMode) :
    parseRenewalMode v mode.text = some mode := by
  rw [parseRenewalMode, hv.renewalMode]
  cases mode <;> rfl

theorem normalizePatchInput_flags {mode : String}
    (h : (normalizePatchInput v input).renewalMode = some mode) :
    FlagsFit v (normalizePatchInput v input) := by
  rw [FlagsFit, h]
  unfold normalizePatchInput at h ⊢
  dsimp only at h ⊢
  split at h
  · rename_i hnone
    rw [hnone] at h
    cases h
  · rename_i hsome
    rw [hsome] at h
    cases h
    simp

theorem normalizePatchAgainstRecord_flags (hv : v.Lawful) (current : Record γ δ)
    (input : PatchInput γ δ) :
    FlagsFit v (normalizePatchAgainstRecord v current input) := by
  unfold normalizePatchAgainstRecord
  dsimp only
  split_ifs with h
  · rcases h with h | h
    · obtain ⟨mode, hmode⟩ := Option.isSome_iff_exists.mp h
      exact normalizePatchInput_flags hmode
    · cases hmode : (normalizePatchInput v input).renewalMode with
      | none => simpa [FlagsFit, hmode] using h
      | some mode => exact normalizePatchInput_flags hmode
  · simp [FlagsFit, parseRenewalMode_text hv]

/-- What `validatePatchInput` checks of the columns that have a normal form. -/
structure PatchInput.Checked (v : Services) (input : PatchInput γ δ) : Prop where
  billingMonths : ∀ months ∈ input.billingMonths, 0 < months
  billingPeriodUnit : ∀ unit ∈ input.billingPeriodUnit, (parseBillingPeriodUnit v unit).isSome
  billingPeriodLength : ∀ length ∈ input.billingPeriodLength, 0 < length
  currency : ∀ currency ∈ input.currency, isValidCurrency currency = true
  renewalMode : ∀ mode ∈ input.renewalMode, (parseRenewalMode v mode).isSome

theorem validatePatchInput_ok {u : Unit} (h : validatePatchInput v input = .ok u) :
    input.Checked v := by
  unfold validatePatchInput at h
  split_ifs at h with h1 h2 hmonths hunit hlength hcurrency hmode hstatus
  constructor <;> intro x hx <;> rw [Option.mem_def] at hx
  · simpa [hx] using hmonths
  · simpa [hx, Option.isSome_iff_ne_none] using hunit
  · simpa [hx] using hlength
  · simpa [hx] using hcurrency
  · simpa [hx, Option.isSome_iff_ne_none] using hmode

theorem patchSubscriptionRow_normal (hv : v.Lawful) (hcurrent : Normal v current.toPriceState)
    (hchecked : input.Checked v) (hflags : FlagsFit v input)
    (hcycle : ∀ cycle ∈ input.billingCycle, v.trimSpace cycle = cycle ∧ cycle ≠ "") :
    Normal v (patchSubscriptionRow v current input).toPriceState := by
  rw [normal_iff hv] at hcurrent ⊢
  obtain ⟨hcurrency, htrim, hblank, hmonths, hlength, hmode⟩ := hcurrent
  simp only [patchSubscriptionRow]
  refine ⟨?_, ?_, ?_, ?_, ?_, ?_⟩
  · cases h : input.currency with
    | none => exact hcurrency
    | some currency => exact hv.currency currency (hchecked.currency currency h)
  · cases h : input.billingCycle with
    | none => exact htrim
    | some cycle => exact (hcycle cycle h).1
  · cases h : input.billingCycle with
    | none => exact hblank
    | some cycle => exact (hcycle cycle h).2
  · cases h : input.billingMonths with
    | none => exact hmonths
    | some months => exact hchecked.billingMonths months h
  · cases h : input.billingPeriodLength with
    | none => exact hlength
    | some length => exact hchecked.billingPeriodLength length h
  · unfold FlagsFit at hflags
    cases h : input.renewalMode with
    | none =>
      rw [h] at hflags
      simpa [hflags.1, hflags.2] using hmode
    | some mode =>
      obtain ⟨m, hm⟩ := Option.isSome_iff_exists.mp (hchecked.renewalMode mode h)
      rw [h] at hflags
      simp [hflags.1, hflags.2, hm]

/-- A patch that does not blank the billing cycle leaves a row in normal form. -/
theorem patchSubscription_normal [DecidableEq δ] {now : Int} {id : ι} {record : Record γ δ}
    {entry : Option (PriceHistory δ ι)} (hv : v.Lawful) (hcurrent : Normal v current.toPriceState)
    (hcycle : ∀ cycle ∈ input.billingCycle, v.trimSpace cycle ≠ "")
    (h : patchSubscription v now id current input = .ok (record, entry)) :
    Normal v record.toPriceState := by
  obtain ⟨-, h⟩ := except_guard_eq_ok h
  obtain ⟨_, hvalid, h⟩ := except_bind_eq_ok h
  have hchecked := validatePatchInput_ok hvalid
  have hrow := patchSubscriptionRow_normal hv hcurrent hchecked
    (normalizePatchAgainstRecord_flags hv current input)
    (normalizePatchAgainstRecord_cycle hv hchecked.billingPeriodUnit hcycle)
  dsimp only at h
  split_ifs at h
  · cases h
    exact hcurrent
  · cases h
    exact hrow
  · obtain ⟨e, -, h⟩ := except_bind_eq_ok h
    cases h
    exact hrow

/-! ## Steps -/

variable {w w' : World γ δ ι} {a : Action γ δ ι}

theorem Step.cases [DecidableEq δ] (h : Step v w a w') :
    (w'.row = w.row ∧ w'.histories = w.histories ∧ w'.versions = w.versions ∧ w.now ≤ w'.now) ∨
      ∃ patch ∈ w.waiting, w'.now = w.now ∧ w'.versions = w.versions ++ [(w.now, w'.row)] ∧
        ((w'.histories = w.histories ∧ w'.row.toPriceState = w.row.toPriceState) ∨
          w'.histories = w.histories ++ [⟨patch.priceHistoryID,
            normalizeSubscriptionRecord v w.row.toPriceState,
            normalizeSubscriptionRecord v w'.row.toPriceState, patch.now, patch.now⟩]) := by
  cases h with
  | tick h => exact .inl ⟨rfl, rfl, rfl, h⟩
  | begin => exact .inl ⟨rfl, rfl, rfl, le_refl _⟩
  | @commit before after patch row entry hwaiting hnew h =>
    refine .inr ⟨patch, by simp [hwaiting], rfl, rfl, ?_⟩
    rcases patchSubscription_cases h with ⟨rfl, hsame⟩ | rfl
    · exact .inl ⟨by simp, hsame⟩
    · exact .inr rfl
  | fail => exact .inl ⟨rfl, rfl, rfl, le_refl _⟩

theorem Step.waiting [DecidableEq δ] (h : Step v w a w') (hw : ∀ p ∈ w.waiting, p.now ≤ w.now) :
    ∀ p ∈ w'.waiting, p.now ≤ w'.now := by
  cases h with
  | tick h => exact fun p hp => le_trans (hw p hp) h
  | begin input id =>
    intro p hp
    rcases mem_cons.mp hp with rfl | hp
    · exact le_refl _
    · exact hw p hp
  | @commit before after patch row entry hwaiting _ _ =>
    intro p hp
    refine hw p ?_
    rw [hwaiting]
    rcases mem_append.mp hp with hp | hp
    · exact mem_append_left _ hp
    · exact mem_append_right _ (mem_cons_of_mem _ hp)
  | @fail before after patch hwaiting =>
    intro p hp
    refine hw p ?_
    rw [hwaiting]
    rcases mem_append.mp hp with hp | hp
    · exact mem_append_left _ hp
    · exact mem_append_right _ (mem_cons_of_mem _ hp)

/-- A patch that is committed does not blank the billing cycle. -/
def Action.KeepsCycle (v : Services) (a : Action γ δ ι) : Prop :=
  ∀ patch, a = .commit patch → ∀ cycle ∈ patch.input.billingCycle, v.trimSpace cycle ≠ ""

theorem Step.normal [DecidableEq δ] (hv : v.Lawful) (h : Step v w a w')
    (hnormal : Normal v w.row.toPriceState) (hcycle : a.KeepsCycle v) :
    Normal v w'.row.toPriceState := by
  cases h with
  | tick | begin | fail => exact hnormal
  | @commit before after patch row entry hwaiting hnew h =>
    exact patchSubscription_normal hv hnormal (hcycle patch rfl) h

/-! ## The chain -/

variable {time boundary : Int} {row : Record γ δ} {column : PriceState δ → α} {α : Type}

theorem columnAt_append_lt
    (hversions : w'.versions = w.versions ++ [(time, row)]) (hlt : time < boundary) :
    w'.columnAt column boundary = some (column row.toPriceState) := by
  simp [World.columnAt, hversions, hlt]

theorem columnAt_append_ge
    (hversions : w'.versions = w.versions ++ [(time, row)]) (hle : boundary ≤ time) :
    w'.columnAt column boundary = w.columnAt column boundary := by
  have hnot : ¬time < boundary := by omega
  simp [World.columnAt, hversions, hnot]

section Chain

variable [LinearOrder ι]

def InOrder (e : RunStep (World γ δ ι) (Action γ δ ι)) : Prop :=
  ∀ entry, e.after.histories = e.before.histories ++ [entry] →
    ∀ h ∈ e.before.histories, h.key < entry.key

/-- The history is a chain in the order of its keys, from the row `first` to the row as it is. -/
structure Chained (first : PriceState δ) (w : World γ δ ι) : Prop where
  listing : Listing PriceHistory.key w.histories
  chain : w.histories.IsChain fun a b => a.after = b.before
  head : ∀ h ∈ w.histories.head?, h.before = first
  last : (w.histories.getLast?.map PriceHistory.after).getD first = w.row.toPriceState
  past : ∀ h ∈ w.histories, h.changedAt ≤ w.now
  waiting : ∀ p ∈ w.waiting, p.now ≤ w.now

theorem chained_created (now : Int) (row : Record γ δ) :
    Chained row.toPriceState (World.created now row : World γ δ ι) :=
  ⟨.nil, .nil, by simp [World.created], rfl, by simp [World.created], by simp [World.created]⟩

variable {first : PriceState δ}

theorem Chained.last_eq (h : Chained first w) {entry : PriceHistory δ ι}
    (hlast : w.histories.getLast? = some entry) : entry.after = w.row.toPriceState := by
  have := h.last
  rwa [hlast] at this

theorem Chained.step [DecidableEq δ] (hc : Chained first w) (h : Step v w a w')
    (horder : InOrder ⟨w, a, w'⟩) (hnormal : Normal v w.row.toPriceState)
    (hnormal' : Normal v w'.row.toPriceState) :
    Chained first w' := by
  have hwaiting := h.waiting hc.waiting
  rcases h.cases with ⟨hrow, hhist, -, hnow⟩ | ⟨patch, hpatch, hnow, -, ⟨hhist, hrow⟩ | hhist⟩
  · refine ⟨hhist ▸ hc.listing, hhist ▸ hc.chain, hhist ▸ hc.head, ?_, ?_, hwaiting⟩
    · rw [hhist, hc.last, hrow]
    · rw [hhist]
      exact fun h hh => le_trans (hc.past h hh) hnow
  · refine ⟨hhist ▸ hc.listing, hhist ▸ hc.chain, hhist ▸ hc.head, ?_, ?_, hwaiting⟩
    · rw [hhist, hc.last, hrow]
    · rw [hhist, hnow]
      exact hc.past
  · rw [hnormal, hnormal'] at hhist
    refine ⟨?_, ?_, ?_, ?_, ?_, hwaiting⟩
    · rw [hhist, Listing, pairwise_append]
      refine ⟨hc.listing, pairwise_singleton _ _, fun h hh entry hentry => ?_⟩
      rw [mem_singleton.mp hentry]
      exact horder _ hhist h hh
    · rw [hhist, isChain_append]
      refine ⟨hc.chain, .singleton _, fun h hh entry hentry => ?_⟩
      obtain rfl := Option.mem_some_iff.mp hentry
      exact hc.last_eq hh
    · rw [hhist]
      intro h hh
      cases hist : w.histories with
      | nil =>
        rw [hist] at hh
        obtain rfl := Option.mem_some_iff.mp hh
        have hlast := hc.last
        rw [hist] at hlast
        exact hlast.symm
      | cons x xs =>
        rw [hist] at hh
        exact hc.head h (by rw [hist]; exact hh)
    · rw [hhist]
      simp
    · rw [hhist, hnow]
      intro h hh
      rcases mem_append.mp hh with hh | hh
      · exact hc.past h hh
      · rw [mem_singleton.mp hh]
        exact hc.waiting patch hpatch

/-! ## The month state -/

/-- A patch that writes an entry begins before the boundary and commits after it. -/
def Straddles (boundary : Int) (e : RunStep (World γ δ ι) (Action γ δ ι)) : Prop :=
  ∃ entry, e.after.histories = e.before.histories ++ [entry] ∧ entry.changedAt < boundary ∧
    boundary ≤ e.before.now

def replayed (first : PriceState δ) (histories : List (PriceHistory δ ι)) (boundary : Int) :
    PriceState δ :=
  ((histories.filter (·.changedAt < boundary)).getLast?.map PriceHistory.after).getD first

def Agree (first : PriceState δ) (boundary : Int) (w : World γ δ ι) : Prop :=
  w.columnAt id boundary = some (replayed first w.histories boundary)

theorem Chained.replayed_of_lt (hc : Chained first w) (hlt : w.now < boundary) :
    replayed first w.histories boundary = w.row.toPriceState := by
  have hall : w.histories.filter (·.changedAt < boundary) = w.histories := by
    rw [filter_eq_self]
    intro h hh
    have := hc.past h hh
    simp only [decide_eq_true_eq]
    omega
  rw [replayed, hall, hc.last]

theorem Agree.step [DecidableEq δ] (hagree : Agree first boundary w) (hc' : Chained first w')
    (h : Step v w a w') (hstraddle : ¬Straddles boundary ⟨w, a, w'⟩) :
    Agree first boundary w' := by
  rw [Agree] at hagree ⊢
  rcases h.cases with ⟨-, hhist, hversions, -⟩ | ⟨patch, hpatch, hnow, hversions, hhist⟩
  · rw [hhist, ← hagree, World.columnAt, World.columnAt, hversions]
  · by_cases hlt : w.now < boundary
    · rw [columnAt_append_lt hversions hlt, hc'.replayed_of_lt (by rwa [hnow])]
      rfl
    · have hle : boundary ≤ w.now := by omega
      rw [columnAt_append_ge hversions hle, hagree]
      rcases hhist with ⟨hhist, -⟩ | hhist
      · rw [hhist]
      · have hlate : ¬patch.now < boundary := fun hearly => hstraddle ⟨_, hhist, hearly, hle⟩
        simp [replayed, hhist, hlate]

omit [LinearOrder ι] in
theorem agree_created {now : Int} (hlt : now < boundary) :
    Agree row.toPriceState boundary (World.created now row : World γ δ ι) := by
  simp [Agree, World.columnAt, World.created, replayed, hlt]

theorem Chained.sorted (hc : Chained first w) :
    sorted PriceHistory.key w.histories = w.histories := by
  refine mergeSort_of_pairwise (hc.listing.imp fun h => ?_)
  simpa using le_of_lt h

/-- The query takes the state before the first change, or the row, where nothing has changed yet. -/
theorem Chained.monthState (hc : Chained first w) (column : PriceState δ → α) (boundary : Int) :
    Subscriptions.monthState column w.histories w.row.toPriceState boundary =
      column (replayed first w.histories boundary) := by
  rw [Subscriptions.monthState, hc.sorted, replayed]
  cases hbefore : (w.histories.filter (·.changedAt < boundary)).getLast? with
  | some h => rfl
  | none =>
    have hnone : w.histories.filter (·.changedAt < boundary) = [] := getLast?_eq_none_iff.mp hbefore
    have hall : w.histories.filter (boundary ≤ ·.changedAt) = w.histories := by
      rw [filter_eq_self]
      intro h hh
      have hnot := filter_eq_nil_iff.mp hnone h hh
      simp only [decide_eq_true_eq, not_lt] at hnot ⊢
      exact hnot
    simp only [hall]
    cases hhead : w.histories.head? with
    | some h =>
      show column h.before = column first
      rw [hc.head h hhead]
    | none =>
      have hlast := hc.last
      rw [head?_eq_none_iff.mp hhead] at hlast
      show column w.row.toPriceState = column first
      rw [← hlast]
      rfl

/-- If the entries of a subscription come in the order of their keys, it is created in normal form and
no patch blanks its billing cycle, the ordered history is a chain from the row as it was created to the row as it is; and for
every month whose end no patch straddles, the month state is the state the row had at its end. -/
theorem price_history_replays_subscription [DecidableEq δ] (v : Services) (hv : v.Lawful)
    (now : Int) (row : Record γ δ) (hist : List (RunStep (World γ δ ι) (Action γ δ ι)))
    (w : World γ δ ι) (h : Run (Step v) (.created now row) hist w)
    (horder : ∀ e ∈ hist, InOrder e) (hrow : Normal v row.toPriceState)
    (hcycle : ∀ e ∈ hist, e.label.KeepsCycle v) :
    (sorted PriceHistory.key w.histories).IsChain (fun a b => a.after = b.before) ∧
      (∀ last ∈ (sorted PriceHistory.key w.histories).getLast?, last.after = w.row.toPriceState) ∧
      ∀ boundary, now < boundary → (∀ e ∈ hist, ¬Straddles boundary e) →
        ∀ (α : Type) (column : PriceState δ → α), w.columnAt column boundary =
          some (monthState column w.histories w.row.toPriceState boundary) := by
  have hrun := h.restrict (P := fun e => InOrder e ∧ e.label.KeepsCycle v)
    fun e he => ⟨horder e he, hcycle e he⟩
  have hchained : Chained row.toPriceState w ∧ Normal v w.row.toPriceState := by
    refine hrun.inv (I := fun w => Chained row.toPriceState w ∧ Normal v w.row.toPriceState) ?_
      ⟨chained_created now row, hrow⟩
    rintro w a w' ⟨hc, hn⟩ ⟨hstep, ho, hk⟩
    have hn' := hstep.normal hv hn hk
    exact ⟨hc.step hstep ho hn hn', hn'⟩
  refine ⟨?_, ?_, ?_⟩
  · rw [hchained.1.sorted]
    exact hchained.1.chain
  · rw [hchained.1.sorted]
    exact fun last hlast => hchained.1.last_eq hlast
  · intro boundary hlt hstraddle α column
    have hagree : Agree row.toPriceState boundary w := by
      have hrun := h.restrict (P := fun e => InOrder e ∧ e.label.KeepsCycle v ∧
        ¬Straddles boundary e) fun e he => ⟨horder e he, hcycle e he, hstraddle e he⟩
      refine (hrun.inv (I := fun w => (Chained row.toPriceState w ∧ Normal v w.row.toPriceState) ∧
        Agree row.toPriceState boundary w) ?_ ⟨⟨chained_created now row, hrow⟩,
          agree_created hlt⟩).2
      rintro w a w' ⟨⟨hc, hn⟩, ha⟩ ⟨hstep, ho, hk, hs⟩
      have hn' := hstep.normal hv hn hk
      have hc' := hc.step hstep ho hn hn'
      exact ⟨⟨hc', hn'⟩, ha.step hc' hstep hs⟩
    have hcolumn : w.columnAt column boundary = (w.columnAt id boundary).map column := by
      simp only [World.columnAt, Option.map_map]
      rfl
    rw [hcolumn, hagree, hchained.1.monthState]
    rfl

end Chain

/-! ## Patches that overlap -/

section Sample

def sampleServices : Services := ⟨id, id, id, fun price _ _ => price * 100⟩

def sampleRecord (price : Int) : Record Unit Unit where
  price
  currency := "USD"
  billingCycle := "monthly"
  billingMonths := 1
  billingPeriodUnit := .month
  billingPeriodLength := 1
  monthlyPrice := price * 100
  renewAt := none
  autoRenew := false
  autoRenewCancelled := false
  renewalMode := .manual
  status := .active
  vpsID := "vps"
  content := ()

def samplePatch (price now : Int) (id : Nat) : Patch Unit Unit Nat :=
  ⟨{ price := some price }, now, id⟩

def sampleEntry (before after now : Int) (id : Nat) : PriceHistory Unit Nat :=
  ⟨id, (sampleRecord before).toPriceState, (sampleRecord after).toPriceState, now, now⟩

/-- A subscription with these prices at these times, and the entries of its history. -/
def sampleWorld (now price : Int) (histories : List (PriceHistory Unit Nat))
    (waiting : List (Patch Unit Unit Nat)) (versions : List (Int × Int)) : World Unit Unit Nat :=
  ⟨now, sampleRecord price, histories, waiting, versions.map fun x => (x.1, sampleRecord x.2)⟩

theorem created_eq_sampleWorld :
    World.created 0 (sampleRecord 500) = sampleWorld 0 500 [] [] [(0, 500)] := rfl

section Steps

variable {now price : Int} {histories : List (PriceHistory Unit Nat)}
  {waiting : List (Patch Unit Unit Nat)} {versions : List (Int × Int)}

theorem sampleWorld_tick (now' : Int) (h : now ≤ now') :
    Step sampleServices (sampleWorld now price histories waiting versions) .tick
      (sampleWorld now' price histories waiting versions) :=
  Step.tick h

theorem sampleWorld_begin (price' : Int) (id : Nat) (hvalid : isValidPrice price' = true) :
    Step sampleServices (sampleWorld now price histories waiting versions)
      (.begin (samplePatch price' now id))
      (sampleWorld now price histories (samplePatch price' now id :: waiting) versions) := by
  refine Step.begin (samplePatch price' now id).input id ?_ rfl
  simp [validatePatchInput, normalizePatchInput, normalizePatchPeriod, samplePatch, hvalid]

theorem sampleWorld_commit (front rest : List (Patch Unit Unit Nat)) (price' begun : Int) (id : Nat)
    (hnew : id ∉ histories.map (·.priceHistoryID))
    (hpatch : patchSubscription sampleServices begun id (sampleRecord price)
      (samplePatch price' begun id).input =
        .ok (sampleRecord price', some (sampleEntry price price' begun id))) :
    Step sampleServices
      (sampleWorld now price histories (front ++ samplePatch price' begun id :: rest) versions)
      (.commit (samplePatch price' begun id))
      (sampleWorld now price' (histories ++ [sampleEntry price price' begun id]) (front ++ rest)
        (versions ++ [(now, price')])) := by
  have hstep := @Step.commit Unit Unit Nat _ sampleServices
    (sampleWorld now price histories (front ++ samplePatch price' begun id :: rest) versions)
    front rest (samplePatch price' begun id) _ _ rfl hnew hpatch
  simpa [sampleWorld] using hstep

end Steps

theorem sampleServices_lawful : sampleServices.Lawful :=
  ⟨fun _ => rfl, fun _ _ => rfl, fun _ _ => rfl, fun _ => rfl⟩

/-- After two patches that committed in the order in which they began. -/
def patchedTwice : World Unit Unit Nat :=
  sampleWorld 4 600 [sampleEntry 500 700 0 2, sampleEntry 700 600 3 1] []
    [(0, 500), (0, 700), (4, 600)]

def sampleHistory : List (RunStep (World Unit Unit Nat) (Action Unit Unit Nat)) :=
  let begun := sampleWorld 0 500 [] [samplePatch 700 0 2] [(0, 500)]
  let once := fun now => sampleWorld now 700 [sampleEntry 500 700 0 2] []
    [(0, 500), (0, 700)]
  let again := fun now => sampleWorld now 700 [sampleEntry 500 700 0 2] [samplePatch 600 3 1]
    [(0, 500), (0, 700)]
  [⟨.created 0 (sampleRecord 500), .begin (samplePatch 700 0 2), begun⟩,
    ⟨begun, .commit (samplePatch 700 0 2), once 0⟩, ⟨once 0, .tick, once 3⟩,
    ⟨once 3, .begin (samplePatch 600 3 1), again 3⟩, ⟨again 3, .tick, again 4⟩,
    ⟨again 4, .commit (samplePatch 600 3 1), patchedTwice⟩]

theorem sampleHistory_run :
    Run (Step sampleServices) (.created 0 (sampleRecord 500)) sampleHistory patchedTwice := by
  rw [sampleHistory, created_eq_sampleWorld]
  exact .cons (sampleWorld_begin 700 2 rfl) <|
    .cons (sampleWorld_commit [] [] 700 0 2 (by simp) (by decide)) <|
    .cons (sampleWorld_tick 3 (by decide)) <| .cons (sampleWorld_begin 600 1 rfl) <|
    .cons (sampleWorld_tick 4 (by decide)) <|
    .cons (sampleWorld_commit [] [] 600 3 1 (by decide) (by decide)) <| .nil _

theorem price_history_replays_subscription_sample :
    Run (Step sampleServices) (.created 0 (sampleRecord 500)) sampleHistory patchedTwice ∧
      patchedTwice.histories.length = 2 ∧
      (sorted PriceHistory.key patchedTwice.histories).IsChain (fun a b => a.after = b.before) ∧
      ∀ boundary ∈ [2, 5], patchedTwice.columnAt PriceState.monthlyPrice boundary =
        some (monthState PriceState.monthlyPrice patchedTwice.histories
          patchedTwice.row.toPriceState boundary) := by
  have h := price_history_replays_subscription sampleServices sampleServices_lawful 0
    (sampleRecord 500) sampleHistory _ sampleHistory_run
    (by simp [sampleHistory, InOrder, World.created, sampleWorld, patchedTwice, sampleEntry,
      PriceHistory.key, Prod.Lex.toLex_lt_toLex]) rfl
    (by simp [sampleHistory, Action.KeepsCycle, samplePatch])
  refine ⟨sampleHistory_run, rfl, h.1, fun boundary hboundary => ?_⟩
  rcases mem_cons.mp hboundary with rfl | hboundary
  · exact h.2.2 2 (by decide) (by simp [sampleHistory, Straddles, World.created, sampleWorld,
      patchedTwice, sampleEntry]) Int PriceState.monthlyPrice
  · obtain rfl := mem_singleton.mp hboundary
    exact h.2.2 5 (by decide) (by simp [sampleHistory, Straddles, World.created, sampleWorld,
      patchedTwice]) Int PriceState.monthlyPrice

/-- A patch that began first and got the lock last is replayed in the wrong order. A patch that
straddles the end of a month is told in the month before it took effect. A patch that blanks the
billing cycle leaves a row that the history does not show. -/
theorem overlapping_patches_break_replay :
    (∃ hist, Run (Step sampleServices) (.created 0 (sampleRecord 500)) hist
        (sampleWorld 10 600 [sampleEntry 500 700 2 2, sampleEntry 700 600 1 1] []
          [(0, 500), (2, 700), (2, 600)])) ∧
      sorted PriceHistory.key [sampleEntry 500 700 2 2, sampleEntry 700 600 1 1] =
        [sampleEntry 700 600 1 1, sampleEntry 500 700 2 2] ∧
      ¬[sampleEntry 700 600 1 1, sampleEntry 500 700 2 2].IsChain (fun a b => a.after = b.before) ∧
      (sampleEntry 500 700 2 2).after ≠ (sampleRecord 600).toPriceState ∧
      (sampleWorld 10 600 [sampleEntry 500 700 2 2, sampleEntry 700 600 1 1] []
          [(0, 500), (2, 700), (2, 600)]).columnAt PriceState.monthlyPrice 10 = some 60000 ∧
      monthState PriceState.monthlyPrice [sampleEntry 500 700 2 2, sampleEntry 700 600 1 1]
          (sampleRecord 600).toPriceState 10 = 70000 ∧
      (∃ hist, Run (Step sampleServices) (.created 0 (sampleRecord 500)) hist
        (sampleWorld 8 700 [sampleEntry 500 700 2 2] [] [(0, 500), (8, 700)])) ∧
      (sampleWorld 8 700 [sampleEntry 500 700 2 2] [] [(0, 500), (8, 700)]).columnAt
          PriceState.monthlyPrice 5 = some 50000 ∧
      monthState PriceState.monthlyPrice [sampleEntry 500 700 2 2] (sampleRecord 700).toPriceState 5
        = 70000 ∧
      ∃ row entry, patchSubscription sampleServices 0 2 (sampleRecord 500)
          { billingCycle := some "" } = .ok (row, some entry) ∧
        row.billingCycle = "" ∧ entry.after.billingCycle = "monthly" := by
  have hsorted : sorted PriceHistory.key
      [sampleEntry 500 700 2 2, sampleEntry 700 600 1 1] =
      [sampleEntry 700 600 1 1, sampleEntry 500 700 2 2] := by
    simp [sorted, PriceHistory.key, sampleEntry, mergeSort, Prod.Lex.toLex_le_toLex]
  have hsingle : sorted PriceHistory.key [sampleEntry 500 700 2 2] = [sampleEntry 500 700 2 2] := by
    simp [sorted]
  have hovertaken : ∃ hist, Run (Step sampleServices) (.created 0 (sampleRecord 500)) hist
      (sampleWorld 10 600 [sampleEntry 500 700 2 2, sampleEntry 700 600 1 1] []
        [(0, 500), (2, 700), (2, 600)]) := by
    rw [created_eq_sampleWorld]
    exact ⟨_, .cons (sampleWorld_tick 1 (by decide)) <| .cons (sampleWorld_begin 600 1 rfl) <|
      .cons (sampleWorld_tick 2 (by decide)) <| .cons (sampleWorld_begin 700 2 rfl) <|
      .cons (sampleWorld_commit [] [samplePatch 600 1 1] 700 2 2 (by simp) (by decide)) <|
      .cons (sampleWorld_commit [] [] 600 1 1 (by decide) (by decide)) <|
      .cons (sampleWorld_tick 10 (by decide)) <| .nil _⟩
  have hstraddled : ∃ hist, Run (Step sampleServices) (.created 0 (sampleRecord 500)) hist
      (sampleWorld 8 700 [sampleEntry 500 700 2 2] [] [(0, 500), (8, 700)]) := by
    rw [created_eq_sampleWorld]
    exact ⟨_, .cons (sampleWorld_tick 2 (by decide)) <| .cons (sampleWorld_begin 700 2 rfl) <|
      .cons (sampleWorld_tick 8 (by decide)) <|
      .cons (sampleWorld_commit [] [] 700 2 2 (by simp) (by decide)) <| .nil _⟩
  refine ⟨hovertaken, hsorted, by decide, by decide, by decide, ?_, hstraddled, by decide, ?_, ?_⟩
  · rw [monthState, hsorted]
    rfl
  · rw [monthState, hsingle]
    rfl
  · exact ⟨_, _, rfl, rfl, rfl⟩

end Sample

end Houfeng.Subscriptions
