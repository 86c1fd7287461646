import Houfeng.Foundation.Keyset
import Houfeng.Foundation.Runs
import Mathlib.Data.Prod.Lex

/-!
# Patching a subscription and its price history

A patch of a subscription is one transaction: it begins, waits for the asset graph lock, updates the
row and, if a column of the price changed, adds an entry to the price history. The entry carries the
time at which the transaction began, while the lock orders the patches. The cost trend replays the
history in the order of `(changed_at, created_at, price_history_id)`.

Prices are in hundredths and monthly prices in ten-thousandths. The text functions of Go and the
monthly price are `Services`; the columns that are no part of the price are `content`.
-/

namespace Houfeng.Subscriptions

inductive Status
  | active
  | paused
  | cancelled
  | expired
  | unknown
deriving DecidableEq

inductive BillingPeriodUnit
  | day
  | week
  | month
  | year
deriving DecidableEq

inductive RenewalMode
  | auto
  | manual
  | autoCancelled
deriving DecidableEq

structure Services where
  trimSpace : String → String
  toUpper : String → String
  toLower : String → String
  /-- The monthly price that the update statement computes from price, unit and length. -/
  monthlyPrice : Int → BillingPeriodUnit → Int → Int

inductive PatchError
  | invalidSubscriptionInput (message : String)
  | ownershipChangeForbidden
deriving DecidableEq

/-! ## Normal forms -/

section Normalize

variable (v : Services) (value : String)

def normalizeCurrency : String := v.toUpper (v.trimSpace value)

def normalizeBillingPeriodUnit : String := v.toLower (v.trimSpace value)

def normalizeRenewalMode : String := v.toLower (v.trimSpace value)

def parseStatus : String → Option Status
  | "active" => some .active
  | "paused" => some .paused
  | "cancelled" => some .cancelled
  | "expired" => some .expired
  | "unknown" => some .unknown
  | _ => none

def parseBillingPeriodUnit : Option BillingPeriodUnit :=
  match normalizeBillingPeriodUnit v value with
  | "day" => some .day
  | "week" => some .week
  | "month" => some .month
  | "year" => some .year
  | _ => none

def parseRenewalMode : Option RenewalMode :=
  match normalizeRenewalMode v value with
  | "auto" => some .auto
  | "manual" => some .manual
  | "auto_cancelled" => some .autoCancelled
  | _ => none

def RenewalMode.text : RenewalMode → String
  | .auto => "auto"
  | .manual => "manual"
  | .autoCancelled => "auto_cancelled"

def isValidCurrency : Bool :=
  value.utf8ByteSize = 3 && value.toList.all fun c => 'A' ≤ c && c ≤ 'Z'

/-- `IsValidPrice` of a price in hundredths. -/
def isValidPrice (price : Int) : Bool := 0 ≤ price && price ≤ 999999999999

/-- Automatic renewal, and its cancellation. -/
def legacyRenewalFlags : Option RenewalMode → Bool × Bool
  | some .auto => (true, false)
  | some .autoCancelled => (false, true)
  | _ => (false, false)

def renewalModeFromLegacyFlags (autoRenew autoRenewCancelled : Bool) : RenewalMode :=
  if autoRenewCancelled then .autoCancelled else if autoRenew then .auto else .manual

def billingMonthsForPeriod (unit : Option BillingPeriodUnit) (length : Int) : Int :=
  let length := if length ≤ 0 then 1 else length
  match unit with
  | some .year => length * 12
  | some .month => length
  | some .week => max 1 ((length * 7 + 29) / 30)
  | some .day => max 1 ((length + 29) / 30)
  | none => length

def billingCycleForPeriod (unit : Option BillingPeriodUnit) (length : Int) : String :=
  let length := if length ≤ 0 then 1 else length
  match unit with
  | some .day => if length = 1 then "daily" else toString length ++ " days"
  | some .week => if length = 1 then "weekly" else toString length ++ " weeks"
  | some .month => if length = 1 then "monthly" else toString length ++ " months"
  | some .year => if length = 1 then "annual" else toString length ++ " years"
  | none => ""

end Normalize

/-! ## Records and patches -/

variable {γ δ ι : Type}

/-- The columns that a price history entry keeps of a subscription. -/
structure PriceState (δ : Type) where
  price : Int
  currency : String
  billingCycle : String
  billingMonths : Int
  billingPeriodUnit : BillingPeriodUnit
  billingPeriodLength : Int
  monthlyPrice : Int
  renewAt : Option δ
  autoRenew : Bool
  autoRenewCancelled : Bool
  renewalMode : RenewalMode
  status : Status
deriving DecidableEq

structure Record (γ δ : Type) extends PriceState δ where
  vpsID : String
  content : γ
deriving DecidableEq

/-- The columns that are set. -/
structure PatchInput (γ δ : Type) where
  vpsID : Option String := none
  price : Option Int := none
  currency : Option String := none
  billingCycle : Option String := none
  billingMonths : Option Int := none
  billingPeriodUnit : Option String := none
  billingPeriodLength : Option Int := none
  renewAt : Option (Option δ) := none
  autoRenew : Option Bool := none
  autoRenewCancelled : Option Bool := none
  renewalMode : Option String := none
  status : Option String := none
  content : Option γ := none

section Patch

variable (v : Services) (input : PatchInput γ δ)

/-- The part of `NormalizePatchInput` about the billing period. -/
def normalizePatchPeriod : PatchInput γ δ :=
  if input.billingMonths.isSome ∨ input.billingPeriodUnit.isSome ∨
      input.billingPeriodLength.isSome then
    let unit := match input.billingPeriodUnit with
      | none => "month"
      | some unit => if unit = "" then "month" else unit
    let length := match input.billingPeriodLength, input.billingMonths with
      | some length, _ => length
      | none, some months => if unit = "month" then months else 1
      | none, none => 1
    let input := { input with billingPeriodUnit := some unit, billingPeriodLength := some length }
    let input := if 0 < length then
        { input with billingMonths := some (billingMonthsForPeriod (parseBillingPeriodUnit v unit)
            length) }
      else input
    if (input.billingCycle = none ∨ input.billingCycle = some "") ∧ 0 < length then
      { input with billingCycle := some (billingCycleForPeriod (parseBillingPeriodUnit v unit)
          length) }
    else input
  else input

def normalizePatchInput : PatchInput γ δ :=
  let input := { input with
    vpsID := input.vpsID.map v.trimSpace
    currency := input.currency.map (normalizeCurrency v)
    billingCycle := input.billingCycle.map v.trimSpace
    billingPeriodUnit := input.billingPeriodUnit.map (normalizeBillingPeriodUnit v) }
  let input := normalizePatchPeriod v input
  let input := { input with
    status := input.status.map v.trimSpace
    renewalMode := input.renewalMode.map (normalizeRenewalMode v) }
  match input.renewalMode with
  | none => input
  | some mode =>
    let flags := legacyRenewalFlags (parseRenewalMode v mode)
    { input with autoRenew := some flags.1, autoRenewCancelled := some flags.2 }

def normalizePatchAgainstRecord (current : Record γ δ) (input : PatchInput γ δ) : PatchInput γ δ :=
  let input := normalizePatchInput v input
  if input.renewalMode.isSome ∨ (input.autoRenew = none ∧ input.autoRenewCancelled = none) then input
  else
    let mode := renewalModeFromLegacyFlags (input.autoRenew.getD current.autoRenew)
      (input.autoRenewCancelled.getD current.autoRenewCancelled)
    let flags := legacyRenewalFlags (some mode)
    { input with
      renewalMode := some mode.text
      autoRenew := some flags.1
      autoRenewCancelled := some flags.2 }

def validatePatchInput : Except PatchError Unit :=
  if input.vpsID = some "" then .error (.invalidSubscriptionInput "vps_id is required")
  else if input.price.any (isValidPrice · = false) then
    .error (.invalidSubscriptionInput "price must be non-negative")
  else if input.billingMonths.any (· ≤ 0) then
    .error (.invalidSubscriptionInput "billing_months must be greater than zero")
  else if input.billingPeriodUnit.any fun u => (parseBillingPeriodUnit v u).isNone then
    .error (.invalidSubscriptionInput "invalid billing_period_unit")
  else if input.billingPeriodLength.any (· ≤ 0) then
    .error (.invalidSubscriptionInput "billing_period_length must be greater than zero")
  else if input.currency.any (isValidCurrency · = false) then
    .error (.invalidSubscriptionInput "currency must be a 3-letter uppercase code")
  else if input.renewalMode.any fun m => (parseRenewalMode v m).isNone then
    .error (.invalidSubscriptionInput "invalid renewal_mode")
  else if input.status.any fun s => (parseStatus s).isNone then
    .error (.invalidSubscriptionInput "invalid status")
  else .ok ()

def PatchInput.hasChanges : Bool :=
  input.vpsID.isSome || input.price.isSome || input.currency.isSome || input.billingCycle.isSome ||
    input.billingMonths.isSome || input.billingPeriodUnit.isSome ||
    input.billingPeriodLength.isSome || input.renewAt.isSome || input.autoRenew.isSome ||
    input.autoRenewCancelled.isSome || input.renewalMode.isSome || input.status.isSome ||
    input.content.isSome

/-- `patchSubscriptionRow` with a validated patch. -/
def patchSubscriptionRow (row : Record γ δ) (input : PatchInput γ δ) : Record γ δ :=
  let price := input.price.getD row.price
  let unit := (input.billingPeriodUnit.bind (parseBillingPeriodUnit v)).getD row.billingPeriodUnit
  let length := input.billingPeriodLength.getD row.billingPeriodLength
  { vpsID := input.vpsID.getD row.vpsID
    price
    currency := input.currency.getD row.currency
    billingCycle := input.billingCycle.getD row.billingCycle
    billingMonths := input.billingMonths.getD row.billingMonths
    billingPeriodUnit := unit
    billingPeriodLength := length
    monthlyPrice :=
      if input.price.isSome ∨ input.billingPeriodUnit.isSome ∨ input.billingPeriodLength.isSome then
        v.monthlyPrice price unit length
      else row.monthlyPrice
    renewAt := input.renewAt.getD row.renewAt
    autoRenew := input.autoRenew.getD row.autoRenew
    autoRenewCancelled := input.autoRenewCancelled.getD row.autoRenewCancelled
    renewalMode := (input.renewalMode.bind (parseRenewalMode v)).getD row.renewalMode
    status := (input.status.bind parseStatus).getD row.status
    content := input.content.getD row.content }

/-! ## The price history -/

/-- `normalizeSubscriptionRecord` on the columns of the price. -/
def normalizeSubscriptionRecord (state : PriceState δ) : PriceState δ :=
  let length :=
    if state.billingPeriodLength ≤ 0 then
      if 0 < state.billingMonths ∧ state.billingPeriodUnit = .month then state.billingMonths else 1
    else state.billingPeriodLength
  let months :=
    if state.billingMonths ≤ 0 then billingMonthsForPeriod (some state.billingPeriodUnit) length
    else state.billingMonths
  let cycle := v.trimSpace state.billingCycle
  let flags := legacyRenewalFlags (some state.renewalMode)
  { state with
    currency := normalizeCurrency v state.currency
    billingCycle :=
      if cycle = "" then billingCycleForPeriod (some state.billingPeriodUnit) length else cycle
    billingMonths := months
    billingPeriodLength := length
    autoRenew := flags.1
    autoRenewCancelled := flags.2 }

structure PriceHistory (δ ι : Type) where
  priceHistoryID : ι
  before : PriceState δ
  after : PriceState δ
  changedAt : Int
  createdAt : Int
deriving DecidableEq

/-- `ValidateCreatePriceHistoryInput` on the columns of the price. -/
def validateCreatePriceHistoryInput (state : PriceState δ) : Bool :=
  isValidPrice state.price && 0 < state.billingMonths && 0 < state.billingPeriodLength &&
    isValidCurrency state.currency

/-- `createPriceHistory` in a transaction that began at `now`. -/
def createPriceHistory (now : Int) (id : ι) (current record : PriceState δ) :
    Except PatchError (PriceHistory δ ι) :=
  let before := normalizeSubscriptionRecord v current
  let after := normalizeSubscriptionRecord v record
  if validateCreatePriceHistoryInput before && validateCreatePriceHistoryInput after then
    .ok ⟨id, before, after, now, now⟩
  else .error (.invalidSubscriptionInput "")

/-- `patchSubscriptionInTransaction` once it has the lock: the row it leaves and the entry it adds;
`now` is when it began. -/
def patchSubscription [DecidableEq δ] (now : Int) (id : ι) (current : Record γ δ)
    (input : PatchInput γ δ) : Except PatchError (Record γ δ × Option (PriceHistory δ ι)) := do
  let input := normalizePatchAgainstRecord v current input
  if input.vpsID.any (· ≠ current.vpsID) then .error .ownershipChangeForbidden
  else do
    let input := { input with vpsID := none }
    validatePatchInput v input
    if input.hasChanges = false then .ok (current, none)
    else
      let record := patchSubscriptionRow v current input
      -- `subscriptionPriceHistoryChanged` compares exactly the columns of the price.
      if record.toPriceState = current.toPriceState then .ok (record, none)
      else do
        let entry ← createPriceHistory v now id current.toPriceState record.toPriceState
        .ok (record, some entry)

end Patch

/-! ## Replaying the history -/

section Replay

variable [LinearOrder ι]

def PriceHistory.key (h : PriceHistory δ ι) : Int ×ₗ Int ×ₗ ι :=
  toLex (h.changedAt, toLex (h.createdAt, h.priceHistoryID))

/-- A column of `subscriptionCostMonthStatesSQL` for the month that ends at `boundary`: the value
after the last change before the boundary, else the one before the first change since, else that of
the row. -/
def monthState {α : Type} (column : PriceState δ → α) (histories : List (PriceHistory δ ι))
    (row : PriceState δ) (boundary : Int) : α :=
  let ordered := Keyset.sorted PriceHistory.key histories
  match (ordered.filter (·.changedAt < boundary)).getLast? with
  | some h => column h.after
  | none =>
    match (ordered.filter (boundary ≤ ·.changedAt)).head? with
    | some h => column h.before
    | none => column row

end Replay

/-! ## Patches of one subscription -/

structure Patch (γ δ ι : Type) where
  input : PatchInput γ δ
  now : Int
  priceHistoryID : ι

/-- One subscription: the clock, its row and history, the patches that wait for the lock, and, for
statements about the past, the rows it has had with the times at which they were committed. -/
structure World (γ δ ι : Type) where
  now : Int
  row : Record γ δ
  histories : List (PriceHistory δ ι)
  waiting : List (Patch γ δ ι)
  versions : List (Int × Record γ δ)

inductive Action (γ δ ι : Type)
  | tick
  | begin (patch : Patch γ δ ι)
  | commit (patch : Patch γ δ ι)
  | fail (patch : Patch γ δ ι)

/-- Patches begin, get the lock in any order, and may fail at any point. `PatchSubscription` has
normalized and checked the input before the transaction begins. -/
inductive Step [DecidableEq δ] (v : Services) :
    World γ δ ι → Action γ δ ι → World γ δ ι → Prop
  | tick {w : World γ δ ι} {now : Int} (h : w.now ≤ now) : Step v w .tick { w with now }
  | begin {w : World γ δ ι} (input : PatchInput γ δ) (id : ι)
      (hvalid : validatePatchInput v (normalizePatchInput v input) = .ok ())
      (hchanges : (normalizePatchInput v input).hasChanges = true) :
      Step v w (.begin ⟨normalizePatchInput v input, w.now, id⟩)
        { w with waiting := ⟨normalizePatchInput v input, w.now, id⟩ :: w.waiting }
  | commit {w : World γ δ ι} {before after : List (Patch γ δ ι)} {patch : Patch γ δ ι}
      {row : Record γ δ} {entry : Option (PriceHistory δ ι)}
      (hwaiting : w.waiting = before ++ patch :: after)
      (hnew : patch.priceHistoryID ∉ w.histories.map (·.priceHistoryID))
      (h : patchSubscription v patch.now patch.priceHistoryID w.row patch.input =
        .ok (row, entry)) :
      Step v w (.commit patch) { w with
        row
        histories := w.histories ++ entry.toList
        waiting := before ++ after
        versions := w.versions ++ [(w.now, row)] }
  | fail {w : World γ δ ι} {before after : List (Patch γ δ ι)} {patch : Patch γ δ ι}
      (hwaiting : w.waiting = before ++ patch :: after) :
      Step v w (.fail patch) { w with waiting := before ++ after }

def World.created (now : Int) (row : Record γ δ) : World γ δ ι :=
  ⟨now, row, [], [], [(now, row)]⟩

/-- A column of the row at the end of the time before `boundary`. -/
def World.columnAt {α : Type} (w : World γ δ ι) (column : PriceState δ → α) (boundary : Int) :
    Option α :=
  ((w.versions.filter (·.1 < boundary)).getLast?).map fun version => column version.2.toPriceState

end Houfeng.Subscriptions
