import SiemDashboard.Lib.Decimal
import SiemDashboard.Lib.Tables

/-!
# Paid usage store

`core/ai/paid_usage_store.py`: the daily budget of the paid AI provider.  A request reserves a
conservative cost before the provider is called and settles what it is charged afterwards.

Each call is one transaction that holds the row of the day (`FOR UPDATE`) from its read of the
amounts to its commit, so the calls on a day take effect one after another; a call that raises
leaves the tables as they were, except that an exhausted budget is recorded.

* **Tables** — `UsageDay`, `Attempt`, `RuntimePolicy`, `Store`, with the checks of the columns.
* **Costs** — `tokenCost`, `conservativeRequestCost`.
* **Calls** — `reserve`, `settle`.
* **What a call does** — `ReserveStep`, `reserve_step`; `SettleStep`, `settle_step`.
-/

namespace SiemDashboard.PaidUsageStore

open Tables

/-! ## Tables -/

/-- An amount of a `NUMERIC(18, 8)` column, in units of `MONEY_QUANTUM`. -/
abbrev Money := Int

/-- The decimal places of `MONEY_QUANTUM`. -/
def moneyScale : Nat := 8

/-- The amount as a `Decimal` of dollars. -/
def usd (amount : Money) : ℚ := amount / 10 ^ moneyScale

/-- The amount has at most eighteen digits. -/
def fitsNumeric (amount : Money) : Bool := amount.natAbs < 10 ^ 18

/-- A non-negative value of a `BIGINT` column. -/
def isCount (n : Int) : Bool := 0 ≤ n && n < 2 ^ 63

/-- A row of `ai_paid_usage_days`. -/
structure UsageDay where
  dailyCap : Money
  reserved : Money
  settled : Money
deriving DecidableEq, Repr

/-- The checks of `ai_paid_usage_days`. -/
def UsageDay.accepted (day : UsageDay) : Bool :=
  0 < day.dailyCap && 0 ≤ day.reserved && 0 ≤ day.settled &&
    day.reserved + day.settled ≤ day.dailyCap && fitsNumeric day.dailyCap &&
    fitsNumeric day.reserved && fitsNumeric day.settled

/-- The statuses of `core/ai/models.py` that a response can carry. -/
inductive AiStatus where
  | disabled
  | success
  | providerUnavailable
  | providerTimeout
  | providerIncapable
  | providerAuthenticationError
  | providerRateLimited
  | providerMalformedResponse
  | fallbackRequiresConfirmation
  | fallbackBlocked
  | configurationError
  | budgetExhausted
  | accountingUnavailable
  | failed
deriving DecidableEq, Repr

/-- The `status` of an attempt: reserved, or the status it was completed with. -/
inductive AttemptStatus where
  | reserved
  | completed (status : AiStatus)
deriving DecidableEq, Repr

/-- The `attempt_kind` of an attempt. -/
inductive AttemptKind where
  | initial
  | repair
deriving DecidableEq, Repr

/-- Where token counts come from. -/
inductive UsageSource where
  | estimated
  | providerReported
deriving DecidableEq, Repr

/-- A row of `ai_paid_request_attempts`.  The id stands for the random `attempt_id`, which no two
    attempts share. -/
structure Attempt where
  id : Nat
  usageDay : Int
  provider : String
  model : String
  profile : String
  correlationId : Option String
  attemptKind : AttemptKind
  status : AttemptStatus
  reservedCost : Money
  settledCost : Option Money
  estimatedCost : Money
  inputTokens : Int
  outputTokens : Int
  totalTokens : Int
  tokenUsageSource : UsageSource
  costSource : UsageSource
  providerLatencyMs : Option Int
  errorCode : Option String

/-- `length(trim(text)) > 0`, where SQL trims spaces only. -/
def hasText (text : String) : Bool := text.toList.any fun c => c ≠ ' '

/-- The checks of `ai_paid_request_attempts`. -/
def Attempt.accepted (attempt : Attempt) : Bool :=
  hasText attempt.provider && hasText attempt.model && hasText attempt.profile &&
    attempt.correlationId.all hasText &&
    0 ≤ attempt.reservedCost && fitsNumeric attempt.reservedCost &&
    attempt.settledCost.all (fun cost => 0 ≤ cost && fitsNumeric cost) &&
    0 ≤ attempt.estimatedCost && fitsNumeric attempt.estimatedCost &&
    isCount attempt.inputTokens && isCount attempt.outputTokens && isCount attempt.totalTokens &&
    attempt.providerLatencyMs.all isCount

/-- The row of `ai_gateway_config`, as far as an authorization reads it. -/
structure RuntimePolicy where
  gatewayMode : String
  preferredAnthropicModel : String
  dailyPaidBudgetUsd : ℚ
  anthropicRoutingEnabled : Bool

/-- The tables of the paid usage accounting. -/
structure Store where
  days : Int → Option UsageDay
  attempts : Table Attempt Attempt.id
  policy? : Option RuntimePolicy

/-- The tables before any call. -/
def Store.empty : Store := ⟨fun _ => none, .empty, none⟩

/-! ## Costs -/

/-- `PaidUsagePricing`, in `Decimal` dollars. -/
structure Pricing where
  dailyCapUsd : ℚ
  inputCostPerMillionTokens : ℚ
  outputCostPerMillionTokens : ℚ

/-- What the calls raise. -/
inductive PaidError where
  /-- `PaidAccountingUnavailable` -/
  | unavailable
  /-- `PaidAccountingConfigurationError` -/
  | configuration
  /-- `PaidBudgetExhausted` -/
  | budgetExhausted (attemptId : Nat) (requested : Money) (remainingUsd : ℚ)
  /-- `decimal.InvalidOperation` of a `quantize` that needs too many digits. -/
  | invalidOperation

/-- `_token_cost`; `none` where `quantize` raises. -/
def tokenCost (inputTokens outputTokens : Int) (pricing : Pricing) : Option Money :=
  let input := Decimal.inContext (inputTokens * pricing.inputCostPerMillionTokens)
  let output := Decimal.inContext (outputTokens * pricing.outputCostPerMillionTokens)
  let raw := Decimal.inContext (Decimal.inContext (input + output) / 1000000)
  Decimal.ceilingTo moneyScale raw

/-- `estimate_tokens`. -/
def estimateTokens (text : String) : Nat :=
  if text = "" then 0 else max 1 ((text.length + 3) / 4)

/-- `conservative_request_cost`: the token estimates and their cost. -/
def conservativeRequestCost (prompt : String) (maxOutputTokens : Int) (pricing : Pricing) :
    Except PaidError (Int × Int × Money) :=
  let inputTokens : Int := max (estimateTokens prompt) prompt.utf8ByteSize
  let outputTokens := max 0 maxOutputTokens
  match tokenCost inputTokens outputTokens pricing with
  | none => .error .invalidOperation
  | some cost =>
    if cost ≤ 0 then .error .configuration else .ok (inputTokens, outputTokens, cost)

/-! ## Calls -/

/-- `AiGatewayRequest` and the routing of it, as far as an authorization reads them; the
    correlation id is the one `_correlation_id` lets through. -/
structure PaidRequest where
  prompt : String
  correlationId : Option String
  attemptKind : AttemptKind
  provider : String
  model : String
  profile : String
  maxOutputTokens : Int

/-- `PaidUsageReservation`. -/
structure Reservation where
  attemptId : Nat
  usageDay : Int
  reservedCost : Money
  remainingUsd : ℚ
  estimatedInputTokens : Int
  estimatedOutputTokens : Int
  correlationId : Option String
  attemptKind : AttemptKind

/-- `_assert_runtime_policy_current`; without a row there is nothing to compare with. -/
def runtimePolicyCurrent (store : Store) (model : String) (pricing : Pricing) : Bool :=
  match store.policy? with
  | none => true
  | some policy =>
    policy.gatewayMode = "automatic_fallback" && policy.preferredAnthropicModel = model &&
      policy.dailyPaidBudgetUsd = pricing.dailyCapUsd && policy.anthropicRoutingEnabled

/-- The row of the day after `INSERT … ON CONFLICT (usage_day) DO NOTHING`; `none` where the insert
    is rejected. -/
def openedDay (store : Store) (usageDay : Int) (capUsd : ℚ) : Option UsageDay :=
  match store.days usageDay with
  | some day => some day
  | none =>
    let day : UsageDay := ⟨Decimal.roundTo moneyScale capUsd, 0, 0⟩
    if day.accepted then some day else none

/-- The row of the day with the cap in force, which is stored unless more than it is used. -/
def recappedDay (day : UsageDay) (capUsd : ℚ) : UsageDay :=
  if usd day.dailyCap ≠ capUsd ∧ usd (day.reserved + day.settled) ≤ capUsd then
    { day with dailyCap := Decimal.roundTo moneyScale capUsd }
  else day

/-- The attempt that a call inserts. -/
def newAttempt (request : PaidRequest) (usageDay : Int) (status : AttemptStatus)
    (reservedCost cost : Money) (inputTokens outputTokens : Int) (errorCode : Option String)
    (id : Nat) : Attempt where
  id := id
  usageDay := usageDay
  provider := request.provider
  model := request.model
  profile := request.profile
  correlationId := request.correlationId
  attemptKind := request.attemptKind
  status := status
  reservedCost := reservedCost
  settledCost := none
  estimatedCost := cost
  inputTokens := inputTokens
  outputTokens := outputTokens
  totalTokens := inputTokens + outputTokens
  tokenUsageSource := .estimated
  costSource := .estimated
  providerLatencyMs := none
  errorCode := errorCode

/-- Write the row of a day and insert an attempt of it. -/
def Store.record (store : Store) (usageDay : Int) (day : UsageDay) (attempt : Nat → Attempt)
    (hattempt : ∀ id, (attempt id).id = id) : Store :=
  { store with
    days := Function.update store.days usageDay (some day)
    attempts := store.attempts.insert attempt hattempt }

/-- `PostgresPaidUsageStore.reserve` on the given day. -/
def reserve (store : Store) (usageDay : Int) (request : PaidRequest) (pricing : Pricing) :
    Except PaidError Reservation × Store :=
  match conservativeRequestCost request.prompt request.maxOutputTokens pricing with
  | .error e => (.error e, store)
  | .ok (inputTokens, outputTokens, cost) =>
    if !runtimePolicyCurrent store request.model pricing then (.error .configuration, store)
    else
      match openedDay store usageDay pricing.dailyCapUsd with
      | none => (.error .unavailable, store)
      | some opened =>
        let day := recappedDay opened pricing.dailyCapUsd
        let remaining := max 0 (pricing.dailyCapUsd - usd (day.reserved + day.settled))
        let attempt (status : AttemptStatus) (reservedCost : Money) (errorCode : Option String) :=
          newAttempt request usageDay status reservedCost cost inputTokens outputTokens errorCode
        if remaining < usd cost then
          let refused := attempt (.completed .budgetExhausted) 0 (some "budget_exhausted")
          if !day.accepted || !(refused 0).accepted then (.error .unavailable, store)
          else
            (.error (.budgetExhausted store.attempts.next cost remaining),
              store.record usageDay day refused fun _ => rfl)
        else
          let reservation := attempt .reserved cost none
          let charged := { day with reserved := day.reserved + cost }
          if !charged.accepted || !(reservation 0).accepted then (.error .unavailable, store)
          else
            (.ok
              { attemptId := store.attempts.next
                usageDay := usageDay
                reservedCost := cost
                remainingUsd := remaining - usd cost
                estimatedInputTokens := inputTokens
                estimatedOutputTokens := outputTokens
                correlationId := request.correlationId
                attemptKind := request.attemptKind },
              store.record usageDay charged reservation fun _ => rfl)

/-- `AiGatewayResponse`, as far as a settlement reads it. -/
structure PaidResponse where
  status : AiStatus
  reportedPromptTokens : Option Int
  reportedCompletionTokens : Option Int
  latencyMs : Option Int
  errorCode : Option String

/-- `PaidUsageSettlement`. -/
structure Settlement where
  attemptId : Nat
  usageDay : Int
  chargedCost : Money
  remaining : Money
  inputTokens : Int
  outputTokens : Int
  totalTokens : Int
  tokenUsageSource : UsageSource
  costSource : UsageSource

/-- What a settlement is to charge: the reported usage where both counts are reported, but never
    more than was reserved, and else the reservation. -/
def settlementCharge (reservation : Reservation) (response : PaidResponse) (pricing : Pricing) :
    Option (Int × Int × Money × UsageSource) :=
  match response.reportedPromptTokens, response.reportedCompletionTokens with
  | some inputTokens, some outputTokens =>
    (tokenCost inputTokens outputTokens pricing).map fun providerCost =>
      if providerCost ≤ reservation.reservedCost then
        (inputTokens, outputTokens, providerCost, .providerReported)
      else (inputTokens, outputTokens, reservation.reservedCost, .providerReported)
  | _, _ =>
    some (reservation.estimatedInputTokens, reservation.estimatedOutputTokens,
      reservation.reservedCost, .estimated)

/-- What a settlement makes of the attempt. -/
def settledAttempt (response : PaidResponse) (charge : Money) (inputTokens outputTokens : Int)
    (source : UsageSource) (attempt : Attempt) : Attempt :=
  { attempt with
    status := .completed response.status
    settledCost := some charge
    estimatedCost := charge
    inputTokens := inputTokens
    outputTokens := outputTokens
    totalTokens := inputTokens + outputTokens
    tokenUsageSource := source
    costSource := .estimated
    providerLatencyMs := response.latencyMs
    errorCode := response.errorCode }

/-- `PostgresPaidUsageStore.settle`. -/
def settle (store : Store) (reservation : Reservation) (response : PaidResponse)
    (pricing : Pricing) : Except PaidError Settlement × Store :=
  match settlementCharge reservation response pricing with
  | none => (.error .invalidOperation, store)
  | some (inputTokens, outputTokens, toCharge, source) =>
    match store.attempts.row? reservation.attemptId with
    | none => (.error .unavailable, store)
    | some attempt =>
      if attempt.status ≠ .reserved then (.error .unavailable, store)
      else
        match store.days reservation.usageDay with
        | none => (.error .unavailable, store)
        | some day =>
          let charge := min toCharge attempt.reservedCost
          let newReserved := day.reserved - attempt.reservedCost
          let newSettled := day.settled + charge
          if newReserved < 0 ∨ day.dailyCap < newReserved + newSettled then
            (.error .unavailable, store)
          else
            let day' := { day with reserved := newReserved, settled := newSettled }
            let close := settledAttempt response charge inputTokens outputTokens source
            if !day'.accepted || !(close attempt).accepted then (.error .unavailable, store)
            else
              (.ok
                { attemptId := reservation.attemptId
                  usageDay := reservation.usageDay
                  chargedCost := charge
                  remaining := day.dailyCap - newReserved - newSettled
                  inputTokens := inputTokens
                  outputTokens := outputTokens
                  totalTokens := inputTokens + outputTokens
                  tokenUsageSource := source
                  costSource := .estimated },
                { store with
                  days := Function.update store.days reservation.usageDay (some day')
                  attempts := store.attempts.update reservation.attemptId (fun _ => true) close
                    fun _ => rfl })

/-! ## What a call does -/

/-- The reserved amount of a day. -/
def Store.reservedOn (store : Store) (usageDay : Int) : Money :=
  ((store.days usageDay).map UsageDay.reserved).getD 0

/-- The settled amount of a day. -/
def Store.settledOn (store : Store) (usageDay : Int) : Money :=
  ((store.days usageDay).map UsageDay.settled).getD 0

/-- The daily cap an authorization goes by: the configured one where there is a configuration. -/
def Store.capInForce (store : Store) (pricing : Pricing) : ℚ :=
  match store.policy? with
  | none => pricing.dailyCapUsd
  | some policy => policy.dailyPaidBudgetUsd

theorem capInForce_of_current {store : Store} {model : String} {pricing : Pricing}
    (h : runtimePolicyCurrent store model pricing = true) :
    store.capInForce pricing = pricing.dailyCapUsd := by
  unfold runtimePolicyCurrent at h
  unfold Store.capInForce
  cases hpolicy : store.policy? with
  | none => rfl
  | some policy =>
    simp only [hpolicy, Bool.and_eq_true, decide_eq_true_eq] at h
    exact h.1.2

@[simp] theorem recappedDay_reserved (day : UsageDay) (capUsd : ℚ) :
    (recappedDay day capUsd).reserved = day.reserved := by
  unfold recappedDay
  split <;> rfl

@[simp] theorem recappedDay_settled (day : UsageDay) (capUsd : ℚ) :
    (recappedDay day capUsd).settled = day.settled := by
  unfold recappedDay
  split <;> rfl

theorem record_reservedOn (store : Store) (usageDay : Int) (day : UsageDay)
    (attempt : Nat → Attempt) (hattempt : ∀ id, (attempt id).id = id) (other : Int) :
    (store.record usageDay day attempt hattempt).reservedOn other =
      if other = usageDay then day.reserved else store.reservedOn other := by
  unfold Store.reservedOn Store.record
  by_cases hother : other = usageDay
  · simp [hother]
  · simp [hother]

theorem record_settledOn (store : Store) (usageDay : Int) (day : UsageDay)
    (attempt : Nat → Attempt) (hattempt : ∀ id, (attempt id).id = id) (other : Int) :
    (store.record usageDay day attempt hattempt).settledOn other =
      if other = usageDay then day.settled else store.settledOn other := by
  unfold Store.settledOn Store.record
  by_cases hother : other = usageDay
  · simp [hother]
  · simp [hother]

theorem openedDay_amounts {store : Store} {usageDay : Int} {capUsd : ℚ} {day : UsageDay}
    (h : openedDay store usageDay capUsd = some day) :
    day.reserved = store.reservedOn usageDay ∧ day.settled = store.settledOn usageDay := by
  unfold openedDay at h
  unfold Store.reservedOn Store.settledOn
  cases hday : store.days usageDay with
  | some stored =>
    rw [hday] at h
    cases h
    exact ⟨rfl, rfl⟩
  | none =>
    simp only [hday] at h
    split at h
    · cases h
      exact ⟨rfl, rfl⟩
    · cases h

/-- The answer of `reserve` and the tables after it. -/
inductive ReserveStep (store : Store) (usageDay : Int) (pricing : Pricing) :
    Except PaidError Reservation → Store → Prop
  | raised (e) : ReserveStep store usageDay pricing (.error e) store
  | exhausted {day attempt hattempt} (e) (hreserved : day.reserved = store.reservedOn usageDay)
      (hsettled : day.settled = store.settledOn usageDay)
      (hday : ∀ id, (attempt id).usageDay = usageDay)
      (hstatus : ∀ id, (attempt id).status ≠ .reserved)
      (hcost : ∀ id, (attempt id).settledCost = none) :
      ReserveStep store usageDay pricing (.error e)
        (store.record usageDay day attempt hattempt)
  | granted {day attempt hattempt reservation cost}
      (hreserved : day.reserved = store.reservedOn usageDay + cost)
      (hsettled : day.settled = store.settledOn usageDay)
      (hday : ∀ id, (attempt id).usageDay = usageDay)
      (hstatus : ∀ id, (attempt id).status = .reserved)
      (hcost : ∀ id, (attempt id).reservedCost = cost ∧ (attempt id).settledCost = none)
      (hreservation : reservation.attemptId = store.attempts.next ∧
        reservation.usageDay = usageDay ∧ reservation.reservedCost = cost)
      (hcap : usd (store.settledOn usageDay + store.reservedOn usageDay + cost) ≤
        store.capInForce pricing) :
      ReserveStep store usageDay pricing (.ok reservation)
        (store.record usageDay day attempt hattempt)

theorem usd_add (a b : Money) : usd (a + b) = usd a + usd b := by
  unfold usd
  push_cast
  ring

theorem usd_pos {a : Money} (h : 0 < a) : 0 < usd a := by
  unfold usd
  positivity

theorem conservativeRequestCost_pos {prompt : String} {maxOutputTokens : Int} {pricing : Pricing}
    {inputTokens outputTokens : Int} {cost : Money}
    (h : conservativeRequestCost prompt maxOutputTokens pricing =
      .ok (inputTokens, outputTokens, cost)) : 0 < cost := by
  unfold conservativeRequestCost at h
  dsimp only at h
  split at h
  · cases h
  · split at h
    · cases h
    · next hpos =>
      cases h
      exact not_le.mp hpos

theorem reserve_step (store : Store) (usageDay : Int) (request : PaidRequest) (pricing : Pricing) :
    ReserveStep store usageDay pricing (reserve store usageDay request pricing).1
      (reserve store usageDay request pricing).2 := by
  unfold reserve
  split
  · exact .raised _
  · next inputTokens outputTokens cost hcost =>
    split
    · exact .raised _
    · next hcurrent =>
      split
      · exact .raised _
      · next opened hopened =>
        obtain ⟨hreserved, hsettled⟩ := openedDay_amounts hopened
        dsimp only
        split
        · split
          · exact .raised _
          · exact .exhausted _ (by simpa using hreserved) (by simpa using hsettled)
              (fun _ => rfl) (fun _ => nofun) fun _ => rfl
        · next hcap =>
          split
          · exact .raised _
          · refine .granted ?_ (by simpa using hsettled) (fun _ => rfl) (fun _ => rfl)
              (fun _ => ⟨rfl, rfl⟩) ⟨rfl, rfl, rfl⟩ ?_
            · simpa using hreserved
            · -- a cost is positive, so what remains is not the floor of zero
              have hpos := usd_pos (conservativeRequestCost_pos hcost)
              have hle : usd cost ≤ pricing.dailyCapUsd -
                  usd ((recappedDay opened pricing.dailyCapUsd).reserved +
                    (recappedDay opened pricing.dailyCapUsd).settled) := by
                rcases le_max_iff.mp (not_lt.mp hcap) with h | h
                · linarith
                · exact h
              rw [capInForce_of_current (by simpa using hcurrent)]
              simp only [recappedDay_reserved, recappedDay_settled, hreserved, hsettled,
                usd_add] at hle ⊢
              linarith

theorem settledAttempt_fields (response : PaidResponse) (charge : Money)
    (inputTokens outputTokens : Int) (source : UsageSource) (a : Attempt) :
    let a' := settledAttempt response charge inputTokens outputTokens source a
    a'.id = a.id ∧ a'.usageDay = a.usageDay ∧ a'.reservedCost = a.reservedCost ∧
      a'.status = .completed response.status ∧ a'.settledCost = some charge :=
  ⟨rfl, rfl, rfl, rfl, rfl⟩

/-- The answer of `settle` and the tables after it. -/
inductive SettleStep (store : Store) (reservation : Reservation) :
    Except PaidError Settlement → Store → Prop
  | raised (e) : SettleStep store reservation (.error e) store
  | settled {attempt day charge status close settlement}
      (hattempt : store.attempts.row? reservation.attemptId = some attempt)
      (hreserved : attempt.status = .reserved)
      (hday : store.days reservation.usageDay = some day)
      (hclose : ∀ a : Attempt, (close a).id = a.id ∧ (close a).usageDay = a.usageDay ∧
        (close a).reservedCost = a.reservedCost ∧ (close a).status = .completed status ∧
        (close a).settledCost = some charge)
      (hcharge : charge ≤ attempt.reservedCost)
      (hsettlement : settlement.chargedCost = charge) :
      SettleStep store reservation (.ok settlement)
        { store with
          days := Function.update store.days reservation.usageDay (some
            { day with
              reserved := day.reserved - attempt.reservedCost
              settled := day.settled + charge })
          attempts := store.attempts.update reservation.attemptId (fun _ => true) close
            fun a => (hclose a).1 }

theorem settle_step (store : Store) (reservation : Reservation) (response : PaidResponse)
    (pricing : Pricing) :
    SettleStep store reservation (settle store reservation response pricing).1
      (settle store reservation response pricing).2 := by
  unfold settle
  split
  · exact .raised _
  · split
    · exact .raised _
    · next attempt hattempt =>
      split
      · exact .raised _
      · next hreserved =>
        split
        · exact .raised _
        · next day hday =>
          dsimp only
          split
          · exact .raised _
          · split
            · exact .raised _
            · exact .settled hattempt (not_not.mp hreserved) hday
                (settledAttempt_fields response _ _ _ _) (min_le_right _ _) rfl

end SiemDashboard.PaidUsageStore
