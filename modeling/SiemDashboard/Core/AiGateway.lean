import SiemDashboard.Core.AiGatewayConfig
import SiemDashboard.Core.PaidUsageStore
import SiemDashboard.Lib.Program

/-!
# AI gateway

`core/ai/gateway.py`: a request is routed by the profile it asks for to the local provider, or, in the
mode that allows it and within the accounted budget, to the paid one.

Providers, the accounting store and the store of the runtime configuration are called one statement at a
time and may answer or raise anything; what is raised is an `Exception`.

* **Requests and responses** — `AiGatewayRequest`, `AiGatewayResponse`, `failureResponse`.
* **Calls** — `AiCall`, `AiProg`.
* **Pricing** — `pricingFromConfig`.
* **Routing** — `tryProfileProvider`, `fallbackOrDegraded`, `authorize`, `contact`, `settleCharge`,
  `tryPaidProfile`, `generateWith`, `AiGateway.generate`.
-/

namespace SiemDashboard.AiRouting

open Atomic PaidUsageStore Python

/-! ## Requests and responses -/

/-- `AiGatewayRequest`. -/
structure AiGatewayRequest where
  prompt : String
  capability : String
  profile : Option String
  metadata : Json

/-- `AiCapabilityResult`. -/
structure AiCapabilityResult where
  capable : Bool
  status : String
  reason : Option String

/-- `AiRequestMetadata`, without its latency and the completion state. -/
structure AiRequestMetadata where
  provider : Option AiProviderKey
  model : Option String
  mode : AiMode
  status : AiStatus
  estimatedPromptTokens : Int
  estimatedCompletionTokens : Int
  reportedPromptTokens : Option Int
  reportedCompletionTokens : Option Int
  estimatedCostUsd : Option ℚ
  actualBilledCostUsd : Option ℚ
  costSource : Option UsageSource
  localRequest : Bool
  paidRequest : Bool
  fallbackAttempted : Bool
  fallbackReason : Option String
  errorCode : Option String
  profile : Option String
  taskCategory : Option String
  timeoutSeconds : Option PyFloat
  maxOutputTokens : Option Int
  accountingAttemptId : Option Nat
  accountingUsageDay : Option Int
  accountingAttemptKind : Option AttemptKind
  budgetReservedUsd : Option ℚ
  budgetRemainingUsd : Option ℚ
  usageCostUsd : Option ℚ
  usageCostSource : Option UsageSource

/-- `AiGatewayResponse`. -/
structure AiGatewayResponse where
  status : AiStatus
  content : Option String
  metadata : AiRequestMetadata
  error : Option String

def statusText : AiStatus → String
  | .disabled => "disabled"
  | .success => "success"
  | .providerUnavailable => "provider_unavailable"
  | .providerTimeout => "provider_timeout"
  | .providerIncapable => "provider_incapable"
  | .providerAuthenticationError => "provider_authentication_error"
  | .providerRateLimited => "provider_rate_limited"
  | .providerMalformedResponse => "provider_malformed_response"
  | .fallbackRequiresConfirmation => "fallback_requires_confirmation"
  | .fallbackBlocked => "fallback_blocked"
  | .configurationError => "configuration_error"
  | .budgetExhausted => "budget_exhausted"
  | .accountingUnavailable => "accounting_unavailable"
  | .failed => "failed"

/-- `text or None`. -/
def textOrNone (text : String) : Option String := if text = "" then none else some text

/-- What a failure says. -/
structure Failure where
  status : AiStatus
  error : String
  errorCode : String
  localRequest : Bool := false
  paidRequest : Bool := false

/-- `_failure_response` for a profile. -/
def failureResponse (mode : AiMode) (promptTokens : Nat) (profile : AiModelProfile)
    (failure : Failure) : AiGatewayResponse where
  status := failure.status
  content := none
  error := some failure.error
  metadata :=
    { provider := profile.provider.orNone
      model := textOrNone profile.model
      mode := mode
      status := failure.status
      estimatedPromptTokens := promptTokens
      estimatedCompletionTokens := 0
      reportedPromptTokens := none
      reportedCompletionTokens := none
      estimatedCostUsd := if failure.localRequest then some 0 else none
      actualBilledCostUsd := none
      costSource := none
      localRequest := failure.localRequest
      paidRequest := failure.paidRequest
      fallbackAttempted := false
      fallbackReason := none
      errorCode := some failure.errorCode
      profile := some profile.name
      taskCategory := some profile.taskCategory
      timeoutSeconds := some profile.timeoutSeconds
      maxOutputTokens := some profile.maxOutputTokens
      accountingAttemptId := none
      accountingUsageDay := none
      accountingAttemptKind := none
      budgetReservedUsd := none
      budgetRemainingUsd := none
      usageCostUsd := none
      usageCostSource := none }

/-! ## Calls -/

/-- `PaidUsagePricing`; the decimals of floats may be infinite. -/
structure PaidPricing where
  dailyCapUsd : PyFloat
  inputCostPerMillionTokens : PyFloat
  outputCostPerMillionTokens : PyFloat

inductive AiRaised where
  /-- `PaidBudgetExhausted` -/
  | budgetExhausted (attemptId : Nat) (usageDay : Int) (remainingUsd : ℚ)
  /-- `PaidAccountingConfigurationError` -/
  | accountingConfiguration
  /-- `PaidAccountingUnavailable` -/
  | accountingUnavailable
  /-- Any other `Exception`. -/
  | other

/-- What the gateway calls. -/
inductive AiCall where
  | resolveConfig (source : AiGatewayConfig)
  | supports (provider : AiProviderKey) (request : AiGatewayRequest)
  | provide (provider : AiProviderKey) (request : AiGatewayRequest) (config : AiGatewayConfig)
  | reserve (request : AiGatewayRequest) (provider : AiProviderKey) (model profile : String)
      (maxOutputTokens : Int) (pricing : PaidPricing)
  | settle (reservation : Reservation) (response : AiGatewayResponse) (pricing : PaidPricing)

/-- What a call returns. -/
def AiCall.Value : AiCall → Type
  | .resolveConfig _ => AiGatewayConfig
  | .supports _ _ => AiCapabilityResult
  | .provide _ _ _ => AiGatewayResponse
  | .reserve _ _ _ _ _ _ => Reservation
  | .settle _ _ _ => Settlement

/-- A call returns or raises. -/
abbrev AiCall.Reply (call : AiCall) : Type := Except AiRaised call.Value

/-- A program of the gateway. -/
abbrev AiProg (α : Type) : Type := ExceptT AiRaised (Program AiCall.Reply) α

/-- Make one call. -/
def perform (q : AiCall) : AiProg q.Value := ExceptT.mk (call q)

/-! ## Pricing -/

/-- `value <= 0` of a decimal, which raises `InvalidOperation` for a `NaN`. -/
def isNonpositive : PyFloat → Except AiRaised Bool
  | .finite value => .ok (value ≤ 0)
  | .infinite negative => .ok negative
  | .nan => .error .other

/-- `pricing_from_config`. -/
def pricingFromConfig (config : AiGatewayConfig) : Except AiRaised PaidPricing := do
  let pricing : PaidPricing :=
    { dailyCapUsd := config.anthropicDailyBudgetUsd
      inputCostPerMillionTokens := config.anthropicInputCostPerMillionTokens
      outputCostPerMillionTokens := config.anthropicOutputCostPerMillionTokens }
  if !config.anthropicBudgetValid then .error .accountingConfiguration
  else if ← isNonpositive pricing.dailyCapUsd then .error .accountingConfiguration
  else if ← isNonpositive pricing.inputCostPerMillionTokens then .error .accountingConfiguration
  else if ← isNonpositive pricing.outputCostPerMillionTokens then .error .accountingConfiguration
  else return pricing

/-! ## Routing -/

/-- `AiGateway`: the configuration it starts from, the providers it has by key, and whether it has a
    store of the runtime configuration. -/
structure AiGateway where
  sourceConfig : AiGatewayConfig
  providers : AiProviderKey → Bool
  runtimeConfigStore : Bool

/-- The keys of `build_default_providers`. -/
def defaultProviders : AiProviderKey → Bool
  | .ollama | .anthropic | .other "disabled" | .other "paid" | .other "openai" => true
  | .other _ => false

/-- `AiGateway(config=config)`. -/
def AiGateway.of (config : AiGatewayConfig) : AiGateway where
  sourceConfig := config
  providers := defaultProviders
  runtimeConfigStore := false

section Routing

variable (providers : AiProviderKey → Bool) (config : AiGatewayConfig)

/-- A failure of the provider that supports no such request. -/
def incapable (request : AiGatewayRequest) (profile : AiModelProfile)
    (capability : AiCapabilityResult) (localRequest paidRequest : Bool) : AiGatewayResponse :=
  failureResponse config.mode (estimateTokens request.prompt) profile
    { status := .providerIncapable
      error := (capability.reason.filter (· ≠ "")).getD "AI provider is incapable."
      errorCode := capability.status
      localRequest := localRequest
      paidRequest := paidRequest }

/-- Whether the provider of a profile is configured, and the failure where it is not. -/
def providerConfigured (profile : AiModelProfile) : Bool × Failure :=
  match profile.provider with
  | .ollama =>
    (config.localProvider == .ollama && config.localConfigured && profile.model != "",
      { status := .providerUnavailable
        error := "Local AI provider is not configured for the selected AI profile."
        errorCode := "local_provider_not_configured" })
  | .anthropic =>
    (config.anthropicEnabled && config.anthropicConfigured && profile.model != "" &&
        profile.model == config.anthropicModel,
      { status := .configurationError
        error := "Anthropic provider configuration is invalid or incomplete."
        errorCode := "anthropic_configuration_invalid" })
  | .other _ =>
    (false,
      { status := .configurationError
        error := "AI profile provider is not registered."
        errorCode := "profile_provider_not_registered" })

/-- `provider.generate`, a failure standing for what it raises. -/
def contact (request : AiGatewayRequest) (profile : AiModelProfile) (paidRequest : Bool) :
    AiProg AiGatewayResponse :=
  tryCatch (perform (.provide profile.provider request config)) fun _ =>
    return failureResponse config.mode (estimateTokens request.prompt) profile
      { status := .failed
        error := "AI provider failed."
        errorCode := "provider_exception"
        localRequest := !paidRequest
        paidRequest := paidRequest }

/-- `_try_profile_provider`. -/
def tryProfileProvider (request : AiGatewayRequest) (profile : AiModelProfile)
    (paidRequest : Bool) : AiProg AiGatewayResponse := do
  let configured := providerConfigured config profile
  if !providers profile.provider || !configured.1 then
    return failureResponse config.mode (estimateTokens request.prompt) profile
      { configured.2 with localRequest := !paidRequest, paidRequest := paidRequest }
  else
    let capability ← perform (.supports profile.provider request)
    if !capability.capable then
      return incapable config request profile capability (!paidRequest) paidRequest
    else contact config request profile paidRequest

/-- A response of the local fallback, with the reason for it and the accounting of what was
    blocked. -/
def fallenBack (blocked response : AiGatewayResponse) : AiGatewayResponse :=
  { response with
    metadata :=
      { response.metadata with
        fallbackAttempted := true
        fallbackReason :=
          some ((blocked.metadata.errorCode.filter (· ≠ "")).getD (statusText blocked.status))
        accountingAttemptId := blocked.metadata.accountingAttemptId
        accountingUsageDay := blocked.metadata.accountingUsageDay
        accountingAttemptKind := blocked.metadata.accountingAttemptKind
        budgetRemainingUsd := blocked.metadata.budgetRemainingUsd } }

variable (env : ProfileEnvironment)

/-- `_fallback_or_degraded`. -/
def fallbackOrDegraded (request : AiGatewayRequest) (profile : AiModelProfile)
    (blocked : AiGatewayResponse) : AiProg AiGatewayResponse :=
  match profile.localFallbackProfile with
  | none | some "" => return blocked
  | some fallbackName =>
    match config.profile env (some fallbackName) with
    | none => throw .other
    | some fallbackProfile =>
      if fallbackProfile.provider ≠ .ollama then return blocked
      else do
        let response ← tryProfileProvider providers config
          { request with profile := some fallbackProfile.name } fallbackProfile false
        return fallenBack blocked response

/-- `_failure_response` of a paid request that was not made. -/
def blockedResponse (request : AiGatewayRequest) (profile : AiModelProfile) (status : AiStatus)
    (error errorCode : String) : AiGatewayResponse :=
  failureResponse config.mode (estimateTokens request.prompt) profile
    { status := status, error := error, errorCode := errorCode }

/-- The response to what `reserve` raises, unless it is raised further. -/
def refusedResponse (request : AiGatewayRequest) (profile : AiModelProfile) :
    AiRaised → Option AiGatewayResponse
  | .budgetExhausted attemptId usageDay remainingUsd =>
    let blocked := blockedResponse config request profile .budgetExhausted
      "Daily paid AI budget is exhausted; the provider was not contacted." "budget_exhausted"
    some { blocked with
      metadata := { blocked.metadata with
        accountingAttemptId := some attemptId
        accountingUsageDay := some usageDay
        budgetRemainingUsd := some remainingUsd } }
  | .accountingConfiguration =>
    some (blockedResponse config request profile .configurationError
      "Paid AI budget or pricing configuration is invalid." "paid_accounting_configuration_invalid")
  | .accountingUnavailable =>
    some (blockedResponse config request profile .accountingUnavailable
      "Paid AI accounting is unavailable; the provider was not contacted." "accounting_unavailable")
  | .other => none

/-- `pricing_from_config` and `reserve`: the reservation, or the response to what is raised. -/
def authorize (request : AiGatewayRequest) (profile : AiModelProfile) :
    AiProg (Except AiGatewayResponse (PaidPricing × Reservation)) :=
  tryCatch
    (do
      let pricing ← liftExcept (pricingFromConfig config)
      let reservation ← perform (.reserve request profile.provider profile.model profile.name
        profile.maxOutputTokens pricing)
      return .ok (pricing, reservation))
    fun raised =>
      match refusedResponse config request profile raised with
      | some blocked => return .error blocked
      | none => throw raised

def chargedResponse (response : AiGatewayResponse) (reservation : Reservation)
    (settlement : Settlement) : AiGatewayResponse :=
  { response with
    metadata :=
      { response.metadata with
        estimatedCostUsd := some (usd settlement.chargedCost)
        actualBilledCostUsd := none
        costSource := some settlement.costSource
        accountingAttemptId := some settlement.attemptId
        accountingUsageDay := some settlement.usageDay
        accountingAttemptKind := some reservation.attemptKind
        budgetReservedUsd := some (usd reservation.reservedCost)
        budgetRemainingUsd := some (usd settlement.remaining)
        usageCostUsd := some (usd settlement.chargedCost)
        usageCostSource := some settlement.costSource } }

/-- The response that stands for a result whose settlement is unavailable. -/
def withheldResponse (request : AiGatewayRequest) (profile : AiModelProfile)
    (reservation : Reservation) : AiGatewayResponse :=
  let withheld := failureResponse config.mode (estimateTokens request.prompt) profile
    { status := .accountingUnavailable
      error := "Paid AI request completed but accounting settlement is unavailable; " ++
        "the result was withheld."
      errorCode := "accounting_unavailable"
      paidRequest := true }
  { withheld with
    metadata := { withheld.metadata with
      accountingAttemptId := some reservation.attemptId
      accountingUsageDay := some reservation.usageDay
      accountingAttemptKind := some reservation.attemptKind
      budgetReservedUsd := some (usd reservation.reservedCost)
      budgetRemainingUsd := some reservation.remainingUsd } }

def settleCharge (request : AiGatewayRequest) (profile : AiModelProfile) (pricing : PaidPricing)
    (reservation : Reservation) (response : AiGatewayResponse) : AiProg AiGatewayResponse :=
  tryCatch
    (do
      let settlement ← perform (.settle reservation response pricing)
      return chargedResponse response reservation settlement)
    fun raised =>
      match raised with
      | .accountingUnavailable => return withheldResponse config request profile reservation
      | raised => throw raised

/-- `_try_paid_profile`. -/
def tryPaidProfile (request : AiGatewayRequest) (profile : AiModelProfile) :
    AiProg AiGatewayResponse :=
  let blocked := blockedResponse config request profile
  if !profile.paidFallbackEnabled || profile.localOnly then
    return blocked .fallbackBlocked "The selected AI profile is not eligible for paid execution."
      "profile_not_paid_eligible"
  else if !config.anthropicRoutingEnabled then
    fallbackOrDegraded providers config env request profile <|
      blocked .fallbackBlocked
        "Anthropic profile routing remains feature-disabled until paid accounting is implemented."
        "anthropic_routing_not_enabled"
  else if !(providers profile.provider && config.anthropicEnabled && config.anthropicConfigured &&
      profile.model == config.anthropicModel) then
    fallbackOrDegraded providers config env request profile <|
      blocked .configurationError "Anthropic provider configuration is invalid or incomplete."
        "anthropic_configuration_invalid"
  else do
    let capability ← perform (.supports profile.provider request)
    if !capability.capable then return incapable config request profile capability false false
    else
      match ← authorize config request profile with
      | .error blocked => fallbackOrDegraded providers config env request profile blocked
      | .ok (pricing, reservation) =>
        let response ← contact config request profile true
        settleCharge config request profile pricing reservation response

/-- `AiGateway.generate` under the configuration in force. -/
def generateWith (request : AiGatewayRequest) : AiProg AiGatewayResponse :=
  match config.profile env request.profile with
  | none => throw .other
  | some profile =>
    let fail := blockedResponse config request profile
    if !((config.routingTable env).any validateProfileProviderRouting) then
      return fail .configurationError "AI profile provider routing is invalid and failed closed."
        "invalid_profile_provider_routing"
    else if !config.modeValid then
      return fail .configurationError "AI gateway configuration is invalid and failed closed."
        "configuration_error"
    else if config.mode = .disabled then
      return fail .disabled "AI gateway is disabled." "disabled"
    else
      match profile.provider with
      | .ollama => tryProfileProvider providers config request profile false
      | .other _ =>
        return fail .configurationError
          "AI profile provider is not registered in the trusted routing table."
          "profile_provider_not_registered"
      | .anthropic =>
        match config.mode with
        | .localOnly =>
          return fail .fallbackBlocked
            ("The selected AI profile requires a paid provider that local-only mode prohibits.")
            "profile_provider_blocked_by_mode"
        | .askBeforePaidFallback =>
          return fail .fallbackRequiresConfirmation
            "Paid profile execution requires analyst confirmation."
            "fallback_requires_confirmation"
        | .automaticFallback => tryPaidProfile providers config env request profile
        | .disabled | .other _ =>
          return fail .configurationError "AI gateway mode is unsupported." "configuration_error"

end Routing

/-- `AiGateway.generate`. -/
def AiGateway.generate (gateway : AiGateway) (env : ProfileEnvironment)
    (request : AiGatewayRequest) : AiProg AiGatewayResponse :=
  if gateway.runtimeConfigStore then do
    let config ← perform (.resolveConfig gateway.sourceConfig)
    generateWith gateway.providers config env request
  else generateWith gateway.providers gateway.sourceConfig env request

end SiemDashboard.AiRouting
