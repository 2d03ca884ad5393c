import SiemDashboard.Lib.Python
import Mathlib.Data.Rat.Defs

/-!
# Configuration of the AI gateway

`core/ai/profile_registry.py` and the part of `core/ai/config.py` that requests go by: the profiles of
models, their routing to providers and the settings of the gateway.

* **Profiles** — `AiModelProfile`, `profileProviderRouting`, `validateProfileProviderRouting`.
* **Settings** — `AiGatewayConfig`, `localConfigured`, `anthropicConfigured`.
* **Profiles in force** — `defaultAiProfiles`, which pass the validation; `AiGatewayConfig.profile`,
  `routingTable`.
-/

namespace SiemDashboard.AiRouting

open Python

/-! ## Profiles -/

/-- The modes of the gateway, and the texts that are none. -/
inductive AiMode where
  | disabled
  | localOnly
  | askBeforePaidFallback
  | automaticFallback
  | other (text : String)
deriving DecidableEq, Repr

inductive AiProviderKey where
  | ollama
  | anthropic
  | other (text : String)
deriving DecidableEq, Repr

/-- `key or None`. -/
def AiProviderKey.orNone : AiProviderKey → Option AiProviderKey
  | .other "" => none
  | key => some key

/-- A `float`. -/
inductive PyFloat where
  | finite (value : ℚ)
  | infinite (negative : Bool)
  | nan
deriving DecidableEq

/-- `AiModelProfile`. -/
structure AiModelProfile where
  name : String
  provider : AiProviderKey
  model : String
  timeoutSeconds : PyFloat
  maxPromptChars : Int
  maxOutputTokens : Int
  temperature : PyFloat
  taskCategory : String
  localOnly : Bool
  paidFallbackEnabled : Bool
  localFallbackProfile : Option String
deriving DecidableEq

/-- Profiles by name. -/
abbrev Profiles := List (String × AiModelProfile)

def fastTriage : String := "fast_triage"

def agenticPlanning : String := "agentic_planning"

def guidedAnalysis : String := "guided_analysis"

def deepBriefing : String := "deep_briefing"

def developerAssistant : String := "developer_assistant"

/-- `PROFILE_PROVIDER_ROUTING`. -/
def profileProviderRouting : List (String × AiProviderKey) :=
  [(fastTriage, .ollama), (agenticPlanning, .anthropic), (guidedAnalysis, .ollama),
    (deepBriefing, .ollama), (developerAssistant, .ollama)]

/-- `APPROVED_AI_PROFILES`. -/
def approvedAiProfiles : List String := profileProviderRouting.map Prod.fst

/-- The fallback of a profile, if it has one, is routed to the local provider. -/
def fallbackRouted (fallback : Option String) : Bool :=
  match fallback with
  | none => true
  | some name => profileProviderRouting.lookup name == some .ollama

/-- The checks of `validate_profile_provider_routing` on the profile of one name. -/
def profileRouted (name : String) (expected : AiProviderKey) (profile : AiModelProfile) : Bool :=
  profile.name == name && profile.provider == expected &&
    !(expected == .ollama && (!profile.localOnly || profile.paidFallbackEnabled)) &&
    !(expected == .anthropic && (profile.localOnly || !profile.paidFallbackEnabled)) &&
    fallbackRouted profile.localFallbackProfile

/-- `validate_profile_provider_routing`; `false` where it raises. -/
def validateProfileProviderRouting (profiles : Profiles) : Bool :=
  profiles.all (fun kv => approvedAiProfiles.contains kv.1) &&
    profileProviderRouting.all fun route =>
      match profiles.lookup route.1 with
      | none => false
      | some profile => profileRouted route.1 route.2 profile

/-! ## Settings -/

/-- `AiGatewayConfig`. -/
structure AiGatewayConfig where
  mode : AiMode
  configuredMode : String
  modeValid : Bool
  localProvider : AiProviderKey
  localBaseUrl : String
  localModel : String
  localTimeoutSeconds : PyFloat
  paidProvider : String
  paidModel : String
  paidTimeoutSeconds : PyFloat
  paidFallbackEnabled : Bool
  anthropicEnabled : Bool
  anthropicRoutingEnabled : Bool
  anthropicApiKey : String
  anthropicModel : String
  anthropicTimeoutSeconds : PyFloat
  anthropicTimeoutValid : Bool
  anthropicApiVersion : String
  anthropicDailyBudgetUsd : PyFloat
  anthropicInputCostPerMillionTokens : PyFloat
  anthropicOutputCostPerMillionTokens : PyFloat
  anthropicBudgetValid : Bool
  maxPromptChars : Int
  profiles : Option Profiles

/-- `AiGatewayConfig()`. -/
def AiGatewayConfig.default : AiGatewayConfig where
  mode := .disabled
  configuredMode := "disabled"
  modeValid := true
  localProvider := .ollama
  localBaseUrl := ""
  localModel := ""
  localTimeoutSeconds := .finite 10
  paidProvider := ""
  paidModel := ""
  paidTimeoutSeconds := .finite 20
  paidFallbackEnabled := false
  anthropicEnabled := false
  anthropicRoutingEnabled := false
  anthropicApiKey := ""
  anthropicModel := ""
  anthropicTimeoutSeconds := .finite 20
  anthropicTimeoutValid := true
  anthropicApiVersion := "2023-06-01"
  anthropicDailyBudgetUsd := .finite 0
  anthropicInputCostPerMillionTokens := .finite 0
  anthropicOutputCostPerMillionTokens := .finite 0
  anthropicBudgetValid := true
  maxPromptChars := 12000
  profiles := none

/-- `local_configured`. -/
def AiGatewayConfig.localConfigured (config : AiGatewayConfig) : Bool :=
  config.localProvider.orNone.isSome && config.localBaseUrl != "" && config.localModel != ""

/-- `anthropic_configured`. -/
def AiGatewayConfig.anthropicConfigured (config : AiGatewayConfig) : Bool :=
  config.anthropicApiKey != "" && config.anthropicModel != "" && config.anthropicTimeoutValid &&
    config.anthropicApiVersion != ""

/-! ## Profiles in force -/

/-- The variables of the process that the default profiles read, through `_env_text`,
    `_env_positive_float` and `_env_positive_int`. -/
structure ProfileEnvironment where
  text : String → String
  positiveFloat : String → PyFloat → PyFloat
  positiveInt : String → Int → Int

section Default

variable (env : ProfileEnvironment)

/-- `_profile_model`. -/
def profileModel (name default legacyLocalModel : String) : String :=
  if env.text name ≠ "" then env.text name
  else if legacyLocalModel ≠ "" then legacyLocalModel
  else default

/-- A default profile of the local provider; the variables of a profile start alike. -/
def localProfile (name start model : String) (timeout : ℚ) (promptChars outputTokens : Int)
    (temperature : ℚ) (taskCategory : String) : AiModelProfile where
  name := name
  provider := .ollama
  model := model
  timeoutSeconds := env.positiveFloat (start ++ "_TIMEOUT_SECONDS") (.finite timeout)
  maxPromptChars := env.positiveInt (start ++ "_MAX_PROMPT_CHARS") promptChars
  maxOutputTokens := env.positiveInt (start ++ "_MAX_OUTPUT_TOKENS") outputTokens
  temperature := env.positiveFloat (start ++ "_TEMPERATURE") (.finite temperature)
  taskCategory := taskCategory
  localOnly := true
  paidFallbackEnabled := false
  localFallbackProfile := none

/-- `default_ai_profiles`. -/
def defaultAiProfiles (localModel anthropicModel : String) : Profiles :=
  [(fastTriage,
      localProfile env fastTriage "AI_FAST" (profileModel env "AI_FAST_MODEL" "llama3.2:3b" "")
        45 8000 512 (1 / 5) "quick SOC triage and short explanations"),
    (agenticPlanning,
      { localProfile env agenticPlanning "AI_AGENTIC_PLANNING" anthropicModel 90 8000 4096 (1 / 10)
          "bounded agentic analyst turn planning" with
        provider := .anthropic, localOnly := false, paidFallbackEnabled := true }),
    (guidedAnalysis,
      localProfile env guidedAnalysis "AI_GUIDED"
        (profileModel env "AI_GUIDED_MODEL" "llama3.1:8b" localModel) 120 14000 1200 (1 / 5)
        "guided multi-source SOC analysis"),
    (deepBriefing,
      localProfile env deepBriefing "AI_DEEP"
        (profileModel env "AI_DEEP_MODEL" "llama3.1:8b" localModel) 150 18000 1800 (1 / 10)
        "scheduled and manual SOC briefing synthesis"),
    (developerAssistant,
      localProfile env developerAssistant "AI_DEVELOPER"
        (profileModel env "AI_DEVELOPER_MODEL" "llama3.1:8b" localModel) 120 20000 1600 (1 / 10)
        "repository architecture assistance")]

/-- The validation at the end of `default_ai_profiles` raises nothing. -/
theorem validate_defaultAiProfiles (localModel anthropicModel : String) :
    validateProfileProviderRouting (defaultAiProfiles env localModel anthropicModel) = true :=
  rfl

namespace AiGatewayConfig

variable (config : AiGatewayConfig)

/-- `self.profiles or default_ai_profiles(...)`. -/
def profilesInForce : Profiles :=
  match config.profiles with
  | none | some [] => defaultAiProfiles env config.localModel config.anthropicModel
  | some profiles => profiles

/-- The name of the profile that is looked for. -/
def profileName (name : Option String) : String :=
  let given := match name with
    | none | some "" => fastTriage
    | some name => name
  let normal := lower (strip given)
  if approvedAiProfiles.contains normal then normal else fastTriage

/-- `AiGatewayConfig.profile`; `none` where it raises a `KeyError`. -/
def profile (name : Option String) : Option AiModelProfile :=
  ((config.profilesInForce env).lookup (profileName name)).or
    ((config.profilesInForce env).lookup fastTriage)

/-- The profiles whose routing a request validates. -/
def routingTable : Option Profiles :=
  match config.profiles with
  | none | some [] =>
    approvedAiProfiles.mapM fun name => (config.profile env (some name)).map fun p => (name, p)
  | some profiles => some profiles

end AiGatewayConfig

end Default

end SiemDashboard.AiRouting
