import Mathlib.Data.List.Sort
import Mathlib.Logic.Function.Basic
import SiemDashboard.Core.AiGateway

/-!
# Scheduled investigation

`core/ai/soc_briefing_investigation_engine.py`: the investigation of one briefing run.  It plans the
candidates of the window, collects evidence with read tools, asks the AI gateway for a briefing and
records each step of this; and the table of the steps of `core/ai/soc_briefing_runtime_store.py`.

* **Inputs** — `InvestigationBudget`, `Candidate`, `ToolSummary`, `Findings`, `BriefingTexts`.
* **Steps** — `RunStep`, `StepTable`, `createRunStep`.
* **Statements** — `BriefingCall`, `BriefingProg`.
* **Planning** — `planInvestigationCandidates`, `reviewCandidates`.
* **Evidence** — `buildToolCalls`, `validateCalls`, `recordResults`, `executeEvidenceTools`.
* **Synthesis** — `gatewayBlock`, `scheduledGatewayConfig`, `synthesizeBriefing`.
* **Run** — `budgetExhausted`, `runScheduledInvestigation`.
-/

namespace SiemDashboard.BriefingInvestigation

open AiRouting Atomic Python
open PaidUsageStore (AiStatus estimateTokens)

/-! ## Inputs -/

/-- The statuses of runs, jobs, windows, briefings and steps. -/
inductive Status where
  | success
  | partially
  | failed
  | blocked
  | skipped
deriving DecidableEq, Repr

def Status.text : Status → String
  | .success => "success"
  | .partially => "partial"
  | .failed => "failed"
  | .blocked => "blocked"
  | .skipped => "skipped"

/-- `InvestigationBudget`; the worker keeps the counts from becoming negative. -/
structure InvestigationBudget where
  maxRuntimeSeconds : Int
  maxEntities : Nat
  maxToolCalls : Nat
  maxRowsPerTool : Int
  maxEvidenceRefs : Nat
  maxPromptChars : Nat
  maxPromptTokens : Nat
  maxCompletionTokens : Int
  maxEstimatedCostUsd : ℚ
  dedupHorizonHours : Int

/-- A planned call of a read tool; ids and limits are integers. -/
structure ToolCall where
  toolName : String
  arguments : List (String × Int)

/-- A call as it was validated. -/
structure SafeCall where
  toolName : String
  arguments : Json

/-- `InvestigationCandidate`. -/
structure Candidate where
  entityType : String
  entityId : String
  label : String
  sourceIp : Option String
  fingerprint : String
  toolCalls : List ToolCall
  metadata : Json

/-- `SocToolResult`, without its data and latency; a source is the dict `as_dict` makes of it. -/
structure ToolResult where
  toolName : String
  success : Bool
  readOnly : Bool
  sources : List Json
  errorCode : Option String
  error : Option String

/-- `SocToolExecutionSummary`. -/
structure ToolSummary where
  used : Bool
  calls : List ToolResult
  sources : List Json
  truncated : Bool
  omittedCount : Int
  errorCode : Option String

/-- `SocToolExecutionSummary(used=False, error_code=…)`. -/
def ToolSummary.unused (errorCode : Option String) : ToolSummary where
  used := false
  calls := []
  sources := []
  truncated := false
  omittedCount := 0
  errorCode := errorCode

/-- The window of a schedule: the dict `_window_ref` makes of it, and whether its times are there. -/
structure Window where
  ref : Json
  hasTimes : Bool

structure BriefingRun where
  id : Int
  scheduleId : Int
  windowId : Int

/-- What an investigation finds: the rows its queries return, the clock, the registry of the read tools
    and their executor.  A query or the executor may raise. -/
structure Findings where
  window : Except AiRaised Window
  alerts : Except AiRaised (List Candidate)
  incidents : Except AiRaised (List Candidate)
  reconActivities : Except AiRaised (List Candidate)
  indicators : Except AiRaised (List Candidate)
  /-- `recent.get(dedup_key)` of `_recent_dedup_fingerprints`. -/
  recent : Except AiRaised (String → Option String)
  deadlineReached : Bool
  /-- `validate_tool_name` and `validate_tool_args`; the code and the text of what is raised. -/
  validateCall : ToolCall → Except (String × String) SafeCall
  execute : List SafeCall → Except AiRaised ToolSummary

/-- The texts that are composed for the provider and the analyst, and what the interpreter makes of
    texts. -/
structure BriefingTexts where
  idempotencyKey : List String → String
  floatText : ℚ → String
  redact : Json → Json
  /-- `_build_synthesis_prompt_payload` as redacted JSON text. -/
  prompt : List Candidate → List Json → ToolSummary → List Json → InvestigationBudget → String
  /-- The prompt of `_attempt_structured_briefing_repair`. -/
  repairPrompt : String → List String → String
  /-- `_parse_json_object` of a text that is not empty. -/
  parseJsonObject : String → Option Json
  /-- `_deterministic_sections` with their message. -/
  deterministicSections : List Candidate → List Json → List Json → String → Json
  /-- `_ensure_sections`. -/
  ensureSections : Json → List Candidate → List Json → List Json → Json
  /-- `_briefing_summary`. -/
  briefingSummary : Json → List Candidate → List Json → List Json → String

section Dicts

variable (texts : BriefingTexts)

/-- A text or `None`. -/
def ofText (text : Option String) : Json := text.elim .null .str

/-- `InvestigationBudget.as_dict`. -/
def InvestigationBudget.asDict (budget : InvestigationBudget) : Json :=
  .obj [("max_runtime_seconds", .int budget.maxRuntimeSeconds),
    ("max_entities", .int budget.maxEntities), ("max_tool_calls", .int budget.maxToolCalls),
    ("max_rows_per_tool", .int budget.maxRowsPerTool),
    ("max_evidence_refs", .int budget.maxEvidenceRefs),
    ("max_prompt_chars", .int budget.maxPromptChars),
    ("max_prompt_tokens", .int budget.maxPromptTokens),
    ("max_completion_tokens", .int budget.maxCompletionTokens),
    ("max_estimated_cost_usd", .float (texts.floatText budget.maxEstimatedCostUsd)),
    ("dedup_horizon_hours", .int budget.dedupHorizonHours)]

/-- `InvestigationCandidate.dedup_key`. -/
def Candidate.dedupKey (candidate : Candidate) : String :=
  texts.idempotencyKey ["scheduled-soc-investigation", candidate.entityType, candidate.entityId]

/-- The fields of `InvestigationCandidate.as_ref`. -/
def Candidate.refFields (candidate : Candidate) : List (String × Json) :=
  [("entity_type", .str candidate.entityType), ("entity_id", .str candidate.entityId),
    ("label", .str candidate.label), ("source_ip", ofText candidate.sourceIp),
    ("fingerprint", .str candidate.fingerprint), ("dedup_key", .str (candidate.dedupKey texts))]

/-- `InvestigationCandidate.as_ref`. -/
def Candidate.asRef (candidate : Candidate) : Json := .obj (candidate.refFields texts)

/-- The note of a candidate that is skipped. -/
def Candidate.skippedFor (candidate : Candidate) (reason : String) : Json :=
  .obj (candidate.refFields texts ++ [("reason", .str reason)])

/-- The input of a candidate's step. -/
def Candidate.stepInput (candidate : Candidate) : Json :=
  .obj [("dedup_key", .str (candidate.dedupKey texts)),
    ("evidence_fingerprint", .str candidate.fingerprint)]

end Dicts

/-! ## Steps -/

/-- The types of steps. -/
inductive StepType where
  | investigationPlan
  | investigationCandidateResult
  | evidenceCollection
  | socReadToolValidation
  | socReadTool
  | aiSynthesis
  | briefingPersisted
  | budgetGuard
deriving DecidableEq, Repr

structure RunStep where
  stepIndex : Nat
  stepType : StepType
  status : Status
  toolName : Option String := none
  sanitizedInput : Json
  evidenceRefs : List Json
  decisionSummary : String
  errorCode : Option String := none
  errorMessage : Option String := none

/-- An entry of the `retry_history` of a stored step. -/
structure EarlierStep where
  stepType : StepType
  status : Status
  toolName : Option String
  decisionSummary : String
  errorCode : Option String

/-- A row of `soc_briefing_run_steps`; its `retry_history` is kept apart from the other input. -/
structure StoredStep where
  step : RunStep
  retryHistory : List EarlierStep

/-- The rows by run and index. -/
abbrev StepTable := Int → Nat → Option StoredStep

/-- The entry that a row leaves in the history of the row that replaces it. -/
def StoredStep.entry (stored : StoredStep) : EarlierStep where
  stepType := stored.step.stepType
  status := stored.step.status
  toolName := stored.step.toolName
  decisionSummary := stored.step.decisionSummary
  errorCode := stored.step.errorCode

/-- The history of a row that replaces another one. -/
def historyAfter : Option StoredStep → List EarlierStep
  | none => []
  | some stored => stored.retryHistory ++ [stored.entry]

/-- `create_run_step`: `INSERT … ON CONFLICT (run_id, step_index) DO UPDATE`. -/
def createRunStep (texts : BriefingTexts) (table : StepTable) (runId : Int) (step : RunStep) :
    StepTable :=
  Function.update table runId <|
    Function.update (table runId) step.stepIndex <|
      some
        { step := { step with sanitizedInput := texts.redact step.sanitizedInput }
          retryHistory := historyAfter (table runId step.stepIndex) }

/-! ## Statements -/

/-- What `update_briefing_content` stores. -/
structure BriefingContent where
  status : Status
  lifecycleStatus : String
  contentStatus : String
  summary : String
  sections : Json
  evidenceRefs : List Json
  errorCode : Option String
  errorMessage : Option String

/-- What an investigation does outside itself. -/
inductive BriefingCall where
  | gateway (call : AiCall)
  | createRunStep (runId : Int) (step : RunStep)
  | updateBriefingContent (runId : Int) (content : BriefingContent)
  | audit (runId : Int) (phase : String) (details : List (String × Json))

/-- What a statement answers. -/
def BriefingCall.Reply : BriefingCall → Type
  | .gateway call => call.Reply
  | .createRunStep _ _ => Except AiRaised Unit
  | .updateBriefingContent _ _ => Except AiRaised Unit
  | .audit _ _ _ => Except AiRaised Unit

/-- A program of an investigation. -/
abbrev BriefingProg (α : Type) : Type := ExceptT AiRaised (Program BriefingCall.Reply) α

def generate (gateway : AiGateway) (env : ProfileEnvironment) (request : AiGatewayRequest) :
    BriefingProg AiGatewayResponse :=
  ExceptT.mk ((gateway.generate env request).run.through fun q => call (.gateway q))

/-- `_persist_step`. -/
def persistStep (run : BriefingRun) (step : RunStep) : BriefingProg Unit :=
  ExceptT.mk (call (BriefingCall.createRunStep run.id step))

/-- `update_briefing_content`. -/
def updateBriefingContent (run : BriefingRun) (content : BriefingContent) : BriefingProg Unit :=
  ExceptT.mk (call (BriefingCall.updateBriefingContent run.id content))

/-- `_audit`. -/
def audit (run : BriefingRun) (phase : String) (details : List (String × Json)) : BriefingProg Unit :=
  ExceptT.mk (call (BriefingCall.audit run.id phase details))

/-! ## Planning -/

section Planning

variable (texts : BriefingTexts)

/-- The order of candidates: by type, then by id. -/
def Candidate.before (a b : Candidate) : Prop :=
  a.entityType < b.entityType ∨ a.entityType = b.entityType ∧ a.entityId ≤ b.entityId

instance : DecidableRel Candidate.before := fun _ _ => inferInstanceAs (Decidable (_ ∨ _))

/-- The first candidate of each key, in their order. -/
def dedupedCandidates (raw : List Candidate) : List Candidate :=
  raw.foldl (fun kept candidate =>
    if kept.any fun c => c.dedupKey texts = candidate.dedupKey texts then kept
    else kept ++ [candidate]) []

/-- `plan_investigation_candidates`: the candidates of a window and the notes of those above the
    limit. -/
def planInvestigationCandidates (findings : Findings) (window : Window)
    (budget : InvestigationBudget) : Except AiRaised (List Candidate × List Json) := do
  if !window.hasTimes then .error .other
  else
    let alerts ← findings.alerts
    let incidents ← findings.incidents
    let reconActivities ← findings.reconActivities
    let indicators ← findings.indicators
    let ordered := (dedupedCandidates texts
      (alerts ++ incidents ++ reconActivities ++ indicators)).insertionSort Candidate.before
    return (ordered.take budget.maxEntities,
      (ordered.drop budget.maxEntities).map (·.skippedFor texts "entity_limit_exceeded"))

/-- The candidate has been investigated lately, with the same evidence. -/
def Candidate.isDuplicate (candidate : Candidate) (recent : String → Option String) : Bool :=
  recent (candidate.dedupKey texts) == some candidate.fingerprint

def skippedStep (stepIndex : Nat) (candidate : Candidate) : RunStep where
  stepIndex := stepIndex
  stepType := .investigationCandidateResult
  status := .skipped
  sanitizedInput := candidate.stepInput texts
  evidenceRefs := [candidate.asRef texts]
  decisionSummary := "Skipped duplicate recent scheduled investigation candidate."
  errorCode := some "duplicate_recent_investigation"

/-- What the review of the candidates comes to. -/
structure Review where
  selected : List Candidate
  duplicates : List Candidate
  stepIndex : Nat

/-- The loop over the candidates, from the given index on. -/
def reviewCandidates (run : BriefingRun) (recent : String → Option String) :
    Nat → List Candidate → BriefingProg Review
  | stepIndex, [] => return ⟨[], [], stepIndex⟩
  | stepIndex, candidate :: candidates =>
    if candidate.isDuplicate texts recent then do
      persistStep run (skippedStep texts stepIndex candidate)
      let rest ← reviewCandidates run recent (stepIndex + 1) candidates
      return { rest with duplicates := candidate :: rest.duplicates }
    else do
      let rest ← reviewCandidates run recent stepIndex candidates
      return { rest with selected := candidate :: rest.selected }

end Planning

/-! ## Evidence -/

section Evidence

variable (budget : InvestigationBudget) (run : BriefingRun)

/-- The arguments of a call, with its limit within the budget. -/
def boundedCall (toolCall : ToolCall) : ToolCall :=
  { toolCall with
    arguments := toolCall.arguments.map fun arg =>
      if arg.1 = "limit" then (arg.1, min arg.2 budget.maxRowsPerTool) else arg }

/-- `_build_tool_calls`: the calls within the budget, and how many are left out. -/
def buildToolCalls (candidates : List Candidate) : List ToolCall × Nat :=
  let calls := (candidates.flatMap Candidate.toolCalls).map (boundedCall budget)
  (calls.take budget.maxToolCalls, calls.length - budget.maxToolCalls)

/-- The arguments of a call as a dict. -/
def ToolCall.asDict (toolCall : ToolCall) : Json :=
  .obj [("tool_name", .str toolCall.toolName),
    ("arguments", .obj (toolCall.arguments.map fun arg => (arg.1, .int arg.2)))]

/-- The step of a validated or rejected call. -/
def validationStep (stepIndex : Nat) (toolCall : ToolCall) :
    Except (String × String) SafeCall → RunStep
  | .ok _ =>
    { stepIndex := stepIndex
      stepType := .socReadToolValidation
      status := .success
      sanitizedInput := toolCall.asDict
      evidenceRefs := []
      decisionSummary := "Validated scheduled SOC read-tool call before local execution." }
  | .error rejected =>
    { stepIndex := stepIndex
      stepType := .socReadToolValidation
      status := .failed
      sanitizedInput := toolCall.asDict
      evidenceRefs := []
      decisionSummary := "Rejected unsupported or mutation-like scheduled SOC read-tool call."
      errorCode := some rejected.1
      errorMessage := some rejected.2 }

/-- The loop over the planned calls, from the given index on: the calls that are valid. -/
def validateCalls (validate : ToolCall → Except (String × String) SafeCall) :
    Nat → List ToolCall → BriefingProg (List SafeCall)
  | _, [] => return []
  | stepIndex, toolCall :: toolCalls => do
    persistStep run (validationStep stepIndex toolCall (validate toolCall))
    let safeCalls ← validateCalls validate (stepIndex + 1) toolCalls
    return (validate toolCall).toOption.toList ++ safeCalls

/-- The step of an executed call. -/
def resultStep (stepIndex : Nat) (result : ToolResult) : RunStep where
  stepIndex := stepIndex
  stepType := .socReadTool
  status := if result.success then .success else .partially
  toolName := some result.toolName
  sanitizedInput := .obj [("tool_name", .str result.toolName), ("read_only", .bool result.readOnly)]
  evidenceRefs := result.sources
  decisionSummary := "Executed approved local SOC read tool for scheduled investigation evidence."
  errorCode := result.errorCode
  errorMessage := result.error

/-- The loop over the results, from the given index on. -/
def recordResults : Nat → List ToolResult → BriefingProg Unit
  | _, [] => return ()
  | stepIndex, result :: results => do
    persistStep run (resultStep stepIndex result)
    recordResults (stepIndex + 1) results

/-- `_execute_evidence_tools`. -/
def executeEvidenceTools (findings : Findings) (firstStepIndex : Nat)
    (plannedCalls : List ToolCall) : BriefingProg ToolSummary := do
  let toolCalls := plannedCalls.take budget.maxToolCalls
  let safeCalls ← validateCalls run findings.validateCall firstStepIndex toolCalls
  if safeCalls.isEmpty then return .unused (some "no_valid_tool_calls")
  else
    let summary ← liftExcept (findings.execute safeCalls)
    recordResults run (firstStepIndex + toolCalls.length) summary.calls
    return summary

/-- `_bounded_sources`. -/
def boundedSources (texts : BriefingTexts) (summary : ToolSummary) : List Json :=
  (summary.sources.take budget.maxEvidenceRefs).map texts.redact

end Evidence

/-! ## Synthesis -/

/-- `BRIEFING_SECTIONS`. -/
def briefingSections : List String :=
  ["alerts_reviewed", "dismissed_low_priority_findings", "escalations", "critical_findings",
    "evidence", "recommendations"]

/-- What a synthesis comes to.  In every branch the run, the job, the window, the briefing and the step
    get the same status. -/
structure Synthesis where
  status : Status
  contentStatus : String
  summary : String
  sections : Json
  sanitizedInput : Json
  decisionSummary : String
  errorCode : Option String
  errorMessage : Option String
  aiGatewayStatus : String
  providerStatus : Option String

/-- What `_gateway_block` answers. -/
structure Readiness where
  status : Status
  aiGatewayStatus : AiStatus
  providerStatus : Option String
  contentStatus : String
  errorCode : String
  message : String

/-- `_gateway_block`. -/
def gatewayBlock (config : AiGatewayConfig) : Option Readiness :=
  if !config.modeValid then
    some
      { status := .failed
        aiGatewayStatus := .configurationError
        providerStatus := none
        contentStatus := "failed"
        errorCode := "ai_gateway_configuration_error"
        message := "AI gateway configuration is invalid." }
  else if config.mode = .disabled then
    some
      { status := .blocked
        aiGatewayStatus := .disabled
        providerStatus := none
        contentStatus := "blocked"
        errorCode := "ai_gateway_disabled"
        message := "AI gateway is disabled; scheduled briefing synthesis was blocked." }
  else if config.mode = .localOnly ∧ !config.localConfigured then
    some
      { status := .blocked
        aiGatewayStatus := .providerUnavailable
        providerStatus := some "local_provider_not_configured"
        contentStatus := "blocked"
        errorCode := "local_provider_unavailable"
        message := "Local AI provider is not configured or unavailable." }
  else if config.mode = .askBeforePaidFallback then
    some
      { status := .blocked
        aiGatewayStatus := .fallbackRequiresConfirmation
        providerStatus := none
        contentStatus := "blocked"
        errorCode := "paid_fallback_blocked"
        message :=
          "Scheduled autonomous investigation does not request paid fallback confirmation." }
  else none

/-- `_status_from_gateway_error`: the status and the status of the content. -/
def statusFromGatewayError (errorCode : String) : Status × String :=
  if errorCode = "provider_timeout" then (.partially, "ready")
  else if errorCode = "provider_unavailable" ∨ errorCode = "local_provider_not_configured" then
    (.blocked, "blocked")
  else (.partially, "ready")

/-- `_scheduled_gateway_config`. -/
def scheduledGatewayConfig (config : AiGatewayConfig) : AiGatewayConfig :=
  if config.mode = .automaticFallback then
    { AiGatewayConfig.default with
      mode := .localOnly
      configuredMode := config.configuredMode
      modeValid := config.modeValid
      localProvider := config.localProvider
      localBaseUrl := config.localBaseUrl
      localModel := config.localModel
      localTimeoutSeconds := config.localTimeoutSeconds
      paidProvider := ""
      paidModel := ""
      paidTimeoutSeconds := config.paidTimeoutSeconds
      paidFallbackEnabled := false
      maxPromptChars := config.maxPromptChars
      profiles := config.profiles }
  else config

def providerText : AiProviderKey → String
  | .ollama => "ollama"
  | .anthropic => "anthropic"
  | .other text => text

/-- `_structured_briefing_errors`. -/
def structuredBriefingErrors (payload : Json) : List String :=
  let summaryErrors :=
    if (payload.get "summary").str?.isSome then [] else ["summary must be a string"]
  match payload.get "sections" with
  | .obj sections =>
    summaryErrors ++ briefingSections.filterMap fun key =>
      match sections.lookup key with
      | none => some s!"sections.{key} is required"
      | some (.arr _) => none
      | some _ => some s!"sections.{key} must be an array"
  | _ => summaryErrors ++ ["sections must be an object"]

/-- `_validate_structured_response`. -/
def validateStructuredResponse (texts : BriefingTexts) (content : Option String) :
    Except (List String) Json :=
  match content.filter (· ≠ "") with
  | none => .error ["AI briefing response was empty."]
  | some content =>
    match texts.parseJsonObject content with
    | none => .error ["AI briefing response was not valid JSON."]
    | some payload =>
      if (structuredBriefingErrors payload).isEmpty then .ok payload
      else .error (structuredBriefingErrors payload)

/-- The metadata of a request of the briefing worker. -/
def serviceMetadata (more : List (String × Json)) : Json :=
  .obj ([("service_actor", .str "scheduled_soc_briefing_worker"), ("read_only", .bool true)] ++ more)

/-- A request of the briefing worker. -/
def briefingRequest (prompt : String) (metadata : List (String × Json)) : AiGatewayRequest where
  prompt := prompt
  capability := "scheduled_soc_briefing"
  profile := some deepBriefing
  metadata := serviceMetadata metadata

section Synthesis

variable (texts : BriefingTexts) (budget : InvestigationBudget)
  (selected : List Candidate) (skipped evidenceRefs : List Json)

/-- The input of a synthesis step. -/
def synthesisInput (promptTokens : Nat) (repairAttempted : Bool) (more : List (String × Json)) :
    Json :=
  .obj ([("prompt_tokens", .int promptTokens), ("paid_request", .bool false),
    ("repair_attempted", .bool repairAttempted),
    ("repair_count", .int (if repairAttempted then 1 else 0))] ++ more)

/-- `_synthesis_result`. -/
def synthesisResult (status : Status) (contentStatus errorCode message aiGatewayStatus : String)
    (providerStatus : Option String) (promptTokens : Nat) (repairAttempted : Bool)
    (validationErrors : List String) : Synthesis where
  status := status
  contentStatus := contentStatus
  summary := message
  sections := texts.deterministicSections selected skipped evidenceRefs message
  sanitizedInput := synthesisInput promptTokens repairAttempted
    [("validation_errors", .arr ((validationErrors.take 8).map .str))]
  decisionSummary := message
  errorCode := some errorCode
  errorMessage := if errorCode = "" then none else some message
  aiGatewayStatus := aiGatewayStatus
  providerStatus := providerStatus

/-- A response counts as paid spending. -/
def spendsBudget (response : AiGatewayResponse) : Bool :=
  response.metadata.paidRequest ||
    decide (budget.maxEstimatedCostUsd < response.metadata.estimatedCostUsd.getD 0)

/-- The result for a response that counts as paid spending. -/
def paidBlocked (message : String) (response : AiGatewayResponse) (promptTokens : Nat)
    (repairAttempted : Bool) (validationErrors : List String) : Synthesis :=
  synthesisResult texts selected skipped evidenceRefs .blocked "blocked" "paid_fallback_blocked"
    message "fallback_blocked" (response.metadata.provider.map providerText) promptTokens
    repairAttempted validationErrors

/-- The result for a response that is no success. -/
def unsuccessful (response : AiGatewayResponse) (promptTokens : Nat) : Synthesis :=
  let code := (response.metadata.errorCode.filter (· ≠ "")).getD (statusText response.status)
  let status := statusFromGatewayError code
  synthesisResult texts selected skipped evidenceRefs status.1 status.2 code
    ((response.error.filter (· ≠ "")).getD "AI Gateway synthesis failed.")
    (statusText response.status) (response.metadata.provider.map providerText) promptTokens false []

/-- The result for a response whose content is no briefing. -/
def malformed (response : AiGatewayResponse) (promptTokens : Nat)
    (validationErrors : List String) : Synthesis :=
  synthesisResult texts selected skipped evidenceRefs .partially "ready" "malformed_provider_output"
    "AI provider returned malformed briefing JSON; saved deterministic partial briefing."
    (statusText response.status) (response.metadata.provider.map providerText) promptTokens true
    validationErrors

/-- The result for a response with a briefing. -/
def briefed (response : AiGatewayResponse) (parsed : Json) (promptTokens : Nat)
    (repairAttempted : Bool) : Synthesis where
  status := .success
  contentStatus := "ready"
  summary := texts.briefingSummary (parsed.get "summary") selected skipped evidenceRefs
  sections := texts.ensureSections (parsed.get "sections") selected skipped evidenceRefs
  sanitizedInput := synthesisInput promptTokens repairAttempted []
  decisionSummary :=
    if repairAttempted then
      "Generated structured advisory scheduled SOC briefing after one bounded JSON repair."
    else "Generated structured advisory scheduled SOC briefing through AI Gateway."
  errorCode := none
  errorMessage := none
  aiGatewayStatus := statusText response.status
  providerStatus := response.metadata.provider.map providerText

/-- The prompt within the budget. -/
def boundedPrompt (prompt : String) : String :=
  if budget.maxPromptChars < prompt.length ∨ budget.maxPromptTokens < estimateTokens prompt then
    String.ofList (prompt.toList.take budget.maxPromptChars)
  else prompt

variable (env : ProfileEnvironment)

/-- `_attempt_structured_briefing_repair`. -/
def attemptStructuredBriefingRepair (gateway : AiGateway) (originalContent : Option String)
    (validationErrors : List String) : BriefingProg (Option AiGatewayResponse) := do
  let bounded := String.ofList ((originalContent.getD "").toList.take 2400)
  let repaired ← generate gateway env <|
    briefingRequest (texts.repairPrompt bounded (validationErrors.take 8))
      [("action", .str "soc_briefing_repair"), ("repair_attempt", .int 1), ("no_actions", .bool true)]
  return if repaired.status = .success then some repaired else none

/-- The part of `_synthesize_briefing` that follows a successful response without a briefing. -/
def repairBriefing (gateway : AiGateway) (response : AiGatewayResponse) (promptTokens : Nat)
    (validationErrors : List String) : BriefingProg Synthesis := do
  match ← attemptStructuredBriefingRepair texts env gateway response.content validationErrors with
  | none => return malformed texts selected skipped evidenceRefs response promptTokens validationErrors
  | some repaired =>
    if spendsBudget budget repaired then
      return paidBlocked texts selected skipped evidenceRefs
        "Scheduled autonomous investigation blocked paid provider spending during JSON repair."
        repaired promptTokens true validationErrors
    else
      match validateStructuredResponse texts repaired.content with
      | .ok parsed => return briefed texts selected skipped evidenceRefs repaired parsed promptTokens true
      | .error errors =>
        return malformed texts selected skipped evidenceRefs repaired promptTokens errors

/-- `_synthesize_briefing`. -/
def synthesizeBriefing (gatewayConfig : AiGatewayConfig) (gateway : Option AiGateway)
    (evidenceSummary : ToolSummary) : BriefingProg Synthesis :=
  let prompt := boundedPrompt budget (texts.prompt selected skipped evidenceSummary evidenceRefs budget)
  let tokens := estimateTokens prompt
  if budget.maxPromptTokens < tokens then
    return synthesisResult texts selected skipped evidenceRefs .partially "ready" "budget_exhausted"
      "Prompt token budget was exhausted before AI synthesis." "budget_exhausted" none 0 false []
  else
    match gatewayBlock gatewayConfig with
    | some readiness =>
      return synthesisResult texts selected skipped evidenceRefs readiness.status
        readiness.contentStatus readiness.errorCode readiness.message
        (statusText readiness.aiGatewayStatus) readiness.providerStatus tokens false []
    | none => do
      let gateway := gateway.getD (AiGateway.of (scheduledGatewayConfig gatewayConfig))
      let response ← generate gateway env <| briefingRequest prompt
        [("estimated_prompt_tokens", .int tokens),
          ("max_completion_tokens", .int budget.maxCompletionTokens),
          ("max_estimated_cost_usd", .float (texts.floatText budget.maxEstimatedCostUsd))]
      if spendsBudget budget response then
        return paidBlocked texts selected skipped evidenceRefs
          "Scheduled autonomous investigation blocked paid provider spending." response tokens false []
      else if response.status ≠ .success then
        return unsuccessful texts selected skipped evidenceRefs response tokens
      else
        match validateStructuredResponse texts response.content with
        | .ok parsed => return briefed texts selected skipped evidenceRefs response parsed tokens false
        | .error errors =>
          repairBriefing texts budget selected skipped evidenceRefs env gateway response tokens errors

end Synthesis

/-! ## Run -/

/-- `InvestigationOutcome`. -/
structure InvestigationOutcome where
  runStatus : Status
  jobStatus : Status
  windowStatus : Status
  briefingStatus : Status
  lifecycleStatus : String
  contentStatus : String
  summary : String
  sections : Json
  evidenceRefs : List Json
  aiGatewayStatus : String
  providerStatus : Option String
  errorCode : Option String
  errorMessage : Option String

section Run

variable (texts : BriefingTexts) (run : BriefingRun)

/-- `_budget_exhausted`. -/
def budgetExhausted (code : String) (evidenceRefs : List Json) : BriefingProg InvestigationOutcome := do
  let message := "Scheduled investigation runtime budget was exhausted."
  let sections := texts.deterministicSections [] [] evidenceRefs message
  persistStep run
    { stepIndex := 98
      stepType := .budgetGuard
      status := .partially
      sanitizedInput := .obj [("error_code", .str code)]
      evidenceRefs := evidenceRefs
      decisionSummary := message
      errorCode := some code
      errorMessage := some message }
  updateBriefingContent run
    { status := .partially
      lifecycleStatus := "content_ready"
      contentStatus := "ready"
      summary := message
      sections := sections
      evidenceRefs := evidenceRefs
      errorCode := some code
      errorMessage := some message }
  return {
    runStatus := .partially
    jobStatus := .partially
    windowStatus := .partially
    briefingStatus := .partially
    lifecycleStatus := "content_ready"
    contentStatus := "ready"
    summary := message
    sections := sections
    evidenceRefs := evidenceRefs
    aiGatewayStatus := "budget_exhausted"
    providerStatus := none
    errorCode := some code
    errorMessage := some message }

/-- The step of a candidate that was investigated. -/
def candidateStep (stepIndex : Nat) (candidate : Candidate) : RunStep where
  stepIndex := stepIndex
  stepType := .investigationCandidateResult
  status := .success
  sanitizedInput := candidate.stepInput texts
  evidenceRefs := [candidate.asRef texts]
  decisionSummary := "Recorded scheduled read-only investigation candidate result."

/-- The loop over the selected candidates, from the given index on. -/
def recordCandidates : Nat → List Candidate → BriefingProg Unit
  | _, [] => return ()
  | stepIndex, candidate :: candidates => do
    persistStep run (candidateStep texts stepIndex candidate)
    recordCandidates (stepIndex + 1) candidates

def planStep (budget : InvestigationBudget) (window : Window) : RunStep where
  stepIndex := 1
  stepType := .investigationPlan
  status := .success
  sanitizedInput := .obj [("window", window.ref), ("budget", budget.asDict texts)]
  evidenceRefs := []
  decisionSummary := "Planned read-only scheduled investigation candidates deterministically."

/-- The step where no candidate is selected. -/
def noEvidenceStep (budget : InvestigationBudget) (stepIndex : Nat) (skipped : List Json) :
    RunStep where
  stepIndex := stepIndex
  stepType := .evidenceCollection
  status := .skipped
  sanitizedInput := .obj [("reason", .str "no_candidates"),
    ("skipped_candidates", .arr (skipped.take budget.maxEntities))]
  evidenceRefs := []
  decisionSummary := "No bounded candidates required SOC read-tool evidence collection."
  errorCode := some "no_candidates"

def synthesisStep (stepIndex : Nat) (evidenceRefs : List Json) (synthesis : Synthesis) :
    RunStep where
  stepIndex := stepIndex
  stepType := .aiSynthesis
  status := synthesis.status
  sanitizedInput := synthesis.sanitizedInput
  evidenceRefs := evidenceRefs
  decisionSummary := synthesis.decisionSummary
  errorCode := synthesis.errorCode
  errorMessage := synthesis.errorMessage

/-- The last step. -/
def persistedStep (stepIndex : Nat) (evidenceRefs : List Json) (status : Status) (sections : Json) :
    RunStep where
  stepIndex := stepIndex
  stepType := .briefingPersisted
  status := .success
  sanitizedInput := .obj [("briefing_status", .str status.text),
    ("section_keys", .arr (sections.fields.map fun kv => .str kv.1))]
  evidenceRefs := evidenceRefs
  decisionSummary := "Persisted structured advisory scheduled SOC briefing content."

/-- The reasons for which candidates are skipped, each once and in order. -/
def skippedReasons (skipped : List Json) : List String :=
  (skipped.filterMap fun note => (note.get "reason").nonemptyStr?).dedup.insertionSort (· ≤ ·)

variable (env : ProfileEnvironment) (budget : InvestigationBudget) (findings : Findings)

/-- The evidence of the selected candidates and the index after its steps. -/
structure Evidence where
  summary : ToolSummary
  refs : List Json
  stepIndex : Nat

/-- The part of `run_scheduled_investigation` that collects the evidence of selected candidates. -/
def collectEvidence (stepIndex : Nat) (selected : List Candidate) : BriefingProg Evidence := do
  let planned := buildToolCalls budget selected
  let summary ← executeEvidenceTools budget run findings stepIndex planned.1
  let refs := boundedSources budget texts summary
  audit run "evidence_collected"
    [("tool_calls", .int summary.calls.length), ("truncated", .bool summary.truncated),
      ("omitted_count", .int (summary.omittedCount + planned.2)),
      ("evidence_ref_count", .int refs.length)]
  return ⟨summary, refs, stepIndex + max 1 (min planned.1.length budget.maxToolCalls)⟩

/-- The part of `run_scheduled_investigation` that follows the evidence. -/
def concludeInvestigation (gatewayConfig : AiGatewayConfig) (gateway : Option AiGateway)
    (selected : List Candidate) (skipped : List Json) (evidence : Evidence) :
    BriefingProg InvestigationOutcome := do
  recordCandidates texts run evidence.stepIndex selected
  let stepIndex := evidence.stepIndex + selected.length
  let synthesis ← synthesizeBriefing texts budget selected skipped evidence.refs env gatewayConfig
    gateway evidence.summary
  persistStep run (synthesisStep stepIndex evidence.refs synthesis)
  let sections := texts.ensureSections synthesis.sections selected skipped evidence.refs
  let ready := synthesis.status = .success ∨ synthesis.status = .partially
  let lifecycleStatus := if ready then "content_ready" else synthesis.status.text
  let contentStatus := if ready then "ready" else synthesis.contentStatus
  updateBriefingContent run
    { status := synthesis.status
      lifecycleStatus := lifecycleStatus
      contentStatus := contentStatus
      summary := synthesis.summary
      sections := sections
      evidenceRefs := evidence.refs
      errorCode := synthesis.errorCode
      errorMessage := synthesis.errorMessage }
  persistStep run (persistedStep (stepIndex + 1) evidence.refs synthesis.status sections)
  audit run "completed"
    [("run_status", .str synthesis.status.text), ("briefing_status", .str synthesis.status.text),
      ("ai_gateway_status", .str synthesis.aiGatewayStatus),
      ("provider_status", ofText synthesis.providerStatus),
      ("error_code", ofText synthesis.errorCode)]
  return {
    runStatus := synthesis.status
    jobStatus := synthesis.status
    windowStatus := synthesis.status
    briefingStatus := synthesis.status
    lifecycleStatus := lifecycleStatus
    contentStatus := contentStatus
    summary := synthesis.summary
    sections := sections
    evidenceRefs := evidence.refs
    aiGatewayStatus := synthesis.aiGatewayStatus
    providerStatus := synthesis.providerStatus
    errorCode := synthesis.errorCode
    errorMessage := synthesis.errorMessage }

/-- `run_scheduled_investigation`. -/
def runScheduledInvestigation (gatewayConfig : AiGatewayConfig) (gateway : Option AiGateway) :
    BriefingProg InvestigationOutcome := do
  let window ← liftExcept findings.window
  persistStep run (planStep texts budget window)
  let planned ← liftExcept (planInvestigationCandidates texts findings window budget)
  let recent ← liftExcept findings.recent
  let review ← reviewCandidates texts run recent 2 planned.1
  let skipped := planned.2 ++
    review.duplicates.map (·.skippedFor texts "duplicate_recent_investigation")
  audit run "planned"
    [("candidate_count", .int planned.1.length), ("selected_count", .int review.selected.length),
      ("skipped_count", .int skipped.length),
      ("skipped_reasons", .arr ((skippedReasons skipped).map .str))]
  if review.selected.isEmpty then
    persistStep run (noEvidenceStep budget review.stepIndex skipped)
    concludeInvestigation texts run env budget gatewayConfig gateway [] skipped
      ⟨.unused none, [], review.stepIndex + 1⟩
  else if findings.deadlineReached then
    budgetExhausted texts run "runtime_budget_exhausted" (review.selected.map (·.asRef texts))
  else
    let evidence ← collectEvidence texts run budget findings review.stepIndex review.selected
    concludeInvestigation texts run env budget gatewayConfig gateway review.selected skipped evidence

end Run

end SiemDashboard.BriefingInvestigation
