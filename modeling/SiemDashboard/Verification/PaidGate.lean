import SiemDashboard.Core.SocBriefingInvestigation

/-!
# The paid provider is gated and accounted

Whatever the providers and the accounting store answer or raise, a request to the gateway contacts a paid
provider at most once, in the mode and for a profile that allow it and after a reservation, every
reservation is settled once, and no paid content is returned without a settlement; a scheduled
investigation contacts no paid provider at all.

* **Exchanges** — `IsPaidContact`, `reservationOf`, `settledBy`, `IsSettled`; `Quiet`.
* **Local requests** — `LocalCall`; the parts of a request that cannot spend.
* **Paid requests** — `PaidRun`: the one way to spend; `paidRun_tryPaidProfile`, `paidRun_generateWith`.
* **Result** — `PaidGated`, `BriefingUnpaid`, `paid_gate`.
-/

namespace SiemDashboard.PaidGate

open AiRouting Atomic BriefingInvestigation Program
open PaidUsageStore (Reservation Settlement)

/-! ## Exchanges -/

/-- A call of the gateway with its answer. -/
abbrev AiExchange := Exchange AiCall.Reply

/-- A call contacts a provider that is not the local one. -/
def IsPaidContact : AiCall → Prop
  | .provide key _ _ => key ≠ .ollama
  | _ => False

instance : DecidablePred IsPaidContact
  | .provide key _ _ => inferInstanceAs (Decidable (key ≠ .ollama))
  | .resolveConfig _ | .supports _ _ | .reserve _ _ _ _ _ _ | .settle _ _ _ =>
    inferInstanceAs (Decidable False)

/-- The reservation that a call returned. -/
def reservationOf : AiExchange → Option Reservation
  | ⟨.reserve _ _ _ _ _ _, .ok reservation⟩ => some reservation
  | _ => none

/-- The reservation that a call was made to settle. -/
def settledBy : AiExchange → Option Reservation
  | ⟨.settle reservation _ _, _⟩ => some reservation
  | _ => none

/-- A settlement was made. -/
def IsSettled : AiExchange → Prop
  | ⟨.settle _ _ _, .ok _⟩ => True
  | _ => False

/-- Nothing is spent, reserved or settled. -/
structure Quiet (e : AiExchange) : Prop where
  unpaid : ¬ IsPaidContact e.1
  unreserved : reservationOf e = none
  unsettled : settledBy e = none

/-! ## Local requests -/

/-- A call that cannot spend. -/
def LocalCall : AiCall → Prop
  | .supports _ _ => True
  | .provide key _ _ => key = .ollama
  | _ => False

theorem quiet_of_localCall {e : AiExchange} (h : LocalCall e.1) : Quiet e := by
  obtain ⟨q, r⟩ := e
  cases q with
  | supports provider request => exact ⟨id, rfl, rfl⟩
  | provide key request config => exact ⟨fun hpaid => hpaid h, rfl, rfl⟩
  | resolveConfig source => exact h.elim
  | reserve request provider model profile tokens pricing => exact h.elim
  | settle reservation response pricing => exact h.elim

variable {providers : AiProviderKey → Bool} {config : AiGatewayConfig} {env : ProfileEnvironment}
  {request : AiGatewayRequest} {profile : AiModelProfile}

theorem issues_contact {paidRequest : Bool} (hlocal : profile.provider = .ollama) :
    (contact config request profile paidRequest).run.Issues LocalCall fun _ => True := by
  unfold contact
  refine issues_call_bind ?_ fun r => ?_
  · exact hlocal
  · cases r with
    | ok response => exact issues_done trivial
    | error raised => exact issues_done trivial

theorem issues_tryProfileProvider {paidRequest : Bool} (hlocal : profile.provider = .ollama) :
    (tryProfileProvider providers config request profile paidRequest).run.Issues LocalCall
      fun _ => True := by
  unfold tryProfileProvider
  dsimp only
  split
  · exact issues_done trivial
  · refine issues_run_bind (issues_call trivial fun _ => trivial) fun capability => ?_
    split
    · exact issues_done trivial
    · exact issues_contact hlocal

theorem issues_fallbackOrDegraded {blocked : AiGatewayResponse} :
    (fallbackOrDegraded providers config env request profile blocked).run.Issues LocalCall
      fun _ => True := by
  unfold fallbackOrDegraded
  split
  · exact issues_done trivial
  · exact issues_done trivial
  · split
    · exact issues_done trivial
    · split
      · exact issues_done trivial
      · next hprovider =>
        exact issues_run_bind (issues_tryProfileProvider (not_not.mp hprovider)) fun _ =>
          issues_done trivial

/-! ## Paid requests -/

/-- The profile a request is routed by may be paid for. -/
structure Payable (config : AiGatewayConfig) (env : ProfileEnvironment) (request : AiGatewayRequest)
    (profile : AiModelProfile) : Prop where
  inForce : config.profile env request.profile = some profile
  provider : profile.provider = .anthropic
  eligible : profile.paidFallbackEnabled = true ∧ profile.localOnly = false

/-- A response with content came after the settlement. -/
def Earned (result : Except AiRaised AiGatewayResponse) (settlement : Except AiRaised Settlement) :
    Prop :=
  ∀ response content, result = .ok response → response.content = some content →
    ∃ settled, settlement = .ok settled

/-- The calls of a request are quiet, or they end with a reservation, one contact and a settlement. -/
inductive PaidRun (config : AiGatewayConfig) (env : ProfileEnvironment) (request : AiGatewayRequest)
    (result : Except AiRaised AiGatewayResponse) : List AiExchange → Prop where
  | quiet {trace} (hquiet : ∀ e ∈ trace, Quiet e) : PaidRun config env request result trace
  | paid {before profile pricing reservation response answer settlement}
      (hquiet : ∀ e ∈ before, Quiet e) (hmode : config.mode = .automaticFallback)
      (hprofile : Payable config env request profile) (hearned : Earned result settlement) :
      PaidRun config env request result
        (before ++ [⟨.reserve request .anthropic profile.model profile.name profile.maxOutputTokens
          pricing, .ok reservation⟩, ⟨.provide .anthropic request config, answer⟩,
          ⟨.settle reservation response pricing, settlement⟩])

variable {result : Except AiRaised AiGatewayResponse} {trace : List AiExchange}

theorem PaidRun.nil : PaidRun config env request result [] := .quiet (by simp)

/-- Quiet calls may come first. -/
theorem PaidRun.after {first : List AiExchange} (hfirst : ∀ e ∈ first, Quiet e)
    (h : PaidRun config env request result trace) :
    PaidRun config env request result (first ++ trace) := by
  have happend {rest : List AiExchange} (hrest : ∀ e ∈ rest, Quiet e) :
      ∀ e ∈ first ++ rest, Quiet e := by
    intro e he
    exact (List.mem_append.mp he).elim (hfirst e) (hrest e)
  cases h with
  | quiet hquiet => exact .quiet (happend hquiet)
  | paid hquiet hmode hprofile hearned =>
    rw [← List.append_assoc]
    exact .paid (happend hquiet) hmode hprofile hearned

theorem paidRun_of_local {p : AiProg AiGatewayResponse} (hp : p.run.Issues LocalCall fun _ => True)
    (h : p.run.Performs trace result) : PaidRun config env request result trace :=
  .quiet fun e he => quiet_of_localCall ((hp.performs h).1 e he)

theorem performs_perform {q : AiCall} {r : q.Reply} :
    (perform q).run.Performs trace r ↔ trace = [⟨q, r⟩] :=
  performs_call

/-- A contact is one call, and gives a response whatever it answers. -/
theorem performs_contact {paidRequest : Bool}
    (h : (contact config request profile paidRequest).run.Performs trace result) :
    ∃ answer response, trace = [⟨.provide profile.provider request config, answer⟩] ∧
      result = .ok response := by
  unfold contact at h
  rcases performs_run_tryCatch.mp h with
    ⟨response, hcall, rfl⟩ | ⟨first, rest, raised, rfl, hcall, hhandled⟩
  · exact ⟨_, response, performs_perform.mp hcall, rfl⟩
  · obtain ⟨rfl, rfl⟩ := hhandled
    rw [performs_perform.mp hcall]
    exact ⟨_, _, rfl, rfl⟩

/-- The settlement is one call, and what it withholds has no content. -/
theorem performs_settleCharge {pricing : PaidPricing} {reservation : Reservation}
    {response : AiGatewayResponse}
    (h : (settleCharge config request profile pricing reservation response).run.Performs trace result) :
    ∃ settlement, trace = [⟨.settle reservation response pricing, settlement⟩] ∧
      Earned result settlement := by
  unfold settleCharge at h
  rcases performs_run_tryCatch.mp h with
    ⟨charged, hsettle, rfl⟩ | ⟨first, rest, raised, rfl, hsettle, hhandled⟩
  · rcases performs_run_bind.mp hsettle with
      ⟨e, -, hok⟩ | ⟨first, rest, settled, rfl, hcall, hrest⟩
    · cases hok
    · obtain ⟨rfl, -⟩ := hrest
      rw [performs_perform.mp hcall]
      exact ⟨_, rfl, fun _ _ _ _ => ⟨settled, rfl⟩⟩
  · have hfirst : first = [⟨.settle reservation response pricing, .error raised⟩] := by
      rcases performs_run_bind.mp hsettle with
        ⟨e, hcall, he⟩ | ⟨first, rest, settled, rfl, hcall, hrest⟩
      · cases he
        exact performs_perform.mp hcall
      · obtain ⟨-, hok⟩ := hrest
        cases hok
    subst hfirst
    cases raised with
    | accountingUnavailable =>
      obtain ⟨rfl, rfl⟩ := hhandled
      refine ⟨_, rfl, fun withheld content hok hcontent => ?_⟩
      cases hok
      cases hcontent
    | budgetExhausted | accountingConfiguration | other =>
      obtain ⟨rfl, rfl⟩ := hhandled
      exact ⟨_, rfl, fun _ _ hok _ => by cases hok⟩

/-- The authorization is quiet, unless it gives the reservation it returns. -/
theorem performs_authorize {authorized : Except AiRaised (Except AiGatewayResponse (PaidPricing × Reservation))}
    (h : (authorize config request profile).run.Performs trace authorized) :
    (∃ pricing reservation, authorized = .ok (.ok (pricing, reservation)) ∧
      trace = [⟨.reserve request profile.provider profile.model profile.name profile.maxOutputTokens
        pricing, .ok reservation⟩]) ∨
    (∀ e ∈ trace, Quiet e) ∧ ∀ paid, authorized ≠ .ok (.ok paid) := by
  unfold authorize at h
  rcases performs_run_tryCatch.mp h with
    ⟨given, hreserve, rfl⟩ | ⟨first, rest, raised, rfl, hreserve, hhandled⟩
  · rcases performs_run_bind.mp hreserve with
      ⟨e, -, hok⟩ | ⟨first, rest, pricing, rfl, hpricing, hrest⟩
    · cases hok
    · obtain ⟨rfl, -⟩ := performs_run_liftExcept.mp hpricing
      rcases performs_run_bind.mp hrest with ⟨e, -, hok⟩ | ⟨first, rest, reservation, rfl, hcall, hdone⟩
      · cases hok
      · obtain ⟨rfl, hgiven⟩ := hdone
        cases hgiven
        rw [performs_perform.mp hcall]
        exact .inl ⟨pricing, reservation, rfl, rfl⟩
  · have hfirst : ∀ e ∈ first, Quiet e := by
      rcases performs_run_bind.mp hreserve with ⟨e, hpricing, -⟩ | ⟨first, rest, pricing, rfl, hpricing, hrest⟩
      · obtain ⟨rfl, -⟩ := performs_run_liftExcept.mp hpricing
        simp
      · obtain ⟨rfl, -⟩ := performs_run_liftExcept.mp hpricing
        rcases performs_run_bind.mp hrest with ⟨e, hcall, -⟩ | ⟨first, rest, reservation, rfl, hcall, hdone⟩
        · rw [performs_perform.mp hcall]
          intro x hx
          rw [List.nil_append, List.mem_singleton] at hx
          subst hx
          exact ⟨id, rfl, rfl⟩
        · obtain ⟨-, hok⟩ := hdone
          cases hok
    right
    split at hhandled
    · obtain ⟨rfl, rfl⟩ := hhandled
      rw [List.append_nil]
      exact ⟨hfirst, fun _ hpaid => by cases hpaid⟩
    · obtain ⟨rfl, rfl⟩ := hhandled
      rw [List.append_nil]
      exact ⟨hfirst, fun _ hpaid => by cases hpaid⟩

/-- Supporting a request is asked first. -/
theorem paidRun_supports {key : AiProviderKey} {f : AiCapabilityResult → AiProg AiGatewayResponse}
    (hf : ∀ capability trace, (f capability).run.Performs trace result →
      PaidRun config env request result trace)
    (h : (perform (.supports key request) >>= f).run.Performs trace result) :
    PaidRun config env request result trace := by
  have hquiet (r : (AiCall.supports key request).Reply) :
      ∀ e ∈ ([⟨.supports key request, r⟩] : List AiExchange), Quiet e := by
    intro e he
    rw [List.mem_singleton] at he
    subst he
    exact quiet_of_localCall trivial
  rcases performs_run_bind.mp h with ⟨raised, hcall, rfl⟩ | ⟨first, rest, capability, rfl, hcall, hrest⟩
  · rw [performs_perform.mp hcall]
    exact .quiet (hquiet _)
  · rw [performs_perform.mp hcall]
    exact (hf capability rest hrest).after (hquiet _)

theorem paidRun_tryPaidProfile (hmode : config.mode = .automaticFallback)
    (hinForce : config.profile env request.profile = some profile)
    (hprovider : profile.provider = .anthropic)
    (h : (tryPaidProfile providers config env request profile).run.Performs trace result) :
    PaidRun config env request result trace := by
  unfold tryPaidProfile at h
  dsimp only at h
  split at h
  · obtain ⟨rfl, -⟩ := h
    exact .nil
  · next heligible =>
    split at h
    · exact paidRun_of_local issues_fallbackOrDegraded h
    · split at h
      · exact paidRun_of_local issues_fallbackOrDegraded h
      · refine paidRun_supports (fun capability trace htrace => ?_) h
        split at htrace
        · obtain ⟨rfl, -⟩ := htrace
          exact .nil
        · rcases performs_run_bind.mp htrace with
            ⟨raised, hauthorize, rfl⟩ | ⟨first, rest, authorized, rfl, hauthorize, hrest⟩
          · rcases performs_authorize hauthorize with ⟨_, _, hok, -⟩ | ⟨hquiet, -⟩
            · cases hok
            · exact .quiet hquiet
          · rcases performs_authorize hauthorize with ⟨pricing, reservation, hok, rfl⟩ | ⟨hquiet, hnone⟩
            · cases hok
              rcases performs_run_bind.mp hrest with
                ⟨raised, hcontact, -⟩ | ⟨second, last, response, rfl, hcontact, hsettle⟩
              · obtain ⟨_, _, -, hok⟩ := performs_contact hcontact
                cases hok
              · obtain ⟨answer, _, rfl, -⟩ := performs_contact hcontact
                obtain ⟨settlement, rfl, hearned⟩ := performs_settleCharge hsettle
                rw [hprovider]
                have hpayable : Payable config env request profile :=
                  ⟨hinForce, hprovider, by simpa using heligible⟩
                exact @PaidRun.paid config env request result [] profile pricing reservation response
                  answer settlement (by simp) hmode hpayable hearned
            · cases authorized with
              | ok paid => exact absurd rfl (hnone paid)
              | error blocked =>
                exact (paidRun_of_local issues_fallbackOrDegraded hrest).after hquiet

theorem paidRun_generateWith
    (h : (generateWith providers config env request).run.Performs trace result) :
    PaidRun config env request result trace := by
  unfold generateWith at h
  split at h
  · obtain ⟨rfl, -⟩ := h
    exact .nil
  · next profile hprofile =>
    dsimp only at h
    split at h
    · obtain ⟨rfl, -⟩ := h
      exact .nil
    · split at h
      · obtain ⟨rfl, -⟩ := h
        exact .nil
      · split at h
        · obtain ⟨rfl, -⟩ := h
          exact .nil
        · split at h
          · next hlocal => exact paidRun_of_local (issues_tryProfileProvider hlocal) h
          · obtain ⟨rfl, -⟩ := h
            exact .nil
          · next hpaid =>
            split at h
            · obtain ⟨rfl, -⟩ := h
              exact .nil
            · obtain ⟨rfl, -⟩ := h
              exact .nil
            · next hmode => exact paidRun_tryPaidProfile hmode hprofile hpaid h
            · obtain ⟨rfl, -⟩ := h
              exact .nil
            · obtain ⟨rfl, -⟩ := h
              exact .nil

/-! ## Scheduled investigations -/

theorem issues_generateWith (hmode : config.mode ≠ .automaticFallback) :
    (generateWith providers config env request).run.Issues LocalCall fun _ => True := by
  unfold generateWith
  split
  · exact issues_done trivial
  · dsimp only
    split
    · exact issues_done trivial
    · split
      · exact issues_done trivial
      · split
        · exact issues_done trivial
        · split
          · next hlocal => exact issues_tryProfileProvider hlocal
          · exact issues_done trivial
          · split
            · exact issues_done trivial
            · exact issues_done trivial
            · next hautomatic => exact absurd hautomatic hmode
            · exact issues_done trivial
            · exact issues_done trivial

theorem scheduledGatewayConfig_mode (config : AiGatewayConfig) :
    (scheduledGatewayConfig config).mode ≠ .automaticFallback := by
  unfold scheduledGatewayConfig
  split
  · simp
  · assumption

/-- A call of an investigation that cannot spend. -/
def LocalBriefingCall : BriefingCall → Prop
  | .gateway q => LocalCall q
  | _ => True

/-- The program cannot spend. -/
def CannotSpend {α : Type} (p : BriefingProg α) : Prop :=
  p.run.Issues LocalBriefingCall fun _ => True

section Briefing

variable {α β : Type}

theorem cannotSpend_pure {a : α} : CannotSpend (pure a) := trivial

theorem cannotSpend_bind {p : BriefingProg α} {f : α → BriefingProg β} (hp : CannotSpend p)
    (hf : ∀ a, CannotSpend (f a)) : CannotSpend (p >>= f) :=
  issues_run_bind hp hf

theorem cannotSpend_liftExcept (given : Except AiRaised α) :
    CannotSpend (liftExcept given : BriefingProg α) := by
  cases given with
  | ok a => exact trivial
  | error raised => exact trivial

variable {texts : BriefingTexts} {run : BriefingRun} {budget : InvestigationBudget}
  {findings : Findings}

theorem cannotSpend_persistStep {step : RunStep} : CannotSpend (persistStep run step) :=
  issues_call trivial fun _ => trivial

theorem cannotSpend_updateBriefingContent {content : BriefingContent} :
    CannotSpend (updateBriefingContent run content) :=
  issues_call trivial fun _ => trivial

theorem cannotSpend_audit {phase : String} {details : List (String × Python.Json)} :
    CannotSpend (audit run phase details) :=
  issues_call trivial fun _ => trivial

/-- A request to the gateway of the scheduled configuration stays local. -/
theorem cannotSpend_generate {gatewayConfig : AiGatewayConfig} :
    CannotSpend (generate (.of (scheduledGatewayConfig gatewayConfig)) env request) := by
  refine issues_through (P := LocalCall) ?_ fun q hq => issues_call hq fun _ => trivial
  exact issues_generateWith (scheduledGatewayConfig_mode gatewayConfig)

theorem cannotSpend_reviewCandidates {recent : String → Option String} (stepIndex : Nat)
    (candidates : List Candidate) :
    CannotSpend (reviewCandidates texts run recent stepIndex candidates) := by
  induction candidates generalizing stepIndex with
  | nil => exact cannotSpend_pure
  | cons candidate candidates ih =>
    unfold reviewCandidates
    split
    · refine cannotSpend_bind cannotSpend_persistStep fun _ => ?_
      exact cannotSpend_bind (ih _) fun _ => cannotSpend_pure
    · exact cannotSpend_bind (ih _) fun _ => cannotSpend_pure

theorem cannotSpend_validateCalls {validate : ToolCall → Except (String × String) SafeCall}
    (stepIndex : Nat) (toolCalls : List ToolCall) :
    CannotSpend (validateCalls run validate stepIndex toolCalls) := by
  induction toolCalls generalizing stepIndex with
  | nil => exact cannotSpend_pure
  | cons toolCall toolCalls ih =>
    refine cannotSpend_bind cannotSpend_persistStep fun _ => ?_
    exact cannotSpend_bind (ih _) fun _ => cannotSpend_pure

theorem cannotSpend_recordResults (stepIndex : Nat) (results : List ToolResult) :
    CannotSpend (recordResults run stepIndex results) := by
  induction results generalizing stepIndex with
  | nil => exact cannotSpend_pure
  | cons result results ih => exact cannotSpend_bind cannotSpend_persistStep fun _ => ih _

theorem cannotSpend_recordCandidates (stepIndex : Nat) (candidates : List Candidate) :
    CannotSpend (recordCandidates texts run stepIndex candidates) := by
  induction candidates generalizing stepIndex with
  | nil => exact cannotSpend_pure
  | cons candidate candidates ih => exact cannotSpend_bind cannotSpend_persistStep fun _ => ih _

theorem cannotSpend_collectEvidence {stepIndex : Nat} {selected : List Candidate} :
    CannotSpend (collectEvidence texts run budget findings stepIndex selected) := by
  have htools (planned : List ToolCall) :
      CannotSpend (executeEvidenceTools budget run findings stepIndex planned) := by
    refine cannotSpend_bind (cannotSpend_validateCalls _ _) fun safeCalls => ?_
    split
    · exact cannotSpend_pure
    · refine cannotSpend_bind (cannotSpend_liftExcept _) fun summary => ?_
      exact cannotSpend_bind (cannotSpend_recordResults _ _) fun _ => cannotSpend_pure
  refine cannotSpend_bind (htools _) fun summary => ?_
  exact cannotSpend_bind cannotSpend_audit fun _ => cannotSpend_pure

variable {selected : List Candidate} {skipped : List Python.Json} {gatewayConfig : AiGatewayConfig}

theorem cannotSpend_repairBriefing {refs : List Python.Json} {response : AiGatewayResponse}
    {tokens : Nat} {errors : List String} :
    CannotSpend (repairBriefing texts budget selected skipped refs env
      (.of (scheduledGatewayConfig gatewayConfig)) response tokens errors) := by
  have hrepair : CannotSpend (attemptStructuredBriefingRepair texts env
      (.of (scheduledGatewayConfig gatewayConfig)) response.content errors) :=
    cannotSpend_bind cannotSpend_generate fun _ => cannotSpend_pure
  refine cannotSpend_bind hrepair fun repaired => ?_
  split
  · exact cannotSpend_pure
  · split
    · exact cannotSpend_pure
    · split
      · exact cannotSpend_pure
      · exact cannotSpend_pure

theorem cannotSpend_synthesizeBriefing {refs : List Python.Json} {summary : ToolSummary} :
    CannotSpend (synthesizeBriefing texts budget selected skipped refs env gatewayConfig none
      summary) := by
  unfold synthesizeBriefing
  dsimp only
  split
  · exact cannotSpend_pure
  · split
    · exact cannotSpend_pure
    · refine cannotSpend_bind cannotSpend_generate fun response => ?_
      split
      · exact cannotSpend_pure
      · split
        · exact cannotSpend_pure
        · split
          · exact cannotSpend_pure
          · exact cannotSpend_repairBriefing

theorem cannotSpend_concludeInvestigation {evidence : Evidence} :
    CannotSpend (concludeInvestigation texts run env budget gatewayConfig none selected skipped
      evidence) := by
  refine cannotSpend_bind (cannotSpend_recordCandidates _ _) fun _ => ?_
  refine cannotSpend_bind cannotSpend_synthesizeBriefing fun synthesis => ?_
  refine cannotSpend_bind cannotSpend_persistStep fun _ => ?_
  refine cannotSpend_bind cannotSpend_updateBriefingContent fun _ => ?_
  refine cannotSpend_bind cannotSpend_persistStep fun _ => ?_
  exact cannotSpend_bind cannotSpend_audit fun _ => cannotSpend_pure

/-- **A scheduled investigation** that is given no gateway cannot spend. -/
theorem cannotSpend_runScheduledInvestigation :
    CannotSpend (runScheduledInvestigation texts run env budget findings gatewayConfig none) := by
  refine cannotSpend_bind (cannotSpend_liftExcept _) fun window => ?_
  refine cannotSpend_bind cannotSpend_persistStep fun _ => ?_
  refine cannotSpend_bind (cannotSpend_liftExcept _) fun planned => ?_
  refine cannotSpend_bind (cannotSpend_liftExcept _) fun recent => ?_
  refine cannotSpend_bind (cannotSpend_reviewCandidates _ _) fun review => ?_
  refine cannotSpend_bind cannotSpend_audit fun _ => ?_
  split
  · exact cannotSpend_bind cannotSpend_persistStep fun _ => cannotSpend_concludeInvestigation
  · split
    · refine cannotSpend_bind cannotSpend_persistStep fun _ => ?_
      exact cannotSpend_bind cannotSpend_updateBriefingContent fun _ => cannotSpend_pure
    · exact cannotSpend_bind cannotSpend_collectEvidence fun _ => cannotSpend_concludeInvestigation

end Briefing

/-! ## Result -/

/-- The configuration a request goes by: what the store of the runtime configuration resolves, or the
    gateway's own. -/
def InForce (gateway : AiGateway) (trace : List AiExchange) (config : AiGatewayConfig) : Prop :=
  if gateway.runtimeConfigStore then
    trace.head? = some ⟨.resolveConfig gateway.sourceConfig, .ok config⟩
  else config = gateway.sourceConfig

/-- What holds of the calls of one request and of its result. -/
structure PaidGated (env : ProfileEnvironment) (gateway : AiGateway) (request : AiGatewayRequest)
    (trace : List AiExchange) (result : Except AiRaised AiGatewayResponse) : Prop where
  once : trace.countP (fun e => decide (IsPaidContact e.1)) ≤ 1
  gated : ∀ before after key sent config answer,
    trace = before ++ ⟨.provide key sent config, answer⟩ :: after → key ≠ .ollama →
      key = .anthropic ∧ sent = request ∧ InForce gateway trace config ∧
      config.mode = .automaticFallback ∧ (∃ profile, Payable config env request profile) ∧
      ∃ e ∈ before, (reservationOf e).isSome = true
  accounted : trace.filterMap settledBy = trace.filterMap reservationOf
  earned : (∃ e ∈ trace, IsPaidContact e.1) → ∀ response content, result = .ok response →
    response.content = some content → ∃ e ∈ trace, IsSettled e

theorem Quiet.filterMap {trace : List AiExchange} (hquiet : ∀ e ∈ trace, Quiet e) :
    trace.filterMap settledBy = [] ∧ trace.filterMap reservationOf = [] ∧
      trace.countP (fun e => decide (IsPaidContact e.1)) = 0 := by
  refine ⟨?_, ?_, ?_⟩
  · exact List.filterMap_eq_nil_iff.mpr fun e he => (hquiet e he).unsettled
  · exact List.filterMap_eq_nil_iff.mpr fun e he => (hquiet e he).unreserved
  · exact List.countP_eq_zero.mpr fun e he => by simpa using (hquiet e he).unpaid

variable {gateway : AiGateway}

theorem paidGated_of_quiet (hquiet : ∀ e ∈ trace, Quiet e) :
    PaidGated env gateway request trace result where
  once := by rw [(Quiet.filterMap hquiet).2.2]; exact Nat.zero_le 1
  gated before after key sent config answer htrace hkey := by
    have hmem : (⟨.provide key sent config, answer⟩ : AiExchange) ∈ trace := by simp [htrace]
    exact absurd hkey (hquiet _ hmem).unpaid
  accounted := by rw [(Quiet.filterMap hquiet).1, (Quiet.filterMap hquiet).2.1]
  earned := by
    rintro ⟨e, he, hpaid⟩
    exact absurd hpaid (hquiet e he).unpaid

theorem PaidRun.gated (h : PaidRun config env request result trace)
    (hforce : InForce gateway trace config) : PaidGated env gateway request trace result := by
  cases h with
  | quiet hquiet => exact paidGated_of_quiet hquiet
  | @paid before profile pricing reservation response answer settlement hquiet hmode hpayable hearned =>
    obtain ⟨hsettled, hreserved, hcount⟩ := Quiet.filterMap hquiet
    constructor
    · rw [List.countP_append, hcount]
      exact Nat.le_refl 1
    · intro before' after key sent config' answer' htrace hkey
      have hbefore : (⟨.provide key sent config', answer'⟩ : AiExchange) ∉ before ++
          [⟨.reserve request .anthropic profile.model profile.name profile.maxOutputTokens pricing,
            .ok reservation⟩] := by
        intro hmem
        rcases List.mem_append.mp hmem with hmem | hmem
        · exact (hquiet _ hmem).unpaid hkey
        · have hcall := congrArg Sigma.fst (List.mem_singleton.mp hmem)
          cases hcall
      have hafter : (⟨.provide key sent config', answer'⟩ : AiExchange) ∉
          [(⟨.settle reservation response pricing, settlement⟩ : AiExchange)] := by
        intro hmem
        have hcall := congrArg Sigma.fst (List.mem_singleton.mp hmem)
        cases hcall
      have hsplit := htrace
      rw [show ∀ (a b c : AiExchange), before ++ [a, b, c] = (before ++ [a]) ++ b :: [c] from
        fun _ _ _ => by simp] at hsplit
      obtain ⟨rfl, heq, -⟩ := (List.append_cons_inj_of_notMem hbefore hafter).mp hsplit
      have hcall := congrArg Sigma.fst heq
      cases hcall
      exact ⟨rfl, rfl, hforce, hmode, ⟨profile, hpayable⟩, _,
        List.mem_append_right before (List.mem_singleton_self _), rfl⟩
    · rw [List.filterMap_append, List.filterMap_append, hsettled, hreserved]
      rfl
    · intro _ response' content hok hcontent
      obtain ⟨settled, rfl⟩ := hearned response' content hok hcontent
      have hmem : (⟨.settle reservation response pricing, .ok settled⟩ : AiExchange) ∈
          [(⟨.reserve request .anthropic profile.model profile.name profile.maxOutputTokens pricing,
            .ok reservation⟩ : AiExchange), ⟨.provide .anthropic request config, answer⟩,
            ⟨.settle reservation response pricing, .ok settled⟩] :=
        List.mem_cons_of_mem _ (List.mem_cons_of_mem _ (List.mem_singleton_self _))
      exact ⟨_, List.mem_append_right before hmem, trivial⟩

theorem paidGated_generate
    (h : (gateway.generate env request).run.Performs trace result) :
    PaidGated env gateway request trace result := by
  unfold AiGateway.generate at h
  split at h
  · next hstore =>
    have hquiet (r : (AiCall.resolveConfig gateway.sourceConfig).Reply) :
        ∀ e ∈ ([⟨.resolveConfig gateway.sourceConfig, r⟩] : List AiExchange), Quiet e := by
      intro e he
      rw [List.mem_singleton] at he
      subst he
      exact ⟨id, rfl, rfl⟩
    rcases performs_run_bind.mp h with ⟨raised, hcall, rfl⟩ | ⟨first, rest, config, rfl, hcall, hrest⟩
    · rw [performs_perform.mp hcall]
      exact paidGated_of_quiet (hquiet _)
    · rw [performs_perform.mp hcall]
      refine ((paidRun_generateWith hrest).after (hquiet _)).gated ?_
      unfold InForce
      rw [if_pos hstore]
      rfl
  · next hstore =>
    refine (paidRun_generateWith h).gated ?_
    unfold InForce
    rw [if_neg hstore]

/-- **The paid provider is gated and accounted**: whatever is answered or raised, a request contacts a
    paid provider at most once, in automatic fallback and for a payable profile and after a reservation;
    it settles just the reservations it was given, and returns content after a contact only if the
    settlement was made; a scheduled investigation without a gateway of its own contacts none. -/
theorem paid_gate (env : ProfileEnvironment) :
    (∀ gateway request trace result, (AiGateway.generate gateway env request).run.Performs trace result →
      PaidGated env gateway request trace result) ∧
    ∀ texts run budget findings gatewayConfig trace outcome,
      (runScheduledInvestigation texts run env budget findings gatewayConfig none).run.Performs
        trace outcome →
      ∀ call answer, (⟨.gateway call, answer⟩ : Exchange BriefingCall.Reply) ∈ trace →
        ¬ IsPaidContact call := by
  refine ⟨fun _ _ _ _ h => paidGated_generate h, ?_⟩
  intro texts run budget findings gatewayConfig trace outcome h call answer hmem
  have hlocal : LocalCall call :=
    (Issues.performs cannotSpend_runScheduledInvestigation h).1 _ hmem
  exact (@quiet_of_localCall ⟨call, .error .other⟩ hlocal).unpaid

/-- Variables that are not set. -/
def unsetEnvironment : ProfileEnvironment := ⟨fun _ => "", fun _ value => value, fun _ value => value⟩

/-- A gateway that may fall back to its paid provider. -/
def paidGateway : AiGateway where
  sourceConfig :=
    { AiGatewayConfig.default with
      mode := .automaticFallback
      anthropicEnabled := true
      anthropicRoutingEnabled := true
      anthropicApiKey := "key"
      anthropicModel := "model"
      anthropicDailyBudgetUsd := .finite 1
      anthropicInputCostPerMillionTokens := .finite 3
      anthropicOutputCostPerMillionTokens := .finite 15 }
  providers := defaultProviders
  runtimeConfigStore := false

/-- A request for a plan. -/
def planningRequest : AiGatewayRequest :=
  ⟨"Plan one turn.", "agentic_analyst_planning", some "agentic_planning", .obj []⟩

/-- A response of the paid provider. -/
def paidResponse (request : AiGatewayRequest) (config : AiGatewayConfig) : AiGatewayResponse :=
  let failure := blockedResponse config request
    (localProfile unsetEnvironment "agentic_planning" "" "model" 90 8000 4096 0 "") .success "" ""
  { failure with content := some "plan" }

/-- Everything is supported, reserved, answered and settled. -/
def generousAnswer : (call : AiCall) → call.Reply
  | .resolveConfig source => .ok source
  | .supports _ _ => .ok ⟨true, "supported", none⟩
  | .provide _ request config => .ok (paidResponse request config)
  | .reserve _ _ _ _ _ _ => .ok ⟨1, 19800, 5, 1, 10, 20, none, .initial⟩
  | .settle _ _ _ => .ok ⟨1, 19800, 4, 96, 10, 20, 30, .estimated, .estimated⟩

/-- The calls of a request that is paid for. -/
def paidTrace : List AiExchange :=
  ((paidGateway.generate unsetEnvironment planningRequest).run.respond generousAnswer).1

/-- The request contacts the paid provider once and settles its one reservation. -/
theorem paid_gate_planning :
    (PaidGated unsetEnvironment paidGateway planningRequest paidTrace
      ((paidGateway.generate unsetEnvironment planningRequest).run.respond generousAnswer).2) ∧
    paidTrace.countP (fun e => decide (IsPaidContact e.1)) = 1 ∧
    (paidTrace.filterMap settledBy).map (·.attemptId) = [1] := by
  refine ⟨?_, by decide +kernel, by decide +kernel⟩
  exact (paid_gate unsetEnvironment).1 paidGateway planningRequest _ _ (performs_respond _ _)

end SiemDashboard.PaidGate
