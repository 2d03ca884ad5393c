import SiemDashboard.Engines.OutcomeEvents

/-!
# The outcome of a notification delivery

What the executor records for a delivery attempt: fields that the outcome trail accepts, and a real success
just for a delivery that carries the evidence of a real send.

* **Evidence** — `RealSend`, `notificationDeliveryHasRealEvidence_iff`.
* **Result** — `HonestOutcome`, `delivery_outcome_honest`.
-/

namespace SiemDashboard.DeliveryOutcomes

open Python ResponseOutcomes StepExecutor

variable (py : Python) (attempt : Json)

/-! ## Evidence -/

def metadataOf : Json := (attempt.get "metadata").orElse (.obj [])

/-- A delivery to Teams, which is only ever simulated. -/
def IsTeams : Prop :=
  lower (strip (py.str ((attempt.get "provider").orElse (.str "notification provider")))) = "teams" ∨
    attempt.get "action" = .str "notify_teams"

/-- The flags by which a provider confirms a delivery. -/
def confirmations : List String :=
  ["provider_success", "provider_success_evidence", "provider_delivery_confirmed",
    "delivery_confirmed"]

/-- The attempt carries the evidence of a real send: it is a successful real one, its metadata says that
    it was executed and not simulated, and the adapter was in its real mode or the provider confirmed the
    delivery. -/
structure RealSend : Prop where
  mode : attempt.get "mode" = .str "real"
  status : attempt.get "status" = .str "success"
  executed : (metadataOf attempt).get "executed" = .bool true
  notSimulated : (metadataOf attempt).get "simulated" = .bool false
  confirmed : normalizedText py ((metadataOf attempt).get "adapter_mode") "" = "real" ∨
    ∃ key ∈ confirmations, (metadataOf attempt).get key = .bool true
  notTeams : ¬ IsTeams py attempt

variable {py attempt}

theorem isOneOf_singleton {v : Json} {name : String} : v.isOneOf [name] = true ↔ v = .str name := by
  cases v with
  | str s => simp [Json.isOneOf]
  | _ => simp [Json.isOneOf]

/-- The evidence that the executor looks for. -/
theorem notificationDeliveryHasRealEvidence_iff :
    notificationDeliveryHasRealEvidence py attempt = true ↔
      attempt.get "mode" = .str "real" ∧ attempt.get "status" = .str "success" ∧
      (metadataOf attempt).get "executed" = .bool true ∧
      (metadataOf attempt).get "simulated" = .bool false ∧
      (normalizedText py ((metadataOf attempt).get "adapter_mode") "" = "real" ∨
        ∃ key ∈ confirmations, (metadataOf attempt).get key = .bool true) := by
  unfold notificationDeliveryHasRealEvidence
  dsimp only
  rw [Bool.and_eq_true, Bool.and_eq_true, Bool.and_eq_true, Bool.and_eq_true, Bool.or_eq_true,
    decide_eq_true_eq, isOneOf_singleton, isOneOf_singleton, List.any_eq_true, and_assoc, and_assoc,
    and_assoc]
  change _ ∧ _ ∧ _ ∧ _ ∧ (_ ∨ ∃ key ∈ confirmations, _) ↔ _
  refine and_congr Iff.rfl (and_congr Iff.rfl (and_congr ?_ (and_congr ?_ (or_congr Iff.rfl ?_))))
  · unfold metadataOf
    cases ((attempt.get "metadata").orElse (.obj [])).get "executed" with
    | bool b => simp
    | _ => simp
  · unfold metadataOf
    cases ((attempt.get "metadata").orElse (.obj [])).get "simulated" with
    | bool b => simp
    | _ => simp
  · refine exists_congr fun key => and_congr Iff.rfl ?_
    unfold metadataOf
    cases ((attempt.get "metadata").orElse (.obj [])).get key with
    | bool b => simp
    | _ => simp

/-! ## Result -/

/-- What an outcome claims: that the notification was really sent. -/
def IsRealSuccess (mapped : DeliveryOutcome) : Prop :=
  mapped.executionMode = "real" ∧ mapped.executionState = "succeeded"

/-- A delivery that was not successful, or was not a real one. -/
def Unsent (py : Python) (attempt : Json) : Prop :=
  normalizedText py (attempt.get "status") "failed" ≠ "success" ∨
    normalizedText py (attempt.get "mode") "simulation" ≠ "real" ∨
    (metadataOf attempt).get "simulated" = .bool true ∨ IsTeams py attempt

/-- The fields of an outcome pass the checks of the outcome trail. -/
structure Accepted (mapped : DeliveryOutcome) : Prop where
  mode : validateExecutionMode mapped.executionMode = .ok mapped.executionMode
  state : validateExecutionState mapped.executionState = .ok mapped.executionState
  reason : validateReasonCode mapped.reasonCode = .ok mapped.reasonCode
  booleans : validateOutcomeBooleans mapped.executionMode mapped.executionState
    mapped.externalExecuted false mapped.simulated = .ok ()

/-- The outcome is accepted, and it is honest about the delivery. -/
structure HonestOutcome (py : Python) (attempt : Json) (mapped : DeliveryOutcome) : Prop where
  accepted : Accepted mapped
  executed_iff : mapped.externalExecuted = true ↔ RealSend py attempt
  realSuccess_iff : IsRealSuccess mapped ↔ RealSend py attempt
  unsent : Unsent py attempt → mapped.externalExecuted = false ∧ ¬ IsRealSuccess mapped

section Rows

variable {summary : String}

/-- The accepted combinations of an outcome without a summary. -/
theorem accepted_of {mode state : String} {executed simulated : Bool} {reason : Option String}
    (h : validateExecutionMode mode = .ok mode ∧ validateExecutionState state = .ok state ∧
      validateReasonCode reason = .ok reason ∧
      validateOutcomeBooleans mode state executed false simulated = .ok ()) :
    Accepted ⟨mode, state, executed, simulated, reason, summary⟩ :=
  ⟨h.1, h.2.1, h.2.2.1, h.2.2.2⟩

theorem accepted_blocked (real : Bool) :
    Accepted ⟨if real then "real" else "simulation", "blocked", false, !real, some "policy_blocked",
      summary⟩ := by
  apply accepted_of
  cases real with
  | true => decide +kernel
  | false => decide +kernel

theorem accepted_failed (real timeout : Bool) :
    Accepted ⟨if real then "real" else "simulation", "failed", false, !real,
      some (if timeout then "adapter_unavailable" else "provider_error"), summary⟩ := by
  apply accepted_of
  cases real with
  | true => cases timeout with
    | true => decide +kernel
    | false => decide +kernel
  | false => cases timeout with
    | true => decide +kernel
    | false => decide +kernel

theorem accepted_sent : Accepted ⟨"real", "succeeded", true, false, none, summary⟩ := by
  apply accepted_of
  decide +kernel

theorem accepted_simulated (success : Bool) :
    Accepted ⟨"simulation", if success then "succeeded" else "failed", false, true,
      some "simulation_mode", summary⟩ := by
  apply accepted_of
  cases success with
  | true => decide +kernel
  | false => decide +kernel

end Rows

theorem normalizedText_str {s default : String} (hne : s ≠ "") :
    normalizedText py (.str s) default = lower (strip s) := by
  unfold normalizedText Json.orElse
  simp [Json.truthy, hne]

/-- A real send is no unsuccessful or simulated delivery. -/
theorem RealSend.not_unsent (h : RealSend py attempt) : ¬ Unsent py attempt := by
  rintro (hstatus | hmode | hsimulated | hteams)
  · rw [h.status, normalizedText_str (by decide)] at hstatus
    exact hstatus (by decide)
  · rw [h.mode, normalizedText_str (by decide)] at hmode
    exact hmode (by decide)
  · rw [h.notSimulated] at hsimulated
    cases hsimulated
  · exact h.notTeams hteams

/-- The executor's test for Teams. -/
theorem isTeams_iff :
    (decide (lower (strip (py.str
        ((attempt.get "provider").orElse (.str "notification provider")))) = "teams") ||
      (attempt.get "action").isOneOf ["notify_teams"]) = true ↔ IsTeams py attempt := by
  rw [Bool.or_eq_true, decide_eq_true_eq, isOneOf_singleton]
  rfl

/-- What the mapping comes to: an accepted outcome that is executed just for a real send, and a real
    success just where it is executed. -/
theorem map_spec :
    Accepted (mapNotificationDeliveryOutcome py attempt) ∧
    ((mapNotificationDeliveryOutcome py attempt).externalExecuted = true ↔ RealSend py attempt) ∧
    (IsRealSuccess (mapNotificationDeliveryOutcome py attempt) ↔
      (mapNotificationDeliveryOutcome py attempt).externalExecuted = true) := by
  have hsent : RealSend py attempt →
      normalizedText py (attempt.get "status") "failed" = "success" ∧
      normalizedText py (attempt.get "mode") "simulation" = "real" ∧
      notificationDeliveryHasRealEvidence py attempt = true := by
    intro h
    refine ⟨?_, ?_, notificationDeliveryHasRealEvidence_iff.mpr
      ⟨h.mode, h.status, h.executed, h.notSimulated, h.confirmed⟩⟩
    · rw [h.status, normalizedText_str (by decide)]
      decide
    · rw [h.mode, normalizedText_str (by decide)]
      decide
  unfold mapNotificationDeliveryOutcome
  dsimp only
  have hteams := @isTeams_iff py attempt
  generalize (decide (lower (strip (py.str
      ((attempt.get "provider").orElse (.str "notification provider")))) = "teams") ||
    (attempt.get "action").isOneOf ["notify_teams"]) = teams at hteams ⊢
  generalize normalizedText py (attempt.get "status") "failed" = status at hsent ⊢
  have hmode : RealSend py attempt →
      (if teams = true then "simulation" else normalizedText py (attempt.get "mode") "simulation") =
        "real" := by
    intro h
    have hnot : ¬ teams = true := fun ht => h.notTeams (hteams.mp ht)
    rw [if_neg hnot]
    exact (hsent h).2.1
  generalize (if teams = true then "simulation"
    else normalizedText py (attempt.get "mode") "simulation") = mode at hmode ⊢
  split
  · next hblocked =>
    have hnot : ¬ RealSend py attempt := fun h => by
      have hstatus := (hsent h).1
      rw [hblocked] at hstatus
      revert hstatus
      decide
    refine ⟨?_, iff_of_false (by simp) hnot, by simp [IsRealSuccess]⟩
    simpa using accepted_blocked (decide (mode = "real"))
  · split
    · next hfailed =>
      have hnot : ¬ RealSend py attempt := fun h => by
        have hstatus := (hsent h).1
        subst hstatus
        revert hfailed
        decide
      refine ⟨?_, iff_of_false (by simp) hnot, by simp [IsRealSuccess]⟩
      simpa using accepted_failed (decide (mode = "real")) (decide (status = "timeout"))
    · split
      · next hall =>
        rw [Bool.and_eq_true, Bool.and_eq_true, Bool.and_eq_true, Bool.not_eq_true'] at hall
        obtain ⟨-, hteam, hevidence⟩ := hall
        have hparts := notificationDeliveryHasRealEvidence_iff.mp hevidence
        refine ⟨accepted_sent, iff_of_true rfl ?_, by simp [IsRealSuccess]⟩
        refine ⟨hparts.1, hparts.2.1, hparts.2.2.1, hparts.2.2.2.1, hparts.2.2.2.2, fun ht => ?_⟩
        rw [hteams.mpr ht] at hteam
        cases hteam
      · next hnone =>
        have hnot : ¬ RealSend py attempt := fun h => by
          have hteam : teams = false := Bool.eq_false_iff.mpr fun ht => h.notTeams (hteams.mp ht)
          refine hnone ?_
          rw [hmode h, (hsent h).1, (hsent h).2.2, hteam]
          rfl
        split
        · exact ⟨accepted_simulated true, iff_of_false (by simp) hnot, by simp [IsRealSuccess]⟩
        · refine ⟨?_, iff_of_false (by simp) hnot, by simp [IsRealSuccess]⟩
          simpa using accepted_simulated (decide (status = "success"))

/-- **Delivery outcomes are honest and accepted**: whatever the delivery attempt, the outcome that the
    executor records for it passes the checks of the outcome trail; it is executed, and a real success,
    just where the attempt carries the evidence of a real send; and a delivery that was skipped, blocked,
    failed or simulated is neither. -/
theorem delivery_outcome_honest (py : Python) (attempt : Json) :
    HonestOutcome py attempt (mapNotificationDeliveryOutcome py attempt) := by
  obtain ⟨haccepted, hexecuted, hsuccess⟩ := @map_spec py attempt
  refine ⟨haccepted, hexecuted, hsuccess.trans hexecuted, fun hunsent => ?_⟩
  have hnot : ¬ RealSend py attempt := fun h => h.not_unsent hunsent
  exact ⟨Bool.eq_false_iff.mpr fun h => hnot (hexecuted.mp h),
    fun h => hnot (hexecuted.mp (hsuccess.mp h))⟩

end SiemDashboard.DeliveryOutcomes
