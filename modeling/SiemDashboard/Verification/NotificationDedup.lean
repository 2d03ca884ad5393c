import SiemDashboard.Core.NotificationPolicyService
import SiemDashboard.Lib.Runs

/-!
# Repeated notifications

When a notification that was sent is not sent again.  A repeat that is held back is recorded as an
attempt under the same key, and the lookup of an earlier delivery reads the newest ten attempts of
the key only.

* **Lookup** — `repeatsSince`, and when the lookup finds a delivery.
* **Calls** — `NotResent`, `FewRepeats`.
* **Result** — `no_duplicate_notification`, and a notification that is repeated eleven times.
-/

namespace SiemDashboard.NotificationDedup

open Tables NotificationDelivery NotificationService

/-! ## Lookup -/

theorem find?_take_isSome {α : Type} (p : α → Bool) {l : List α} (h : ∃ a ∈ l, p a = true) (n : Nat) :
    ((l.take n).find? p).isSome = true ↔ (l.takeWhile fun a => !p a).length < n := by
  induction l generalizing n with
  | nil => simp at h
  | cons a l ih =>
    cases n with
    | zero => simp
    | succ n =>
      rw [List.take_succ_cons, List.find?_cons, List.takeWhile_cons]
      cases hpa : p a with
      | true => simp
      | false =>
        have hl : ∃ b ∈ l, p b = true := by
          obtain ⟨b, hb, hpb⟩ := h
          rcases List.mem_cons.mp hb with rfl | hb
          · rw [hpa] at hpb
            cases hpb
          · exact ⟨b, hb, hpb⟩
        simpa using ih hl n

/-- The attempt was delivered, or may still be. -/
def isDelivery (a : NotificationDeliveryAttempt) : Bool := a.status = .success || a.status = .pending

/-- The attempts of the key since the last that was delivered, or may still be. -/
def repeatsSince (attempts : Attempts) (key : String) : Nat :=
  ((attemptsOf attempts key).takeWhile fun a => !isDelivery a).length

/-- A notification with the key was recorded as sent. -/
def Sent (attempts : Attempts) (key : String) : Prop :=
  ∃ a ∈ attempts.rows, a.idempotencyKey = key ∧ a.status = .success

/-- The lookup finds a notification that was sent, unless ten attempts or more came after it. -/
theorem existingPolicyDelivery_isSome {attempts : Attempts} {key : String} (h : Sent attempts key) :
    (existingPolicyDelivery attempts key).isSome = true ↔ repeatsSince attempts key < 10 := by
  obtain ⟨a, ha, hkey, hsuccess⟩ := h
  have hmem : ∃ a ∈ attemptsOf attempts key, isDelivery a = true :=
    ⟨a, mem_attemptsOf.mpr ⟨ha, hkey⟩, by simp [isDelivery, hsuccess]⟩
  exact find?_take_isSome isDelivery hmem 10

/-! ## Calls -/

/-- A delivery and the moment of it. -/
structure Call where
  moment : Moment
  delivery : Delivery

/-- What a call comes to. -/
abbrev Call.run (env : Environment) (attempts : Attempts) (call : Call) : Delivered :=
  deliverNotification env attempts call.moment call.delivery

/-- The attempts after a call. -/
def stepCall (env : Environment) (attempts : Attempts) (call : Call) : Attempts :=
  (call.run env attempts).attempts

/-- A call under a key that was sent does not ask the adapter to send. -/
def NotResent (env : Environment) (attempts : Attempts) (call : Call) : Prop :=
  call.delivery.allowDedup = true → Sent attempts (call.delivery.key env) →
    (call.run env attempts).sentTo = none

/-- The policy suppresses a call under a key that was sent, or fewer than ten attempts of the key
    came after the last that was delivered. -/
def FewRepeats (env : Environment) (attempts : Attempts) (call : Call) : Prop :=
  call.delivery.allowDedup = true → Sent attempts (call.delivery.key env) →
    call.delivery.decision.shouldNotify = false ∨
      repeatsSince attempts (call.delivery.key env) < 10

theorem notResent_iff (env : Environment) (attempts : Attempts) (call : Call) :
    NotResent env attempts call ↔ FewRepeats env attempts call := by
  refine forall_congr' fun hdedup => forall_congr' fun hsent => ?_
  rw [Call.run, deliverNotification_sentTo, existingPolicyDelivery_isSome hsent]
  exact or_congr_right (and_iff_right hdedup)

/-! ## Result -/

/-- **No duplicate notification.**  In every run of deliveries, no call under a key that was sent
    asks the adapter to send again just where, at each such call, the policy suppresses it or fewer
    than ten attempts of the key were recorded after the last that was delivered. -/
theorem no_duplicate_notification (env : Environment) (attempts : Attempts) (calls : List Call) :
    Runs.Along (stepCall env) (NotResent env) attempts calls ↔
      Runs.Along (stepCall env) (FewRepeats env) attempts calls :=
  Runs.along_congr (notResent_iff env) attempts calls

/-! ## Eleven repeats -/

/-- A policy that lets the alerts of a firewall through. -/
def firewallPolicy : NotificationPolicy where
  status := "applied"
  slackEnabled := true
  minimumSeverity := some "high"
  notifyOnAlerts := true
  notifyOnIncidents := true
  slackFormat := "compact"
  pfsenseDestination := some "#firewall"
  honeypotDestination := some "#honeypot"
  criticalCrossSourceDestination := some "#critical"

/-- The notification of one alert; the adapter sends what it is asked to. -/
def alertCall : Call where
  moment :=
    { now := 0
      shortUuid := "0123456789"
      takes := fun _ => true
      adapter := .ok
        { success := true
          mode := some "real"
          message := some "sent"
          failureClassification := none
          timedOut := false
          timeoutSeconds := none
          circuitState := some "closed" } }
  delivery :=
    { eventKind := "alert"
      objectId := 1
      subject := ⟨some "high", some "pfsense", some "firewall"⟩
      policy := firewallPolicy
      purpose := some "immediate_alert" }

/-- Keys that are their own text. -/
def plainEnvironment : Environment := ⟨id, id⟩

/-- An alert is notified, and ten repeats are held back; the next repeat is sent again. -/
theorem notification_resent :
    ¬ ∀ calls : List Call, (∀ call ∈ calls, call.delivery.allowDedup = true) →
      Runs.Along (stepCall plainEnvironment) (NotResent plainEnvironment) .empty calls := by
  intro h
  have hall := h (List.replicate 11 alertCall ++ [alertCall]) (by decide)
  rw [Runs.along_append] at hall
  obtain ⟨-, hnot, -⟩ := hall
  have hsent : Sent (Runs.after (stepCall plainEnvironment) .empty (List.replicate 11 alertCall))
      (alertCall.delivery.key plainEnvironment) := by
    unfold Sent
    decide +kernel
  have hagain : (alertCall.run plainEnvironment (Runs.after (stepCall plainEnvironment) .empty
      (List.replicate 11 alertCall))).sentTo = some "#firewall" := by
    decide +kernel
  rw [hnot rfl hsent] at hagain
  cases hagain

end SiemDashboard.NotificationDedup
