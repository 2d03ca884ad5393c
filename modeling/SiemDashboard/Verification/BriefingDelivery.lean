import SiemDashboard.Core.SocBriefingDelivery
import SiemDashboard.Lib.Runs

/-!
# How often a briefing is sent

The calls that deliver a briefing to Slack, one after another.  The record of a delivery counts the
attempts, but no call looks at the count before it asks the adapter again.

* **Runs** — `State`, `stepCall`, `State.record`, `State.attempts`, `State.invocations`.
* **One call** — `Asks`, `Recorded`, `stepCall_of_asks`, `stepCall_of_not_asks`, `stepCall_of_sent`.
* **Result** — `DeliveredWithin`, `WithinBudget`, `briefing_delivery_bounded`, and a briefing whose
  adapter fails four times.
-/

namespace SiemDashboard.BriefingDelivery

open Python Tables

/-! ## Runs -/

/-- The store, and the keys of the deliveries that the adapter was asked for. -/
structure State where
  store : Store
  invoked : List String

def State.record (s : State) (key : String) : Option DeliveryAttempt :=
  getDeliveryByIdempotencyKey s.store.deliveries key

/-- The attempts that the record of a key counts. -/
def State.attempts (s : State) (key : String) : Nat := attemptsSoFar (s.record key)

/-- How often the adapter was asked for the delivery of a key. -/
def State.invocations (s : State) (key : String) : Nat := s.invoked.count key

variable (env : Environment) (maxAttempts : Int)

/-- The state after a call. -/
def stepCall (s : State) (call : Call) : State :=
  let delivered := deliverBriefingToSlack env maxAttempts s.store call
  ⟨delivered.store, s.invoked ++ delivered.invoked.toList⟩

/-- The call asks the adapter for the delivery of the key: it is one of a briefing with the key, no
    record stops it, and the notification policy lets it through. -/
def Asks (key : String) (s : State) (call : Call) : Prop :=
  ∃ briefing, env.briefingForDelivery call.briefingId = some briefing ∧
    deliveryIdempotencyKey env briefing = key ∧
    (s.record key).filter DeliveryAttempt.suppresses = none ∧
    call.policy.status ≠ "unavailable" ∧ call.policy.slackEnabled = true

/-- What the adapter answers can be read, and the database takes the record of the attempt. -/
def Recorded (call : Call) : Prop :=
  (readResult env.py call.answer.result).isOk = true ∧ call.writer.takes = true ∧
    validMaxAttempts maxAttempts = true

/-! ## One call -/

section Calls

variable {env maxAttempts} {store : Store} {call : Call} {briefing : Briefing}
  {invoked : Option String} {eventType : String}
  {details : DeliveryAttempt → List (String × Json)} {new : DeliveryFields}

/-- A record is written, or the store stays as it is. -/
theorem settle_cases :
    (call.writer.takes = true ∧ validMaxAttempts new.maxAttempts = true ∧
      ∃ attempt, attempt.attemptCount = new.attemptCount ∧
        ∀ key, getDeliveryByIdempotencyKey
            (settle env store call briefing invoked eventType details new).store.deliveries key =
          if key = deliveryIdempotencyKey env briefing then some attempt
          else getDeliveryByIdempotencyKey store.deliveries key) ∨
    (¬ (call.writer.takes = true ∧ validMaxAttempts new.maxAttempts = true) ∧
      (settle env store call briefing invoked eventType details new).store = store) := by
  have hwritten := @writeDelivery_isOk env store.deliveries call.writer briefing new
    (getDeliveryByIdempotencyKey store.deliveries (deliveryIdempotencyKey env briefing))
  unfold settle
  split
  · next error herror =>
    right
    rw [herror] at hwritten
    refine ⟨fun htaken => ?_, rfl⟩
    obtain ⟨written, hok⟩ := hwritten.mpr htaken
    cases hok
  · next attempt deliveries hok =>
    left
    obtain ⟨hrecords, -, hcount⟩ := writeDelivery_eq_ok hok
    have htaken := hwritten.mp ⟨_, hok⟩
    exact ⟨htaken.1, htaken.2, attempt, hcount, hrecords⟩

theorem settle_invoked :
    (settle env store call briefing invoked eventType details new).invoked = invoked := by
  unfold settle
  split <;> rfl

/-- The records of the other keys stay as they are. -/
theorem settle_record_of_ne {key : String} (hkey : key ≠ deliveryIdempotencyKey env briefing) :
    getDeliveryByIdempotencyKey
        (settle env store call briefing invoked eventType details new).store.deliveries key =
      getDeliveryByIdempotencyKey store.deliveries key := by
  rcases @settle_cases env store call briefing invoked eventType details new with
    ⟨-, -, attempt, -, hrecords⟩ | ⟨-, hstore⟩
  · rw [hrecords, if_neg hkey]
  · rw [hstore]

/-- What the record of the call's own key counts. -/
theorem settle_attempts [Decidable (call.writer.takes = true ∧
      validMaxAttempts new.maxAttempts = true)] :
    attemptsSoFar (getDeliveryByIdempotencyKey
        (settle env store call briefing invoked eventType details new).store.deliveries
        (deliveryIdempotencyKey env briefing)) =
      if call.writer.takes = true ∧ validMaxAttempts new.maxAttempts = true then new.attemptCount
      else attemptsSoFar
        (getDeliveryByIdempotencyKey store.deliveries (deliveryIdempotencyKey env briefing)) := by
  rcases @settle_cases env store call briefing invoked eventType details new with
    ⟨htakes, hvalid, attempt, hcount, hrecords⟩ | ⟨hrefused, hstore⟩
  · rw [hrecords, if_pos rfl, if_pos ⟨htakes, hvalid⟩]
    exact hcount
  · rw [hstore, if_neg hrefused]

/-- A record that counts what the one before it did. -/
theorem settle_attempts_of_same (hsame : new.attemptCount = attemptsSoFar
      (getDeliveryByIdempotencyKey store.deliveries (deliveryIdempotencyKey env briefing)))
    (key : String) :
    attemptsSoFar (getDeliveryByIdempotencyKey
        (settle env store call briefing invoked eventType details new).store.deliveries key) =
      attemptsSoFar (getDeliveryByIdempotencyKey store.deliveries key) := by
  classical
  by_cases hkey : key = deliveryIdempotencyKey env briefing
  · subst hkey
    rw [settle_attempts, hsame, ite_self]
  · rw [settle_record_of_ne hkey]

variable {s : State} {key : String}

/-- What a call for another key does: nothing to this one. -/
theorem attemptDelivery_of_ne (hkey : key ≠ deliveryIdempotencyKey env briefing) :
    getDeliveryByIdempotencyKey
        (attemptDelivery env maxAttempts store call briefing).store.deliveries key =
      getDeliveryByIdempotencyKey store.deliveries key ∧
    (attemptDelivery env maxAttempts store call briefing).invoked.toList.count key = 0 := by
  have hcount : [deliveryIdempotencyKey env briefing].count key = 0 := by
    rw [List.count_singleton, if_neg (by simpa using Ne.symm hkey)]
  unfold attemptDelivery
  dsimp only
  split
  · exact ⟨rfl, hcount⟩
  · refine ⟨settle_record_of_ne hkey, ?_⟩
    rw [settle_invoked]
    exact hcount

/-- What an attempt does to the record of its own key. -/
theorem attemptDelivery_own [Decidable (Recorded env maxAttempts call)] :
    attemptsSoFar (getDeliveryByIdempotencyKey
        (attemptDelivery env maxAttempts store call briefing).store.deliveries
        (deliveryIdempotencyKey env briefing)) =
      attemptsSoFar
        (getDeliveryByIdempotencyKey store.deliveries (deliveryIdempotencyKey env briefing)) +
        (if Recorded env maxAttempts call then 1 else 0) ∧
    (attemptDelivery env maxAttempts store call briefing).invoked =
      some (deliveryIdempotencyKey env briefing) := by
  classical
  unfold attemptDelivery
  dsimp only
  cases hread : readResult env.py call.answer.result with
  | error error =>
    have hrecorded : ¬ Recorded env maxAttempts call := by
      intro h
      rw [Recorded, hread] at h
      cases h.1
    rw [if_neg hrecorded]
    exact ⟨rfl, rfl⟩
  | ok outcome =>
    have hrecorded : Recorded env maxAttempts call ↔
        call.writer.takes = true ∧ validMaxAttempts maxAttempts = true := by
      rw [Recorded, hread]
      exact and_iff_right rfl
    dsimp only
    refine ⟨?_, settle_invoked⟩
    rw [settle_attempts]
    by_cases htaken : call.writer.takes = true ∧ validMaxAttempts maxAttempts = true
    · rw [if_pos (hrecorded.mpr htaken)]
      exact if_pos htaken
    · rw [if_neg (mt hrecorded.mp htaken)]
      exact if_neg htaken

/-- A call that asks the adapter is one invocation more, and one attempt more where it is recorded. -/
theorem stepCall_of_asks [Decidable (Recorded env maxAttempts call)] (h : Asks env key s call) :
    (stepCall env maxAttempts s call).invocations key = s.invocations key + 1 ∧
    (stepCall env maxAttempts s call).attempts key =
      s.attempts key + if Recorded env maxAttempts call then 1 else 0 := by
  obtain ⟨briefing, hbriefing, rfl, hrecord, hstatus, henabled⟩ := h
  have hcall : deliverBriefingToSlack env maxAttempts s.store call =
      attemptDelivery env maxAttempts s.store call briefing := by
    unfold deliverBriefingToSlack
    rw [hbriefing]
    dsimp only
    rw [State.record] at hrecord
    rw [hrecord]
    dsimp only
    rw [if_neg hstatus, if_neg (by simp [henabled])]
  obtain ⟨hattempts, hinvoked⟩ := @attemptDelivery_own env maxAttempts s.store call briefing _
  unfold stepCall State.invocations State.attempts State.record
  rw [hcall]
  dsimp only
  refine ⟨?_, hattempts⟩
  rw [hinvoked, List.count_append]
  simp

/-- Any other call leaves the counts of the key as they are. -/
theorem stepCall_of_not_asks (h : ¬ Asks env key s call) :
    (stepCall env maxAttempts s call).invocations key = s.invocations key ∧
    (stepCall env maxAttempts s call).attempts key = s.attempts key := by
  unfold stepCall State.invocations State.attempts State.record
  dsimp only
  rw [List.count_append]
  unfold deliverBriefingToSlack
  split
  · exact ⟨rfl, rfl⟩
  · next briefing hbriefing =>
    dsimp only
    split
    · split
      · exact ⟨rfl, rfl⟩
      · exact ⟨rfl, rfl⟩
    · next hfilter =>
      split
      · rw [settle_invoked]
        exact ⟨rfl, settle_attempts_of_same rfl key⟩
      · next hstatus =>
        split
        · rw [settle_invoked]
          exact ⟨rfl, settle_attempts_of_same rfl key⟩
        · next henabled =>
          -- The policy lets the call through, so it is one for another key.
          have hkey : key ≠ deliveryIdempotencyKey env briefing := by
            rintro rfl
            exact h ⟨briefing, hbriefing, rfl, hfilter, hstatus, by simpa using henabled⟩
          obtain ⟨hrecord, hcount⟩ :=
            @attemptDelivery_of_ne env maxAttempts s.store call briefing key hkey
          rw [hrecord, hcount]
          exact ⟨rfl, rfl⟩

/-- The record of a key that was sent stays as it is. -/
theorem stepCall_of_sent {r : DeliveryAttempt} (hr : s.record key = some r) (hsent : r.status = .sent) :
    (stepCall env maxAttempts s call).record key = some r ∧
    (stepCall env maxAttempts s call).invocations key = s.invocations key := by
  have hfilter : (s.record key).filter DeliveryAttempt.suppresses = some r := by
    rw [hr]
    simp [DeliveryAttempt.suppresses, hsent]
  have hasks : ¬ Asks env key s call := by
    rintro ⟨briefing, -, -, hnone, -⟩
    rw [hfilter] at hnone
    cases hnone
  refine ⟨?_, (stepCall_of_not_asks hasks).1⟩
  rw [← hr]
  unfold stepCall State.record
  dsimp only
  unfold deliverBriefingToSlack
  split
  · rfl
  · next briefing hbriefing =>
    dsimp only
    split
    · split
      · rfl
      · rfl
    · next hnone =>
      have hkey : key ≠ deliveryIdempotencyKey env briefing := by
        rintro rfl
        rw [State.record] at hfilter
        rw [hfilter] at hnone
        cases hnone
      split
      · exact settle_record_of_ne hkey
      · split
        · exact settle_record_of_ne hkey
        · exact (attemptDelivery_of_ne hkey).1

end Calls

/-! ## Result -/

/-- The adapter was asked for the delivery no more often than allowed, and the record counts how
    often it was. -/
structure Accounted (key : String) (s : State) : Prop where
  bounded : s.invocations key ≤ maxAttempts.toNat
  counted : s.attempts key = s.invocations key

/-- Where the delivery is recorded as sent, it is not sent again and the record does not change. -/
def SentStays (key : String) (s s' : State) : Prop :=
  ∀ r, s.record key = some r → r.status = .sent →
    s'.record key = some r ∧ s'.invocations key = s.invocations key

/-- The delivery of a key over a run: it is accounted for in every state, and a delivery that is
    recorded as sent stays as it is from then on. -/
structure DeliveredWithin (key : String) (s : State) (calls : List Call) : Prop where
  accounted : ∀ pre, pre <+: calls → Accounted maxAttempts key (Runs.after (stepCall env maxAttempts) s pre)
  sentStays : ∀ pre rest, pre ++ rest <+: calls →
    SentStays key (Runs.after (stepCall env maxAttempts) s pre)
      (Runs.after (stepCall env maxAttempts) s (pre ++ rest))

/-- A call that asks the adapter finds that fewer attempts were made than are allowed, and its own is
    recorded. -/
def WithinBudget (key : String) (s : State) (call : Call) : Prop :=
  Asks env key s call → (s.attempts key : Int) < maxAttempts ∧ Recorded env maxAttempts call

variable {env maxAttempts}

theorem sentStays_after (key : String) (s : State) (calls : List Call) :
    SentStays key s (Runs.after (stepCall env maxAttempts) s calls) := by
  refine Runs.related (fun s r hr _ => ⟨hr, rfl⟩) ?_ ?_ s calls
  · intro s₁ s₂ s₃ h₁ h₂ r hr hsent
    obtain ⟨hr₂, hcount₂⟩ := h₁ r hr hsent
    obtain ⟨hr₃, hcount₃⟩ := h₂ r hr₂ hsent
    exact ⟨hr₃, hcount₃.trans hcount₂⟩
  · intro s call r hr hsent
    exact stepCall_of_sent hr hsent

/-- A call leaves the delivery accounted for just where it is within the budget. -/
theorem accounted_stepCall {key : String} {s : State} (call : Call) (h : Accounted maxAttempts key s) :
    Accounted maxAttempts key (stepCall env maxAttempts s call) ↔
      WithinBudget env maxAttempts key s call := by
  classical
  by_cases hasks : Asks env key s call
  · obtain ⟨hinvocations, hattempts⟩ := @stepCall_of_asks env maxAttempts call s key _ hasks
    have hcounted := h.counted
    constructor
    · intro h' _
      have hbounded' := h'.bounded
      have hcounted' := h'.counted
      by_cases hrecorded : Recorded env maxAttempts call
      · exact ⟨by omega, hrecorded⟩
      · rw [if_neg hrecorded] at hattempts
        omega
    · intro hbudget
      obtain ⟨hlt, hrecorded⟩ := hbudget hasks
      rw [if_pos hrecorded] at hattempts
      exact ⟨by omega, by omega⟩
  · obtain ⟨hinvocations, hattempts⟩ := @stepCall_of_not_asks env maxAttempts call s key hasks
    refine ⟨fun _ h' => absurd h' hasks, fun _ => ⟨?_, ?_⟩⟩
    · rw [hinvocations]
      exact h.bounded
    · rw [hattempts, hinvocations]
      exact h.counted

/-- **Briefing delivery.**  The delivery of a briefing is bounded and counted over a run just where every
    call that asks the adapter finds fewer attempts than allowed, and is recorded. -/
theorem briefing_delivery_bounded (env : Environment) (maxAttempts : Int) (briefing : Briefing)
    {s : State} (hnew : s.record (deliveryIdempotencyKey env briefing) = none)
    (hunsent : s.invocations (deliveryIdempotencyKey env briefing) = 0) (calls : List Call) :
    DeliveredWithin env maxAttempts (deliveryIdempotencyKey env briefing) s calls ↔
      Runs.Along (stepCall env maxAttempts)
        (WithinBudget env maxAttempts (deliveryIdempotencyKey env briefing)) s calls := by
  have hstart : Accounted maxAttempts (deliveryIdempotencyKey env briefing) s := by
    refine ⟨by omega, ?_⟩
    rw [State.attempts, hnew, hunsent]
    rfl
  have hruns := @Runs.always_iff_along _ _ (stepCall env maxAttempts) (fun _ => True)
    (Accounted maxAttempts (deliveryIdempotencyKey env briefing)) _ (fun _ _ _ => trivial)
    (fun s call _ h => accounted_stepCall call h) s trivial hstart calls
  rw [← hruns]
  refine ⟨fun h => h.accounted, fun h => ⟨h, fun pre rest _ => ?_⟩⟩
  rw [Runs.after_append]
  exact sentStays_after _ _ rest

/-- An environment with one briefing. -/
def sampleEnvironment : Environment where
  briefingForDelivery id :=
    if id = 1 then some ⟨1, 1, 1, 1, .null, .str "Two alerts reviewed.", .obj []⟩ else none
  digest _ := "9f86d081"
  slackText _ _ := "Scheduled SOC briefing"
  scrub text := text
  isoformat _ := "2026-01-01T00:00:00+00:00"
  py := { repr := fun _ => "", text := fun _ => "", compare := fun _ _ => .ok none }

/-- The key of the briefing of `sampleEnvironment`. -/
def sampleKey : String := "soc-briefing:1:slack:9f86d081"

/-- A call for the briefing under a policy with Slack turned on. -/
def sampleCall (answer : AdapterAnswer) : Call where
  briefingId := 1
  siemUrl := none
  current := 0
  policy := ⟨"configured", true, none, true, true, "text", none, none, none⟩
  answer := answer
  writer := ⟨some "admin", some "super_admin", 0, true⟩

/-- A call whose adapter fails. -/
def failingCall : Call := sampleCall (.raised "connection refused")

/-- A call whose adapter sends. -/
def sendingCall : Call := sampleCall (.returned (.obj [("success", .bool true), ("mode", .str "real")]))

/-- No delivery was ever asked for. -/
def unsentState : State := ⟨⟨Table.empty, []⟩, []⟩

theorem briefing_delivery_bounded_sample :
    DeliveredWithin sampleEnvironment 3 sampleKey unsentState [failingCall, sendingCall, failingCall] :=
  (briefing_delivery_bounded sampleEnvironment 3
    ⟨1, 1, 1, 1, .null, .str "Two alerts reviewed.", .obj []⟩ rfl rfl
    [failingCall, sendingCall, failingCall]).mpr
    ⟨fun _ => ⟨by decide +kernel, by decide +kernel, rfl, rfl⟩,
      fun _ => ⟨by decide +kernel, by decide +kernel, rfl, rfl⟩,
      fun _ => ⟨by decide +kernel, by decide +kernel, rfl, rfl⟩, trivial⟩

/-- With three attempts allowed and an adapter that fails, the fourth call asks it once more. -/
theorem failed_briefing_sent_again :
    ¬ DeliveredWithin sampleEnvironment 3 sampleKey unsentState
      [failingCall, failingCall, failingCall, failingCall] := by
  intro h
  have hbounded := (h.accounted _ (List.prefix_refl _)).bounded
  have hfour : (Runs.after (stepCall sampleEnvironment 3) unsentState
      [failingCall, failingCall, failingCall, failingCall]).invocations sampleKey = 4 := by
    decide +kernel
  rw [hfour] at hbounded
  exact absurd hbounded (by decide)

end SiemDashboard.BriefingDelivery
