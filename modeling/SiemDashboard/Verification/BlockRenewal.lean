import SiemDashboard.Core.ResponseCommandService
import SiemDashboard.Lib.Runs

/-!
# Blocking an address again

When a block command succeeds.  The lookup of a block to reuse leaves expired blocks out; the insert
of a new block refuses where any block is active, expired or not.

* **Uniqueness** — `AtMostOneActive`, kept by every command.
* **Commands** — `BlockOf`: the block of a public address; `Recordable`: the other tables take its
  rows; `Reblocks`: it succeeds.
* **Result** — `block_renewal`, and a block that is asked for again after it has expired.
-/

namespace SiemDashboard.BlockRenewal

open Python Tables ResponseRegistry ResponseDecisions ResponseCommands
open ResponseOutcomes (validateExecutionMode validateExecutionState validateExecutionActor
  validateReasonCode validateOutcomeBooleans)

/-! ## Uniqueness -/

/-- No address has two active blocks. -/
def AtMostOneActive (blocked : Table BlockedIp BlockedIp.id) : Prop :=
  ∀ ipAddress, blocked.rows.countP (·.isActiveFor ipAddress) ≤ 1

theorem changes_atMostOneActive {blocked blocked' : Table BlockedIp BlockedIp.id}
    (h : BlocksChange blocked blocked') (hone : AtMostOneActive blocked) :
    AtMostOneActive blocked' := by
  intro ip
  cases h with
  | same => exact hone ip
  | inserted block hblock ipAddress haddress hfree =>
    rw [Table.insert_rows, List.countP_append, List.countP_singleton]
    by_cases hip : ipAddress = ip
    · subst hip
      have hnone : blocked.rows.countP (·.isActiveFor ipAddress) = 0 := by
        simpa [List.countP_eq_zero] using hfree
      rw [hnone]
      split <;> omega
    · have hother : (block blocked.next).isActiveFor ip = false := by
        simp [BlockedIp.isActiveFor, haddress, hip]
      rw [hother]
      exact hone ip
  | deactivated blockId =>
    rw [Table.update_rows, List.countP_map]
    refine (List.countP_mono_left fun b _ hactive => ?_).trans (hone ip)
    simp only [Function.comp_apply] at hactive
    split at hactive
    · simp [BlockedIp.isActiveFor] at hactive
    · exact hactive

theorem stepCall_atMostOneActive (env : Environment) (db : ResponseDb) (call : ResponseCommands.Call)
    (hone : AtMostOneActive db.records.blocked) :
    AtMostOneActive (stepCall env db call).records.blocked := by
  unfold stepCall
  split
  · next res db' hrun => exact changes_atMostOneActive (executeResponseCommand_changes hrun).1 hone
  · exact hone

/-- The one active block of an address. -/
theorem filter_active {blocked : Table BlockedIp BlockedIp.id} (hone : AtMostOneActive blocked)
    {ip : String} {b : BlockedIp} (hmem : b ∈ blocked.rows) (hactive : b.isActiveFor ip = true) :
    blocked.rows.filter (·.isActiveFor ip) = [b] := by
  have hlength := hone ip
  rw [List.countP_eq_length_filter] at hlength
  have hin : b ∈ blocked.rows.filter (·.isActiveFor ip) := List.mem_filter.mpr ⟨hmem, hactive⟩
  rcases hfilter : blocked.rows.filter (·.isActiveFor ip) with _ | ⟨x, _ | ⟨y, rest⟩⟩
  · rw [hfilter] at hin
    cases hin
  · rw [hfilter, List.mem_singleton] at hin
    rw [hin]
    exact hfilter
  · rw [hfilter] at hlength
    simp at hlength

/-- Where at most one block is active, there is one to use just where none has expired. -/
theorem usable_iff {records : Records} (hone : AtMostOneActive records.blocked) (ip : String)
    (now : Int) :
    ((unexpiredBlock? records ip now).isSome = true ∨
        records.blocked.rows.any (·.isActiveFor ip) = false) ↔
      ∀ block ∈ records.blocked.rows, block.isActiveFor ip = true → block.unexpired now = true := by
  constructor
  · rintro (hsome | hnone) block hmem hactive
    · obtain ⟨usable, husable⟩ := Option.isSome_iff_exists.mp hsome
      have hboth := List.find?_some husable
      rw [Bool.and_eq_true] at hboth
      have hin := List.mem_filter.mpr (And.intro hmem hactive)
      rw [filter_active hone (List.mem_of_find?_eq_some husable) hboth.1, List.mem_singleton] at hin
      rw [hin]
      exact hboth.2
    · simp only [List.any_eq_false] at hnone
      exact absurd hactive (hnone block hmem)
  · intro h
    by_cases hany : records.blocked.rows.any (·.isActiveFor ip) = true
    · obtain ⟨block, hmem, hactive⟩ := List.any_eq_true.mp hany
      refine .inl (List.find?_isSome.mpr ⟨block, hmem, ?_⟩)
      rw [hactive, h block hmem hactive]
      rfl
    · exact .inr (Bool.not_eq_true _ ▸ hany)

/-! ## Commands -/

/-- The call blocks an address that is valid, public and not protected; its alert exists and its
    expiry can be read. -/
structure BlockOf (env : Environment) (db : ResponseDb) (call : ResponseCommands.Call) (sourceIp ip : String)
    (expiresAt : Option Int) : Prop where
  resolved : resolveCommand env db call.request = .ok ("block_ip", some sourceIp)
  target : checkBlockTarget env sourceIp = .ok ()
  valid : validateBlockedIp env.ip sourceIp = .ok ip
  alert : call.request.alertId.all (db.references call.moment).alert = true
  expiry : parseExpiresAt env call.request.expiresAt = .ok expiresAt

def blockKey (env : Environment) (request : ResponseCommandRequest) (sourceIp : String) : String :=
  defaultIdempotencyKey env request "block_ip" (some sourceIp)

/-- The tables other than the blocked addresses take the rows of the block: what it refers to
    exists, its correlation id is fresh, and its texts fit their columns. -/
structure Recordable (env : Environment) (db : ResponseDb) (call : ResponseCommands.Call) (sourceIp : String) :
    Prop where
  stepIndex : call.request.playbookStepIndex.all (0 ≤ ·) = true
  refers : (blockDecision call.request "block_ip" sourceIp).storable
    (db.references call.moment) = true
  fresh : db.trail.known
    (generateSoarCorrelationId call.request.alertId call.moment.shortUuid) = false
  outcome : (db.trail.eventByKey? (strip ("outcome-" ++ blockKey env call.request sourceIp))).isSome
      = true ∨
    (strip ("outcome-" ++ blockKey env call.request sourceIp)).length ≤ 160
  event : (db.records.knownEvent? (blockKey env call.request sourceIp)).isSome = true ∨
    (originSurface call.request).length ≤ 64 ∧ (blockKey env call.request sourceIp).length ≤ 128

/-- The block succeeds, and the address then has one active block, which has not expired unless the
    requested expiry has passed. -/
def Reblocks (env : Environment) (db : ResponseDb) (call : ResponseCommands.Call) (ip : String)
    (expiresAt : Option Int) : Prop :=
  ∃ res db' block, call.run env db = .ok (res, db') ∧ res.success = true ∧
    db'.records.blocked.rows.filter (·.isActiveFor ip) = [block] ∧
    (expiresAt.all (call.moment.now < ·) = true → block.unexpired call.moment.now = true)

section Commands

variable {env : Environment} {db : ResponseDb} {call : ResponseCommands.Call} {sourceIp ip : String}
  {expiresAt : Option Int}

/-- What a block of the kind meant runs. -/
theorem BlockOf.run_eq (h : BlockOf env db call sourceIp ip expiresAt) :
    call.run env db =
      recordBlock env db call.moment call.request "block_ip" sourceIp
        (blockKey env call.request sourceIp) := by
  unfold ResponseCommands.Call.run executeResponseCommand
  rw [h.resolved]
  change executeBlockIp env db call.moment call.request "block_ip" sourceIp _ = _
  rw [executeBlockIp, h.target]
  rfl

/-- The decision of a block passes the checks on its texts; its step index may fail. -/
theorem validateDecision_block (request : ResponseCommandRequest) (sourceIp : String) :
    (validateDecision (blockDecision request "block_ip" sourceIp)).isOk = true ↔
      request.playbookStepIndex.all (0 ≤ ·) = true := by
  have haction : strip "block_ip" ≠ "" := by decide +kernel
  have hsummary :
      strip "SIEM blocklist tracking recorded; no firewall or host enforcement occurred." ≠ "" := by
    decide +kernel
  have hsource : ∃ source, validateDecisionSource
      (blockDecision request "block_ip" sourceIp).decisionSource = .ok source := by
    unfold blockDecision
    dsimp only
    split
    · exact ⟨"manual", by decide +kernel⟩
    · exact ⟨"playbook", by decide +kernel⟩
  have hreason : validateReasonCode (some "tracking_only") = .ok (some "tracking_only") := by
    decide +kernel
  obtain ⟨source, hsource⟩ := hsource
  exact validateDecision_isOk haction hsummary hsource hreason

/-- The outcome of a block passes the checks. -/
theorem validateOutcome_block (request : ResponseCommandRequest) (sourceIp key : String)
    (createdNew : Bool) (decisionId logId : Nat) :
    ∃ actor reason, validateOutcome
        (blockOutcome request sourceIp key createdNew decisionId logId) =
      .ok ("tracking_only", "succeeded", actor, reason) := by
  have hsummary : strip (blockOutcome request sourceIp key createdNew decisionId logId).outcomeSummary
      ≠ "" := by
    cases createdNew
    · show strip "Active blocklist tracking already existed; provenance appended." ≠ ""
      decide +kernel
    · show strip ("SIEM blocklist tracking was recorded for this IP; no firewall enforcement " ++
        "occurred.") ≠ ""
      decide +kernel
  have hmode : validateExecutionMode "tracking_only" = .ok "tracking_only" := by decide +kernel
  have hstate : validateExecutionState "succeeded" = .ok "succeeded" := by decide +kernel
  have hactor : ∃ actor, validateExecutionActor (executionActor request) = .ok actor := by
    unfold executionActor
    split
    · exact ⟨"manual", by decide +kernel⟩
    · exact ⟨"system", by decide +kernel⟩
  have hreason : ∃ reason, validateReasonCode
      (blockOutcome request sourceIp key createdNew decisionId logId).reasonCode = .ok reason := by
    cases createdNew
    · refine ⟨some "duplicate_suppressed", ?_⟩
      show validateReasonCode (some "duplicate_suppressed") = _
      decide +kernel
    · refine ⟨some "tracking_only", ?_⟩
      show validateReasonCode (some "tracking_only") = _
      decide +kernel
  obtain ⟨actor, hactor⟩ := hactor
  obtain ⟨reason, hreason⟩ := hreason
  have hbooleans : validateOutcomeBooleans "tracking_only" "succeeded" false true false = .ok () := by
    decide +kernel
  exact ⟨actor, reason, validateOutcome_eq hsummary hmode hstate hactor hreason hbooleans⟩

/-- The outcome of a block refers to what its decision refers to, so only its key may be too long. -/
theorem storableOutcome_block {refs : References} {request : ResponseCommandRequest}
    {sourceIp key mode state actor : String} {reason : Option String} {createdNew : Bool}
    {logId : Nat} {decision : ResponseDecision} {now : Int} {id : Nat}
    (hrefers : (blockDecision request "block_ip" sourceIp).storable refs = true)
    (halert : decision.alertId = request.alertId)
    (hincident : decision.incidentId = request.incidentId) :
    storableOutcome refs (outcomeRow (blockOutcome request sourceIp key createdNew decision.id logId)
        mode state actor reason decision now id) = true ↔
      (strip ("outcome-" ++ key)).length ≤ 160 := by
  simp only [NewDecision.storable, blockDecision, Bool.and_eq_true] at hrefers
  obtain ⟨⟨⟨⟨⟨halerts, hincidents⟩, hexecution⟩, hqueue⟩, happroval⟩, -⟩ := hrefers
  have htype : (strip "succeeded").length ≤ 64 := by decide +kernel
  simp [storableOutcome, outcomeRow, blockOutcome, halert, hincident, halerts, hincidents, hqueue,
    hexecution, happroval, htype]

/-- The event of a block refers to what its decision refers to, so only its texts may be too
    long. -/
theorem storable_block {records : Records} {refs : References} {request : ResponseCommandRequest}
    {sourceIp key : String} {registryId blockId logId : Nat} {createdNew : Bool}
    {decision : ResponseDecision} {expiresAt : Option Int}
    (hstep : request.playbookStepIndex.all (0 ≤ ·) = true)
    (hrefers : (blockDecision request "block_ip" sourceIp).storable refs = true)
    (hblock : (records.blocked.row? blockId).isSome = true) :
    (blockEvent request "block_ip" key registryId blockId createdNew decision logId
        expiresAt).storable records refs = true ↔
      (originSurface request).length ≤ 64 ∧ key.length ≤ 128 := by
  simp only [NewDecision.storable, blockDecision, Bool.and_eq_true] at hrefers
  obtain ⟨⟨⟨⟨⟨halert, hincident⟩, hexecution⟩, hqueue⟩, happroval⟩, hactor⟩ := hrefers
  simp only [NewRegistryEvent.storable, blockEvent, halert, hincident, hexecution, hqueue,
    happroval, hactor, hblock, hstep, Option.all_some, Bool.and_true, Bool.and_eq_true]
  exact and_congr decide_eq_true_iff decide_eq_true_iff

section Parts

variable {trail trail₁ : Trail} {refs : References} {request : ResponseCommandRequest}
  {shortUuid : String} {now : Int} {decision : ResponseDecision}

theorem blockDecision_isOk :
    (createResponseDecision trail refs (blockDecision request "block_ip" sourceIp) shortUuid
        now).isOk = true ↔
      request.playbookStepIndex.all (0 ≤ ·) = true ∧
        (blockDecision request "block_ip" sourceIp).storable refs = true ∧
        trail.known (generateSoarCorrelationId request.alertId shortUuid) = false := by
  rw [createResponseDecision_isOk, validateDecision_block]
  rfl

theorem blockOutcome_isOk {key : String} {createdNew : Bool} {logId : Nat}
    (hcreate : createResponseDecision trail refs (blockDecision request "block_ip" sourceIp)
      shortUuid now = .ok (decision, trail₁))
    (hrefers : (blockDecision request "block_ip" sourceIp).storable refs = true) :
    (appendOutcomeEvent trail₁ refs
        (blockOutcome request sourceIp key createdNew decision.id logId) now).isOk = true ↔
      (trail.eventByKey? (strip ("outcome-" ++ key))).isSome = true ∨
        (strip ("outcome-" ++ key)).length ≤ 160 := by
  obtain ⟨hid, -, hstored, -, houtcomes, -⟩ := createResponseDecision_eq_ok hcreate
  obtain ⟨source, reason, hrow⟩ := createResponseDecision_row hcreate
  obtain ⟨actor, reason', hvalid⟩ :=
    validateOutcome_block request sourceIp key createdNew decision.id logId
  have htype : strip "succeeded" ≠ "" := by decide +kernel
  have hkey : strip ("outcome-" ++ key) ≠ "" := by
    refine strip_ne_empty ?_
    rw [String.toList_append, List.any_append]
    exact Bool.or_eq_true_iff.mpr (.inl (by decide +kernel))
  rw [appendOutcomeEvent_isOk hvalid (hid ▸ hstored) htype hkey,
    storableOutcome_block hrefers (by rw [hrow]; rfl) (by rw [hrow]; rfl)]
  unfold Trail.eventByKey?
  rw [houtcomes]
  rfl

theorem blockEvent_isOk {records records₁ : Records} {key : String} {blockId logId : Nat}
    {createdNew : Bool} {expiresAt : Option Int} {r : RegistryRecord}
    (hstep : request.playbookStepIndex.all (0 ≤ ·) = true)
    (hrefers : (blockDecision request "block_ip" sourceIp).storable refs = true)
    (hr : records₁.registry.row? r.id = some r) (hevents : records₁.events = records.events)
    (hblock : (records₁.blocked.row? blockId).isSome = true) :
    (appendRegistryEvent records₁ refs
        (blockEvent request "block_ip" key r.id blockId createdNew decision logId expiresAt)
        now).isOk = true ↔
      (records.knownEvent? key).isSome = true ∨
        (originSurface request).length ≤ 64 ∧ key.length ≤ 128 := by
  rw [appendRegistryEvent_isOk hr, storable_block hstep hrefers hblock]
  unfold Records.knownEvent? Records.eventByKey?
  rw [hevents]
  rfl

end Parts

/-- A block that is found or made leaves the registry and its events as they were. -/
theorem getOrCreateActiveBlockedIp_registry {records records' : Records} {refs : References}
    {ipAddress : String} {createdBy : Option Nat} {reason : Option String}
    {sourceAlertId : Option Nat} {now : Int} {blockId : Nat} {createdNew : Bool}
    (h : getOrCreateActiveBlockedIp env records refs ipAddress createdBy reason sourceAlertId
      expiresAt now = .ok ((blockId, createdNew), records')) :
    records'.registry = records.registry ∧ records'.events = records.events := by
  obtain ⟨normalized, -, ⟨-, -, -, -, rfl⟩ | ⟨-, -, -, -, rfl⟩⟩ :=
    getOrCreateActiveBlockedIp_eq_ok h <;> exact ⟨rfl, rfl⟩

/-- When a block is recorded: the other tables take its rows, and there is a block to use. -/
theorem recordBlock_isOk (h : BlockOf env db call sourceIp ip expiresAt) :
    (recordBlock env db call.moment call.request "block_ip" sourceIp
        (blockKey env call.request sourceIp)).isOk = true ↔
      Recordable env db call sourceIp ∧
        ((unexpiredBlock? db.records ip call.moment.now).isSome = true ∨
          db.records.blocked.rows.any (·.isActiveFor ip) = false) := by
  obtain ⟨⟨r, records₁⟩, hupsert⟩ := Checks.isOk_iff.mp
    (upsertIndicatorIdentity_isOk (validateBlockedIp_normalizes env.py h.valid))
  obtain ⟨value, -, hr, -, hblocks, hevents⟩ := upsertIndicatorIdentity_eq_ok hupsert
  have husable : (getOrCreateActiveBlockedIp env records₁ (db.references call.moment) sourceIp
        call.request.actorUserId
        (some ((given call.request.reason).getD "Canonical block_ip tracking"))
        call.request.alertId expiresAt call.moment.now).isOk = true ↔
      ((unexpiredBlock? db.records ip call.moment.now).isSome = true ∨
        db.records.blocked.rows.any (·.isActiveFor ip) = false) := by
    rw [getOrCreateActiveBlockedIp_isOk h.valid h.alert, unexpiredBlock?, hblocks]
    rfl
  have hevent {blockId logId : Nat} {createdNew : Bool} {records₂ : Records}
      {decision : ResponseDecision}
      (hstep : call.request.playbookStepIndex.all (0 ≤ ·) = true)
      (hrefers : (blockDecision call.request "block_ip" sourceIp).storable
        (db.references call.moment) = true)
      (hblocked : getOrCreateActiveBlockedIp env records₁ (db.references call.moment) sourceIp
        call.request.actorUserId
        (some ((given call.request.reason).getD "Canonical block_ip tracking"))
        call.request.alertId expiresAt call.moment.now = .ok ((blockId, createdNew), records₂)) :
      (appendRegistryEvent records₂ (db.references call.moment)
          (blockEvent call.request "block_ip" (blockKey env call.request sourceIp) r.id blockId
            createdNew decision logId expiresAt) call.moment.now).isOk = true ↔
        (db.records.knownEvent? (blockKey env call.request sourceIp)).isSome = true ∨
          (originSurface call.request).length ≤ 64 ∧
            (blockKey env call.request sourceIp).length ≤ 128 := by
    obtain ⟨hregistry, hevents₂⟩ := getOrCreateActiveBlockedIp_registry hblocked
    obtain ⟨block, hblock, -, -⟩ := getOrCreateActiveBlockedIp_stored hblocked h.valid
    refine blockEvent_isOk hstep hrefers ?_ (hevents₂.trans hevents) (by rw [hblock]; rfl)
    rw [hregistry]
    exact recordOf?_stored hr
  constructor
  · intro hok
    obtain ⟨expiresAt', hexpiry, hok⟩ := Checks.isOk_bind.mp hok
    obtain rfl := Except.ok.inj (h.expiry.symm.trans hexpiry)
    obtain ⟨⟨r', records₁'⟩, hupsert', hok⟩ := Checks.isOk_bind.mp hok
    cases Except.ok.inj (hupsert.symm.trans hupsert')
    obtain ⟨⟨⟨blockId, createdNew⟩, records₂⟩, hblocked, hok⟩ := Checks.isOk_bind.mp hok
    obtain ⟨⟨decision, trail₁⟩, hcreate, hok⟩ := Checks.isOk_bind.mp hok
    obtain ⟨⟨outcome, trail₂⟩, happend, hok⟩ := Checks.isOk_bind.mp hok
    obtain ⟨⟨event, records₃⟩, hregistered, -⟩ := Checks.isOk_bind.mp hok
    obtain ⟨hstep, hrefers, hfresh⟩ := blockDecision_isOk.mp (Checks.isOk_iff.mpr ⟨_, hcreate⟩)
    exact
      ⟨{ stepIndex := hstep
         refers := hrefers
         fresh := hfresh
         outcome := (blockOutcome_isOk hcreate hrefers).mp (Checks.isOk_iff.mpr ⟨_, happend⟩)
         event := (hevent hstep hrefers hblocked).mp (Checks.isOk_iff.mpr ⟨_, hregistered⟩) },
        husable.mp (Checks.isOk_iff.mpr ⟨_, hblocked⟩)⟩
  · rintro ⟨hrecordable, hfree⟩
    obtain ⟨⟨⟨blockId, createdNew⟩, records₂⟩, hblocked⟩ := Checks.isOk_iff.mp (husable.mpr hfree)
    obtain ⟨⟨decision, trail₁⟩, hcreate⟩ := Checks.isOk_iff.mp
      (blockDecision_isOk.mpr ⟨hrecordable.stepIndex, hrecordable.refers, hrecordable.fresh⟩)
    refine Checks.isOk_bind.mpr ⟨expiresAt, h.expiry, ?_⟩
    refine Checks.isOk_bind.mpr ⟨(r, records₁), hupsert, ?_⟩
    refine Checks.isOk_bind.mpr ⟨((blockId, createdNew), records₂), hblocked, ?_⟩
    refine Checks.isOk_bind.mpr ⟨(decision, trail₁), hcreate, ?_⟩
    obtain ⟨⟨outcome, trail₂⟩, happend⟩ := Checks.isOk_iff.mp
      ((blockOutcome_isOk hcreate hrecordable.refers).mpr hrecordable.outcome)
    obtain ⟨⟨event, records₃⟩, hregistered⟩ := Checks.isOk_iff.mp
      ((hevent hrecordable.stepIndex hrecordable.refers hblocked).mpr hrecordable.event)
    refine Checks.isOk_bind.mpr ⟨(outcome, trail₂), happend, ?_⟩
    exact Checks.isOk_bind.mpr ⟨(event, records₃), hregistered, rfl⟩

/-- What a block that is recorded leaves: success, and a block of the address. -/
theorem recordBlock_leaves {res : ResponseCommandResult} {db' : ResponseDb} {key : String}
    (h : BlockOf env db call sourceIp ip expiresAt)
    (hrecord : recordBlock env db call.moment call.request "block_ip" sourceIp key =
      .ok (res, db')) :
    res.success = true ∧ ∃ block ∈ db'.records.blocked.rows, block.isActiveFor ip = true ∧
      (expiresAt.all (call.moment.now < ·) = true → block.unexpired call.moment.now = true) := by
  obtain ⟨expiresAt', hexpiry, hrecord⟩ := Checks.bind_eq_ok.mp hrecord
  obtain rfl := Except.ok.inj (h.expiry.symm.trans hexpiry)
  obtain ⟨⟨r, records₁⟩, -, hrecord⟩ := Checks.bind_eq_ok.mp hrecord
  obtain ⟨⟨⟨blockId, createdNew⟩, records₂⟩, hblocked, hrecord⟩ := Checks.bind_eq_ok.mp hrecord
  obtain ⟨⟨decision, trail₁⟩, -, hrecord⟩ := Checks.bind_eq_ok.mp hrecord
  obtain ⟨⟨outcome, trail₂⟩, -, hrecord⟩ := Checks.bind_eq_ok.mp hrecord
  obtain ⟨⟨event, records₃⟩, hevent, hrecord⟩ := Checks.bind_eq_ok.mp hrecord
  cases hrecord
  refine ⟨rfl, ?_⟩
  rw [markAlert_records]
  change ∃ block ∈ records₃.blocked.rows, _
  rw [appendRegistryEvent_blocked hevent]
  obtain ⟨normalized, hvalid, hcases⟩ := getOrCreateActiveBlockedIp_eq_ok hblocked
  obtain rfl := Except.ok.inj (h.valid.symm.trans hvalid)
  rcases hcases with ⟨block, hblock, -, -, rfl⟩ | ⟨-, -, -, -, rfl⟩
  · have hboth := List.find?_some hblock
    rw [Bool.and_eq_true] at hboth
    exact ⟨block, List.mem_of_find?_eq_some hblock, hboth.1, fun _ => hboth.2⟩
  · rw [insertBlock_blocked, Table.insert_rows]
    refine ⟨_, List.mem_append_right _ (List.mem_singleton_self _), ?_, id⟩
    simp [BlockedIp.isActiveFor, newBlock]

/-- When a block of the kind meant succeeds. -/
theorem reblocks_iff (h : BlockOf env db call sourceIp ip expiresAt)
    (hone : AtMostOneActive db.records.blocked) :
    Reblocks env db call ip expiresAt ↔
      Recordable env db call sourceIp ∧ ∀ block ∈ db.records.blocked.rows,
        block.isActiveFor ip = true → block.unexpired call.moment.now = true := by
  rw [← usable_iff hone, ← recordBlock_isOk h, Checks.isOk_iff]
  constructor
  · rintro ⟨res, db', block, hrun, -⟩
    exact ⟨(res, db'), h.run_eq ▸ hrun⟩
  · rintro ⟨⟨res, db'⟩, hrecord⟩
    have hrun : call.run env db = .ok (res, db') := h.run_eq ▸ hrecord
    obtain ⟨hsuccess, block, hmem, hactive, hunexpired⟩ := recordBlock_leaves h hrecord
    have hafter := changes_atMostOneActive (executeResponseCommand_changes hrun).1 hone
    exact ⟨res, db', block, hrun, hsuccess, filter_active hafter hmem hactive, hunexpired⟩

end Commands

/-! ## Result -/

/-- Every block of the kind meant succeeds. -/
def Renews (env : Environment) (db : ResponseDb) (call : ResponseCommands.Call) : Prop :=
  ∀ sourceIp ip expiresAt, BlockOf env db call sourceIp ip expiresAt →
    Reblocks env db call ip expiresAt

/-- The other tables take the rows of the block, and no active block of its address has expired. -/
def RenewsWhen (env : Environment) (db : ResponseDb) (call : ResponseCommands.Call) : Prop :=
  ∀ sourceIp ip expiresAt, BlockOf env db call sourceIp ip expiresAt →
    Recordable env db call sourceIp ∧ ∀ block ∈ db.records.blocked.rows,
      block.isActiveFor ip = true → block.unexpired call.moment.now = true

/-- **Blocking again.**  In every run of commands from tables without blocks, every block of a
    valid, public and unprotected address succeeds, and leaves the one active block of the address,
    just where at each of these calls the other tables take its rows and no active block of the
    address has expired. -/
theorem block_renewal (env : Environment) {db : ResponseDb} (hempty : db.records.blocked.rows = [])
    (calls : List ResponseCommands.Call) :
    Runs.Along (stepCall env) (Renews env) db calls ↔
      Runs.Along (stepCall env) (RenewsWhen env) db calls := by
  have hone : AtMostOneActive db.records.blocked := by
    intro ip
    rw [hempty]
    exact Nat.zero_le 1
  refine Runs.along_congr_of_invariant
    (fun db call => stepCall_atMostOneActive env db call) (fun db call hone => ?_) hone calls
  exact forall₃_congr fun sourceIp ip expiresAt =>
    forall_congr' fun hblock => reblocks_iff hblock hone

theorem block_renewal_empty :
    ResponseDb.empty.records.blocked.rows = [] ∧
      ∀ calls, Runs.Along (stepCall plainEnvironment) (Renews plainEnvironment) .empty calls ↔
        Runs.Along (stepCall plainEnvironment) (RenewsWhen plainEnvironment) .empty calls :=
  ⟨rfl, block_renewal plainEnvironment rfl⟩

/-! ## A block that has expired -/

/-- The form blocks the address, with its own key. -/
def formBlock (minute : Nat) (key shortUuid : String) (expiresAt : Option String) : ResponseCommands.Call where
  moment := plainMoment minute shortUuid
  request :=
    { action := "block_ip"
      indicatorValue := some publicAddress
      actorUserId := some 1
      originSurface := "blocklist_form"
      idempotencyKey := some key
      expiresAt := expiresAt }

/-- A block until an hour after the start. -/
def hourBlock : ResponseCommands.Call := formBlock 1 "first" "0123456789ab" (some "1970-01-01T01:00:00Z")

/-- A block after that hour. -/
def laterBlock : ResponseCommands.Call := formBlock 61 "second" "0123456789ac" none

theorem laterBlock_blockOf :
    BlockOf plainEnvironment (stepCall plainEnvironment .empty hourBlock) laterBlock publicAddress
      publicAddress none where
  resolved := Checks.toOption_eq_some.mp (by decide +kernel)
  target := by decide +kernel
  valid := by decide +kernel
  alert := rfl
  expiry := rfl

/-- A block is recorded for an hour.  A minute after that hour, the address cannot be blocked
    again. -/
theorem expired_block_stays :
    ¬ ∀ calls : List ResponseCommands.Call,
      (∀ call ∈ calls, call.request.action ∈ ["block_ip", "remove_tracking"]) →
      calls.Pairwise (fun call call' => call.moment.now ≤ call'.moment.now) →
      Runs.Along (stepCall plainEnvironment) (Renews plainEnvironment) .empty calls := by
  intro h
  obtain ⟨-, hrenews, -⟩ := h [hourBlock, laterBlock] (by decide) (by decide)
  obtain ⟨res, db', -, hrun, -⟩ := hrenews publicAddress publicAddress none laterBlock_blockOf
  have hraises : (laterBlock.run plainEnvironment
      (stepCall plainEnvironment .empty hourBlock)).isOk = false := by
    decide +kernel
  rw [hrun] at hraises
  cases hraises

end SiemDashboard.BlockRenewal
