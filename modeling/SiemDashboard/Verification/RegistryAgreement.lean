import SiemDashboard.Core.ResponseCommandService
import SiemDashboard.Lib.Runs

/-!
# Results and registry

When the disposition a response command returns is what the registry then shows for the indicator.
A registry event whose key is known leaves the record alone, although the command returns the
disposition it asked for.

* **Agreement** — `Agrees`: a successful result and the record after it say the same.
* **Condition** — `AgreesWhen`: the key is new, or the record shows the disposition already.
* **Commands** — one lemma for each.
* **Result** — `registry_agreement`, and a run that blocks, removes and blocks again.
-/

namespace SiemDashboard.RegistryAgreement

open Tables ResponseRegistry ResponseDecisions ResponseCommands

/-! ## Agreement -/

/-- The indicator a request is about. -/
def indicatorOf (env : Environment) (db : ResponseDb) (request : ResponseCommandRequest) :
    Option String :=
  match resolveSourceIp env db request with
  | .ok (some sourceIp) =>
    (normalizeIndicatorValue env.py env.ip indicatorTypeIp sourceIp).toOption
  | _ => none

/-- The record of the indicator shows the disposition. -/
def Shows (records : Records) (value : Option String) (d : Disposition) : Prop :=
  ∃ v r, value = some v ∧ records.recordOf? indicatorTypeIp v = some r ∧ r.currentDisposition = d

/-- The record of the indicator points to the block, which is active for it. -/
def Tracks (records : Records) (value : Option String) (blockId : Option Nat) : Prop :=
  ∃ v r block, value = some v ∧ records.recordOf? indicatorTypeIp v = some r ∧
    r.currentDisposition = .blocklistTracked ∧ r.activeBlockedIpId = some block.id ∧
    blockId = some block.id ∧ records.blocked.row? block.id = some block ∧
    block.isActiveFor v = true

/-- The result of a command agrees with the tables after it. -/
structure Agreement (db' : ResponseDb) (value : Option String) (res : ResponseCommandResult) :
    Prop where
  disposition : ∀ d, res.disposition = some d → Shows db'.records value d
  block : res.action = "block_ip" → Tracks db'.records value res.blockedIpId

/-- A call that succeeds agrees with the tables after it. -/
def Agrees (env : Environment) (db : ResponseDb) (call : ResponseCommands.Call) : Prop :=
  ∀ res db', call.run env db = .ok (res, db') → res.success = true →
    Agreement db' (indicatorOf env db call.request) res

/-! ## Condition -/

/-- What the record of the indicator shows; a new record is observed and points to no block. -/
def shownOf (records : Records) (value : String) : Disposition × Option Nat :=
  disposedAs (records.recordOf? indicatorTypeIp value)

/-- The record shows already what the command returns when it appends no event. -/
def ShownAlready (env : Environment) (db : ResponseDb) (w : Moment) (action sourceIp value : String) :
    Prop :=
  if action = "block_ip" then
    ∃ block, unexpiredBlock? db.records value w.now = some block ∧
      shownOf db.records value = (.blocklistTracked, some block.id)
  else if action = "monitor" then (shownOf db.records value).1 = .monitored
  else if action = "stop_monitor" then (shownOf db.records value).1 ≠ .monitored
  else if action = "remove_tracking" then
    latestActiveBlock? db.records (env.ip.inet sourceIp) = none ∨
      (shownOf db.records value).1 = .removed
  else if action = "add_note" then True
  else (shownOf db.records value).1 = .escalated

/-- The key of the command belongs to no registry event yet, or the record shows already what the
    command returns. -/
def AgreesWhen (env : Environment) (db : ResponseDb) (call : ResponseCommands.Call) : Prop :=
  ∀ action sourceIp value,
    resolveCommand env db call.request = .ok (action, some sourceIp) →
    normalizeIndicatorValue env.py env.ip indicatorTypeIp sourceIp = .ok value →
    db.records.knownEvent? (defaultIdempotencyKey env call.request action (some sourceIp)) = none ∨
      ShownAlready env db call.moment action sourceIp value

/-! ## Commands -/

section Commands

variable {env : Environment} {db db' : ResponseDb} {w : Moment} {request : ResponseCommandRequest}
  {action sourceIp key value : String} {res : ResponseCommandResult}

theorem shows_iff {records : Records} {r : RegistryRecord} {d : Disposition}
    (hr : records.recordOf? indicatorTypeIp value = some r) :
    Shows records (some value) d ↔ r.currentDisposition = d := by
  constructor
  · rintro ⟨v, r', hv, hr', hd⟩
    cases hv
    rw [hr] at hr'
    cases hr'
    exact hd
  · exact fun hd => ⟨value, r, rfl, hr, hd⟩

/-- The agreement of a result that has no block to point to. -/
theorem agreement_iff {d : Disposition} (action : String) (haction : res.action = action)
    (hne : action ≠ "block_ip") (hd : res.disposition = some d) :
    Agreement db' (some value) res ↔ Shows db'.records (some value) d := by
  constructor
  · exact fun h => h.disposition d hd
  · refine fun h => ⟨fun d' hd' => ?_, fun hblock => absurd (haction.symm.trans hblock) hne⟩
    rw [hd] at hd'
    cases hd'
    exact h

/-- The record after its upsert and an event that is to show in it. -/
theorem shown_after {records records₁ records₂ : Records} {refs : References}
    {new : NewRegistryEvent} {now : Int} {event : RegistryEvent} {r : RegistryRecord}
    {d : Disposition} (hr : records₁.recordOf? indicatorTypeIp value = some r)
    (hshown : disposedAs (some r) = shownOf records value)
    (hevents : records₁.events = records.events)
    (happend : appendRegistryEvent records₁ refs new now = .ok (event, records₂))
    (hd : new.dispositionAfter = some d) (hupdate : new.updateRegistry = true)
    (hid : new.registryId = r.id) :
    ∃ r', records₂.recordOf? indicatorTypeIp value = some r' ∧ r'.id = r.id ∧
      records₂.blocked = records₁.blocked ∧
      disposedAs (some r') =
        if records.knownEvent? new.idempotencyKey = none then
          (d, new.blockedIpId.or r.activeBlockedIpId)
        else shownOf records value := by
  have hknown : records₁.knownEvent? new.idempotencyKey =
      records.knownEvent? new.idempotencyKey := by
    unfold Records.knownEvent? Records.eventByKey?
    rw [hevents]
  rw [← hknown, ← hshown]
  exact appendRegistryEvent_shown happend hd hupdate hr hid

/-- Such a record shows the disposition of the event just where the event is new, or it did before. -/
theorem shows_event_iff {records : Records} {known : Option RegistryEvent} {d : Disposition}
    {b : Option Nat} {shown : Disposition × Option Nat} {r' : RegistryRecord}
    (hr' : records.recordOf? indicatorTypeIp value = some r')
    (h : disposedAs (some r') = if known = none then (d, b) else shown) :
    Shows records (some value) d ↔ known = none ∨ shown.1 = d := by
  rw [shows_iff hr']
  have hdisposition : r'.currentDisposition = (disposedAs (some r')).1 := rfl
  rw [hdisposition, h]
  split <;> simp_all

/-- Updates that leave the disposition leave what is shown. -/
theorem shows_updateRecord {records : Records} {id : Nat} {change : RecordUpdate records}
    (hchange : ∀ r, (change.apply r).currentDisposition = r.currentDisposition) (d : Disposition) :
    Shows (records.updateRecord id change) (some value) d ↔ Shows records (some value) d := by
  cases hr : records.recordOf? indicatorTypeIp value with
  | none =>
    have hnone : (records.updateRecord id change).recordOf? indicatorTypeIp value = none := by
      rw [updateRecord_recordOf?, hr, Option.map_none]
    simp [Shows, hr, hnone]
  | some r =>
    have hsome : (records.updateRecord id change).recordOf? indicatorTypeIp value =
        some (if r.id = id then change.apply r else r) := by
      rw [updateRecord_recordOf?, hr, Option.map_some]
    rw [shows_iff hr, shows_iff hsome]
    split <;> simp [hchange]

/-- The result of a command agrees with the tables just where the condition holds. -/
def CommandAgrees (env : Environment) (db db' : ResponseDb) (w : Moment)
    (action sourceIp key : String) (res : ResponseCommandResult) : Prop :=
  ∃ value, normalizeIndicatorValue env.py env.ip indicatorTypeIp sourceIp = .ok value ∧
    (Agreement db' (some value) res ↔
      db.records.knownEvent? key = none ∨ ShownAlready env db w action sourceIp value)

theorem executeAddNote_agrees
    (h : executeAddNote env db w request "add_note" sourceIp key = .ok (res, db')) :
    CommandAgrees env db db' w "add_note" sourceIp key res := by
  obtain ⟨⟨r, records₁⟩, hupsert, h⟩ := Checks.bind_eq_ok.mp h
  obtain ⟨⟨event, records₂⟩, happend, h⟩ := Checks.bind_eq_ok.mp h
  cases h
  obtain ⟨value, hvalue, hr, -, -, -⟩ := upsertIndicatorIdentity_eq_ok hupsert
  refine ⟨value, hvalue, iff_of_true ?_ (.inr (by simp [ShownAlready]))⟩
  refine (agreement_iff "add_note" rfl (by decide) rfl).mpr ((shows_updateRecord (fun _ => rfl) _).mpr ?_)
  -- a note does not show in the record
  have hr₂ : records₂.recordOf? indicatorTypeIp value = some r := by
    rcases appendRegistryEvent_eq_ok happend with ⟨-, rfl⟩ | ⟨-, -, hshown⟩
    · exact hr
    · rw [hshown _ rfl, hr]
      simp [noteEvent]
  exact (shows_iff hr₂).mpr rfl

theorem executeStopMonitor_agrees
    (h : executeStopMonitor env db w request "stop_monitor" sourceIp key = .ok (res, db')) :
    CommandAgrees env db db' w "stop_monitor" sourceIp key res := by
  obtain ⟨⟨r, records₁⟩, hobtain, h⟩ := Checks.bind_eq_ok.mp h
  obtain ⟨value, hvalue, hr, hshown, -, hevents⟩ := obtainRecord_eq_ok hobtain
  refine ⟨value, hvalue, ?_⟩
  have hdisposition : r.currentDisposition = (shownOf db.records value).1 :=
    congrArg Prod.fst hshown
  simp only [ShownAlready, String.reduceEq, if_false, if_true]
  dsimp only at h
  split at h
  · next hinactive =>
    cases h
    rw [agreement_iff "stop_monitor" rfl (by decide) rfl, shows_iff hr]
    rw [hdisposition] at hinactive
    simp [hinactive]
  · next hactive =>
    rw [not_not, hdisposition] at hactive
    obtain ⟨⟨event, records₂⟩, happend, h⟩ := Checks.bind_eq_ok.mp h
    cases h
    obtain ⟨r', hr', -, -, hshown'⟩ := shown_after hr hshown hevents happend rfl rfl rfl
    rw [agreement_iff "stop_monitor" rfl (by decide) rfl, shows_updateRecord fun _ => rfl, shows_event_iff hr' hshown']
    simp [hactive, removalEvent]

theorem executeRemoveTracking_agrees
    (h : executeRemoveTracking env db w request "remove_tracking" sourceIp key = .ok (res, db')) :
    CommandAgrees env db db' w "remove_tracking" sourceIp key res := by
  obtain ⟨⟨r, records₁⟩, hupsert, h⟩ := Checks.bind_eq_ok.mp h
  obtain ⟨value, hvalue, hr, hshown, -, hevents⟩ := upsertIndicatorIdentity_eq_ok hupsert
  refine ⟨value, hvalue, ?_⟩
  simp only [ShownAlready, String.reduceEq, if_false, if_true]
  dsimp only at h
  split at h
  · next hblock =>
    cases h
    rw [agreement_iff "remove_tracking" rfl (by decide) rfl, shows_iff hr]
    simp [hblock]
  · next block hblock =>
    obtain ⟨⟨event, records₂⟩, happend, h⟩ := Checks.bind_eq_ok.mp h
    cases h
    have hkept : (records₁.deactivateBlock block.id).recordOf? indicatorTypeIp value = some r := hr
    obtain ⟨r', hr', -, -, hshown'⟩ := shown_after hkept hshown hevents happend rfl rfl rfl
    rw [agreement_iff "remove_tracking" rfl (by decide) rfl, shows_updateRecord fun _ => rfl, shows_event_iff hr' hshown']
    simp [hblock, removalEvent]

theorem startMonitor_agrees {expiresAt : Int}
    (h : startMonitor env db w request "monitor" sourceIp key expiresAt = .ok (res, db')) :
    CommandAgrees env db db' w "monitor" sourceIp key res := by
  obtain ⟨⟨r, records₁⟩, hupsert, h⟩ := Checks.bind_eq_ok.mp h
  obtain ⟨⟨decision, trail₁⟩, -, h⟩ := Checks.bind_eq_ok.mp h
  obtain ⟨⟨outcome, trail₂⟩, -, h⟩ := Checks.bind_eq_ok.mp h
  obtain ⟨⟨event, records₂⟩, happend, h⟩ := Checks.bind_eq_ok.mp h
  cases h
  obtain ⟨value, hvalue, hr, hshown, -, hevents⟩ := upsertIndicatorIdentity_eq_ok hupsert
  refine ⟨value, hvalue, ?_⟩
  obtain ⟨r', hr', -, -, hshown'⟩ := shown_after hr hshown hevents happend rfl rfl rfl
  rw [agreement_iff "monitor" rfl (by decide) rfl, markAlert_records, shows_event_iff hr' hshown']
  rfl

theorem executeMonitor_agrees
    (h : executeMonitor env db w request "monitor" sourceIp key = .ok (res, db')) :
    CommandAgrees env db db' w "monitor" sourceIp key res := by
  obtain ⟨expiresAt, -, h⟩ := Checks.bind_eq_ok.mp h
  obtain ⟨existing, hget, h⟩ := Checks.bind_eq_ok.mp h
  obtain ⟨value, hvalue, hexisting⟩ := getIndicatorByValue_eq_ok.mp hget
  split at h
  · next r hr =>
    cases h
    rw [Option.filter_eq_some_iff, decide_eq_true_eq] at hr
    obtain ⟨rfl, hmonitored⟩ := hr
    refine ⟨value, hvalue, ?_⟩
    rw [agreement_iff "monitor" rfl (by decide) rfl, shows_updateRecord fun _ => rfl, shows_iff hexisting]
    simp [ShownAlready, shownOf, hexisting, disposedAs, hmonitored]
  · exact startMonitor_agrees h

theorem executeEscalate_agrees {address : Option String}
    (h : executeEscalate env db w request "flag_high_priority" address key = .ok (res, db')) :
    (given address = none → Agreement db' none res) ∧
      (given address = some sourceIp →
        CommandAgrees env db db' w "flag_high_priority" sourceIp key res) := by
  obtain ⟨⟨incidentId, db₁⟩, hensure, h⟩ := Checks.bind_eq_ok.mp h
  obtain ⟨⟨registry, records₁⟩, hupsert, h⟩ := Checks.bind_eq_ok.mp h
  obtain ⟨⟨decision, trail₁⟩, -, h⟩ := Checks.bind_eq_ok.mp h
  obtain ⟨⟨outcome, trail₂⟩, -, h⟩ := Checks.bind_eq_ok.mp h
  obtain ⟨⟨recorded, records₂⟩, hrecord, h⟩ := Checks.bind_eq_ok.mp h
  cases h
  obtain ⟨hrecords, -⟩ := ensureEscalationIncident_eq_ok hensure
  rw [hrecords] at hupsert
  constructor
  · intro hnone
    unfold upsertGiven at hupsert
    rw [hnone] at hupsert
    cases hupsert
    cases hrecord
    refine ⟨nofun, fun hblock => absurd hblock ?_⟩
    show "flag_high_priority" ≠ "block_ip"
    decide
  · intro hsome
    unfold upsertGiven at hupsert
    rw [hsome] at hupsert
    obtain ⟨⟨r, _⟩, hupsert, hpair⟩ := Checks.map_eq_ok.mp hupsert
    cases hpair
    obtain ⟨⟨event, _⟩, happend, hpair⟩ := Checks.map_eq_ok.mp hrecord
    cases hpair
    obtain ⟨value, hvalue, hr, hshown, -, hevents⟩ := upsertIndicatorIdentity_eq_ok hupsert
    refine ⟨value, hvalue, ?_⟩
    obtain ⟨r', hr', -, -, hshown'⟩ := shown_after hr hshown hevents happend rfl rfl rfl
    rw [agreement_iff "flag_high_priority" rfl (by decide) rfl, markAlert_records, shows_event_iff hr' hshown']
    rfl

/-- Where the block is active for the indicator, the record tracks it just where it says so. -/
theorem tracks_iff {records : Records} {r : RegistryRecord} {block : BlockedIp}
    (hr : records.recordOf? indicatorTypeIp value = some r)
    (hblock : records.blocked.row? block.id = some block)
    (hactive : block.isActiveFor value = true) :
    Tracks records (some value) (some block.id) ↔
      disposedAs (some r) = (.blocklistTracked, some block.id) := by
  constructor
  · rintro ⟨v, r', block', hv, hr', hdisposition, hpoints, hid, -, -⟩
    cases hv
    rw [hr] at hr'
    cases hr'
    rw [disposedAs, hdisposition, hpoints, hid]
  · intro h
    exact ⟨value, r, block, rfl, hr, congrArg Prod.fst h, congrArg Prod.snd h, rfl, hblock, hactive⟩

theorem agreement_block_iff (haction : res.action = "block_ip")
    (hd : res.disposition = some .blocklistTracked) :
    Agreement db' (some value) res ↔ Tracks db'.records (some value) res.blockedIpId := by
  constructor
  · exact fun h => h.block haction
  · intro h
    refine ⟨fun d hd' => ?_, fun _ => h⟩
    rw [hd] at hd'
    cases hd'
    obtain ⟨v, r, block, hv, hr, hdisposition, -⟩ := h
    exact ⟨v, r, hv, hr, hdisposition⟩

theorem recordBlock_agrees
    (h : recordBlock env db w request "block_ip" sourceIp key = .ok (res, db')) :
    CommandAgrees env db db' w "block_ip" sourceIp key res := by
  obtain ⟨expiresAt, -, h⟩ := Checks.bind_eq_ok.mp h
  obtain ⟨⟨r, records₁⟩, hupsert, h⟩ := Checks.bind_eq_ok.mp h
  obtain ⟨⟨⟨blockId, createdNew⟩, records₂⟩, hblocked, h⟩ := Checks.bind_eq_ok.mp h
  obtain ⟨⟨decision, trail₁⟩, -, h⟩ := Checks.bind_eq_ok.mp h
  obtain ⟨⟨outcome, trail₂⟩, -, h⟩ := Checks.bind_eq_ok.mp h
  obtain ⟨⟨event, records₃⟩, happend, h⟩ := Checks.bind_eq_ok.mp h
  cases h
  obtain ⟨value, hvalue, hr, hshown, hblocks, hevents⟩ := upsertIndicatorIdentity_eq_ok hupsert
  obtain ⟨normalized, hvalid, hcases⟩ := getOrCreateActiveBlockedIp_eq_ok hblocked
  obtain rfl : normalized = value := Option.some_injective _
    ((validateBlockedIp_canonical hvalid).1.symm.trans (normalizeIndicatorValue_ip hvalue).2)
  obtain ⟨block, hstored, rfl, hactive⟩ := getOrCreateActiveBlockedIp_stored hblocked hvalid
  obtain ⟨hr₂, hevents₂⟩ : records₂.recordOf? indicatorTypeIp normalized = some r ∧
      records₂.events = db.records.events := by
    rcases hcases with ⟨-, -, -, -, rfl⟩ | ⟨-, -, -, -, rfl⟩ <;> exact ⟨hr, hevents⟩
  obtain ⟨r', hr', -, hblocks₃, hshown'⟩ := shown_after hr₂ hshown hevents₂ happend rfl rfl rfl
  have hfirst : unexpiredBlock? records₁ normalized w.now =
      unexpiredBlock? db.records normalized w.now := by
    unfold unexpiredBlock?
    rw [hblocks]
  refine ⟨normalized, hvalue, ?_⟩
  rw [agreement_block_iff rfl rfl, markAlert_records]
  refine (tracks_iff hr' (by rw [hblocks₃]; exact hstored) hactive).trans ?_
  rw [hshown']
  simp only [blockEvent, Option.some_or, ShownAlready, if_true]
  by_cases hknown : db.records.knownEvent? key = none
  · simp [hknown]
  · simp only [hknown, if_false, false_or]
    rcases hcases with ⟨first, hfound, hid, -, -⟩ | ⟨hnone, hid, -, -, -⟩
    · simp [← hfirst, hfound, hid]
    · -- the record cannot point to a block that is only just made
      have hnot : shownOf db.records normalized ≠ (.blocklistTracked, some block.id) := by
        intro hpoints
        rw [shownOf, ← hshown] at hpoints
        have hlt := records₁.tracked r.id r block.id (recordOf?_stored hr) (congrArg Prod.snd hpoints)
        omega
      simp [← hfirst, hnone, hnot]

end Commands

/-! ## Result -/

section Result

variable {env : Environment} {db db' : ResponseDb} {call : ResponseCommands.Call} {res : ResponseCommandResult}
  {action sourceIp : String}

/-- The condition, for a request that is resolved with an address. -/
theorem agreesWhen_iff {value : String}
    (hresolve : resolveCommand env db call.request = .ok (action, some sourceIp))
    (hvalue : normalizeIndicatorValue env.py env.ip indicatorTypeIp sourceIp = .ok value) :
    AgreesWhen env db call ↔
      db.records.knownEvent? (defaultIdempotencyKey env call.request action (some sourceIp)) = none ∨
        ShownAlready env db call.moment action sourceIp value := by
  constructor
  · exact fun h => h action sourceIp value hresolve hvalue
  · intro h action' sourceIp' value' hresolve' hvalue'
    cases hresolve.symm.trans hresolve'
    cases hvalue.symm.trans hvalue'
    exact h

/-- A successful call agrees just where its command does. -/
theorem agreement_iff_agreesWhen
    (hresolve : resolveCommand env db call.request = .ok (action, some sourceIp))
    (h : CommandAgrees env db db' call.moment action sourceIp
      (defaultIdempotencyKey env call.request action (some sourceIp)) res) :
    Agreement db' (indicatorOf env db call.request) res ↔ AgreesWhen env db call := by
  obtain ⟨value, hvalue, hiff⟩ := h
  have hindicator : indicatorOf env db call.request = some value := by
    unfold indicatorOf
    rw [(resolveCommand_eq_ok hresolve).1]
    exact congrArg Except.toOption hvalue
  rw [agreesWhen_iff hresolve hvalue, hindicator]
  exact hiff

/-- A request without an address is about no indicator. -/
theorem without_address {address : Option String}
    (hresolve : resolveCommand env db call.request = .ok (action, address))
    (hgiven : given address = none) :
    indicatorOf env db call.request = none ∧ AgreesWhen env db call := by
  have hvalue (s : String) (hs : address = some s) :
      (normalizeIndicatorValue env.py env.ip indicatorTypeIp s).toOption = none := by
    obtain rfl : s = "" := by simpa [given, hs] using hgiven
    have hblank : Python.strip "" = "" := by decide
    simp [normalizeIndicatorValue, hblank, Except.toOption]
  constructor
  · unfold indicatorOf
    rw [(resolveCommand_eq_ok hresolve).1]
    cases address with
    | none => rfl
    | some s => exact hvalue s rfl
  · intro action' s value hresolve' hnormalized
    cases hresolve.symm.trans hresolve'
    have hnone := hvalue s rfl
    rw [hnormalized] at hnone
    cases hnone

/-- What a successful block command has recorded. -/
theorem recordBlock_of_success {key : String} {w : Moment} {request : ResponseCommandRequest}
    (h : executeBlockIp env db w request action sourceIp key = .ok (res, db'))
    (hsuccess : res.success = true) :
    recordBlock env db w request action sourceIp key = .ok (res, db') := by
  unfold executeBlockIp at h
  split at h
  · cases h
    cases hsuccess
  · exact h

theorem agrees_iff (h : call.run env db = .ok (res, db')) (hsuccess : res.success = true) :
    Agreement db' (indicatorOf env db call.request) res ↔ AgreesWhen env db call := by
  unfold ResponseCommands.Call.run executeResponseCommand at h
  split at h
  · next refused hrefused =>
    cases h
    rw [resolveCommand_error hrefused] at hsuccess
    cases hsuccess
  · next action address hresolve =>
    obtain ⟨hsource, hcommand, haddress⟩ := resolveCommand_eq_ok hresolve
    unfold dispatchCommand at h
    simp only [responseCommandActions, List.mem_cons, List.not_mem_nil, or_false] at hcommand
    rcases hcommand with rfl | rfl | rfl | rfl | rfl | rfl <;>
      simp only [String.reduceEq, if_true, if_false] at h
    · obtain ⟨s, rfl, -⟩ := haddress (by decide)
      exact agreement_iff_agreesWhen hresolve (recordBlock_agrees (recordBlock_of_success h hsuccess))
    · obtain ⟨s, rfl, -⟩ := haddress (by decide)
      exact agreement_iff_agreesWhen hresolve (executeMonitor_agrees h)
    · obtain ⟨hnone, hsome⟩ := @executeEscalate_agrees _ _ _ _ _ (address.getD "") _ _ _ h
      cases hgiven : given address with
      | some s =>
        obtain ⟨rfl, -⟩ := Option.filter_eq_some_iff.mp hgiven
        exact agreement_iff_agreesWhen hresolve (hsome hgiven)
      | none =>
        obtain ⟨hindicator, hwhen⟩ := without_address hresolve hgiven
        rw [hindicator]
        exact iff_of_true (hnone hgiven) hwhen
    · obtain ⟨s, rfl, -⟩ := haddress (by decide)
      exact agreement_iff_agreesWhen hresolve (executeStopMonitor_agrees h)
    · obtain ⟨s, rfl, -⟩ := haddress (by decide)
      exact agreement_iff_agreesWhen hresolve (executeRemoveTracking_agrees h)
    · obtain ⟨s, rfl, -⟩ := haddress (by decide)
      exact agreement_iff_agreesWhen hresolve (executeAddNote_agrees h)

end Result

/-- **Agreement of results and registry.**  In every run of commands, every successful result agrees
    with the registry just where, at every successful call, the key of the command is new to the
    registry or the record shows already what the command returns. -/
theorem registry_agreement (env : Environment) (db : ResponseDb) (calls : List ResponseCommands.Call) :
    Runs.Along (stepCall env) (Agrees env) db calls ↔
      Runs.Along (stepCall env) (fun db call => Succeeds env db call → AgreesWhen env db call) db
        calls := by
  refine Runs.along_congr (fun db call => ?_) db calls
  constructor
  · rintro h ⟨res, db', hrun, hsuccess⟩
    exact (agrees_iff hrun hsuccess).mp (h res db' hrun hsuccess)
  · intro h res db' hrun hsuccess
    exact (agrees_iff hrun hsuccess).mpr (h ⟨res, db', hrun, hsuccess⟩)

/-! ## A block after a removal -/

/-- The form blocks an address; its key is built from the address and the alert only. -/
def formBlock (minute : Nat) (shortUuid : String) : ResponseCommands.Call where
  moment := plainMoment minute shortUuid
  request :=
    { action := "block_ip"
      indicatorValue := some publicAddress
      actorUserId := some 1
      originSurface := "blocklist_form"
      idempotencyKey := some "blocklist-form-198.51.100.7-none" }

/-- The block with the id is taken back. -/
def formUnblock (minute blockId : Nat) : ResponseCommands.Call where
  moment := plainMoment minute "000000000000"
  request :=
    { action := "remove_tracking"
      indicatorValue := some publicAddress
      reason := some "Blocklist tracking removed"
      actorUserId := some 1
      originSurface := "blocklist_form"
      idempotencyKey := some s!"blocklist-unblock-{blockId}" }

/-- What a call returns, and what the registry shows of the address after it. -/
def verdict (db : ResponseDb) (call : ResponseCommands.Call) : Option (Bool × Option Disposition × Disposition) :=
  (call.run plainEnvironment db).toOption.map fun (res, db') =>
    (res.success, res.disposition, (shownOf db'.records publicAddress).1)

/-- The form blocks the address, the block is taken back, and the form blocks the address again: the
    result says it is tracked, the registry that it was removed. -/
theorem registry_disagrees :
    ¬ ∀ calls, Runs.Along (stepCall plainEnvironment) (Agrees plainEnvironment) .empty calls := by
  intro h
  obtain ⟨-, -, hagrees, -⟩ :=
    h [formBlock 1 "0123456789ab", formUnblock 2 1, formBlock 3 "0123456789ac"]
  have hverdict : verdict (stepCall plainEnvironment (stepCall plainEnvironment .empty
      (formBlock 1 "0123456789ab")) (formUnblock 2 1)) (formBlock 3 "0123456789ac") =
      some (true, some .blocklistTracked, .removed) := by
    decide +kernel
  unfold verdict at hverdict
  cases hrun : (formBlock 3 "0123456789ac").run plainEnvironment (stepCall plainEnvironment
      (stepCall plainEnvironment .empty (formBlock 1 "0123456789ab")) (formUnblock 2 1)) with
  | error e =>
    rw [hrun] at hverdict
    cases hverdict
  | ok answer =>
    obtain ⟨res, db'⟩ := answer
    rw [hrun] at hverdict
    simp only [Except.toOption, Option.map_some, Option.some.injEq, Prod.mk.injEq] at hverdict
    obtain ⟨hsuccess, hdisposition, hshown⟩ := hverdict
    obtain ⟨v, r, hv, hr, hr'⟩ := (hagrees res db' hrun hsuccess).disposition _ hdisposition
    obtain rfl : v = publicAddress := by
      have hindicator : indicatorOf plainEnvironment (stepCall plainEnvironment (stepCall
          plainEnvironment .empty (formBlock 1 "0123456789ab")) (formUnblock 2 1))
          (formBlock 3 "0123456789ac").request = some publicAddress := by
        decide +kernel
      exact Option.some_injective _ (hv.symm.trans hindicator)
    rw [shownOf, hr, disposedAs, hr'] at hshown
    cases hshown

end SiemDashboard.RegistryAgreement
