import SiemDashboard.Core.StatementEffects
import SiemDashboard.Engines.PlaybookSystem
import SiemDashboard.Lib.Runs

/-!
# The leases of executions

Workers claim, acquire, resume, extend and release leases, write their progress under them, and
anyone recovers the executions whose lease has run out.  Every operation is one statement, and the
clock never goes back.

* **Operations** — `LeaseOp`, `perform`, `perform_cases`.
* **Histories** — `LeaseHistory`: the tables, and what has been granted and recovered so far; `step`.
* **Invariant** — `Sound`, `sound_step`.
* **Result** — `LeaseSafety`, `lease_safety`, and a run with one round more than attempts.
-/

namespace SiemDashboard.LeaseExclusion

open PlaybookStore Tables

/-! ## Operations -/

/-- What a worker or the recovery does to leases. -/
inductive LeaseOp where
  | claimNext (owner : WorkerId) (duration : LeaseDuration)
  | acquire (id : Nat) (owner : WorkerId) (duration : LeaseDuration)
  | resume (id : Nat) (owner : WorkerId) (stepsLog : List LogEntry)
      (lastCompletedStep : Option Int) (duration : LeaseDuration)
  | heartbeat (id : Nat) (owner : WorkerId) (duration : LeaseDuration)
  | release (id : Nat) (owner : WorkerId)
  | writeLog (id : Nat) (owner : WorkerId) (stepsLog : List LogEntry)
      (lastCompletedStep : Option Int)
  | recover (id : Nat)

/-- The statement of an operation at a time. -/
def LeaseOp.stmt (now : Int) : LeaseOp → Stmt
  | .claimNext owner duration => .claimNext owner duration now
  | .acquire id owner duration => .acquireLease id owner duration now
  | .resume id owner stepsLog lastCompletedStep duration =>
    .acquireResumeLease id owner stepsLog lastCompletedStep duration now
  | .heartbeat id owner duration => .heartbeat id owner duration now
  | .release id owner => .releaseLease id owner
  | .writeLog id owner stepsLog lastCompletedStep =>
    .updateStepLog id stepsLog lastCompletedStep (some owner)
  | .recover id => .markStale id now

/-- The worker that an operation gives a lease to. -/
def LeaseOp.claimant : LeaseOp → Option WorkerId
  | .claimNext owner _ | .acquire _ owner _ | .resume _ owner .. => some owner
  | _ => none

/-- The row an operation answers with, and the tables after it. -/
def perform (w : World) (db : Db) (now : Int) (op : LeaseOp) : Option Execution × Db :=
  let answer := exec w (op.stmt now) db
  (changedRow (op.stmt now) answer.1, answer.2)

/-- What an operation makes of the row it answers with. -/
inductive Change (now : Int) (row : Execution) : LeaseOp → Execution → Prop
  | claimed {op owner row'} (hop : op.claimant = some owner)
      (hstatus : row.status = .pending ∨ row.status = .awaitingApproval)
      (hfree : leaseIsActive row.leaseExpiresAt now = false) (hrunning : row'.status = .running)
      (howner : row'.leaseOwner = some owner) (hattempts : row'.attemptCount = row.attemptCount)
      (hmax : row'.maxAttempts = row.maxAttempts) : Change now row op row'
  | extended {id owner duration row'} (hid : row.id = id) (hstatus : row.status = .running)
      (howner : row.leaseOwner = some owner)
      (hactive : leaseIsActive row.leaseExpiresAt now = true)
      (hrow' : row' = { row with
        leaseHeartbeatAt := some now, leaseExpiresAt := some (duration.expiry now) }) :
      Change now row (.heartbeat id owner duration) row'
  | released {id owner} (hid : row.id = id) (howner : row.leaseOwner = some owner) :
      Change now row (.release id owner) (withoutLease row)
  | logged {id owner stepsLog lastCompletedStep row'} (hid : row.id = id)
      (howner : row.leaseOwner = some owner)
      (hrow' : row' = { row with stepsLog := stepsLog, lastCompletedStep := lastCompletedStep }) :
      Change now row (.writeLog id owner stepsLog lastCompletedStep) row'
  | recovered {id} (hid : row.id = id) (hstatus : row.status = .running)
      (hexpired : leaseIsExpired row.leaseExpiresAt now = true) :
      Change now row (.recover id) (PlaybookStore.recovered row now)

theorem change_of_rowStep {now : Int} {op : LeaseOp} {r : Reply (op.stmt now)}
    {row row' : Execution} (h : RowStep (op.stmt now) r row row') :
    changedRow (op.stmt now) r = some row' ∧ Change now row op row' := by
  cases op with
  | claimNext =>
    cases h with
    | claimed hr hstatus hfree hrow' =>
      subst hrow'
      exact ⟨hr, .claimed rfl (.inl hstatus) hfree rfl rfl rfl rfl⟩
  | acquire =>
    cases h with
    | leased _ hr hstatus hfree hrow' =>
      subst hrow'
      exact ⟨hr, .claimed rfl (.inl hstatus) hfree rfl rfl rfl rfl⟩
  | resume =>
    cases h with
    | resumed _ hr hstatus hfree hrow' =>
      subst hrow'
      exact ⟨hr, .claimed rfl (.inr hstatus) hfree rfl rfl rfl rfl⟩
  | heartbeat =>
    cases h with
    | extended hid hr hstatus howner hactive hrow' =>
      exact ⟨hr, .extended hid hstatus howner hactive hrow'⟩
  | release =>
    cases h with
    | released hid hr howner hrow' =>
      subst hrow'
      exact ⟨hr, .released hid howner⟩
  | writeLog =>
    cases h with
    | stepLogged hid hr howner hrow' =>
      exact ⟨hr, .logged hid (of_decide_eq_true howner) hrow'⟩
  | recover =>
    cases h with
    | recovered hid hr hstatus hexpired hrow' =>
      subst hrow'
      exact ⟨hr, .recovered hid hstatus hexpired⟩

/-- An operation answers with nothing and leaves the executions alone, or changes the one row it
    answers with. -/
theorem perform_cases (w : World) (db : Db) (now : Int) (op : LeaseOp) :
    ((perform w db now op).1 = none ∧
      ∀ e, (perform w db now op).2.execution? e = db.execution? e) ∨
    ∃ row row', (perform w db now op).1 = some row' ∧ row'.id = row.id ∧
      db.execution? row.id = some row ∧ (perform w db now op).2.execution? row.id = some row' ∧
      (∀ e, e ≠ row.id → (perform w db now op).2.execution? e = db.execution? e) ∧
      Change now row op row' := by
  have hcreates : creates (op.stmt now) = none := by cases op <;> rfl
  cases hanswer : (perform w db now op).1 with
  | none =>
    refine .inl ⟨rfl, fun e => ?_⟩
    have hsame {row : Execution} (hrow : db.execution? e = some row) :
        (perform w db now op).2.execution? e = some row := by
      obtain ⟨row', hrow', rfl | hstep⟩ := exec_keeps (w := w) (q := op.stmt now) hrow
      · exact hrow'
      · cases (change_of_rowStep hstep).1.symm.trans hanswer
    cases hrow : db.execution? e with
    | some row => exact hsame hrow
    | none =>
      cases hafter : (perform w db now op).2.execution? e with
      | none => rfl
      | some row' =>
        obtain hbefore | ⟨row, hbefore, -⟩ | ⟨-, -, new, hnew, -⟩ := exec_row hafter
        · exact hbefore.symm.trans hrow
        · cases hbefore.symm.trans hrow
        · cases hnew.symm.trans hcreates
  | some row' =>
    obtain ⟨row, hrow, hstep, hafter⟩ := exec_changedRow (op.stmt now) hanswer
    have hid : row'.id = row.id := hstep.sameLineage.id
    rw [hid] at hrow hafter
    refine .inr ⟨row, row', rfl, hid, hrow, hafter, fun e he => ?_, (change_of_rowStep hstep).2⟩
    cases hafter' : (perform w db now op).2.execution? e with
    | none =>
      cases hbefore : db.execution? e with
      | none => rfl
      | some row₀ =>
        obtain ⟨row₀', hrow₀', -⟩ := exec_keeps (w := w) (q := op.stmt now) hbefore
        cases hrow₀'.symm.trans hafter'
    | some row₀' =>
      obtain hbefore | ⟨row₀, hbefore, hstep₀⟩ | ⟨-, -, new, hnew, -⟩ := exec_row hafter'
      · exact hbefore.symm
      · -- only the row of the answer is changed
        obtain rfl : row' = row₀' :=
          Option.some.inj (hanswer.symm.trans (change_of_rowStep hstep₀).1)
        have hid₀ : row₀.id = e := db.executions.keyed e row₀ hbefore
        exact absurd (hid₀.symm.trans (hstep₀.sameLineage.id.symm.trans hid)) he
      · cases hnew.symm.trans hcreates

/-! ## Histories -/

/-- The tables and the clock, the end of the lease that each worker was granted last, the worker that
    claimed each execution last, and how often each was recovered and requeued. -/
structure LeaseHistory where
  db : Db
  now : Int
  granted : Nat → WorkerId → Option Int
  lastClaimant : Nat → Option WorkerId
  rounds : Nat → Nat
  requeues : Nat → Nat

namespace LeaseHistory

/-- Nothing has been granted or recovered yet. -/
def start (db : Db) (now : Int) : LeaseHistory :=
  ⟨db, now, fun _ _ => none, fun _ => none, fun _ => 0, fun _ => 0⟩

variable (h : LeaseHistory)

/-- The worker was granted a lease that has not run out. -/
def Holds (id : Nat) (owner : WorkerId) : Prop := ∃ ends, h.granted id owner = some ends ∧ h.now < ends

/-- What the worker knows of its lease. -/
def tell (id : Nat) (owner : WorkerId) (ends : Option Int) : LeaseHistory :=
  { h with
    granted := fun id' owner' => if id' = id ∧ owner' = owner then ends else h.granted id' owner' }

/-- The execution was claimed. -/
def claimed (id : Nat) (owner : WorkerId) : LeaseHistory :=
  { h with lastClaimant := Function.update h.lastClaimant id (some owner) }

def recovered (row : Execution) : LeaseHistory :=
  { h with
    rounds := Function.update h.rounds row.id (h.rounds row.id + 1)
    requeues := Function.update h.requeues row.id
      (h.requeues row.id + if row.status = .pending then 1 else 0) }

/-- What an operation and its answer add to the history. -/
def note : LeaseOp → Option Execution → LeaseHistory
  | .claimNext owner _, some row | .acquire _ owner _, some row | .resume _ owner .., some row =>
    (h.claimed row.id owner).tell row.id owner row.leaseExpiresAt
  | .heartbeat id owner _, answer => h.tell id owner (answer.bind (·.leaseExpiresAt))
  | .release id owner, _ => h.tell id owner none
  | .recover _, some row => h.recovered row
  | _, _ => h

end LeaseHistory

/-- An operation, the time since the one before, and what the tables leave open. -/
structure LeaseCall where
  op : LeaseOp
  elapsed : Nat
  world : World

/-- One operation. -/
def step (h : LeaseHistory) (call : LeaseCall) : LeaseHistory :=
  let now := h.now + call.elapsed
  let answer := perform call.world h.db now call.op
  { h with db := answer.2, now := now }.note call.op answer.1

/-! ## Invariant -/

/-- What the history says about the row of an execution. -/
structure SoundRow (h : LeaseHistory) (row : Execution) : Prop where
  last : ∀ w, h.lastClaimant row.id = some w → row.leaseOwner = some w ∨ row.leaseOwner = none
  requeued : h.requeues row.id ≤ row.attemptCount
  budget : h.requeues row.id = 0 ∨ row.attemptCount ≤ row.maxAttempts
  rounds : h.rounds row.id = h.requeues row.id ∨
    (h.rounds row.id = h.requeues row.id + 1 ∧ row.status = .failed)

/-- The row runs under this lease. -/
structure Leased (row : Execution) (owner : WorkerId) (ends : Int) : Prop where
  status : row.status = .running
  leaseOwner : row.leaseOwner = some owner
  leaseExpiresAt : row.leaseExpiresAt = some ends

/-- The history fits the rows, and a lease that was granted and has not run out is in its row. -/
structure Sound (h : LeaseHistory) : Prop where
  row : ∀ {id row}, h.db.execution? id = some row → SoundRow h row
  granted : ∀ {id w ends}, h.granted id w = some ends → h.now < ends →
    ∃ row, h.db.execution? id = some row ∧ Leased row w ends

theorem Leased.active {row : Execution} {owner : WorkerId} {ends now : Int}
    (h : Leased row owner ends) (hnow : now < ends) :
    leaseIsActive row.leaseExpiresAt now = true ∧ leaseIsExpired row.leaseExpiresAt now = false := by
  rw [h.leaseExpiresAt]
  simp only [leaseIsActive, leaseIsExpired, decide_eq_true_eq, decide_eq_false_iff_not]
  omega

theorem sound_start (db : Db) (now : Int) : Sound (.start db now) where
  row _ := ⟨fun _ h => (by cases h), Nat.zero_le _, .inl rfl, .inl rfl⟩
  granted h := by cases h

section Step

variable {h : LeaseHistory} {db : Db} {now : Int} {row row' : Execution} {op : LeaseOp}

/-- Forgetting what a worker was granted. -/
theorem Sound.forget (hs : Sound h) (id : Nat) (owner : WorkerId) :
    Sound (h.tell id owner none) where
  row hrow := ⟨(hs.row hrow).last, (hs.row hrow).requeued, (hs.row hrow).budget,
    (hs.row hrow).rounds⟩
  granted hgranted hends := by
    simp only [LeaseHistory.tell] at hgranted
    split at hgranted
    · cases hgranted
    · exact hs.granted hgranted hends

/-- Nothing changes but the time. -/
theorem Sound.wait (hs : Sound h) (hnow : h.now ≤ now)
    (hsame : ∀ e, db.execution? e = h.db.execution? e) :
    Sound { h with db := db, now := now } where
  row hrow := by
    rw [hsame] at hrow
    exact ⟨(hs.row hrow).last, (hs.row hrow).requeued, (hs.row hrow).budget, (hs.row hrow).rounds⟩
  granted hgranted hends := by
    obtain ⟨row, hrow, hleased⟩ := hs.granted hgranted (Int.lt_of_le_of_lt hnow hends)
    exact ⟨row, (hsame _).trans hrow, hleased⟩

theorem note_claimed {owner : WorkerId} (hop : op.claimant = some owner) :
    h.note op (some row') =
      (h.claimed row'.id owner).tell row'.id owner row'.leaseExpiresAt := by
  cases op <;> cases hop <;> rfl

/-- What an operation notes about its row. -/
theorem soundRow_change (hrow : SoundRow h row) (hid : row'.id = row.id)
    (hchange : Change now row op row') :
    SoundRow ({ h with db := db, now := now }.note op (some row')) row' := by
  obtain ⟨hlast, hrequeued, hbudget, hrounds⟩ := hrow
  cases hchange with
  | @claimed op owner row' hop hstatus hfree hrunning howner hattempts hmax =>
    rw [note_claimed hop]
    refine ⟨fun w hw => ?_, ?_, ?_, ?_⟩
    · simp only [LeaseHistory.tell, LeaseHistory.claimed, Function.update_self,
        Option.some.injEq] at hw
      exact .inl (hw ▸ howner)
    · show h.requeues row'.id ≤ row'.attemptCount
      rw [hid, hattempts]
      exact hrequeued
    · show h.requeues row'.id = 0 ∨ row'.attemptCount ≤ row'.maxAttempts
      rw [hid, hattempts, hmax]
      exact hbudget
    · show h.rounds row'.id = h.requeues row'.id ∨ _
      rw [hid]
      refine .inl (hrounds.resolve_right fun hfailed => ?_)
      rcases hstatus with hstatus | hstatus <;> cases hstatus.symm.trans hfailed.2
  | extended _ _ _ _ hrow' =>
    subst hrow'
    exact ⟨hlast, hrequeued, hbudget, hrounds⟩
  | released => exact ⟨fun _ _ => .inr rfl, hrequeued, hbudget, hrounds⟩
  | logged _ _ hrow' =>
    subst hrow'
    exact ⟨hlast, hrequeued, hbudget, hrounds⟩
  | recovered _ hstatus hexpired =>
    have hrounds : h.rounds row.id = h.requeues row.id := by
      refine hrounds.resolve_right fun hfailed => ?_
      cases hstatus.symm.trans hfailed.2
    refine ⟨fun _ _ => .inr (recovered_leaseOwner row now), ?_, ?_, ?_⟩
    all_goals
      simp only [LeaseHistory.note, LeaseHistory.recovered, hid, Function.update_self]
      unfold PlaybookStore.recovered
      split
    · next hleft =>
      simp only [withoutLease, if_true]
      omega
    · simp only [withoutLease, reduceCtorEq, if_false]
      omega
    · next hleft =>
      simp only [withoutLease, if_true]
      omega
    · simp only [withoutLease, reduceCtorEq, if_false]
      omega
    · simp only [withoutLease, if_true]
      omega
    · simp only [withoutLease, reduceCtorEq, if_false, and_true]
      omega

/-- An operation notes nothing about the other rows. -/
theorem soundRow_other {other : Execution} (hother : SoundRow h other) (hne : other.id ≠ row'.id) :
    SoundRow ({ h with db := db, now := now }.note op (some row')) other := by
  obtain ⟨hlast, hrequeued, hbudget, hrounds⟩ := hother
  have hclaimed (owner : WorkerId) (ends : Option Int) :
      SoundRow (({ h with db := db, now := now }.claimed row'.id owner).tell row'.id owner ends)
        other := by
    refine ⟨fun w hw => hlast w ?_, hrequeued, hbudget, hrounds⟩
    simpa only [LeaseHistory.tell, LeaseHistory.claimed, Function.update_of_ne hne] using hw
  cases op with
  | claimNext | acquire | resume => exact hclaimed _ _
  | heartbeat | release | writeLog => exact ⟨hlast, hrequeued, hbudget, hrounds⟩
  | recover =>
    refine ⟨hlast, ?_, ?_, ?_⟩
    all_goals
      simp only [LeaseHistory.note, LeaseHistory.recovered, Function.update_of_ne hne]
      assumption

/-- The lease in a row ends no other worker's lease that has not run out. -/
theorem granted_change (hs : Sound h) (hnow : h.now ≤ now) (hrow : h.db.execution? row.id = some row)
    (hid : row'.id = row.id) (hrow' : db.execution? row.id = some row')
    (hsame : ∀ e, e ≠ row.id → db.execution? e = h.db.execution? e)
    (hchange : Change now row op row') {id : Nat} {w : WorkerId} {ends : Int}
    (hgranted : ({ h with db := db, now := now }.note op (some row')).granted id w = some ends)
    (hends : now < ends) : ∃ r, db.execution? id = some r ∧ Leased r w ends := by
  -- a lease granted before is in its row, and active
  have hold (hbefore : h.granted id w = some ends) :
      ∃ r, h.db.execution? id = some r ∧ Leased r w ends :=
    hs.granted hbefore (Int.lt_of_le_of_lt hnow hends)
  have hother (hne : id ≠ row.id) (hbefore : h.granted id w = some ends) :
      ∃ r, db.execution? id = some r ∧ Leased r w ends := by
    obtain ⟨r, hr, hleased⟩ := hold hbefore
    exact ⟨r, (hsame id hne).trans hr, hleased⟩
  have hthis (heq : id = row.id) (hbefore : h.granted id w = some ends) : Leased row w ends := by
    obtain ⟨r, hr, hleased⟩ := hold hbefore
    rw [heq] at hr
    cases hrow.symm.trans hr
    exact hleased
  cases hchange with
  | @claimed op owner row' hop hstatus hfree hrunning howner hattempts hmax =>
    rw [note_claimed hop] at hgranted
    simp only [LeaseHistory.tell, LeaseHistory.claimed] at hgranted
    split at hgranted
    · next heq =>
      obtain ⟨rfl, rfl⟩ := heq
      exact ⟨row', hid ▸ hrow', hrunning, howner, hgranted⟩
    · by_cases heq : id = row.id
      · have hactive := ((hthis heq hgranted).active hends).1
        cases hactive.symm.trans hfree
      · exact hother heq hgranted
  | @extended _ owner duration _ hid' hstatus howner hactive heq' =>
    simp only [LeaseHistory.note, LeaseHistory.tell, Option.bind_some] at hgranted
    split at hgranted
    · next heq =>
      obtain ⟨rfl, rfl⟩ := heq
      rw [← hid']
      refine ⟨row', hrow', ?_, ?_, hgranted⟩
      · rw [heq']
        exact hstatus
      · rw [heq']
        exact howner
    · next hne =>
      by_cases heq : id = row.id
      · -- the row's lease is the extending worker's
        have hleased := hthis heq hgranted
        cases hleased.leaseOwner.symm.trans howner
        exact absurd ⟨heq.trans hid', rfl⟩ hne
      · exact hother heq hgranted
  | @released _ owner hid' howner =>
    simp only [LeaseHistory.note, LeaseHistory.tell] at hgranted
    split at hgranted
    · cases hgranted
    · next hne =>
      by_cases heq : id = row.id
      · have hleased := hthis heq hgranted
        cases hleased.leaseOwner.symm.trans howner
        exact absurd ⟨heq.trans hid', rfl⟩ hne
      · exact hother heq hgranted
  | @logged _ owner stepsLog lastCompletedStep _ hid' howner heq' =>
    by_cases heq : id = row.id
    · obtain ⟨hstatus, howner', hexpires⟩ := hthis heq hgranted
      refine ⟨row', heq ▸ hrow', ?_, ?_, ?_⟩ <;> rw [heq'] <;> assumption
    · exact hother heq hgranted
  | recovered hid' hstatus hexpired =>
    by_cases heq : id = row.id
    · have hactive := ((hthis heq hgranted).active hends).2
      cases hactive.symm.trans hexpired
    · exact hother heq hgranted

end Step

/-- Every operation keeps the history sound. -/
theorem sound_step {h : LeaseHistory} (hs : Sound h) (call : LeaseCall) : Sound (step h call) := by
  have hnow : h.now ≤ h.now + (call.elapsed : Int) := by omega
  unfold step
  dsimp only
  rcases perform_cases call.world h.db (h.now + call.elapsed) call.op with
    ⟨hnone, hsame⟩ | ⟨row, row', hanswer, hid, hrow, hrow', hsame, hchange⟩
  · rw [hnone]
    have hwait := hs.wait hnow hsame
    generalize call.op = op at hwait
    cases op with
    | claimNext | acquire | resume | writeLog | recover => exact hwait
    | heartbeat id owner | release id owner => exact hwait.forget id owner
  · rw [hanswer]
    have hdb (h' : LeaseHistory) (answer : Option Execution) (op : LeaseOp) :
        (h'.note op answer).db = h'.db ∧ (h'.note op answer).now = h'.now := by
      cases op <;> cases answer <;> exact ⟨rfl, rfl⟩
    constructor
    · intro id r hr
      rw [(hdb _ _ _).1] at hr
      by_cases heq : id = row.id
      · subst heq
        cases hrow'.symm.trans hr
        exact soundRow_change (hs.row hrow) hid hchange
      · have hr₀ := (hsame id heq).symm.trans hr
        have hkey : r.id = id := h.db.executions.keyed id r hr₀
        exact soundRow_other (hs.row hr₀) (by rw [hkey, hid]; exact heq)
    · intro id w ends hgranted hends
      rw [(hdb _ _ _).2] at hends
      rw [(hdb _ _ _).1]
      exact granted_change hs hnow hrow hid hrow' hsame hchange hgranted hends

/-! ## Result -/

/-- The history of some calls from any tables at any time. -/
def historyAfter (db : Db) (now : Int) (calls : List LeaseCall) : LeaseHistory :=
  Runs.after step (.start db now) calls

theorem sound_after (db : Db) (now : Int) (calls : List LeaseCall) :
    Sound (historyAfter db now calls) := by
  have hstep : ∀ h call, Sound h → True → Sound (step h call) := fun _ call hs _ => sound_step hs call
  exact Runs.invariant hstep (sound_start db now) (Runs.along_of_forall (fun _ _ => trivial) _ _)

/-- What the leases guarantee. -/
structure LeaseSafety (h : LeaseHistory) : Prop where
  exclusive : ∀ id w w', h.Holds id w → h.Holds id w' → w = w'
  heartbeat : ∀ id w w' duration elapsed world, h.lastClaimant id = some w' → w ≠ w' →
    ∀ e, (step h ⟨.heartbeat id w duration, elapsed, world⟩).db.execution? e = h.db.execution? e
  writeLog : ∀ id w w' stepsLog last elapsed world, h.lastClaimant id = some w' → w ≠ w' →
    ∀ e, (step h ⟨.writeLog id w stepsLog last, elapsed, world⟩).db.execution? e =
      h.db.execution? e
  recovers : ∀ id elapsed world e,
    (step h ⟨.recover id, elapsed, world⟩).db.execution? e ≠ h.db.execution? e →
    e = id ∧ ∃ row ends, h.db.execution? id = some row ∧ row.leaseExpiresAt = some ends ∧
      ends ≤ h.now + elapsed
  requeues : ∀ id row, h.db.execution? id = some row → h.requeues id ≤ row.maxAttempts
  rounds : ∀ id row, h.db.execution? id = some row → h.rounds id ≤ row.maxAttempts + 1

theorem step_db (h : LeaseHistory) (call : LeaseCall) :
    (step h call).db = (perform call.world h.db (h.now + call.elapsed) call.op).2 := by
  unfold step
  dsimp only
  cases call.op <;> cases (perform call.world h.db (h.now + call.elapsed) _).1 <;> rfl

/-- A write under a lease that was taken over matches no row. -/
theorem taken_over {h : LeaseHistory} (hs : Sound h) {id : Nat} {w w' : WorkerId}
    (hlast : h.lastClaimant id = some w') (hne : w ≠ w') {row : Execution}
    (hrow : h.db.execution? id = some row) (howner : row.leaseOwner = some w) : False := by
  have hid : row.id = id := h.db.executions.keyed id row hrow
  rcases (hs.row hrow).last w' (hid.symm ▸ hlast) with hsame | hnone
  · exact hne (Option.some.inj (howner.symm.trans hsame))
  · cases howner.symm.trans hnone

/-- **Leases are safe.**  After any operations of any workers, however much time passes between them:
    at most one worker holds an unexpired lease on an execution; a heartbeat or a log written by a
    worker whose execution another one has claimed since changes nothing; recovery touches only the
    execution it is called for, and only when its lease has run out; an execution is requeued at most
    as often as its attempts allow, so it goes through at most one round more. -/
theorem lease_safety (db : Db) (now : Int) (calls : List LeaseCall) :
    LeaseSafety (historyAfter db now calls) := by
  have hs := sound_after db now calls
  generalize historyAfter db now calls = h at hs
  refine ⟨?_, ?_, ?_, ?_, ?_, ?_⟩
  · rintro id w w' ⟨ends, hgranted, hends⟩ ⟨ends', hgranted', hends'⟩
    obtain ⟨row, hrow, hleased⟩ := hs.granted hgranted hends
    obtain ⟨row', hrow', hleased'⟩ := hs.granted hgranted' hends'
    cases hrow.symm.trans hrow'
    exact Option.some.inj (hleased.leaseOwner.symm.trans hleased'.leaseOwner)
  · intro id w w' duration elapsed world hlast hne e
    rw [step_db]
    rcases perform_cases world h.db (h.now + elapsed) (.heartbeat id w duration) with
      ⟨-, hsame⟩ | ⟨row, row', -, -, hrow, -, -, hchange⟩
    · exact hsame e
    · cases hchange with
      | claimed hop => cases hop
      | extended hid _ howner => exact (taken_over hs hlast hne (hid ▸ hrow) howner).elim
  · intro id w w' stepsLog last elapsed world hlast hne e
    rw [step_db]
    rcases perform_cases world h.db (h.now + elapsed) (.writeLog id w stepsLog last) with
      ⟨-, hsame⟩ | ⟨row, row', -, -, hrow, -, -, hchange⟩
    · exact hsame e
    · cases hchange with
      | claimed hop => cases hop
      | logged hid howner => exact (taken_over hs hlast hne (hid ▸ hrow) howner).elim
  · intro id elapsed world e hchanged
    rw [step_db] at hchanged
    rcases perform_cases world h.db (h.now + elapsed) (.recover id) with
      ⟨-, hsame⟩ | ⟨row, row', -, -, hrow, -, hsame, hchange⟩
    · exact absurd (hsame e) hchanged
    · cases hchange with
      | claimed hop => cases hop
      | recovered hid _ hexpired =>
        have he : e = row.id := by
          by_contra hne
          exact hchanged (hsame e hne)
        refine ⟨he.trans hid, row, ?_⟩
        cases hends : row.leaseExpiresAt with
        | none =>
          rw [hends] at hexpired
          cases hexpired
        | some ends =>
          rw [hends] at hexpired
          exact ⟨ends, hid ▸ hrow, rfl, of_decide_eq_true hexpired⟩
  · intro id row hrow
    have hid : row.id = id := h.db.executions.keyed id row hrow
    obtain ⟨-, hrequeued, hbudget, -⟩ := hs.row hrow
    rw [hid] at hrequeued hbudget
    omega
  · intro id row hrow
    have hid : row.id = id := h.db.executions.keyed id row hrow
    obtain ⟨-, hrequeued, hbudget, hrounds⟩ := hs.row hrow
    rw [hid] at hrequeued hbudget hrounds
    omega

/-- One pending execution. -/
def onePending : Db :=
  (exec (.at 0) (.createPendingOnce ⟨"p", some 7, none, none, none, none, 0⟩) (.ofPlaybook "p" [])).2

/-- A worker takes a lease of a minute, crashes, and is recovered when the minute is over. -/
def claimAndCrash : List LeaseCall :=
  [⟨.acquire 1 workerA oneMinute, 0, .at 0⟩, ⟨.recover 1, 60000000, .at 0⟩]

/-- With three attempts there are four rounds: after three the execution is requeued, after the
    fourth it fails. -/
theorem rounds_exceed_attempts :
    let after n := historyAfter onePending 0 (List.replicate n claimAndCrash).flatten
    ((after 3).db.execution? 1).map (·.status) = some .pending ∧
      ((after 4).db.execution? 1).map (fun row => (row.status, row.maxAttempts)) =
        some (.failed, 3) ∧
      (after 4).rounds 1 = 4 := by
  decide +kernel

end SiemDashboard.LeaseExclusion
