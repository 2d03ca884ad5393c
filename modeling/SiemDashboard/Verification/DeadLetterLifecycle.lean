import SiemDashboard.Routes.DeadLetterProtocol

/-!
# The life of dead letters

Failures are captured, and operators dismiss, request and execute retries, on any number of connections
whose statements interleave freely: a source has at most one active dead letter, a reviewed dead letter
never changes again, a dead letter is marked as retried together with its one retry execution, and a
request that is answered with an error changes nothing.

* **Statements** — `Effect`: what a statement that need not wait does to the tables; `run_effect`.
* **Transactions** — `Holding`: what the open transaction of a stage holds; `Linked`: retried dead
  letters and retry executions belong together; `Linked.commit`.
* **Discipline** — `Sound`, `Serves`, and `reviewDiscipline`.
* **Runs** — `Fair`: no connection serves two requests, and none overtakes a lock; `Advances`.
* **Result** — `deadLetter_lifecycle`.
-/

namespace SiemDashboard.DeadLetterLifecycle

open Atomic DeadLetterReview RowVersions

/-! ## Statements -/

/-- The stage stays as it is. -/
def Stays (q : Sql) (r : Except DeadLetterReview.Raised (SqlReply q)) : Prop :=
  ∀ stage stage', SqlMove stage q r stage' → stage' = stage

/-- What a statement on the tables does. -/
inductive Effect (conn : Nat) (db : ReviewDb) :
    (q : Sql) → Except DeadLetterReview.Raised (SqlReply q) → ReviewDb → Prop where
  | same {q r} (hstays : Stays q r) : Effect conn db q r db
  | lock {q r} (id : Nat) (hstays : Stays q r) (hfree : (db.letters.cell id).isTaken conn = false) :
      Effect conn db q r { db with letters := db.letters.lock conn id }
  | write {q r} (id : Nat) {old row : DeadLetterRow} (hstays : Stays q r)
      (hfree : (db.letters.cell id).isTaken conn = false) (hold : db.letters.view conn id = some old)
      (hopen : ¬ old.IsFinal) (hkey : ∀ key, row.activeSource = some key → old.activeSource = some key)
      (hstatus : row.status ≠ .retried) :
      Effect conn db q r { db with letters := db.letters.write conn id row }
  | mark (id : Nat) {old row : DeadLetterRow}
      (hfree : (db.letters.cell id).isTaken conn = false) (hold : db.letters.view conn id = some old)
      (hopen : ¬ old.IsFinal) (hstatus : row.status = .retried) :
      Effect conn db (.markRetried id) (.ok (some row))
        { db with letters := db.letters.write conn id row }
  | insert {q r} {mk : Nat → DeadLetterRow} (hstays : Stays q r)
      (hseen : ∀ key, (mk db.letters.next).activeSource = some key →
        ∀ id row, db.letters.view conn id = some row → row.activeSource ≠ some key)
      (hothers : ∀ key, (mk db.letters.next).activeSource = some key →
        ∀ d id row, d ≠ conn → db.letters.draft d id = some row → row.activeSource ≠ some key)
      (hstatus : (mk db.letters.next).status ≠ .retried) :
      Effect conn db q r { db with letters := db.letters.insert conn mk }
  | insertRetry {new retryOf id} {mk : Nat → RetryExecution}
      (hretry : (mk db.executions.next).retryOf = some retryOf) :
      Effect conn db (.insertRetry new retryOf) (.ok id)
        { db with executions := db.executions.insert conn mk }

/-- A statement that raises leaves the stage as it is. -/
theorem stays_error (q : Sql) (raised : DeadLetterReview.Raised) : Stays q (.error raised) := by
  intro stage stage' h
  cases q with
  | insertRetry => exact h.2.trans h.1.symm
  | markRetried => exact h.2
  | upsert | dismiss | requestRetry => exact h.2.trans h.1.symm
  | getDeadLetter | userId | lockDeadLetter | getExecution | activeExecution => exact h

/-- A plain statement leaves the stage as it is. -/
theorem stays_plain {q : Sql} (hq : Plain q) (r : Except DeadLetterReview.Raised (SqlReply q)) : Stays q r := by
  intro stage stage' h
  cases q with
  | insertRetry | markRetried => exact hq.elim
  | upsert | dismiss | requestRetry => exact h.2.trans h.1.symm
  | getDeadLetter | userId | lockDeadLetter | getExecution | activeExecution => exact h

/-- A marking that finds no row leaves the stage as it is. -/
theorem stays_unmarked (id : Nat) : Stays (.markRetried id) (.ok none) := fun _ _ h => h.2

section Run

variable {conn : Nat} {db : ReviewDb} {w : Moment}

/-- A row that the guarded statement takes is free when the statement need not wait. -/
theorem free_of_not_taken {id : Nat} {row : DeadLetterRow} {guard : DeadLetterRow → Bool}
    (hwaits : db.rowTaken conn id guard = false) (hrow : db.letters.view conn id = some row)
    (hguard : guard row = true) : (db.letters.cell id).isTaken conn = false := by
  cases htaken : (db.letters.cell id).isTaken conn with
  | false => rfl
  | true =>
    -- the connection has no version of a row that another one holds
    have hdraft : db.letters.draft conn id = none := by
      cases hdraft : db.letters.draft conn id with
      | none => rfl
      | some own =>
        have hheld : (db.letters.cell id).held = some (conn, some own) := Cell.draft_eq_some.mp hdraft
        simp [Cell.isTaken, hheld] at htaken
    rw [Store.view_of_no_draft hdraft] at hrow
    simp [ReviewDb.rowTaken, htaken, hrow, hguard] at hwaits

/-- A guarded update writes the row it takes, or nothing. -/
theorem updateLetter_cases {id : Nat} {guard : DeadLetterRow → Bool}
    {f : DeadLetterRow → DeadLetterRow} (hwaits : db.rowTaken conn id guard = false) :
    db.updateLetter conn id guard f = (none, db) ∨
      ∃ old, db.letters.view conn id = some old ∧ guard old = true ∧
        (db.letters.cell id).isTaken conn = false ∧
        db.updateLetter conn id guard f =
          (some (f old), { db with letters := db.letters.write conn id (f old) }) := by
  unfold ReviewDb.updateLetter
  cases hrow : (db.letters.view conn id).filter guard with
  | none => exact .inl rfl
  | some old =>
    obtain ⟨hview, hguard⟩ := Option.filter_eq_some_iff.mp hrow
    exact .inr ⟨old, hview, hguard, free_of_not_taken hwaits hview hguard, rfl⟩

theorem activeSource_of_isActive {row : DeadLetterRow} (h : row.status.isActive = true) :
    row.activeSource = some (row.sourceType, row.sourceId) := by
  simp [DeadLetterRow.activeSource, h]

theorem isActive_of_activeSource {row : DeadLetterRow} {key : String × Nat}
    (h : row.activeSource = some key) : row.status.isActive = true := by
  unfold DeadLetterRow.activeSource at h
  split at h
  · assumption
  · cases h

/-- An upsert refreshes the active row of the source, or inserts one where there is none. -/
theorem upsert_effect {new : NewDeadLetter}
    (hwaits : db.letters.contested conn (isActiveOf new.sourceType new.sourceId) = false) :
    Effect conn db (.upsert new) (.ok (db.upsertLetter conn new w.now).1)
      (db.upsertLetter conn new w.now).2 := by
  unfold ReviewDb.upsertLetter
  have hstays (r : Except DeadLetterReview.Raised (SqlReply (.upsert new))) : Stays (.upsert new) r :=
    stays_plain (by trivial) r
  cases hfind : db.letters.find? conn (isActiveOf new.sourceType new.sourceId) with
  | some found =>
    obtain ⟨id, old⟩ := found
    obtain ⟨hview, hactive⟩ := Store.find?_eq_some hfind
    have hsource : old.activeSource = some (new.sourceType, new.sourceId) := by
      simpa [isActiveOf] using hactive
    have hopen := isActive_of_activeSource hsource
    refine .write id (hstays _) (Store.free_of_uncontested hwaits hview hactive) hview ?_ ?_ ?_
    · simp [DeadLetterRow.IsFinal, hopen]
    · intro key hkey
      exact hkey
    · intro hretried
      have hold : old.status = .retried := hretried
      rw [hold] at hopen
      cases hopen
  | none =>
    have hkey (key : String × Nat) (h : (new.row w.now db.letters.next).activeSource = some key) :
        key = (new.sourceType, new.sourceId) := by
      rw [activeSource_of_isActive rfl] at h
      exact (Option.some.inj h).symm
    refine .insert (hstays _) ?_ ?_ (fun h => by cases h)
    · intro key h id row hview hrow
      rw [hkey key h] at hrow
      have hnot := Store.find?_eq_none hfind hview
      simp [isActiveOf, hrow] at hnot
    · intro key h d id row hd hdraft hrow
      rw [hkey key h] at hrow
      have hnot := Store.draft_of_uncontested hwaits hdraft hd
      simp [isActiveOf, hrow] at hnot

/-- An insert of a retry adds its execution, or is refused. -/
theorem insertRetry_effect (new : PlaybookStore.NewExecution) (retryOf : Nat) :
    Effect conn db (.insertRetry new retryOf) (db.insertRetry conn new retryOf w.now).1
      (db.insertRetry conn new retryOf w.now).2 := by
  unfold ReviewDb.insertRetry
  cases new.alertId with
  | none => exact .insertRetry rfl
  | some alertId =>
    dsimp only
    split
    · exact .same (stays_error _ _)
    · exact .insertRetry rfl

/-- A statement that need not wait has one of the effects. -/
theorem run_effect {q : Sql} (hwaits : db.waits conn q = false) :
    Effect conn db q (ReviewDb.run conn w q db).1 (ReviewDb.run conn w q db).2 := by
  cases q with
  | getDeadLetter | userId | getExecution | activeExecution => exact .same (stays_plain (by trivial) _)
  | upsert new => exact upsert_effect hwaits
  | dismiss id dismissedBy reason =>
    simp only [ReviewDb.run]
    rcases updateLetter_cases hwaits with h | ⟨old, hview, hguard, hfree, h⟩
    · rw [h]
      exact .same (stays_plain (by trivial) _)
    · rw [h]
      refine .write id (stays_plain (by trivial) _) hfree hview ?_ ?_ ?_
      · simp [DeadLetterRow.IsFinal, hguard]
      · intro key hkey
        cases isActive_of_activeSource hkey
      · intro hretried
        cases hretried
  | requestRetry id requestedBy =>
    simp only [ReviewDb.run]
    rcases updateLetter_cases hwaits with h | ⟨old, hview, hguard, hfree, h⟩
    · rw [h]
      exact .same (stays_plain (by trivial) _)
    · rw [h]
      have hstatus : old.status = .open := by simpa using hguard
      refine .write id (stays_plain (by trivial) _) hfree hview ?_ ?_ ?_
      · simp [DeadLetterRow.IsFinal, hstatus, DeadLetterStatus.isActive]
      · intro key hkey
        rw [activeSource_of_isActive rfl] at hkey
        rw [activeSource_of_isActive (by rw [hstatus]; rfl)]
        exact hkey
      · intro hretried
        cases hretried
  | lockDeadLetter id =>
    simp only [ReviewDb.run, ReviewDb.lockLetter]
    cases hview : db.letters.view conn id with
    | none => exact .same (stays_plain (by trivial) _)
    | some row => exact .lock id (stays_plain (by trivial) _) (free_of_not_taken hwaits hview rfl)
  | markRetried id =>
    simp only [ReviewDb.run]
    rcases updateLetter_cases hwaits with h | ⟨old, hview, hguard, hfree, h⟩
    · rw [h]
      exact .same (stays_unmarked id)
    · rw [h]
      have hstatus : old.status = .retrying := by simpa using hguard
      refine .mark id hfree hview ?_ rfl
      simp [DeadLetterRow.IsFinal, hstatus, DeadLetterStatus.isActive]
  | insertRetry new retryOf => exact insertRetry_effect new retryOf

end Run

section Effects

variable {conn : Nat} {db db' : ReviewDb} {q : Sql} {r : Except DeadLetterReview.Raised (SqlReply q)}

/-- Nothing is committed by a statement. -/
theorem Effect.committed (h : Effect conn db q r db') :
    db'.letters.committed = db.letters.committed ∧
      db'.executions.committed = db.executions.committed := by
  cases h with
  | same => exact ⟨rfl, rfl⟩
  | lock => exact ⟨Store.committed_lock _ _ _, rfl⟩
  | write => exact ⟨Store.committed_write _ _ _ _, rfl⟩
  | mark => exact ⟨Store.committed_write _ _ _ _, rfl⟩
  | insert => exact ⟨Store.committed_insert _ _ _, rfl⟩
  | insertRetry => exact ⟨rfl, Store.committed_insert _ _ _⟩

/-- The transactions of the other connections are as before. -/
theorem Effect.draft_of_ne (h : Effect conn db q r db') {d : Nat} (hd : d ≠ conn) :
    db'.letters.draft d = db.letters.draft d ∧ db'.executions.draft d = db.executions.draft d := by
  have hne {id id' : Nat} : ¬ (d = conn ∧ id' = id) := fun h => hd h.1
  cases h with
  | same => exact ⟨rfl, rfl⟩
  | lock id _ hfree => exact ⟨Store.draft_lock hfree d, rfl⟩
  | write id _ hfree hold =>
    refine ⟨funext fun id' => ?_, rfl⟩
    exact (Store.draft_write hfree (Store.lt_next_of_view hold) _ d id').trans (if_neg hne)
  | mark id hfree hold =>
    refine ⟨funext fun id' => ?_, rfl⟩
    exact (Store.draft_write hfree (Store.lt_next_of_view hold) _ d id').trans (if_neg hne)
  | insert => exact ⟨funext fun id' => (Store.draft_insert _ _ _ d id').trans (if_neg hne), rfl⟩
  | insertRetry => exact ⟨rfl, funext fun id' => (Store.draft_insert _ _ _ d id').trans (if_neg hne)⟩

theorem Effect.separate (h : Effect conn db q r db')
    (hsources : Separate DeadLetterRow.activeSource db.letters) :
    Separate DeadLetterRow.activeSource db'.letters := by
  cases h with
  | same | insertRetry => exact hsources
  | lock id _ hfree => exact hsources.lock hfree
  | write id _ hfree hold _ hkey => exact hsources.write hfree hold hkey
  | mark id hfree hold _ hstatus =>
    refine hsources.write hfree hold fun key hkey => ?_
    have hactive := isActive_of_activeSource hkey
    rw [hstatus] at hactive
    cases hactive
  | insert _ hseen hothers => exact hsources.insert hseen hothers

theorem Effect.settled (h : Effect conn db q r db')
    (hsettled : Settled DeadLetterRow.IsFinal db.letters) :
    Settled DeadLetterRow.IsFinal db'.letters := by
  cases h with
  | same | insertRetry => exact hsettled
  | lock id _ hfree => exact hsettled.lock hfree
  | write id _ hfree hold hopen => exact hsettled.write hfree hold hopen
  | mark id hfree hold hopen => exact hsettled.write hfree hold hopen
  | insert => exact hsettled.insert _

theorem Effect.added (h : Effect conn db q r db') (hadded : Settled (fun _ => True) db.executions) :
    Settled (fun _ => True) db'.executions := by
  cases h with
  | same | lock | write | mark | insert => exact hadded
  | insertRetry => exact hadded.insert _

end Effects

/-! ## Transactions -/

/-- The dead letter whose retry the transaction has inserted. -/
def insertedRetry : Stage → Option Nat
  | .clean => none
  | .executed letter | .marked letter => some letter

/-- The dead letter that the transaction has marked. -/
def mark? : Stage → Option Nat
  | .clean | .executed _ => none
  | .marked letter => some letter

/-- The connection's transaction has inserted no execution, or one for the retry of the dead letter. -/
def Inserts (db : ReviewDb) (conn : Nat) : Option Nat → Prop
  | none => ∀ id, db.executions.draft conn id = none
  | some letter => ∃ id row, row.retryOf = some letter ∧
      ∀ id', db.executions.draft conn id' = if id' = id then some row else none

/-- What the connection's transaction holds in a stage. -/
structure Holding (db : ReviewDb) (conn : Nat) (stage : Stage) : Prop where
  marks : ∀ id, (∃ row, db.letters.draft conn id = some row ∧ row.status = .retried) ↔
    mark? stage = some id
  inserts : Inserts db conn (insertedRetry stage)

section Transactions

variable {conn : Nat} {db db' : ReviewDb} {stage stage' : Stage}

/-- A transaction that has written nothing. -/
theorem holding_clean (hletters : ∀ id, db.letters.draft conn id = none)
    (hexecutions : ∀ id, db.executions.draft conn id = none) : Holding db conn .clean := by
  refine ⟨fun id => ⟨?_, fun h => by cases h⟩, hexecutions⟩
  rintro ⟨row, hrow, -⟩
  rw [hletters id] at hrow
  cases hrow

/-- Transactions with the same versions hold the same. -/
theorem Holding.congr (h : Holding db conn stage)
    (hletters : db'.letters.draft conn = db.letters.draft conn)
    (hexecutions : db'.executions.draft conn = db.executions.draft conn) :
    Holding db' conn stage := by
  refine ⟨fun id => ?_, ?_⟩
  · rw [hletters]
    exact h.marks id
  · have hinserts := h.inserts
    cases hretry : insertedRetry stage with
    | none =>
      rw [hretry] at hinserts
      intro id
      rw [hexecutions]
      exact hinserts id
    | some letter =>
      rw [hretry] at hinserts
      obtain ⟨id, row, hrow, hdraft⟩ := hinserts
      refine ⟨id, row, hrow, fun id' => ?_⟩
      rw [hexecutions]
      exact hdraft id'

/-- A new version of a dead letter changes the mark at its own id only. -/
theorem Holding.setMark (h : Holding db conn stage) (id : Nat) (row : DeadLetterRow)
    (hretry : insertedRetry stage' = insertedRetry stage)
    (hexecutions : db'.executions = db.executions)
    (hletters : ∀ id', db'.letters.draft conn id' = if id' = id then some row else db.letters.draft conn id')
    (hself : row.status = .retried ↔ mark? stage' = some id)
    (hothers : ∀ id', id' ≠ id → (mark? stage' = some id' ↔ mark? stage = some id')) :
    Holding db' conn stage' := by
  refine ⟨fun id' => ?_, ?_⟩
  · rw [hletters]
    by_cases hid : id' = id
    · rw [if_pos hid, hid, ← hself]
      constructor
      · rintro ⟨row', hrow', hstatus⟩
        cases hrow'
        exact hstatus
      · exact fun hstatus => ⟨row, rfl, hstatus⟩
    · rw [if_neg hid, hothers id' hid]
      exact h.marks id'
  · have hinserts := h.inserts
    rw [hretry]
    unfold Inserts at hinserts ⊢
    rw [hexecutions]
    exact hinserts

/-- A statement keeps to what the stage says. -/
theorem Effect.holding {q : Sql} {r : Except DeadLetterReview.Raised (SqlReply q)} (h : Effect conn db q r db')
    (hmove : SqlMove stage q r stage') (hheld : Holding db conn stage) :
    Holding db' conn stage' := by
  cases h with
  | same hstays =>
    rw [hstays stage stage' hmove]
    exact hheld
  | lock id hstays hfree =>
    rw [hstays stage stage' hmove]
    exact hheld.congr (Store.draft_lock hfree conn) rfl
  | @write _ _ id old row hstays hfree hold hopen hkey hstatus =>
    rw [hstays stage stage' hmove]
    refine hheld.setMark id row rfl rfl (fun id' => ?_)
      ⟨fun h => absurd h hstatus, fun hmark => ?_⟩ fun _ _ => Iff.rfl
    · rw [Store.draft_write hfree (Store.lt_next_of_view hold)]
      simp
    · -- a version that is marked already is final
      obtain ⟨marked, hdraft, hmarked⟩ := (hheld.marks id).mpr hmark
      rw [Store.view_of_draft hdraft] at hold
      cases hold
      exact absurd (by simp [DeadLetterRow.IsFinal, hmarked, DeadLetterStatus.isActive]) hopen
  | @mark id old row hfree hold hopen hstatus =>
    obtain ⟨rfl, rfl⟩ := hmove
    refine hheld.setMark id row rfl rfl (fun id' => ?_) ⟨fun _ => rfl, fun _ => hstatus⟩
      fun id' hid => ?_
    · rw [Store.draft_write hfree (Store.lt_next_of_view hold)]
      simp
    · simp [mark?, Ne.symm hid]
  | @insert _ _ mk hstays _ _ hstatus =>
    rw [hstays stage stage' hmove]
    refine hheld.setMark db.letters.next (mk db.letters.next) rfl rfl (fun id' => ?_)
      ⟨fun h => absurd h hstatus, fun hmark => ?_⟩ fun _ _ => Iff.rfl
    · rw [Store.draft_insert]
      simp
    · obtain ⟨marked, hdraft, -⟩ := (hheld.marks _).mpr hmark
      rw [Store.draft_of_fresh (Nat.le_refl _)] at hdraft
      cases hdraft
  | @insertRetry new retryOf id mk hretry =>
    obtain ⟨rfl, rfl⟩ := hmove
    refine ⟨hheld.marks, db.executions.next, mk db.executions.next, hretry, fun id' => ?_⟩
    rw [Store.draft_insert]
    have hnone : db.executions.draft conn id' = none := hheld.inserts id'
    simp [hnone]

end Transactions

/-! ## Retries -/

/-- A dead letter is committed as retried exactly if an execution of its retry is committed, and then it
    has one such execution. -/
structure Linked (db : ReviewDb) : Prop where
  retried : ∀ letter, (∃ row, db.letters.committed letter = some row ∧ row.status = .retried) ↔
    ∃ id row, db.executions.committed id = some row ∧ row.retryOf = some letter
  single : Keyed RetryExecution.retryOf db.executions.committed

section Linked

variable {conn : Nat} {db db' : ReviewDb} {stage : Stage}

theorem Linked.congr (h : Linked db) (hletters : db'.letters.committed = db.letters.committed)
    (hexecutions : db'.executions.committed = db.executions.committed) : Linked db' := by
  refine ⟨fun letter => ?_, ?_⟩
  · rw [hletters, hexecutions]
    exact h.retried letter
  · rw [hexecutions]
    exact h.single

/-- After a commit the retried dead letters are those before and the one the transaction has marked. -/
theorem retried_commit (hsettled : Settled DeadLetterRow.IsFinal db.letters)
    (hheld : Holding db conn stage) (letter : Nat) :
    (∃ row, (db.letters.view conn) letter = some row ∧ row.status = .retried) ↔
      (∃ row, db.letters.committed letter = some row ∧ row.status = .retried) ∨
        mark? stage = some letter := by
  rw [← hheld.marks letter]
  cases hdraft : db.letters.draft conn letter with
  | some own =>
    have hnot : ¬ ∃ row, db.letters.committed letter = some row ∧ row.status = .retried := by
      rintro ⟨row, hrow, hstatus⟩
      refine hsettled conn letter row own hdraft hrow ?_
      simp [DeadLetterRow.IsFinal, hstatus, DeadLetterStatus.isActive]
    rw [Store.view_of_draft hdraft]
    simp [hnot]
  | none =>
    rw [Store.view_of_no_draft hdraft]
    simp

/-- A complete transaction adds a retry execution and the mark of its dead letter together. -/
theorem Linked.commit (h : Linked db) (hsettled : Settled DeadLetterRow.IsFinal db.letters)
    (hadded : Settled (fun _ => True) db.executions) (hheld : Holding db conn stage)
    (hcomplete : stage.Complete) : Linked (db.commit conn) := by
  have hletters (letter : Nat) : (db.commit conn).letters.committed letter = db.letters.view conn letter :=
    congrFun (Store.committed_commit db.letters conn) letter
  have hexecutions (id : Nat) :
      (db.commit conn).executions.committed id = db.executions.view conn id :=
    congrFun (Store.committed_commit db.executions conn) id
  cases hmark : mark? stage with
  | none =>
    have hretry : insertedRetry stage = none := by
      cases stage with
      | clean => rfl
      | executed => exact hcomplete.elim
      | marked => cases hmark
    have hinserts := hheld.inserts
    rw [hretry] at hinserts
    have hsame (id : Nat) : (db.commit conn).executions.committed id = db.executions.committed id :=
      (hexecutions id).trans (Store.view_of_no_draft (hinserts id))
    refine ⟨fun letter => ?_, ?_⟩
    · simp only [hletters, hsame]
      rw [retried_commit hsettled hheld letter, hmark, h.retried letter]
      simp
    · intro id id' row row' key
      rw [hsame, hsame]
      exact h.single id id' row row' key
  | some marked =>
    obtain rfl : stage = .marked marked := by
      cases stage with
      | clean => cases hmark
      | executed => cases hmark
      | marked letter =>
        cases hmark
        rfl
    obtain ⟨new, own, hown, hdraft⟩ : Inserts db conn (some marked) := hheld.inserts
    -- the dead letter was not retried before, so no execution was its retry
    have hfirst (id : Nat) (row : RetryExecution) (hrow : db.executions.committed id = some row) :
        row.retryOf ≠ some marked := by
      intro hretryOf
      obtain ⟨letter, hletter, hstatus⟩ := (h.retried marked).mpr ⟨id, row, hrow, hretryOf⟩
      obtain ⟨version, hversion, -⟩ := (hheld.marks marked).mpr rfl
      refine hsettled conn marked letter version hversion hletter ?_
      simp [DeadLetterRow.IsFinal, hstatus, DeadLetterStatus.isActive]
    have hnew : db.executions.committed new = none := by
      cases hrow : db.executions.committed new with
      | none => rfl
      | some row => exact absurd trivial (hadded conn new row own (by rw [hdraft]; simp) hrow)
    have hrows (id : Nat) : (db.commit conn).executions.committed id =
        if id = new then some own else db.executions.committed id := by
      rw [hexecutions, Store.view_eq, hdraft]
      by_cases hid : id = new
      · simp [hid]
      · simp [hid]
    refine ⟨fun letter => ?_, ?_⟩
    · simp only [hletters]
      rw [retried_commit hsettled hheld letter, h.retried letter]
      constructor
      · rintro (⟨id, row, hrow, hretryOf⟩ | hmarked)
        · have hid : id ≠ new := by
            rintro rfl
            rw [hnew] at hrow
            cases hrow
          exact ⟨id, row, by rw [hrows, if_neg hid, hrow], hretryOf⟩
        · cases hmarked
          exact ⟨new, own, by rw [hrows, if_pos rfl], hown⟩
      · rintro ⟨id, row, hrow, hretryOf⟩
        rw [hrows] at hrow
        by_cases hid : id = new
        · rw [if_pos hid] at hrow
          cases hrow
          rw [hown] at hretryOf
          exact .inr hretryOf
        · rw [if_neg hid] at hrow
          exact .inl ⟨id, row, hrow, hretryOf⟩
    · intro id id' row row' key hrow hrow' hkey hkey'
      rw [hrows] at hrow hrow'
      by_cases hid : id = new
      · by_cases hid' : id' = new
        · rw [hid, hid']
        · rw [if_pos hid] at hrow
          rw [if_neg hid'] at hrow'
          cases hrow
          rw [hown] at hkey
          cases hkey
          exact absurd hkey' (hfirst id' row' hrow')
      · rw [if_neg hid] at hrow
        by_cases hid' : id' = new
        · rw [if_pos hid'] at hrow'
          cases hrow'
          rw [hown] at hkey'
          cases hkey'
          exact absurd hkey (hfirst id row hrow)
        · rw [if_neg hid'] at hrow'
          exact h.single id id' row row' key hrow hrow' hkey hkey'

end Linked

/-! ## Discipline -/

/-- What holds of the tables throughout. -/
structure SoundDb (db : ReviewDb) : Prop where
  sources : Separate DeadLetterRow.activeSource db.letters
  settled : Settled DeadLetterRow.IsFinal db.letters
  added : Settled (fun _ => True) db.executions
  linked : Linked db

/-- What holds of the server throughout: a connection that has not been used yet has done nothing, and
    no request that has committed something is answered with an error. -/
structure Sound (s : ReviewServer) : Prop where
  db : SoundDb s.db
  unused : ∀ conn, (s.conns conn).received = false →
    (s.conns conn).published = false ∧ (s.conns conn).answer = none ∧
      (∀ id, s.db.letters.draft conn id = none) ∧ ∀ id, s.db.executions.draft conn id = none
  honest : ∀ conn answer, (s.conns conn).answer = some answer → (s.conns conn).published = true →
    answer.isError = false

/-- What holds of a connection in a phase. -/
def Serves (s : ReviewServer) (conn : Nat) : Phase → Prop
  | .idle => True
  | .live stage done => Holding s.db conn stage ∧ (s.conns conn).received = true ∧
      (s.conns conn).answer = none ∧ ((s.conns conn).published = true → done = true)

/-- The step is that of one connection: the others are as before. -/
def Apart (conn : Nat) (s s' : ReviewServer) : Prop :=
  ∀ d, d ≠ conn → s'.conns d = s.conns d ∧ s'.db.letters.draft d = s.db.letters.draft d ∧
    s'.db.executions.draft d = s.db.executions.draft d

/-- What is committed for good: a final dead letter stays as it is. -/
def KeepsFinal (s s' : ReviewServer) : Prop :=
  ∀ id row, s.db.letters.committed id = some row → row.IsFinal → s'.db.letters.committed id = some row

/-- The committed rows are the same. -/
def SameCommitted (s s' : ReviewServer) : Prop :=
  s'.db.letters.committed = s.db.letters.committed ∧
    s'.db.executions.committed = s.db.executions.committed

/-- A step of the connection: what it may commit, and that it says so. -/
structure Advances (conn : Nat) (s s' : ReviewServer) : Prop where
  final : KeepsFinal s s'
  published : ∀ d, (s.conns d).published = true → (s'.conns d).published = true
  silent : SameCommitted s s' ∨ (s'.conns conn).published = true

section Steps

variable {s s' : ReviewServer} {conn : Nat} {g g' : Phase} {w : Moment}

theorem Sound.after (hsound : Sound s) (hdb : SoundDb s'.db) (hapart : Apart conn s s')
    (hreceived : (s'.conns conn).received = true)
    (hhonest : ∀ answer, (s'.conns conn).answer = some answer → (s'.conns conn).published = true →
      answer.isError = false) : Sound s' := by
  refine ⟨hdb, fun d hd => ?_, fun d answer => ?_⟩
  · have hne : d ≠ conn := by
      rintro rfl
      rw [hreceived] at hd
      cases hd
    obtain ⟨hconns, hletters, hexecutions⟩ := hapart d hne
    rw [hconns] at hd ⊢
    rw [hletters, hexecutions]
    exact hsound.unused d hd
  · by_cases hd : d = conn
    · subst hd
      exact hhonest answer
    · rw [(hapart d hd).1]
      exact hsound.honest d answer

theorem Serves.apart (hserves : Serves s conn g) {d : Nat} (hapart : Apart d s s') (hne : conn ≠ d) :
    Serves s' conn g := by
  obtain ⟨hconns, hletters, hexecutions⟩ := hapart conn hne
  cases g with
  | idle => trivial
  | live stage done =>
    obtain ⟨hheld, hrest⟩ := hserves
    refine ⟨hheld.congr hletters hexecutions, ?_⟩
    rw [hconns]
    exact hrest

/-- Nothing about the tables and the published transactions changes. -/
theorem advances_of_same (hcommitted : SameCommitted s s')
    (hpublished : ∀ d, (s'.conns d).published = (s.conns d).published) : Advances conn s s' := by
  refine ⟨fun id row hrow _ => ?_, fun d hd => ?_, .inl hcommitted⟩
  · rw [hcommitted.1, hrow]
  · rw [hpublished, hd]

theorem SoundDb.effect {db db' : ReviewDb} {q : Sql} {r : Except DeadLetterReview.Raised (SqlReply q)}
    (h : SoundDb db) (heffect : Effect conn db q r db') : SoundDb db' where
  sources := heffect.separate h.sources
  settled := heffect.settled h.settled
  added := heffect.added h.added
  linked := h.linked.congr heffect.committed.1 heffect.committed.2

theorem SoundDb.rollback {db : ReviewDb} (h : SoundDb db) (conn : Nat) : SoundDb (db.rollback conn) where
  sources := h.sources.rollback
  settled := h.settled.rollback
  added := h.added.rollback
  linked := h.linked.congr (Store.committed_rollback _ _) (Store.committed_rollback _ _)

theorem SoundDb.commit {db : ReviewDb} {stage : Stage} (h : SoundDb db)
    (hheld : Holding db conn stage) (hcomplete : stage.Complete) : SoundDb (db.commit conn) where
  sources := h.sources.commit
  settled := h.settled.commit
  added := h.added.commit
  linked := h.linked.commit h.settled h.added hheld hcomplete

/-- After a rollback the connection has written nothing. -/
theorem holding_rollback (db : ReviewDb) (conn : Nat) : Holding (db.rollback conn) conn .clean :=
  holding_clean (fun id => (Store.draft_rollback _ conn conn id).trans (if_pos rfl))
    fun id => (Store.draft_rollback _ conn conn id).trans (if_pos rfl)

/-- After a commit the connection has nothing left to write. -/
theorem holding_commit (db : ReviewDb) (conn : Nat) : Holding (db.commit conn) conn .clean :=
  holding_clean (fun id => (Store.draft_commit _ conn conn id).trans (if_pos rfl))
    fun id => (Store.draft_commit _ conn conn id).trans (if_pos rfl)

/-- A change of the playbook engine keeps the rows' dead letters and the open transactions. -/
theorem change_cases (db : ReviewDb) (conn : Nat) (now : Int) (change : Change) :
    db.change conn now change = db ∨
      (∃ id f, (∀ row : RetryExecution, (f row).retryOf = row.retryOf) ∧
        db.change conn now change = { db with executions := db.executions.amend id f }) ∨
      ∃ mk, (mk db.executions.next).retryOf = none ∧
        db.change conn now change = { db with executions := db.executions.append mk } := by
  cases change with
  | setStatus id status =>
    refine .inr (.inl ⟨id, _, fun row => ?_, rfl⟩)
    split
    · rfl
    · rfl
  | insert new =>
    simp only [ReviewDb.change]
    split
    · exact .inl rfl
    · exact .inr (.inr ⟨_, rfl, rfl⟩)

theorem change_draft (db : ReviewDb) (conn : Nat) (now : Int) (change : Change) (d : Nat) :
    (db.change conn now change).letters = db.letters ∧
      (db.change conn now change).executions.draft d = db.executions.draft d := by
  rcases change_cases db conn now change with h | ⟨id, f, -, h⟩ | ⟨mk, -, h⟩
  · rw [h]
    exact ⟨rfl, rfl⟩
  · rw [h]
    exact ⟨rfl, Store.draft_amend _ _ _ _⟩
  · rw [h]
    exact ⟨rfl, Store.draft_append _ _ _⟩

/-- Changed statuses do not change what is a retry of what. -/
theorem Linked.amend {db : ReviewDb} (h : Linked db) (id : Nat) {f : RetryExecution → RetryExecution}
    (hf : ∀ row, (f row).retryOf = row.retryOf) :
    Linked { db with executions := db.executions.amend id f } := by
  -- each committed row comes from one of the same id and the same dead letter
  have hback (id' : Nat) (row' : RetryExecution)
      (hrow' : (db.executions.amend id f).committed id' = some row') :
      ∃ row, db.executions.committed id' = some row ∧ row'.retryOf = row.retryOf := by
    rw [Store.committed_amend] at hrow'
    split at hrow'
    · obtain ⟨row, hrow, heq⟩ := Option.map_eq_some_iff.mp hrow'
      exact ⟨row, hrow, by rw [← heq, hf]⟩
    · exact ⟨row', hrow', rfl⟩
  refine ⟨fun letter => (h.retried letter).trans ⟨?_, ?_⟩, ?_⟩
  · rintro ⟨id', row, hrow, hretryOf⟩
    by_cases hid : id' = id
    · exact ⟨id', f row, by rw [Store.committed_amend, if_pos hid, hrow]; rfl, by rw [hf, hretryOf]⟩
    · exact ⟨id', row, by rw [Store.committed_amend, if_neg hid, hrow], hretryOf⟩
  · rintro ⟨id', row', hrow', hretryOf⟩
    obtain ⟨row, hrow, heq⟩ := hback id' row' hrow'
    exact ⟨id', row, hrow, heq.symm.trans hretryOf⟩
  · intro id₁ id₂ row₁ row₂ key h₁ h₂ hkey₁ hkey₂
    obtain ⟨old₁, hold₁, heq₁⟩ := hback id₁ row₁ h₁
    obtain ⟨old₂, hold₂, heq₂⟩ := hback id₂ row₂ h₂
    exact h.single id₁ id₂ old₁ old₂ key hold₁ hold₂ (heq₁.symm.trans hkey₁) (heq₂.symm.trans hkey₂)

/-- An execution that is no retry of a dead letter changes nothing about the retries. -/
theorem Linked.append {db : ReviewDb} (h : Linked db) {mk : Nat → RetryExecution}
    (hmk : (mk db.executions.next).retryOf = none) :
    Linked { db with executions := db.executions.append mk } := by
  have hback (id : Nat) (row : RetryExecution) (letter : Nat)
      (hrow : (db.executions.append mk).committed id = some row) (hretryOf : row.retryOf = some letter) :
      db.executions.committed id = some row := by
    rw [Store.committed_append] at hrow
    split at hrow
    · cases hrow
      rw [hmk] at hretryOf
      cases hretryOf
    · exact hrow
  refine ⟨fun letter => (h.retried letter).trans ⟨?_, ?_⟩, ?_⟩
  · rintro ⟨id, row, hrow, hretryOf⟩
    refine ⟨id, row, ?_, hretryOf⟩
    have hid : id ≠ db.executions.next := by
      rintro rfl
      rw [Store.committed_of_fresh (Nat.le_refl _)] at hrow
      cases hrow
    rw [Store.committed_append, if_neg hid, hrow]
  · rintro ⟨id, row, hrow, hretryOf⟩
    exact ⟨id, row, hback id row letter hrow hretryOf, hretryOf⟩
  · intro id₁ id₂ row₁ row₂ key h₁ h₂ hkey₁ hkey₂
    exact h.single id₁ id₂ row₁ row₂ key (hback id₁ row₁ key h₁ hkey₁) (hback id₂ row₂ key h₂ hkey₂)
      hkey₁ hkey₂

theorem SoundDb.change {db : ReviewDb} (h : SoundDb db) (conn : Nat) (now : Int) (change : Change) :
    SoundDb (db.change conn now change) := by
  rcases change_cases db conn now change with heq | ⟨id, f, hf, heq⟩ | ⟨mk, hmk, heq⟩
  · rw [heq]
    exact h
  · rw [heq]
    refine ⟨h.sources, h.settled, fun d id' row own hdraft hrow => ?_, h.linked.amend id hf⟩
    rw [Store.draft_amend] at hdraft
    rw [Store.committed_amend] at hrow
    split at hrow
    · obtain ⟨old, hold, -⟩ := Option.map_eq_some_iff.mp hrow
      exact h.added d id' old own hdraft hold
    · exact h.added d id' row own hdraft hrow
  · rw [heq]
    refine ⟨h.sources, h.settled, fun d id' row own hdraft hrow => ?_, h.linked.append hmk⟩
    rw [Store.draft_append] at hdraft
    rw [Store.committed_append] at hrow
    split at hrow
    · next hid =>
      rw [hid, Store.draft_of_fresh (Nat.le_refl _)] at hdraft
      cases hdraft
    · exact h.added d id' row own hdraft hrow

/-! ### One step of a request -/

/-- A step may be taken: a connection is used for one request, and a statement that has to wait does not
    go on, unless the server ends the wait with an error. -/
def fairStep (s : ReviewServer) (w : Moment) (q : Request) : Bool :=
  match q.statement with
  | .receive => !(s.conns q.conn).received
  | .sql _ => w.fault.isSome || !s.waits q
  | _ => true

@[simp] theorem onConn_self (s : ReviewServer) (conn : Nat) (f : ConnState → ConnState) :
    (s.onConn conn f).conns conn = f (s.conns conn) := by
  simp [ReviewServer.onConn]

theorem onConn_of_ne (s : ReviewServer) {conn d : Nat} (hne : d ≠ conn) (f : ConnState → ConnState) :
    (s.onConn conn f).conns d = s.conns d := by
  simp [ReviewServer.onConn, hne]

@[simp] theorem onConn_db (s : ReviewServer) (conn : Nat) (f : ConnState → ConnState) :
    (s.onConn conn f).db = s.db := rfl

/-- A change of the connection's own state that says nothing of what it has published. -/
theorem published_onConn (s : ReviewServer) (conn : Nat) {f : ConnState → ConnState}
    (hf : (f (s.conns conn)).published = (s.conns conn).published) (d : Nat) :
    ((s.onConn conn f).conns d).published = (s.conns d).published := by
  by_cases hd : d = conn
  · rw [hd, onConn_self, hf]
  · rw [onConn_of_ne s hd]

theorem apart_onConn (s : ReviewServer) (conn : Nat) (f : ConnState → ConnState) :
    Apart conn s (s.onConn conn f) :=
  fun _ hd => ⟨onConn_of_ne s hd f, rfl, rfl⟩

/-- What one step of a request does: the server stays sound, the request goes on as its next phase says,
    the others are as before. -/
structure Steps (conn : Nat) (s s' : ReviewServer) (g' : Phase) : Prop where
  sound : Sound s'
  serves : Serves s' conn g'
  apart : Apart conn s s'
  advances : Advances conn s s'

/-- A step that has an effect on the tables and leaves what is known of its connection. -/
theorem steps_effect {stage stage' : Stage} {q : Sql} {r : Except DeadLetterReview.Raised (SqlReply q)}
    (hsound : Sound s) (hserves : Serves s conn (.live stage false)) (hmove : SqlMove stage q r stage')
    (heffect : Effect conn s.db q r s'.db) (hothers : ∀ d, d ≠ conn → s'.conns d = s.conns d)
    (hreceived : (s'.conns conn).received = (s.conns conn).received)
    (hanswer : (s'.conns conn).answer = (s.conns conn).answer)
    (hpublished : ∀ d, (s'.conns d).published = (s.conns d).published) :
    Steps conn s s' (.live stage' false) := by
  obtain ⟨hheld, hused, hnone, hdone⟩ := hserves
  have hapart : Apart conn s s' := fun d hd => ⟨hothers d hd, heffect.draft_of_ne hd⟩
  refine ⟨?_, ?_, hapart, advances_of_same heffect.committed hpublished⟩
  · refine hsound.after (hsound.db.effect heffect) hapart (hreceived.trans hused) fun answer h => ?_
    rw [hanswer, hnone] at h
    cases h
  · refine ⟨heffect.holding hmove hheld, hreceived.trans hused, hanswer.trans hnone, ?_⟩
    rw [hpublished]
    exact hdone

/-- A statement on the tables. -/
theorem steps_sql {stage stage' : Stage} {q : Sql}
    (hfair : fairStep s w ⟨conn, .sql q⟩ = true) (hsound : Sound s)
    (hserves : Serves s conn (.live stage false))
    (hmove : SqlMove stage q (s.sql conn w q).1 stage') :
    Steps conn s (s.sql conn w q).2 (.live stage' false) := by
  -- an error aborts the transaction, which says nothing of its versions
  have herror (raised : DeadLetterReview.Raised) (db : ReviewDb) (heffect : Effect conn s.db q (.error raised) db)
      (hmove : SqlMove stage q (.error raised) stage') :
      Steps conn s ({ s with db := db }.onConn conn fun c => { c with aborted := true })
        (.live stage' false) := by
    refine steps_effect hsound hserves hmove heffect (fun d hd => onConn_of_ne _ hd _) ?_ ?_
      (published_onConn { s with db := db } conn rfl)
    · rw [onConn_self]
    · rw [onConn_self]
  have hsame (raised : DeadLetterReview.Raised) : Effect conn s.db q (.error raised) s.db :=
    .same (stays_error q raised)
  unfold ReviewServer.sql at hmove ⊢
  by_cases haborted : (s.conns conn).aborted = true
  · rw [if_pos haborted] at hmove ⊢
    exact steps_effect hsound hserves hmove (hsame _) (fun _ _ => rfl) rfl rfl fun _ => rfl
  · rw [if_neg haborted] at hmove ⊢
    cases hfault : w.fault with
    | some raised =>
      rw [hfault] at hmove
      exact herror raised s.db (hsame raised) hmove
    | none =>
      rw [hfault] at hmove
      have hwaits : s.db.waits conn q = false := by
        simpa [fairStep, hfault, ReviewServer.waits, haborted] using hfair
      have heffect := run_effect (w := w) hwaits
      rcases hrun : ReviewDb.run conn w q s.db with ⟨raised | reply, db⟩
      · rw [hrun] at hmove heffect
        exact herror raised db heffect hmove
      · rw [hrun] at hmove heffect
        exact steps_effect hsound hserves hmove heffect (fun _ _ => rfl) rfl rfl fun _ => rfl

/-- The end of a transaction without effect. -/
theorem steps_rollback {stage : Stage} {done : Bool} (hsound : Sound s)
    (hserves : Serves s conn (.live stage done)) :
    Steps conn s (s.rollback conn) (.live .clean done) := by
  obtain ⟨hheld, hused, hnone, hdone⟩ := hserves
  have hconns (d : Nat) (hd : d ≠ conn) : (s.rollback conn).conns d = s.conns d := onConn_of_ne _ hd _
  have hapart : Apart conn s (s.rollback conn) := fun d hd =>
    ⟨hconns d hd, funext fun id => (Store.draft_rollback _ conn d id).trans (if_neg hd),
      funext fun id => (Store.draft_rollback _ conn d id).trans (if_neg hd)⟩
  have hself : (s.rollback conn).conns conn = { s.conns conn with aborted := false } :=
    onConn_self _ conn _
  refine ⟨?_, ?_, hapart, advances_of_same ⟨?_, ?_⟩ ?_⟩
  · refine hsound.after (hsound.db.rollback conn) hapart (by rw [hself]; exact hused)
      fun answer h => ?_
    rw [hself] at h
    exact absurd (hnone.symm.trans h) (by simp)
  · refine ⟨holding_rollback s.db conn, ?_⟩
    rw [hself]
    exact ⟨hused, hnone, hdone⟩
  · exact Store.committed_rollback _ _
  · exact Store.committed_rollback _ _
  · exact published_onConn { s with db := s.db.rollback conn } conn rfl

/-- A step that publishes: what it commits keeps the final rows, and the request knows that it has
    committed. -/
theorem steps_publish {stage stage' : Stage} {done : Bool} {db : ReviewDb} (hsound : Sound s)
    (hserves : Serves s conn (.live stage done)) (hdb : SoundDb db)
    (hapart : ∀ d, d ≠ conn → db.letters.draft d = s.db.letters.draft d ∧
      db.executions.draft d = s.db.executions.draft d)
    (hheld : Holding db conn stage')
    (hfinal : ∀ id row, s.db.letters.committed id = some row → row.IsFinal →
      db.letters.committed id = some row) :
    Steps conn s ({ s with db := db }.onConn conn fun c => { c with published := true })
      (.live stage' true) := by
  obtain ⟨-, hused, hnone, -⟩ := hserves
  have hself : ({ s with db := db }.onConn conn fun c => { c with published := true }).conns conn =
      { s.conns conn with published := true } := onConn_self _ conn _
  have hall : Apart conn s ({ s with db := db }.onConn conn fun c => { c with published := true }) :=
    fun d hd => ⟨onConn_of_ne _ hd _, hapart d hd⟩
  refine ⟨?_, ?_, hall, ⟨hfinal, fun d hd => ?_, .inr ?_⟩⟩
  · refine hsound.after hdb hall (by rw [hself]; exact hused) fun answer h => ?_
    rw [hself] at h
    exact absurd (hnone.symm.trans h) (by simp)
  · refine ⟨hheld, ?_⟩
    rw [hself]
    exact ⟨hused, hnone, fun _ => rfl⟩
  · by_cases hne : d = conn
    · rw [hne, hself]
    · rw [(hall d hne).1, hd]
  · rw [hself]

/-- A commit of a complete transaction. -/
theorem steps_commit {stage : Stage} (hsound : Sound s) (hserves : Serves s conn (.live stage false))
    (hcomplete : stage.Complete) :
    Steps conn s ({ s with db := s.db.commit conn }.onConn conn fun c => { c with published := true })
      (.live .clean true) := by
  refine steps_publish hsound hserves (hsound.db.commit hserves.1 hcomplete) (fun d hd => ?_)
    (holding_commit s.db conn) fun id row hrow hfinal => hsound.db.settled.commit_row hrow hfinal
  exact ⟨funext fun id => (Store.draft_commit _ conn d id).trans (if_neg hd),
    funext fun id => (Store.draft_commit _ conn d id).trans (if_neg hd)⟩

/-- A transaction of the playbook engine. -/
theorem steps_elsewhere (hsound : Sound s) (hserves : Serves s conn (.live .clean false)) (now : Int)
    (change : Change) :
    Steps conn s ({ s with db := s.db.change conn now change }.onConn conn fun c =>
      { c with published := true }) (.live .clean true) := by
  have hdraft := change_draft s.db conn now change
  refine steps_publish hsound hserves (hsound.db.change conn now change) (fun d _ => ?_) ?_ ?_
  · rw [(hdraft d).1]
    exact ⟨rfl, (hdraft d).2⟩
  · refine hserves.1.congr ?_ (hdraft conn).2
    rw [(hdraft conn).1]
  · intro id row hrow _
    rw [(hdraft conn).1, hrow]

/-- The request arrives on a connection that has not been used. -/
theorem steps_receive (hsound : Sound s) (hfair : (s.conns conn).received = false) :
    Steps conn s (s.onConn conn fun c => { c with received := true }) (.live .clean false) := by
  obtain ⟨hpublished, hanswer, hletters, hexecutions⟩ := hsound.unused conn hfair
  refine ⟨?_, ?_, apart_onConn s conn _, advances_of_same ⟨rfl, rfl⟩ (published_onConn s conn rfl)⟩
  · refine hsound.after hsound.db (apart_onConn s conn _) (by simp) fun answer h => ?_
    rw [onConn_self] at h
    exact absurd (hanswer.symm.trans h) (by simp)
  · refine ⟨holding_clean hletters hexecutions, ?_⟩
    rw [onConn_self]
    refine ⟨rfl, hanswer, fun h => ?_⟩
    rw [hpublished] at h
    cases h

/-- The request is answered. -/
theorem steps_respond {done : Bool} (hsound : Sound s) (hserves : Serves s conn (.live .clean done))
    {answer : Answer} (hanswer : done = true → answer.isError = false) :
    Steps conn s (s.onConn conn fun c => { c with answer := some answer }) .idle := by
  obtain ⟨-, hused, -, hdone⟩ := hserves
  refine ⟨?_, trivial, apart_onConn s conn _,
    advances_of_same ⟨rfl, rfl⟩ (published_onConn s conn rfl)⟩
  refine hsound.after hsound.db (apart_onConn s conn _) (by simpa using hused) fun given h hpublished => ?_
  rw [onConn_self] at h hpublished
  cases h
  exact hanswer (hdone hpublished)

/-- The phase after a commit that goes well, and after one that fails. -/
theorem move_commit {r : Except DeadLetterReview.Raised Unit} (hmove : Move g .commit r g') :
    ∃ stage, g = .live stage false ∧
      ((r = .ok () ∧ stage.Complete ∧ g' = .live .clean true) ∨
        ((∃ raised, r = .error raised) ∧ g' = .live .clean false)) := by
  cases hmove with
  | commit hcomplete => exact ⟨_, rfl, .inl ⟨rfl, hcomplete, rfl⟩⟩
  | commitFails raised => exact ⟨_, rfl, .inr ⟨⟨raised, rfl⟩, rfl⟩⟩

/-- A request that has committed nothing may take itself for one that has. -/
theorem Steps.done {stage : Stage} (h : Steps conn s s' (.live stage false)) :
    Steps conn s s' (.live stage true) := by
  obtain ⟨hheld, hused, hnone, -⟩ := h.serves
  exact ⟨h.sound, ⟨hheld, hused, hnone, fun _ => rfl⟩, h.apart, h.advances⟩

/-- `conn.commit()`, whatever it comes to. -/
theorem steps_commitCall (hsound : Sound s) (hserves : Serves s conn g)
    (hmove : Move g .commit (s.commit conn w).1 g') : Steps conn s (s.commit conn w).2 g' := by
  obtain ⟨stage, rfl, hend⟩ := move_commit hmove
  unfold ReviewServer.commit at hend ⊢
  by_cases haborted : (s.conns conn).aborted = true
  · rw [if_pos haborted] at hend ⊢
    rcases hend with ⟨-, -, rfl⟩ | ⟨⟨raised, hraised⟩, -⟩
    · exact (steps_rollback hsound hserves).done
    · cases hraised
  · rw [if_neg haborted] at hend ⊢
    cases hfault : w.fault with
    | some raised =>
      rw [hfault] at hend
      rcases hend with ⟨hok, -⟩ | ⟨-, rfl⟩
      · cases hok
      · exact steps_rollback hsound hserves
    | none =>
      rw [hfault] at hend
      rcases hend with ⟨-, hcomplete, rfl⟩ | ⟨⟨raised, hraised⟩, -⟩
      · exact steps_commit hsound hserves hcomplete
      · cases hraised

/-- What a step that may be taken does. -/
theorem steps_exec {q : Request} (hfair : fairStep s w q = true) (hsound : Sound s)
    (hserves : Serves s q.conn g) (hmove : Move g q.statement (ReviewServer.exec w q s).1 g') :
    Steps q.conn s (ReviewServer.exec w q s).2 g' := by
  obtain ⟨conn, statement⟩ := q
  cases statement with
  | receive =>
    cases hmove
    exact steps_receive hsound (by simpa [fairStep] using hfair)
  | connect =>
    have hsame : (ReviewServer.exec w ⟨conn, .connect⟩ s).2 = s := by
      simp only [ReviewServer.exec]
      split
      · rfl
      · rfl
    rw [hsame]
    cases hmove
    exact ⟨hsound, hserves, fun _ _ => ⟨rfl, rfl, rfl⟩, advances_of_same ⟨rfl, rfl⟩ fun _ => rfl⟩
  | sql q =>
    obtain ⟨stage, stage', rfl, rfl, hsql⟩ : ∃ stage stage', g = .live stage false ∧
        g' = .live stage' false ∧ SqlMove stage q (s.sql conn w q).1 stage' := by
      cases hmove with
      | sql hsql => exact ⟨_, _, rfl, rfl, hsql⟩
    exact steps_sql hfair hsound hserves hsql
  | commit => exact steps_commitCall hsound hserves hmove
  | rollback =>
    cases hmove
    exact steps_rollback hsound hserves
  | close =>
    cases hmove
    exact steps_rollback hsound hserves
  | respond answer =>
    cases hmove with
    | respond _ hanswer => exact steps_respond hsound hserves hanswer
  | elsewhere change =>
    cases hmove
    exact steps_elsewhere hsound hserves w.now change

end Steps

/-- The requests of a run: each step is one that may be taken. -/
def Fair (pool : Atomic.Pool ReviewServer Nat Request.Reply) (_ : Nat) (w : Moment) (q : Request) : Prop :=
  fairStep pool.shared w q = true

instance (pool : Atomic.Pool ReviewServer Nat Request.Reply) (a : Nat) (w : Moment) (q : Request) :
    Decidable (Fair pool a w q) :=
  inferInstanceAs (Decidable (fairStep pool.shared w q = true))

/-- What the requests may rely on, whatever the others do. -/
def reviewDiscipline : Discipline reviewRefinement (OnStep Fair) where
  Global := Sound
  Local := Serves
  between _ _ _ := trivial
  slide _ _ _ _ _ _ hsilent := hsilent.elim
  step pool phase a w q g' hat hok hsound hserves := by
    obtain ⟨rfl, hmove⟩ := hat.step
    have hsteps := steps_exec (hok q hat.next) hsound (hserves q.conn) hmove
    exact ⟨hsteps.sound, hsteps.serves, fun b hb => (hserves b).apart hsteps.apart hb⟩

/-- The server before the first request. -/
theorem sound_empty : Sound ReviewServer.empty where
  db := {
    sources := Separate.empty
    settled := Settled.empty
    added := Settled.empty
    linked := {
      retried := fun letter => by
        constructor
        · rintro ⟨row, hrow, -⟩
          cases hrow
        · rintro ⟨id, row, hrow, -⟩
          cases hrow
      single := fun _ _ _ _ _ hrow => by cases hrow } }
  unused _ _ := ⟨rfl, rfl, fun _ => rfl, fun _ => rfl⟩
  honest _ _ h := by cases h

/-! ## Runs -/

/-- An event of the system. -/
abbrev ReviewEvent := Atomic.Event Nat DeadLetterReview.Task Moment

def after (events : List ReviewEvent) : ReviewServer :=
  (reviewSystem.run (.idle ReviewServer.empty) events).shared

/-- The events are those of a run: each connection serves one request, and none overtakes a lock. -/
abbrev FairRun (events : List ReviewEvent) : Prop :=
  reviewSystem.EachStep Fair (.idle ReviewServer.empty) events

/-- What every step of a run commits. -/
def StepAdvances (pool : Atomic.Pool ReviewServer Nat Request.Reply) (a : Nat) (w : Moment) (q : Request) :
    Prop :=
  Advances a pool.shared (ReviewServer.exec w q pool.shared).2

theorem eachStep_advances {events : List ReviewEvent} (hfair : FairRun events) :
    reviewSystem.EachStep StepAdvances (.idle ReviewServer.empty) events := by
  refine Discipline.eachStep reviewDiscipline ?_ sound_empty hfair
  intro pool phase a w q g' hat hok hsound hserves
  obtain ⟨rfl, hmove⟩ := hat.step
  exact (steps_exec (hok q hat.next) hsound (hserves q.conn) hmove).advances

theorem sound_after {events : List ReviewEvent} (hfair : FairRun events) : Sound (after events) := by
  obtain ⟨phase, hexplains⟩ := Discipline.holds_run
    (Discipline.holds_of_idle (D := reviewDiscipline) sound_empty) hfair
  exact hexplains.global

/-- Later servers keep the final rows and what was published. -/
def Later (s s' : ReviewServer) : Prop :=
  KeepsFinal s s' ∧ ∀ d, (s.conns d).published = true → (s'.conns d).published = true

theorem later_of_eachStep {pool : Atomic.Pool ReviewServer Nat Request.Reply} {events : List ReviewEvent}
    (h : reviewSystem.EachStep StepAdvances pool events) :
    Later pool.shared (reviewSystem.run pool events).shared := by
  refine System.EachStep.preorder Later (fun s => ⟨fun _ _ hrow _ => hrow, fun _ hd => hd⟩) ?_ ?_
  · rintro s₁ s₂ s₃ ⟨hfinal, hpublished⟩ ⟨hfinal', hpublished'⟩
    exact ⟨fun id row hrow hrowFinal => hfinal' id row (hfinal id row hrow hrowFinal) hrowFinal,
      fun d hd => hpublished' d (hpublished d hd)⟩
  · refine System.Along.imp (fun pool e hstep => ?_) h
    cases e with
    | start => trivial
    | crash => trivial
    | step a w => exact fun q hq => ⟨(hstep q hq).final, (hstep q hq).published⟩

theorem after_append (pre post : List ReviewEvent) :
    after (pre ++ post) = (reviewSystem.run (reviewSystem.run (.idle ReviewServer.empty) pre) post).shared :=
  congrArg Atomic.Pool.shared (System.run_append _ _ pre post)

/-- What is committed is kept from every moment of a run to its end. -/
theorem later_after {pre post : List ReviewEvent} (hfair : FairRun (pre ++ post)) :
    Later (after pre) (after (pre ++ post)) := by
  rw [after_append]
  exact later_of_eachStep (eachStep_advances hfair).drop

/-- A step that changes what is committed belongs to a connection that has published then. -/
theorem silent_step {pre post : List ReviewEvent} {conn : Nat} {w : Moment}
    (hfair : FairRun (pre ++ .step conn w :: post)) :
    SameCommitted (after pre) (after (pre ++ [.step conn w])) ∨
      ((after (pre ++ [.step conn w])).conns conn).published = true := by
  have hsteps := (eachStep_advances hfair).drop
  rw [after_append]
  simp only [System.run_cons, System.run_nil]
  change SameCommitted (reviewSystem.run (.idle ReviewServer.empty) pre).shared _ ∨ _
  generalize reviewSystem.run (.idle ReviewServer.empty) pre = pool at hsteps ⊢
  rcases hproc : pool.proc conn with _ | (_ | ⟨q, k⟩)
  · simp only [System.apply, hproc]
    exact .inl ⟨rfl, rfl⟩
  · simp only [System.apply, hproc]
    exact .inl ⟨rfl, rfl⟩
  · have hadvances : StepAdvances pool conn w q := hsteps.1 q (by simp [Atomic.Pool.next, hproc])
    simp only [System.apply, hproc]
    exact hadvances.silent

/-! ## Result -/

/-- The dead letters and executions of a run. -/
structure Lifecycle (events : List ReviewEvent) : Prop where
  /-- A source has at most one open or retrying dead letter. -/
  oneActive : ∀ id id' row row', (after events).db.letters.committed id = some row →
    (after events).db.letters.committed id' = some row' →
    (row.status = .open ∨ row.status = .retrying) → (row'.status = .open ∨ row'.status = .retrying) →
    row.sourceType = row'.sourceType → row.sourceId = row'.sourceId → id = id'
  /-- A dead letter that is dismissed or retried at some moment is the same at the end. -/
  finalStays : ∀ pre post id row, events = pre ++ post →
    (after pre).db.letters.committed id = some row →
    (row.status = .dismissed ∨ row.status = .retried) →
    (after events).db.letters.committed id = some row
  /-- A dead letter is retried exactly if an execution of its retry is committed. -/
  retriedIff : ∀ letter,
    (∃ row, (after events).db.letters.committed letter = some row ∧ row.status = .retried) ↔
      ∃ id row, (after events).db.executions.committed id = some row ∧ row.retryOf = some letter
  /-- No dead letter has two committed retry executions. -/
  oneRetry : ∀ letter id id' row row', (after events).db.executions.committed id = some row →
    (after events).db.executions.committed id' = some row' → row.retryOf = some letter →
    row'.retryOf = some letter → id = id'
  /-- No step of a request that is answered with an error changes what is committed. -/
  errorChangesNothing : ∀ pre conn w post answer, events = pre ++ .step conn w :: post →
    ((after events).conns conn).answer = some answer → answer.isError = true →
    SameCommitted (after pre) (after (pre ++ [.step conn w]))

/-- **The life of dead letters.**  In every run of captures, dismissals, retry requests and retry
    executions over any number of connections, statements interleaving freely under row locks, a source
    has at most one active dead letter, a reviewed one never changes again, it is retried together with
    its only retry execution, and a request that is answered with an error changes nothing. -/
theorem deadLetter_lifecycle {events : List ReviewEvent} (hfair : FairRun events) :
    Lifecycle events := by
  have hsound := sound_after hfair
  refine ⟨?_, ?_, hsound.db.linked.retried, ?_, ?_⟩
  · intro id id' row row' hrow hrow' hactive hactive' htype hid
    have hkey : row.activeSource = some (row.sourceType, row.sourceId) := by
      refine activeSource_of_isActive ?_
      rcases hactive with h | h
      · rw [h]; rfl
      · rw [h]; rfl
    have hkey' : row'.activeSource = some (row.sourceType, row.sourceId) := by
      rw [htype, hid]
      refine activeSource_of_isActive ?_
      rcases hactive' with h | h
      · rw [h]; rfl
      · rw [h]; rfl
    exact hsound.db.sources.committed id id' row row' _ hrow hrow' hkey hkey'
  · rintro pre post id row rfl hrow hstatus
    refine (later_after hfair).1 id row hrow ?_
    rcases hstatus with h | h
    · simp [DeadLetterRow.IsFinal, h, DeadLetterStatus.isActive]
    · simp [DeadLetterRow.IsFinal, h, DeadLetterStatus.isActive]
  · intro letter id id' row row' hrow hrow' hkey hkey'
    exact hsound.db.linked.single id id' row row' letter hrow hrow' hkey hkey'
  · rintro pre conn w post answer rfl hanswer herror
    refine (silent_step hfair).resolve_right fun hpublished => ?_
    have hrun : pre ++ .step conn w :: post = (pre ++ [.step conn w]) ++ post := by simp
    have hlater := @later_after (pre ++ [.step conn w]) post (hrun ▸ hfair)
    rw [← hrun] at hlater
    have hhonest := hsound.honest conn answer hanswer (hlater.2 conn hpublished)
    rw [hhonest] at herror
    cases herror

/-! ## Two operators retry the same dead letter -/

/-- Nothing goes wrong at noon. -/
def quiet : Moment := ⟨none, 43200, some 7⟩

/-- Steps of a connection. -/
def steps (conn count : Nat) : List ReviewEvent := List.replicate count (.step conn quiet)

/-- A connection is given a task and takes some steps. -/
def turns (conn : Nat) (task : DeadLetterReview.Task) (count : Nat) : List ReviewEvent := .start conn task :: steps conn count

/-- The failure of the first execution. -/
def failure : DeadLetterRequest where
  sourceType := "playbook_execution"
  sourceId := 1
  errorMessage := "timeout"
  failureClass := "timeout"
  retryable := true
  executionId := some 1
  incidentId := none
  alertId := none
  playbookId := some "contain"
  stepIndex := some 0
  actionName := none
  firstFailedAt := none
  lastFailedAt := none

/-- An execution fails and its failure is captured, an analyst requests a retry, and two operators insert
    the retry before either marks the dead letter; the second one waits for the first and is refused. -/
def twoOperators : List ReviewEvent :=
  turns 1 (.engine (.insert ⟨"contain", none, none, none, none, none, 0⟩)) 3 ++
    turns 2 (.engine (.setStatus 1 .failed)) 3 ++ turns 3 (.capture [failure]) 6 ++
    turns 4 (.retryRequest 1 (some "analyst")) 8 ++ turns 5 (.retryExecute 1) 5 ++
    turns 6 (.retryExecute 1) 5 ++ steps 5 5 ++ steps 6 5

/-- The run is fair, and the second operator is answered with an error. -/
theorem deadLetter_lifecycle_twoOperators :
    Lifecycle twoOperators ∧ (((after twoOperators).conns 5).answer.map Answer.isError = some false) ∧
      ((after twoOperators).conns 6).answer.map Answer.isError = some true :=
  ⟨deadLetter_lifecycle (by decide +kernel), by decide +kernel, by decide +kernel⟩

end SiemDashboard.DeadLetterLifecycle
