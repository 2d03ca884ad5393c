import SiemDashboard.Core.ConversationOrchestrationService
import SiemDashboard.Verification.ThreadStates

/-!
# Completion of accepted submissions

When the answer to a user's turn that has been accepted can be stored, if the thread's version has not
changed since and the thread has not expired.

* **Operations** — `ConversationOp`, `stepConversation`.
* **Threads over a run** — `Quiet`, `Newer`, `newer_after`: a thread gets newer, or its turns stay.
* **Submissions** — `Submitted`, `ValidAnswer`.
* **Result** — `completed_iff`; `long_request_stuck`.
-/

namespace SiemDashboard.SessionMemory

open Python Tables

/-! ## Operations -/

/-- What is done to conversations: an operation on the memory, a failed execution, or the expiry with
    which a thread is read. -/
inductive ConversationOp where
  | memory (op : Op)
  | fail (threadId owner : String) (turnId : Nat)
  | expire (threadId owner : String) (now : Int)

/-- One operation, in a transaction of its own. -/
def stepConversation (py : Python) (memory : Memory) : ConversationOp → Memory
  | .memory op => stepOp py memory op
  | .fail threadId owner turnId => failExecutionTurn memory threadId owner turnId
  | .expire threadId owner now => expireThreadIfDue memory threadId owner now

/-! ## Threads over a run -/

/-- The turns are as they were, or have failed. -/
def Quiet (turns turns' : List Turn) : Prop :=
  ∃ f : Turn → Turn, (∀ t, f t = t ∨ f t = failedTurn t) ∧ turns' = turns.map f

theorem Quiet.refl (turns : List Turn) : Quiet turns turns :=
  ⟨id, fun _ => .inl rfl, (List.map_id turns).symm⟩

theorem Quiet.trans {a b c : List Turn} (h : Quiet a b) (h' : Quiet b c) : Quiet a c := by
  obtain ⟨f, hf, rfl⟩ := h
  obtain ⟨g, hg, rfl⟩ := h'
  refine ⟨g ∘ f, fun t => ?_, List.map_map⟩
  rcases hf t with hsame | hfailed
  · rcases hg t with hsame' | hfailed'
    · exact .inl (by rw [Function.comp_apply, hsame, hsame'])
    · exact .inr (by rw [Function.comp_apply, hsame, hfailed'])
  · rcases hg (failedTurn t) with hsame' | hfailed'
    · exact .inr (by rw [Function.comp_apply, hfailed, hsame'])
    · exact .inr (by rw [Function.comp_apply, hfailed, hfailed']; rfl)

/-- The thread stays, with a newer version, or as it was with quiet turns. -/
def Newer (threadId owner : String) (memory memory' : Memory) : Prop :=
  ∀ thread, memory.thread? threadId owner = some thread →
    ∃ thread', memory'.thread? threadId owner = some thread' ∧
      (thread.version < thread'.version ∨
        thread' = thread ∧ Quiet (memory.turnsOf threadId owner) (memory'.turnsOf threadId owner))

section Newer

variable {threadId owner : String} {memory memory' memory'' : Memory}

theorem Newer.refl (memory : Memory) : Newer threadId owner memory memory :=
  fun thread hthread => ⟨thread, hthread, .inr ⟨rfl, .refl _⟩⟩

theorem Newer.trans (h : Newer threadId owner memory memory')
    (h' : Newer threadId owner memory' memory'') : Newer threadId owner memory memory'' := by
  intro thread hthread
  obtain ⟨thread', hthread', hnewer⟩ := h thread hthread
  obtain ⟨thread'', hthread'', hnewer'⟩ := h' thread' hthread'
  refine ⟨thread'', hthread'', ?_⟩
  rcases hnewer with hlt | ⟨rfl, hquiet⟩
  · rcases hnewer' with hlt' | ⟨rfl, -⟩
    · exact .inl (hlt.trans hlt')
    · exact .inl hlt
  · rcases hnewer' with hlt' | ⟨rfl, hquiet'⟩
    · exact .inl hlt'
    · exact .inr ⟨rfl, hquiet.trans hquiet'⟩

/-- A step that rewrites the threads, and may add some. -/
theorem newer_of_map {f : Thread → Thread} {added : List Thread}
    (hthreads : memory'.threads = memory.threads.map f ++ added)
    (hkey : ∀ t, (f t).threadId = t.threadId ∧ (f t).owner = t.owner)
    (hf : ∀ t, t.threadId = threadId → t.owner = owner → t.version < (f t).version ∨
      f t = t ∧ Quiet (memory.turnsOf threadId owner) (memory'.turnsOf threadId owner)) :
    Newer threadId owner memory memory' := by
  intro thread hthread
  have hfound := List.find?_some hthread
  rw [Bool.and_eq_true, decide_eq_true_eq, decide_eq_true_eq] at hfound
  refine ⟨f thread, ?_, hf thread hfound.1 hfound.2⟩
  have hsame : (fun t : Thread => decide (t.threadId = threadId) && decide (t.owner = owner)) ∘ f =
      fun t => decide (t.threadId = threadId) && decide (t.owner = owner) := by
    funext t
    rw [Function.comp_apply, (hkey t).1, (hkey t).2]
  unfold Memory.thread? at hthread ⊢
  rw [hthreads, List.find?_append, List.find?_map, hsame, hthread]
  rfl

theorem thread?_key {thread : Thread} (h : memory.thread? threadId owner = some thread) :
    thread.threadId = threadId ∧ thread.owner = owner := by
  have hfound := List.find?_some h
  rwa [Bool.and_eq_true, decide_eq_true_eq, decide_eq_true_eq] at hfound

theorem thread?_updateThread {f : Thread → Thread} {thread : Thread}
    (h : memory.thread? threadId owner = some thread)
    (hkey : ∀ t, (f t).threadId = t.threadId ∧ (f t).owner = t.owner) :
    (memory.updateThread threadId owner f).thread? threadId owner = some (f thread) := by
  have hfound := thread?_key h
  have hsame : (fun t : Thread => decide (t.threadId = threadId) && decide (t.owner = owner)) ∘
      (fun t => if t.threadId = threadId && t.owner = owner then f t else t) =
        fun t => decide (t.threadId = threadId) && decide (t.owner = owner) := by
    funext t
    rw [Function.comp_apply]
    split
    · rw [(hkey t).1, (hkey t).2]
    · rfl
  unfold Memory.thread? Memory.updateThread at *
  rw [List.find?_map, hsame, h, Option.map_some, if_pos (by simp [hfound])]

/-- A step that makes one thread newer, and leaves the turns of the others. -/
theorem newer_of_updateThread {a b : String} {f : Thread → Thread}
    (hthreads : memory'.threads = (memory.updateThread a b f).threads)
    (hkey : ∀ t, (f t).threadId = t.threadId ∧ (f t).owner = t.owner)
    (hf : ∀ t, (f t).version = t.version + 1)
    (hturns : ¬ (threadId = a ∧ owner = b) →
      memory'.turnsOf threadId owner = memory.turnsOf threadId owner) :
    Newer threadId owner memory memory' := by
  refine @newer_of_map threadId owner memory memory'
    (fun t => if t.threadId = a && t.owner = b then f t else t) [] ?_ ?_ ?_
  · rw [hthreads, List.append_nil]
    rfl
  · intro t
    split
    · exact hkey t
    · exact ⟨rfl, rfl⟩
  · rintro t rfl rfl
    by_cases hmine : t.threadId = a ∧ t.owner = b
    · left
      rw [if_pos (by simp [hmine]), hf]
      omega
    · right
      rw [if_neg (by simpa using hmine), hturns hmine]
      exact ⟨rfl, .refl _⟩

theorem turnsOf_insert (turn : Nat → Turn) (hid : ∀ id, (turn id).id = id)
    (hother : ¬ (threadId = (turn memory.turns.next).threadId ∧
      owner = (turn memory.turns.next).owner)) :
    ({ memory with turns := memory.turns.insert turn hid } : Memory).turnsOf threadId owner =
      memory.turnsOf threadId owner := by
  unfold Memory.turnsOf
  rw [Table.insert_rows, List.filter_append, List.filter_cons_of_neg, List.filter_nil,
    List.append_nil]
  intro hmine
  rw [Bool.and_eq_true, decide_eq_true_eq, decide_eq_true_eq] at hmine
  exact hother ⟨hmine.1.symm, hmine.2.symm⟩

/-- A turn of another thread is completed. -/
theorem turnsOf_completeTurn {userTurnId : Nat} {userTurn : Turn} {turn : Nat → Turn}
    {hid : ∀ id, (turn id).id = id} (hrow : memory.turns.row? userTurnId = some userTurn)
    (huser : ¬ (threadId = userTurn.threadId ∧ owner = userTurn.owner))
    (hother : ¬ (threadId = (turn memory.turns.next).threadId ∧
      owner = (turn memory.turns.next).owner)) :
    (memory.completeTurn userTurnId turn hid).turnsOf threadId owner =
      memory.turnsOf threadId owner := by
  have hinserted := turnsOf_insert turn hid hother
  unfold Memory.completeTurn Memory.turnsOf at *
  rw [Table.update_rows, List.filter_map]
  have hkey : (fun t : Turn => decide (t.threadId = threadId) && decide (t.owner = owner)) ∘
      (fun t : Turn => if t.id = userTurnId ∧ true = true then completedTurn t else t) =
        fun t => decide (t.threadId = threadId) && decide (t.owner = owner) := by
    funext t
    rw [Function.comp_apply]
    split
    · rfl
    · rfl
  rw [hkey, hinserted]
  refine (List.map_congr_left fun t ht => ?_).trans (List.map_id _)
  obtain ⟨hmem, hmine⟩ := List.mem_filter.mp ht
  rw [Bool.and_eq_true, decide_eq_true_eq, decide_eq_true_eq] at hmine
  refine if_neg fun hsame => huser ?_
  have hfound := Table.mem_rows.mp hmem
  rw [hsame.1, hrow] at hfound
  cases hfound
  exact ⟨hmine.1.symm, hmine.2.symm⟩

/-! ### Steps -/

theorem newer_insertThread {thread : Thread} (h : memory.insertThread thread = .ok memory') :
    Newer threadId owner memory memory' := by
  unfold Memory.insertThread at h
  split at h
  · cases h
  · cases h
    refine @newer_of_map threadId owner memory _ id [thread] ?_ (fun t => ⟨rfl, rfl⟩)
      fun t _ _ => .inr ⟨rfl, .refl _⟩
    rw [List.map_id]

theorem newer_expireDefault (scopeOwner scope : String) (now : Int) :
    Newer threadId owner memory (memory.expireDefault scopeOwner scope now) := by
  refine @newer_of_map threadId owner memory (memory.expireDefault scopeOwner scope now)
    (fun t => if t.owner = scopeOwner && t.scopeKey = scope && t.isDefault && t.status = .active &&
        t.expiresAt ≤ now then { t with status := .expired, version := t.version + 1 } else t) [] ?_
    ?_ ?_
  · rw [List.append_nil]
    rfl
  · intro t
    split
    · exact ⟨rfl, rfl⟩
    · exact ⟨rfl, rfl⟩
  · intro t _ _
    split
    · exact .inl (Nat.lt_succ_self _)
    · exact .inr ⟨rfl, .refl _⟩

theorem newer_createThread {new : NewThread} (h : createThread memory new = .ok memory') :
    Newer threadId owner memory memory' := by
  unfold createThread at h
  obtain ⟨newOwner, -, h⟩ := Checks.bind_eq_ok.mp h
  obtain ⟨entityType, -, h⟩ := Checks.bind_eq_ok.mp h
  obtain ⟨entityId, -, h⟩ := Checks.bind_eq_ok.mp h
  obtain ⟨scope, -, h⟩ := Checks.bind_eq_ok.mp h
  split at h
  · cases h
  · dsimp only at h
    split at h
    · have hexpired := @newer_expireDefault threadId owner memory newOwner scope new.now
      split at h
      · cases h
        exact hexpired
      · exact hexpired.trans (newer_insertThread h)
    · exact newer_insertThread h

/-- What `append_turn` does, once its arguments are accepted: it finds the request, or adds a turn. -/
theorem appendTurn_cases {new : NewTurn} (h : appendTurn memory new = .ok memory') :
    memory' = memory ∨ ∃ (owner threadId requestId content : String) (payload : Json) (thread : Thread),
      requiredText new.clientRequestId "client_request_id" 256 = .ok requestId ∧
      sanitizePayload new.structuredPayload new.entitySnapshot "structured_payload" "entity_snapshot"
        "structured_payload and entity_snapshot must be objects." = .ok payload ∧
      lockMutableThread memory threadId owner new.now = .ok thread ∧
      (thread.version : Int) = new.expectedVersion ∧
      memory.storable (appendedTurn new thread requestId content payload memory.turns.next) = true ∧
      memory' = { memory with
          turns := memory.turns.insert (appendedTurn new thread requestId content payload)
            (appendedTurn_id new thread requestId content payload) }.updateThread threadId owner
        (advancedThread new.now) := by
  unfold appendTurn at h
  obtain ⟨owner, -, h⟩ := Checks.bind_eq_ok.mp h
  obtain ⟨threadId, -, h⟩ := Checks.bind_eq_ok.mp h
  obtain ⟨requestId, hrequest, h⟩ := Checks.bind_eq_ok.mp h
  obtain ⟨content, -, h⟩ := Checks.bind_eq_ok.mp h
  obtain ⟨payload, hpayload, h⟩ := Checks.bind_eq_ok.mp h
  obtain ⟨u, -, h⟩ := Checks.bind_eq_ok.mp h
  obtain ⟨thread, hlock, h⟩ := Checks.bind_eq_ok.mp h
  split at h
  · cases h
    exact .inl rfl
  · obtain ⟨u, hversion, h⟩ := Checks.bind_eq_ok.mp h
    dsimp only at h
    split at h
    · cases h
    · split at h
      · cases h
      · split at h
        · cases h
        · next hstorable =>
          cases h
          refine .inr ⟨owner, threadId, requestId, content, payload, thread, hrequest, hpayload, hlock,
            ?_, by simpa using hstorable, rfl⟩
          unfold checkVersion at hversion
          split at hversion
          · cases hversion
          · next hsame => exact not_not.mp hsame

theorem newer_appendTurn {new : NewTurn} (h : appendTurn memory new = .ok memory') :
    Newer threadId owner memory memory' := by
  rcases appendTurn_cases h with rfl |
    ⟨newOwner, newThreadId, requestId, content, payload, thread, -, -, hlock, -, -, rfl⟩
  · exact .refl _
  · have hkey := thread?_key (lockMutableThread_eq_ok hlock)
    refine newer_of_updateThread rfl (fun t => ⟨rfl, rfl⟩) (fun t => rfl) fun hother => ?_
    refine turnsOf_insert _ (appendedTurn_id new thread requestId content payload)
      fun hmine => hother ?_
    rw [← hkey.1, ← hkey.2]
    exact hmine

/-- What `finalize_execution_turn` does. -/
theorem finalizeExecutionTurn_cases {py : Python} {new : Finalization}
    (h : finalizeExecutionTurn py memory new = .ok memory') :
    ∃ (content requestId : String) (payload : Json) (thread : Thread) (userTurn : Turn)
      (row : StateRow → StateRow),
      lockMutableThread memory new.threadId new.ownerUsername new.now = .ok thread ∧
      memory.turns.row? new.userTurnId = some userTurn ∧
      userTurn.threadId = new.threadId ∧ userTurn.owner = new.ownerUsername ∧
      userTurn.isExecuting = true ∧
      requiredText new.clientRequestId "client_request_id" 256 = .ok requestId ∧
      memory.storable (assistantTurnRow new thread requestId content payload memory.turns.next) =
        true ∧
      memory' = ((memory.completeTurn new.userTurnId
          (assistantTurnRow new thread requestId content payload)
          (assistantTurnRow_id new thread requestId content payload)).updateThread new.threadId
            new.ownerUsername (summarizedThread new.now userTurn.content content)).updateState
          new.threadId new.ownerUsername row := by
  unfold finalizeExecutionTurn at h
  obtain ⟨content, -, h⟩ := Checks.bind_eq_ok.mp h
  obtain ⟨payload, -, h⟩ := Checks.bind_eq_ok.mp h
  obtain ⟨u, -, h⟩ := Checks.bind_eq_ok.mp h
  obtain ⟨thread, hlock, h⟩ := Checks.bind_eq_ok.mp h
  obtain ⟨u', -, h⟩ := Checks.bind_eq_ok.mp h
  split at h
  · cases h
  · next userTurn huser =>
    obtain ⟨hrow, hkey⟩ := Option.filter_eq_some_iff.mp huser
    rw [Bool.and_eq_true, decide_eq_true_eq, decide_eq_true_eq] at hkey
    split at h
    · cases h
    · split at h
      · cases h
      · next hactive =>
        obtain ⟨requestId, hrequest, h⟩ := Checks.bind_eq_ok.mp h
        dsimp only at h
        split at h
        · cases h
        · next hstorable =>
          cases h
          exact ⟨content, requestId, payload, thread, userTurn, _, hlock, hrow, hkey.1, hkey.2,
            by simpa using hactive, hrequest, by simpa using hstorable, rfl⟩

theorem newer_finalizeExecutionTurn {py : Python} {new : Finalization}
    (h : finalizeExecutionTurn py memory new = .ok memory') :
    Newer threadId owner memory memory' := by
  obtain ⟨content, requestId, payload, thread, userTurn, row, hlock, hrow, hthread, howner, -, -, -,
    rfl⟩ := finalizeExecutionTurn_cases h
  have hkey := thread?_key (lockMutableThread_eq_ok hlock)
  refine @newer_of_updateThread threadId owner memory _ new.threadId new.ownerUsername
    (summarizedThread new.now userTurn.content content) rfl (fun t => ⟨rfl, rfl⟩) (fun t => rfl)
    fun hother => ?_
  refine turnsOf_completeTurn hrow ?_ ?_
  · rw [hthread, howner]
    exact hother
  · intro hmine
    refine hother ?_
    rw [← hkey.1, ← hkey.2]
    exact hmine

theorem newer_saveThreadState {py : Python} {new : SavedState}
    (h : saveThreadState py memory new = .ok memory') : Newer threadId owner memory memory' := by
  unfold saveThreadState at h
  obtain ⟨clean, -, h⟩ := Checks.bind_eq_ok.mp h
  obtain ⟨newOwner, -, h⟩ := Checks.bind_eq_ok.mp h
  obtain ⟨thread, -, h⟩ := Checks.bind_eq_ok.mp h
  obtain ⟨u, -, h⟩ := Checks.bind_eq_ok.mp h
  cases h
  exact newer_of_updateThread rfl (fun t => ⟨rfl, rfl⟩) (fun t => rfl) fun _ => rfl

theorem newer_resetThread {new : Reset} (h : resetThread memory new = .ok memory') :
    Newer threadId owner memory memory' := by
  unfold resetThread at h
  obtain ⟨newOwner, -, h⟩ := Checks.bind_eq_ok.mp h
  obtain ⟨newThreadId, -, h⟩ := Checks.bind_eq_ok.mp h
  split at h
  · cases h
  · split at h
    · cases h
      exact .refl _
    · obtain ⟨thread, -, h⟩ := Checks.bind_eq_ok.mp h
      obtain ⟨u, -, h⟩ := Checks.bind_eq_ok.mp h
      dsimp only at h
      refine Newer.trans ?_ (newer_insertThread h)
      exact newer_of_updateThread rfl (fun t => ⟨rfl, rfl⟩) (fun t => rfl) fun _ => rfl

theorem newer_stepOp (py : Python) (op : Op) : Newer threadId owner memory (stepOp py memory op) := by
  unfold stepOp
  split
  · next memory' hrun =>
    cases op with
    | createThread new => exact newer_createThread hrun
    | appendTurn new => exact newer_appendTurn hrun
    | finalize new => exact newer_finalizeExecutionTurn hrun
    | save new => exact newer_saveThreadState hrun
    | reset new => exact newer_resetThread hrun
  · exact .refl _

theorem newer_failExecutionTurn (a b : String) (turnId : Nat) :
    Newer threadId owner memory (failExecutionTurn memory a b turnId) := by
  refine @newer_of_map threadId owner memory (failExecutionTurn memory a b turnId) id [] ?_
    (fun t => ⟨rfl, rfl⟩) fun t _ _ => .inr ⟨rfl, ?_⟩
  · rw [List.map_id, List.append_nil]
    rfl
  · refine ⟨fun t => if t.id = turnId ∧ (decide (t.threadId = a) && decide (t.owner = b) &&
      t.isExecuting) = true then failedTurn t else t, fun t => ?_, ?_⟩
    · dsimp only
      split
      · exact .inr rfl
      · exact .inl rfl
    · unfold failExecutionTurn Memory.turnsOf
      dsimp only
      rw [Table.update_rows, List.filter_map]
      congr 1
      refine List.filter_congr fun t _ => ?_
      rw [Function.comp_apply]
      split
      · rfl
      · rfl

theorem newer_expireThreadIfDue (a b : String) (now : Int) :
    Newer threadId owner memory (expireThreadIfDue memory a b now) := by
  refine @newer_of_map threadId owner memory (expireThreadIfDue memory a b now)
    (fun t => if t.threadId = a && t.owner = b then
      (if t.status = .active ∧ t.expiresAt ≤ now then
        { t with status := .expired, version := t.version + 1 } else t) else t) [] ?_ ?_ ?_
  · rw [List.append_nil]
    rfl
  · intro t
    split
    · split
      · exact ⟨rfl, rfl⟩
      · exact ⟨rfl, rfl⟩
    · exact ⟨rfl, rfl⟩
  · intro t _ _
    split
    · split
      · exact .inl (Nat.lt_succ_self _)
      · exact .inr ⟨rfl, .refl _⟩
    · exact .inr ⟨rfl, .refl _⟩

/-- **A thread over a run** gets newer, or stays as it is with quiet turns. -/
theorem newer_after (py : Python) (ops : List ConversationOp) (memory : Memory) :
    Newer threadId owner memory (Runs.after (stepConversation py) memory ops) := by
  induction ops generalizing memory with
  | nil => exact .refl _
  | cons op ops ih =>
    have hstep : Newer threadId owner memory (stepConversation py memory op) := by
      cases op with
      | memory op => exact newer_stepOp py op
      | fail a b turnId => exact newer_failExecutionTurn a b turnId
      | expire a b now => exact newer_expireThreadIfDue a b now
    exact hstep.trans (ih _)

end Newer

/-! ## Submissions -/

/-- A user's turn that `append_turn` has accepted as queued, with the snapshot it stores. -/
structure Submitted (memory : Memory) (new : NewTurn) (accepted : Memory) (userTurn : Turn)
    (snapshot : Json) : Prop where
  role : new.role = "user"
  queued : new.lifecycleStatus = "queued"
  appended : appendTurn memory new = .ok accepted
  stored : accepted.turns.row? memory.turns.next = some userTurn
  snapshot_eq :
    sanitizeStructuredValue (new.entitySnapshot.orElse (.obj [])) "entity_snapshot" = .ok snapshot

/-- The job is linked to the user's turn. -/
structure LinkedTo (job : WorkerJob) (userTurn : Turn) : Prop where
  threadId : job.threadId = userTurn.threadId
  owner : job.actorUsername = userTurn.owner
  turnId : job.turnId = userTurn.id
  workflow : userTurn.workflow = some job.workflow

/-- The answer has a content and a payload within the limits, with a confidence and a provenance unless it
    is a preview. -/
def ValidAnswer (job : WorkerJob) (answer : WorkerAnswer) : Prop :=
  ∃ (content : String) (payload : Json),
    sanitizeText answer.content "content" maxContentChars = .ok content ∧
    sanitizeStructuredValue (answer.structuredPayload.orElse (.obj []))
      "assistant structured_payload" = .ok payload ∧
    payload.isObj = true ∧
    checkFinalInference (job.workflow = "generate_artifact") payload = .ok ()

/-- The thread's version is that of the user's turn, and the thread has not expired. -/
def Unchanged (memory : Memory) (userTurn : Turn) (now : Int) : Prop :=
  ∃ thread, memory.thread? userTurn.threadId userTurn.owner = some thread ∧
    thread.version = userTurn.threadVersionAfterAppend ∧ now < thread.expiresAt

/-- The user's turn is completed. -/
def IsCompleted (memory : Memory) (turnId : Nat) : Prop :=
  ∃ turn, memory.turns.row? turnId = some turn ∧ turn.lifecycleStatus = "completed"

/-- The user's turn is still queued or running. -/
def StillActive (memory : Memory) (turnId : Nat) : Prop :=
  ∃ turn, memory.turns.row? turnId = some turn ∧ turn.isExecuting = true

/-! ### Request ids -/

theorem strip_append {text suffix : String} (htext : strip text = text) (hne : text ≠ "")
    (hsuffix : suffix ≠ "") (hvisible : ∀ c ∈ suffix.toList, isSpace c = false) :
    strip (text ++ suffix) = text ++ suffix := by
  have hchars : stripChars text.toList = text.toList := by
    have hlist := congrArg String.toList htext
    rwa [strip, String.toList_ofList] at hlist
  have hnil : text.toList ≠ [] := by simpa using hne
  have hnilSuffix : suffix.toList ≠ [] := by simpa using hsuffix
  have hfirst : (text.toList ++ suffix.toList).dropWhile isSpace =
      text.toList ++ suffix.toList := by
    have hdrop := dropWhile_rdropWhile_dropWhile isSpace text.toList
    unfold stripChars at hchars
    rw [hchars] at hdrop
    rw [List.dropWhile_append, hdrop, if_neg (by simpa using hnil)]
  have hlast : (text.toList ++ suffix.toList).rdropWhile isSpace =
      text.toList ++ suffix.toList := by
    rw [List.rdropWhile_eq_self_iff]
    intro hne'
    rw [List.getLast_append_of_ne_nil hne' hnilSuffix, hvisible _ (List.getLast_mem hnilSuffix)]
    simp
  rw [strip, stripChars, String.toList_append, hfirst, hlast, ← String.toList_append,
    String.ofList_toList]

/-- The request id of an answer is accepted where ten more characters fit. -/
theorem requiredText_assistant {value requestId : String}
    (h : requiredText value "client_request_id" 256 = .ok requestId) (fieldName : String)
    (answered : String) :
    requiredText (requestId ++ ":assistant") fieldName 256 = .ok answered ↔
      requestId.length ≤ 246 ∧ answered = requestId ++ ":assistant" := by
  have hidem := requiredText_idem h
  unfold requiredText at hidem
  dsimp only at hidem
  split at hidem
  · cases hidem
  · next hne =>
    split at hidem
    · cases hidem
    · have hstrip : strip requestId = requestId := Except.ok.inj hidem
      rw [hstrip] at hne
      have hvisible : ∀ c ∈ ":assistant".toList, isSpace c = false := by
        have hall : (":assistant".toList.all fun c => !isSpace c) = true := by decide
        intro c hc
        simpa using List.all_eq_true.mp hall c hc
      have hlong := strip_append hstrip hne (by decide) hvisible
      have hlength : (requestId ++ ":assistant").length = requestId.length + 10 := by
        rw [String.length_append]
        rfl
      unfold requiredText
      dsimp only
      rw [hlong, if_neg (by simp), hlength]
      split
      · next htoo =>
        simp only [reduceCtorEq, false_iff, not_and]
        omega
      · next hfits =>
        rw [Except.ok.injEq, eq_comm]
        exact ⟨fun heq => ⟨by omega, heq⟩, And.right⟩

/-! ### Payloads -/

theorem orElse_of_obj {v : Json} (h : v.isObj = true) : v.orElse (.obj []) = v := by
  unfold Json.orElse
  cases v with
  | obj kvs =>
    cases kvs with
    | nil => rfl
    | cons kv kvs => rfl
  | null => cases h
  | bool b => cases h
  | int n => cases h
  | float text => cases h
  | str s => cases h
  | arr items => cases h

/-- What has been sanitized and fits, is accepted as it is. -/
theorem sanitizeStructuredValue_again {v w : Json} {fieldName : String}
    (h : sanitizeStructuredValue v fieldName = .ok w) (fieldName' : String) :
    sanitizeStructuredValue w fieldName' = .ok w := by
  unfold sanitizeStructuredValue at h
  obtain ⟨sanitized, hsanitized, h⟩ := Checks.bind_eq_ok.mp h
  split at h
  · cases h
  · next hfits =>
    cases h
    unfold sanitizeStructuredValue
    rw [show sanitizeValue 0 w = .ok w from sanitizeValue_fixed hsanitized]
    exact if_neg hfits

theorem snapshot_isObj {payload snapshot clean stored : Json} {payloadName message : String}
    (h : sanitizePayload payload snapshot payloadName "entity_snapshot" message = .ok clean)
    (hstored : sanitizeStructuredValue (snapshot.orElse (.obj [])) "entity_snapshot" = .ok stored) :
    stored.isObj = true := by
  unfold sanitizePayload at h
  obtain ⟨cleanPayload, -, h⟩ := Checks.bind_eq_ok.mp h
  obtain ⟨cleanSnapshot, hsnapshot, h⟩ := Checks.bind_eq_ok.mp h
  rw [hstored] at hsnapshot
  cases hsnapshot
  split at h
  · cases h
  · next hobjects =>
    rw [Bool.or_eq_true, not_or] at hobjects
    simpa using hobjects.2

/-! ### The accepted turn -/

section Result

variable {py : Python} {memory accepted : Memory} {new : NewTurn} {userTurn : Turn} {snapshot : Json}

/-- What is known of a turn that has been accepted, and of its thread. -/
structure AcceptedTurn (memory accepted : Memory) (new : NewTurn) (userTurn : Turn)
    (snapshot : Json) : Prop where
  object : snapshot.isObj = true
  request : requiredText new.clientRequestId "client_request_id" 256 = .ok userTurn.clientRequestId
  workflow : userTurn.workflow.all workflows.contains = true
  queued : userTurn.lifecycleStatus = "queued"
  turns : accepted.turnsOf userTurn.threadId userTurn.owner =
    memory.turnsOf userTurn.threadId userTurn.owner ++ [userTurn]
  thread : ∃ thread, accepted.thread? userTurn.threadId userTurn.owner = some thread ∧
    thread.status = .active ∧ thread.version = userTurn.threadVersionAfterAppend

theorem lockMutableThread_active {threadId owner : String} {now : Int} {thread : Thread}
    (h : lockMutableThread memory threadId owner now = .ok thread) : thread.status = .active := by
  unfold lockMutableThread at h
  split at h
  · cases h
  · split at h
    · cases h
    · split at h
      · cases h
      · next hactive =>
        cases h
        exact not_not.mp hactive

theorem Submitted.acceptedTurn (h : Submitted memory new accepted userTurn snapshot) :
    AcceptedTurn memory accepted new userTurn snapshot := by
  have hstored := h.stored
  rcases appendTurn_cases h.appended with rfl |
    ⟨owner, threadId, requestId, content, payload, thread, hrequest, hpayload, hlock, hversion,
      hstorable, rfl⟩
  · rw [accepted.turns.fresh _ le_rfl] at hstored
    cases hstored
  · have hthread := lockMutableThread_eq_ok hlock
    obtain ⟨rfl, rfl⟩ := thread?_key hthread
    have hturn : userTurn =
        appendedTurn new thread requestId content payload memory.turns.next := by
      unfold Memory.updateThread at hstored
      rw [Table.insert_row?, if_pos rfl] at hstored
      exact (Option.some.inj hstored).symm
    subst hturn
    unfold Memory.storable at hstorable
    rw [Bool.and_eq_true, Bool.and_eq_true] at hstorable
    refine ⟨snapshot_isObj hpayload h.snapshot_eq, hrequest, hstorable.1.1, h.queued, ?_, ?_⟩
    · unfold Memory.turnsOf Memory.updateThread
      rw [Table.insert_rows, List.filter_append]
      simp [appendedTurn]
    · refine ⟨advancedThread new.now thread, ?_, ?_, ?_⟩
      · exact thread?_updateThread hthread fun t => ⟨rfl, rfl⟩
      · exact show thread.status = .active from lockMutableThread_active hlock
      · change thread.version + 1 = new.expectedVersion.toNat + 1
        omega

/-- A turn that is queued is active, one that has failed is not. -/
theorem isExecuting_failed (t : Turn) : (failedTurn t).isExecuting = false := by
  simp [Turn.isExecuting, failedTurn]

/-- The turns of the thread at the completion, if its version has not changed. -/
theorem Submitted.later (h : Submitted memory new accepted userTurn snapshot)
    (ops : List ConversationOp) {now : Int}
    (hunchanged : Unchanged (Runs.after (stepConversation py) accepted ops) userTurn now) :
    (∃ thread, lockMutableThread (Runs.after (stepConversation py) accepted ops) userTurn.threadId
        userTurn.owner now = .ok thread ∧
      thread.version = userTurn.threadVersionAfterAppend) ∧
    ∃ f : Turn → Turn, (∀ t, f t = t ∨ f t = failedTurn t) ∧
      (Runs.after (stepConversation py) accepted ops).turnsOf userTurn.threadId userTurn.owner =
        (memory.turnsOf userTurn.threadId userTurn.owner ++ [userTurn]).map f := by
  obtain ⟨thread, hthread, hactive, hversion⟩ := h.acceptedTurn.thread
  obtain ⟨later, hlater, hsame, hlive⟩ := hunchanged
  obtain ⟨later', hlater', hnewer⟩ := newer_after py ops accepted thread hthread
  rw [hlater] at hlater'
  cases hlater'
  rcases hnewer with hlt | ⟨rfl, f, hf, hturns⟩
  · rw [hversion, hsame] at hlt
    exact absurd hlt (Nat.lt_irrefl _)
  · rw [h.acceptedTurn.turns] at hturns
    refine ⟨⟨later, ?_, hversion⟩, f, hf, hturns⟩
    unfold lockMutableThread
    rw [hlater]
    dsimp only
    rw [hactive, if_neg (by simpa using hlive), if_neg (by simp)]

/-- `finalize_execution_turn` returns where every check passes. -/
theorem finalizeExecutionTurn_returns {memory : Memory} {call : Finalization} {content requestId : String}
    {payload : Json} {thread : Thread} {row : Turn}
    (hcontent : sanitizeText call.content "content" maxContentChars = .ok content)
    (hpayload : finalPayload call = .ok payload)
    (hcheck : checkFinalInference call.artifactPreview payload = .ok ())
    (hlock : lockMutableThread memory call.threadId call.ownerUsername call.now = .ok thread)
    (hversion : (thread.version : Int) = call.expectedThreadVersion)
    (hrow : memory.turns.row? call.userTurnId = some row)
    (hkey : row.threadId = call.threadId ∧ row.owner = call.ownerUsername)
    (hstale : (row.threadVersionAfterAppend : Int) = call.expectedThreadVersion)
    (hactive : row.isExecuting = true)
    (hrequest : requiredText call.clientRequestId "client_request_id" 256 = .ok requestId)
    (hstorable : ∀ content payload, memory.storable
      (assistantTurnRow call thread requestId content payload memory.turns.next) = true) :
    ∃ final, finalizeExecutionTurn py memory call = .ok final := by
  have hfilter : (memory.turns.row? call.userTurnId).filter
      (fun t => t.threadId = call.threadId && t.owner = call.ownerUsername) = some row := by
    rw [hrow]
    exact Option.filter_eq_some_iff.mpr ⟨rfl, by simp [hkey]⟩
  have hchecked : checkVersion thread call.expectedThreadVersion = .ok () := by
    unfold checkVersion
    rw [if_neg (by simpa using hversion)]
  unfold finalizeExecutionTurn
  simp only [hcontent, hpayload, hcheck, hlock, hchecked, hfilter, hrequest, hstorable, hactive, hstale,
    bind, Except.bind, ne_eq, not_true_eq_false, Bool.not_true, Bool.false_eq_true, if_false]
  exact ⟨_, rfl⟩

/-- The turn that a finalization has completed. -/
theorem finalized_completed {memory final : Memory} {call : Finalization}
    (h : finalizeExecutionTurn py memory call = .ok final) : IsCompleted final call.userTurnId := by
  obtain ⟨content, requestId, payload, thread, row, state, -, hrow, -, -, -, -, -, rfl⟩ :=
    finalizeExecutionTurn_cases h
  refine ⟨completedTurn row, ?_, rfl⟩
  have hinserted := memory.turns.insert_row?_of_some
    (assistantTurnRow call thread requestId content payload)
    (assistantTurnRow_id call thread requestId content payload) hrow
  have hupdated := (memory.turns.insert (assistantTurnRow call thread requestId content payload)
    (assistantTurnRow_id call thread requestId content payload)).update_row? call.userTurnId
      (fun _ => true) completedTurn completedTurn_id call.userTurnId
  rw [if_pos rfl, hinserted] at hupdated
  exact hupdated

/-- The constraints on the turns allow an answer whose request id is new. -/
theorem storable_assistant {memory : Memory} {call : Finalization} {thread : Thread}
    {requestId content : String} {payload : Json} {id : Nat}
    (hworkflow : workflows.contains call.workflow = true) :
    memory.storable (assistantTurnRow call thread requestId content payload id) = true ↔
      ∀ t ∈ memory.turnsOf thread.threadId thread.owner, t.clientRequestId ≠ requestId := by
  have hcompleted : (assistantTurnRow call thread requestId content payload id).isExecuting = false := by
    simp [Turn.isExecuting, assistantTurnRow]
  have hlisted : lifecycles.contains "completed" = true := by decide
  unfold Memory.storable
  rw [hcompleted]
  simp only [assistantTurnRow, Option.all_some, hworkflow, hlisted, Bool.true_and, Bool.and_false,
    Bool.not_false, Bool.and_true, List.all_eq_true, ne_eq]
  exact forall₂_congr fun t _ => decide_eq_true_iff

/-- **When an accepted submission can be completed**: the thread unchanged and not expired, a valid answer
    is stored and completes the user's turn exactly where the turn is still active, its request id leaves
    room for the suffix, and no turn of the thread has the request id of the answer. -/
theorem completed_iff (py : Python) (memory accepted : Memory) (new : NewTurn) (userTurn : Turn)
    (snapshot : Json) (ops : List ConversationOp) (job : WorkerJob) (answer : WorkerAnswer)
    (hsubmitted : Submitted memory new accepted userTurn snapshot)
    (hunchanged : Unchanged (Runs.after (stepConversation py) accepted ops) userTurn answer.now)
    (hjob : LinkedTo job userTurn) (hanswer : ValidAnswer job answer) :
    (∃ final, finalizeExecutionTurn py (Runs.after (stepConversation py) accepted ops)
        (completion job userTurn snapshot answer) = .ok final ∧ IsCompleted final userTurn.id) ↔
      StillActive (Runs.after (stepConversation py) accepted ops) userTurn.id ∧
      userTurn.clientRequestId.length ≤ 246 ∧
      ∀ t ∈ memory.turnsOf userTurn.threadId userTurn.owner,
        t.clientRequestId ≠ assistantRequestId userTurn := by
  obtain ⟨⟨thread, hlock, hversion⟩, f, hf, hturns⟩ := hsubmitted.later ops hunchanged
  have hturn := hsubmitted.acceptedTurn
  generalize Runs.after (stepConversation py) accepted ops = later at *
  have hkey := thread?_key (lockMutableThread_eq_ok hlock)
  have hworkflow : workflows.contains job.workflow = true := by
    have hall := hturn.workflow
    rwa [hjob.workflow] at hall
  have hids : ∀ requestId, (∀ t ∈ later.turnsOf userTurn.threadId userTurn.owner,
      t.clientRequestId ≠ requestId) ↔
        (∀ t ∈ memory.turnsOf userTurn.threadId userTurn.owner, t.clientRequestId ≠ requestId) ∧
          userTurn.clientRequestId ≠ requestId := by
    intro requestId
    have hid : ∀ t, (f t).clientRequestId = t.clientRequestId := by
      intro t
      rcases hf t with hsame | hfailed
      · rw [hsame]
      · rw [hfailed]
        rfl
    rw [hturns, List.forall_mem_map, List.forall_mem_append, List.forall_mem_singleton, hid]
    exact and_congr_left fun _ => forall₂_congr fun t _ => by rw [hid]
  have hown : userTurn.clientRequestId ≠ assistantRequestId userTurn := by
    intro hsame
    have hlength := congrArg String.length hsame
    rw [assistantRequestId, String.length_append] at hlength
    have hten : ":assistant".length = 10 := rfl
    omega
  constructor
  · rintro ⟨final, hfinal, -⟩
    obtain ⟨content, requestId, payload, thread', row, state, hlock', hrow, hrowThread, hrowOwner,
      hactive, hrequest, hstorable, -⟩ := finalizeExecutionTurn_cases hfinal
    dsimp only [completion] at hlock' hrow hrequest
    rw [hjob.turnId] at hrow
    rw [hjob.threadId, hjob.owner, hlock] at hlock'
    cases hlock'
    obtain ⟨hlength, rfl⟩ := (requiredText_assistant hturn.request _ _).mp hrequest
    rw [storable_assistant hworkflow, hkey.1, hkey.2] at hstorable
    exact ⟨⟨row, hrow, hactive⟩, hlength, ((hids _).mp hstorable).1⟩
  · rintro ⟨⟨row, hrow, hactive⟩, hlength, hunique⟩
    obtain ⟨content, payload, hcontent, hpayload, hobject, hcheck⟩ := hanswer
    have hmine : f userTurn ∈ later.turnsOf userTurn.threadId userTurn.owner := by
      rw [hturns]
      exact List.mem_map_of_mem (List.mem_append_right _ (List.mem_singleton_self _))
    have hsame : row = userTurn := by
      have hid : (f userTurn).id = userTurn.id := by
        rcases hf userTurn with hsame | hfailed
        · rw [hsame]
        · rw [hfailed]
          rfl
      have hfound := Table.mem_rows.mp (List.mem_filter.mp hmine).1
      rw [hid, hrow] at hfound
      rcases hf userTurn with hsame | hfailed
      · rw [hsame] at hfound
        exact Option.some.inj hfound
      · rw [hfailed] at hfound
        cases hfound
        rw [isExecuting_failed] at hactive
        cases hactive
    subst hsame
    have hsnapshot : finalPayload (completion job row snapshot answer) = .ok payload := by
      have hagain := sanitizeStructuredValue_again hsubmitted.snapshot_eq "assistant entity_snapshot"
      unfold finalPayload sanitizePayload completion
      dsimp only
      rw [orElse_of_obj hturn.object, orElse_of_obj hturn.object, hpayload, hagain]
      simp [bind, Except.bind, hobject, hturn.object]
    obtain ⟨final, hfinal⟩ := @finalizeExecutionTurn_returns py later
      (completion job row snapshot answer) content (assistantRequestId row) payload thread row
      hcontent hsnapshot hcheck (by dsimp only [completion]; rw [hjob.threadId, hjob.owner]; exact hlock)
      (by dsimp only [completion]; rw [hversion])
      (by dsimp only [completion]; rw [hjob.turnId]; exact hrow)
      ⟨hjob.threadId.symm, hjob.owner.symm⟩ rfl hactive
      ((requiredText_assistant hturn.request _ _).mpr ⟨hlength, rfl⟩)
      (fun content payload => (storable_assistant hworkflow).mpr (by
        rw [hkey.1, hkey.2]
        exact (hids _).mpr ⟨hunique, hown⟩))
    refine ⟨final, hfinal, ?_⟩
    have hcompleted := finalized_completed hfinal
    dsimp only [completion] at hcompleted
    rwa [hjob.turnId] at hcompleted

/-! ### Long request ids -/

def oneThread : Memory :=
  stepOp plainPython Memory.empty (.createThread
    { ownerUsername := "analyst"
      primaryEntityType := "ip"
      primaryEntityId := "203.0.113.5"
      scopeKey := "ip:203.0.113.5"
      isDefault := true
      domain := "siem"
      now := 0
      uuid := sampleUuid })

/-- A question under a request id. -/
def question (clientRequestId : String) : NewTurn where
  threadId := "ath_00000000000000000000000000000000"
  ownerUsername := "analyst"
  expectedVersion := 1
  clientRequestId := clientRequestId
  role := "user"
  content := "Is this a scan?"
  assertionType := "analyst_statement"
  workflow := some "quick_explain"
  lifecycleStatus := "queued"
  now := 0
  uuid := sampleUuid

/-- The worker's job for it. -/
def questionJob : WorkerJob where
  threadId := "ath_00000000000000000000000000000000"
  actorUsername := "analyst"
  turnId := 1
  workflow := "quick_explain"

def shortAnswer : WorkerAnswer where
  content := "It is."
  structuredPayload := .obj [("confidence", .str "high"), ("provenance", .str "gateway")]
  now := 0
  uuid := sampleUuid

def afterQuestion (clientRequestId : String) : Memory :=
  stepOp plainPython oneThread (.appendTurn (question clientRequestId))

/-- `append_turn` stores the first turn of a thread where every check passes. -/
theorem appendTurn_first {memory : Memory} {new : NewTurn} {owner threadId requestId content : String}
    {payload : Json} {thread : Thread}
    (howner : requiredText new.ownerUsername "owner_username" 128 = .ok owner)
    (hthreadId : requiredText new.threadId "thread_id" 128 = .ok threadId)
    (hrequest : requiredText new.clientRequestId "client_request_id" 256 = .ok requestId)
    (hcontent : sanitizeText new.content "content" maxContentChars = .ok content)
    (hpayload : sanitizePayload new.structuredPayload new.entitySnapshot "structured_payload"
      "entity_snapshot" "structured_payload and entity_snapshot must be objects." = .ok payload)
    (hcheck : checkAssertion new payload = .ok ())
    (hlock : lockMutableThread memory threadId owner new.now = .ok thread)
    (hversion : (thread.version : Int) = new.expectedVersion)
    (hfirst : memory.turnsOf threadId owner = []) (hparent : new.parentTurnId = none)
    (hworkflow : new.workflow.all workflows.contains = true)
    (hlifecycle : lifecycles.contains new.lifecycleStatus = true) :
    appendTurn memory new = .ok ({ memory with
      turns := memory.turns.insert (appendedTurn new thread requestId content payload)
        (appendedTurn_id new thread requestId content payload)
      }.updateThread threadId owner (advancedThread new.now)) := by
  have hchecked : checkVersion thread new.expectedVersion = .ok () := by
    unfold checkVersion
    rw [if_neg (by simpa using hversion)]
  have hkey := thread?_key (lockMutableThread_eq_ok hlock)
  have hstorable : memory.storable
      (appendedTurn new thread requestId content payload memory.turns.next) = true := by
    unfold Memory.storable
    simp only [appendedTurn, hkey.1, hkey.2, hfirst, hworkflow, hlifecycle, List.all_nil,
      Bool.and_true]
  unfold appendTurn
  simp only [howner, hthreadId, hrequest, hcontent, hpayload, hcheck, hlock, hchecked, hfirst, hparent,
    hstorable, bind, Except.bind, List.any_nil, Bool.and_false, Option.all_none, Bool.not_true,
    Bool.false_eq_true, if_false]

/-- A question under any request id is accepted, with its job. -/
theorem question_submitted {clientRequestId : String}
    (hrequest : requiredText clientRequestId "client_request_id" 256 = .ok clientRequestId) :
    ∃ userTurn, Submitted oneThread (question clientRequestId) (afterQuestion clientRequestId) userTurn
        (.obj []) ∧
      LinkedTo questionJob userTurn ∧
      Unchanged (Runs.after (stepConversation plainPython) (afterQuestion clientRequestId) [])
        userTurn shortAnswer.now ∧
      userTurn.clientRequestId = clientRequestId := by
  have howner : requiredText "analyst" "owner_username" 128 = .ok "analyst" :=
    Checks.toOption_eq_some.mp (by decide +kernel)
  have hthreadId : requiredText questionJob.threadId "thread_id" 128 = .ok questionJob.threadId :=
    Checks.toOption_eq_some.mp (by decide +kernel)
  obtain ⟨content, hcontent⟩ := Checks.isOk_iff.mp
    (show (sanitizeText "Is this a scan?" "content" maxContentChars).isOk = true by decide +kernel)
  obtain ⟨payload, hpayload⟩ := Checks.isOk_iff.mp
    (show (sanitizePayload (.obj []) (.obj []) "structured_payload" "entity_snapshot"
      "structured_payload and entity_snapshot must be objects.").isOk = true by decide +kernel)
  have hlocked : ((lockMutableThread oneThread questionJob.threadId "analyst" 0).toOption.map
      fun thread => thread.version) = some 1 := by decide +kernel
  obtain ⟨thread, hthread, hversion⟩ := Option.map_eq_some_iff.mp hlocked
  have hlock := Checks.toOption_eq_some.mp hthread
  have hkey := thread?_key (lockMutableThread_eq_ok hlock)
  have hfirst : oneThread.turnsOf questionJob.threadId "analyst" = [] :=
    List.isEmpty_iff.mp (by decide +kernel)
  have hworkflow : (some questionJob.workflow).all workflows.contains = true := by decide +kernel
  have hlifecycle : lifecycles.contains "queued" = true := by decide +kernel
  have happended := @appendTurn_first oneThread (question clientRequestId) "analyst"
    questionJob.threadId clientRequestId content payload thread howner hthreadId hrequest hcontent
    hpayload rfl hlock (by rw [hversion]; rfl) hfirst rfl hworkflow hlifecycle
  have hafter : appendTurn oneThread (question clientRequestId) =
      .ok (afterQuestion clientRequestId) := by
    unfold afterQuestion stepOp runOp
    dsimp only
    rw [happended]
  have hstored : (afterQuestion clientRequestId).turns.row? oneThread.turns.next = some
      (appendedTurn (question clientRequestId) thread clientRequestId content payload
        oneThread.turns.next) := by
    rw [← Except.ok.inj (happended.symm.trans hafter)]
    unfold Memory.updateThread
    rw [Table.insert_row?, if_pos rfl]
  have hfound := thread?_updateThread (lockMutableThread_eq_ok hlock)
    (f := advancedThread 0) fun t => ⟨rfl, rfl⟩
  refine ⟨_, ⟨rfl, rfl, hafter, hstored, ?_⟩, ⟨hkey.1.symm, hkey.2.symm, ?_, rfl⟩,
    ⟨advancedThread 0 thread, ?_, ?_, ?_⟩, rfl⟩
  · obtain ⟨snapshot, hsnapshot⟩ := Checks.isOk_iff.mp
      (show (sanitizeStructuredValue (.obj []) "entity_snapshot").isOk = true by decide +kernel)
    have hsame : snapshot = .obj [] := by
      obtain ⟨w, hw, hfits⟩ := Checks.bind_eq_ok.mp hsnapshot
      cases hw
      split at hfits
      · cases hfits
      · cases hfits
        rfl
    rw [hsame] at hsnapshot
    exact hsnapshot
  · exact show 1 = oneThread.turns.next by decide +kernel
  · rw [← Except.ok.inj (happended.symm.trans hafter)]
    dsimp only [appendedTurn]
    rw [hkey.1, hkey.2]
    exact hfound
  · exact show thread.version + 1 = 2 by omega
  · exact show (0 : Int) < 0 + activeRetention by decide

theorem shortAnswer_valid : ValidAnswer questionJob shortAnswer := by
  obtain ⟨content, hcontent⟩ := Checks.isOk_iff.mp
    (show (sanitizeText shortAnswer.content "content" maxContentChars).isOk = true by
      decide +kernel)
  have hpayload : ((sanitizeStructuredValue (shortAnswer.structuredPayload.orElse (.obj []))
      "assistant structured_payload").toOption.any fun payload => payload.isObj &&
        (checkFinalInference (questionJob.workflow = "generate_artifact") payload).isOk) = true := by
    decide +kernel
  obtain ⟨payload, hsome, hchecks⟩ := (Option.any_eq_true ..).mp hpayload
  rw [Bool.and_eq_true] at hchecks
  obtain ⟨u, hcheck⟩ := Checks.isOk_iff.mp hchecks.2
  exact ⟨content, payload, hcontent, Checks.toOption_eq_some.mp hsome, hchecks.1, hcheck⟩

/-- A question with a short request id. -/
theorem completed_question : ∃ userTurn,
    ((∃ final, finalizeExecutionTurn plainPython
        (Runs.after (stepConversation plainPython) (afterQuestion "request") [])
        (completion questionJob userTurn (.obj []) shortAnswer) = .ok final ∧
          IsCompleted final userTurn.id) ↔
      StillActive (Runs.after (stepConversation plainPython) (afterQuestion "request") [])
          userTurn.id ∧
        userTurn.clientRequestId.length ≤ 246 ∧
        ∀ t ∈ oneThread.turnsOf userTurn.threadId userTurn.owner,
          t.clientRequestId ≠ assistantRequestId userTurn) := by
  obtain ⟨userTurn, hsubmitted, hjob, hunchanged, -⟩ := @question_submitted "request"
    (Checks.toOption_eq_some.mp (by decide +kernel))
  exact ⟨userTurn, completed_iff plainPython oneThread (afterQuestion "request") (question "request")
    userTurn (.obj []) [] questionJob shortAnswer hsubmitted hunchanged hjob shortAnswer_valid⟩

/-- A request id of 250 characters is accepted with the question, and no answer can be stored. -/
theorem long_request_stuck :
    ¬ ∀ (py : Python) (memory accepted : Memory) (new : NewTurn) (userTurn : Turn) (snapshot : Json)
      (ops : List ConversationOp) (job : WorkerJob) (answer : WorkerAnswer),
      Submitted memory new accepted userTurn snapshot →
      Unchanged (Runs.after (stepConversation py) accepted ops) userTurn answer.now →
      LinkedTo job userTurn → ValidAnswer job answer →
      ∃ final, finalizeExecutionTurn py (Runs.after (stepConversation py) accepted ops)
        (completion job userTurn snapshot answer) = .ok final ∧ IsCompleted final userTurn.id := by
  intro hall
  have hlong : requiredText (String.ofList (List.replicate 250 'r')) "client_request_id" 256 =
      .ok (String.ofList (List.replicate 250 'r')) := by
    have hstrip : strip (String.ofList (List.replicate 250 'r')) =
        String.ofList (List.replicate 250 'r') := by
      have hchars : stripChars (List.replicate 250 'r') = List.replicate 250 'r' := by
        decide +kernel
      rw [strip, String.toList_ofList, hchars]
    have hlength : (String.ofList (List.replicate 250 'r')).length = 250 := by
      rw [String.length_ofList, List.length_replicate]
    have hsome : String.ofList (List.replicate 250 'r') ≠ "" := by
      intro hempty
      rw [hempty] at hlength
      cases hlength
    unfold requiredText
    rw [hstrip]
    dsimp only
    rw [if_neg hsome, if_neg (by omega)]
  obtain ⟨userTurn, hsubmitted, hjob, hunchanged, hrequest⟩ := question_submitted hlong
  obtain ⟨final, hfinal, -⟩ := hall plainPython _ _ _ userTurn _ [] questionJob shortAnswer hsubmitted
    hunchanged hjob shortAnswer_valid
  obtain ⟨-, requestId, -, -, -, -, -, -, -, -, -, hanswered, -⟩ := finalizeExecutionTurn_cases hfinal
  have hlength := ((requiredText_assistant hsubmitted.acceptedTurn.request _ _).mp hanswered).1
  rw [hrequest, String.length_ofList, List.length_replicate] at hlength
  omega

end Result

end SiemDashboard.SessionMemory
