import SiemDashboard.Core.SessionMemoryStore

/-!
# Conversation orchestration

`core/ai/conversation_orchestration_service.py`: how a worker stores the answer to a user's turn.

* **Jobs** — `WorkerJob`, `WorkerAnswer`.
* **Completion** — `assistantRequestId`, `completion`: the arguments with which
  `complete_worker_conversation` calls `finalize_execution_turn`.
-/

namespace SiemDashboard.SessionMemory

open Python

/-! ## Jobs -/

/-- The columns of a claimed request that say where its answer belongs. -/
structure WorkerJob where
  threadId : String
  actorUsername : String
  turnId : Nat
  workflow : String

/-- The content and the structured payload that are made of the result of a workflow. -/
structure WorkerAnswer where
  content : String
  structuredPayload : Json
  now : Int
  uuid : Uuid

/-! ## Completion -/

/-- The request id of an answer. -/
def assistantRequestId (userTurn : Turn) : String := userTurn.clientRequestId ++ ":assistant"

/-- The call of `finalize_execution_turn` in `complete_worker_conversation`, with the user's turn and its
    entity snapshot as they are stored. -/
def completion (job : WorkerJob) (userTurn : Turn) (entitySnapshot : Json) (answer : WorkerAnswer) :
    Finalization where
  threadId := job.threadId
  ownerUsername := job.actorUsername
  userTurnId := job.turnId
  expectedThreadVersion := userTurn.threadVersionAfterAppend
  workflow := job.workflow
  content := answer.content
  clientRequestId := assistantRequestId userTurn
  structuredPayload := answer.structuredPayload
  entitySnapshot := entitySnapshot.orElse (.obj [])
  artifactPreview := job.workflow = "generate_artifact"
  now := answer.now
  uuid := answer.uuid

end SiemDashboard.SessionMemory
