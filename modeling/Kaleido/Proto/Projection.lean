/-
The read models of the contract (`kaleido-proto`, `projection.rs`): the eight projection keys, the view each one
carries, the checks a view must pass before it leaves the host, and the decision a subscription request receives.
-/
import Kaleido.Proto.Validate

namespace Kaleido.Proto

open Check

/-- `PROJECTION_VERSION` -/
def projectionVersion : Nat := 3

inductive ProjectionKey where
  | projectIndex (hostId : HostId)
  | sessionIndex (projectId : ProjectId)
  | transcript (sessionId : SessionId)
  | liveActivity (sessionId : SessionId)
  | inputQueue (sessionId : SessionId)
  | attentionInbox (hostId : HostId)
  | workflowBoard (workflowId : WorkflowId)
  | runtimeCapability (hostId : HostId) (runtimeId : ProviderRuntimeId)
  deriving DecidableEq

/-! ## Views -/

structure ProjectBindingSummary where
  bindingId : ProjectBindingId
  runtimeId : ProviderRuntimeId
  deriving DecidableEq

structure ProjectSummary where
  projectId : ProjectId
  displayName : String
  bindings : List ProjectBindingSummary
  sessionCounts : SessionCounts
  attentionCount : Nat
  workflowCount : Nat
  lastActivityAtMs : Int
  deriving DecidableEq

structure ProviderGroup where
  family : ProviderFamily
  runtimeIds : List ProviderRuntimeId
  projects : List ProjectSummary
  deriving DecidableEq

structure ProjectIndexView where
  hostId : HostId
  reachability : HostReachability
  groups : List ProviderGroup
  deriving DecidableEq

structure SessionSummary where
  sessionId : SessionId
  projectBindingId : ProjectBindingId
  title : Option String
  status : SessionStatus
  ownership : OwnershipMode
  liveBinding : LiveBinding
  queueDepth : Nat
  openAttentionCount : Nat
  lastActivityAtMs : Int
  deriving DecidableEq

structure SessionIndexView where
  projectId : ProjectId
  active : List SessionSummary
  history : List SessionSummary
  archived : List SessionSummary
  deriving DecidableEq

structure TranscriptTurn where
  turn : Turn
  items : List Item
  deriving DecidableEq

structure TranscriptView where
  sessionId : SessionId
  turns : List TranscriptTurn
  hasEarlier : Bool
  deriving DecidableEq

structure LiveActivityView where
  sessionId : SessionId
  activeTurnId : Option TurnId
  streamingItemIds : List ItemId
  plan : List PlanEntry
  tasks : List AgentTask
  updatedAtMs : Int
  deriving DecidableEq

structure InputQueueView where
  sessionId : SessionId
  entries : List QueueEntry
  writable : Bool
  steerSupported : Bool
  deriving DecidableEq

structure AttentionInboxView where
  entries : List AttentionItem
  deriving DecidableEq

structure WorkflowBoardStep where
  stepId : StepId
  title : String
  state : StepState
  dependsOn : List StepId
  assignment : StepAssignment
  sessionId : Option SessionId
  blockers : List StepBlocker
  deriving DecidableEq

structure WorkflowBoardView where
  workflowId : WorkflowId
  state : WorkflowState
  steps : List WorkflowBoardStep
  artifacts : List Artifact
  deriving DecidableEq

structure RuntimeCapabilityView where
  hostId : HostId
  runtimeId : ProviderRuntimeId
  negotiatedAtMs : Int
  entries : List CapabilityEntry
  deriving DecidableEq

inductive ProjectionPayload where
  | projectIndex (view : ProjectIndexView)
  | sessionIndex (view : SessionIndexView)
  | transcript (view : TranscriptView)
  | liveActivity (view : LiveActivityView)
  | inputQueue (view : InputQueueView)
  | attentionInbox (view : AttentionInboxView)
  | workflowBoard (view : WorkflowBoardView)
  | runtimeCapability (view : RuntimeCapabilityView)
  deriving DecidableEq

structure ProjectionEnvelope where
  projectionVersion : Nat
  key : ProjectionKey
  cursor : Cursor
  payload : ProjectionPayload
  deriving DecidableEq

/-! ## Validation of views -/

def ProjectBindingSummary.validate (b : ProjectBindingSummary) : Except ContractViolation Unit := do
  nonEmpty b.bindingId "project_binding_summary.binding_id"
  nonEmpty b.runtimeId "project_binding_summary.runtime_id"

def ProjectSummary.validate (p : ProjectSummary) : Except ContractViolation Unit := do
  nonEmpty p.projectId "project_summary.project_id"
  checkAll ProjectBindingSummary.validate p.bindings

def ProviderGroup.validate (g : ProviderGroup) : Except ContractViolation Unit := do
  checkAll (fun runtimeId => nonEmpty runtimeId "provider_group.runtime_ids") g.runtimeIds
  checkAll (fun project => do
    project.validate
    checkAll (fun binding => ensure (binding.runtimeId ∈ g.runtimeIds)
      (.danglingReference "provider_group.projects.bindings.runtime_id")) project.bindings) g.projects

def ProjectIndexView.validate (v : ProjectIndexView) : Except ContractViolation Unit := do
  nonEmpty v.hostId "project_index.host_id"
  checkAll ProviderGroup.validate v.groups

def SessionSummary.validate (s : SessionSummary) : Except ContractViolation Unit := do
  nonEmpty s.sessionId "session_summary.session_id"
  nonEmpty s.projectBindingId "session_summary.project_binding_id"
  s.liveBinding.validateShape

def SessionIndexView.validate (v : SessionIndexView) : Except ContractViolation Unit := do
  nonEmpty v.projectId "session_index.project_id"
  checkAll SessionSummary.validate (v.active ++ v.history ++ v.archived)

/-- one turn of the transcript: every listed item is present, and nothing else is -/
def TranscriptTurn.validate (sessionId : SessionId) (t : TranscriptTurn) : Except ContractViolation Unit := do
  t.turn.validate
  ensure (t.turn.sessionId = sessionId) (.danglingReference "transcript.turns.session_id")
  checkAll (fun itemId => ensure (t.items.any fun item => item.id = itemId && item.turnId = t.turn.id)
    (.danglingReference "transcript.turns.item_ids")) t.turn.itemIds
  checkAll (fun item => do
    item.validate
    ensure (item.sessionId = sessionId ∧ item.turnId = t.turn.id ∧ item.id ∈ t.turn.itemIds)
      (.danglingReference "transcript.turns.items")) t.items

def TranscriptView.validate (v : TranscriptView) : Except ContractViolation Unit := do
  nonEmpty v.sessionId "transcript.session_id"
  checkAll (TranscriptTurn.validate v.sessionId) v.turns

def LiveActivityView.validate (v : LiveActivityView) : Except ContractViolation Unit := do
  nonEmpty v.sessionId "live_activity.session_id"
  checkSome (fun turnId => nonEmpty turnId "live_activity.active_turn_id") v.activeTurnId
  checkAll (fun itemId => nonEmpty itemId "live_activity.streaming_item_ids") v.streamingItemIds
  checkAll (fun entry => entry.titleRef.ensureSensitive "live_activity.plan.title_ref") v.plan
  checkAll (fun task => do
    nonEmpty task.id "live_activity.tasks.id"
    task.titleRef.ensureSensitive "live_activity.tasks.title_ref") v.tasks

def InputQueueView.validate (v : InputQueueView) : Except ContractViolation Unit := do
  nonEmpty v.sessionId "input_queue.session_id"
  checkAll (fun entry => do
    entry.validate
    ensure (entry.sessionId = v.sessionId) (.danglingReference "input_queue.entries.session_id")) v.entries

def AttentionInboxView.validate (v : AttentionInboxView) : Except ContractViolation Unit :=
  checkAll AttentionItem.validate v.entries

def StepBlocker.validate : StepBlocker → Except ContractViolation Unit
  | .dependencyIncomplete stepId => nonEmpty stepId "workflow_board_step.blockers.step_id"
  | .humanGateOpen attentionId => nonEmpty attentionId "workflow_board_step.blockers.attention_id"
  | .capabilityNotSupported _ | .notSchedulable _ => .ok ()

def WorkflowBoardStep.validate (s : WorkflowBoardStep) : Except ContractViolation Unit := do
  nonEmpty s.stepId "workflow_board_step.step_id"
  checkAll (fun stepId => nonEmpty stepId "workflow_board_step.depends_on") s.dependsOn
  checkSome (fun sessionId => nonEmpty sessionId "workflow_board_step.session_id") s.sessionId
  s.assignment.validate
  checkAll StepBlocker.validate s.blockers

def WorkflowBoardView.validate (v : WorkflowBoardView) : Except ContractViolation Unit := do
  nonEmpty v.workflowId "workflow_board.workflow_id"
  checkAll (fun step => do
    step.validate
    checkAll (fun dependency => ensure (v.steps.any fun candidate => candidate.stepId = dependency)
      (.danglingReference "workflow_board.steps.depends_on")) step.dependsOn) v.steps
  checkAll (fun artifact => do
    artifact.validate
    ensure (artifact.workflowId = v.workflowId) (.danglingReference "workflow_board.artifacts.workflow_id")
    checkSome (fun stepId => ensure (v.steps.any fun step => step.stepId = stepId)
      (.danglingReference "workflow_board.artifacts.produced_by")) artifact.producedBy) v.artifacts

def RuntimeCapabilityView.fromCapabilities (hostId : HostId) (c : RuntimeCapabilities) : RuntimeCapabilityView :=
  ⟨hostId, c.runtimeId, c.negotiatedAtMs, c.entries⟩

def RuntimeCapabilityView.validate (v : RuntimeCapabilityView) : Except ContractViolation Unit := do
  nonEmpty v.hostId "runtime_capability.host_id"
  RuntimeCapabilities.validate ⟨v.runtimeId, v.negotiatedAtMs, v.entries⟩

def ProjectionKey.validate : ProjectionKey → Except ContractViolation Unit
  | .projectIndex hostId | .attentionInbox hostId => nonEmpty hostId "projection_key.host_id"
  | .sessionIndex projectId => nonEmpty projectId "projection_key.project_id"
  | .transcript sessionId | .liveActivity sessionId | .inputQueue sessionId =>
    nonEmpty sessionId "projection_key.session_id"
  | .workflowBoard workflowId => nonEmpty workflowId "projection_key.workflow_id"
  | .runtimeCapability hostId runtimeId => do
    nonEmpty hostId "projection_key.host_id"
    nonEmpty runtimeId "projection_key.runtime_id"

/-- `validate_for_key`: the payload is the key's own view and passes its checks -/
def ProjectionPayload.validateForKey (payload : ProjectionPayload) (key : ProjectionKey) :
    Except ContractViolation Unit := do
  key.validate
  match key, payload with
  | .projectIndex hostId, .projectIndex view => own (hostId = view.hostId) view.validate
  | .sessionIndex projectId, .sessionIndex view => own (projectId = view.projectId) view.validate
  | .transcript sessionId, .transcript view => own (sessionId = view.sessionId) view.validate
  | .liveActivity sessionId, .liveActivity view => own (sessionId = view.sessionId) view.validate
  | .inputQueue sessionId, .inputQueue view => own (sessionId = view.sessionId) view.validate
  | .attentionInbox hostId, .attentionInbox view => do
    view.validate
    ensure (¬ view.entries.any fun entry => entry.hostId ≠ hostId) (.danglingReference "attention_inbox.entries.host_id")
  | .workflowBoard workflowId, .workflowBoard view => own (workflowId = view.workflowId) view.validate
  | .runtimeCapability hostId runtimeId, .runtimeCapability view =>
    own (hostId = view.hostId ∧ runtimeId = view.runtimeId) view.validate
  | _, _ => .error .projectionKeyPayloadMismatch
where
  /-- the guard of a match arm: a view of another subject falls through to the mismatch -/
  own (c : Prop) [Decidable c] (validate : Except ContractViolation Unit) : Except ContractViolation Unit :=
    if c then validate else .error .projectionKeyPayloadMismatch

/-- `validate_for_transport` -/
def ProjectionEnvelope.validateForTransport (e : ProjectionEnvelope) : Except ContractViolation Unit := do
  e.key.validate
  e.payload.validateForKey e.key

/-! ## Subscriptions -/

structure ProjectionSubscribe where
  key : ProjectionKey
  since : Option Cursor
  deriving DecidableEq

inductive ProjectionSubscribeOutcome where
  | resumed (fromCursor : Cursor)
  | currentFollows (currentCursor : Cursor)
  | rejected (error : CanonicalError)
  deriving DecidableEq

structure ProjectionSubscribeAck where
  key : ProjectionKey
  outcome : ProjectionSubscribeOutcome
  deriving DecidableEq

/-- `decide_projection_subscription`: resume, send the current view, or refuse a cursor from the future -/
def decideProjectionSubscription (request : ProjectionSubscribe) (retainedFloor currentHead : Cursor) (atMs : Int) :
    Except ContractViolation ProjectionSubscribeAck := do
  request.key.validate
  ensure (retainedFloor.seq ≤ currentHead.seq) (.invalidProjectionCursorWindow retainedFloor.seq currentHead.seq)
  let gap : ProjectionSubscribeOutcome := .rejected ⟨.cursorGap, true, none, atMs⟩
  let outcome := match request.since with
    | none => .currentFollows currentHead
    | some since =>
      if since.seq > currentHead.seq then gap
      else match since.next with
        | .error _ => gap
        | .ok next => if next.seq < retainedFloor.seq then .currentFollows currentHead else .resumed next
  return ⟨request.key, outcome⟩

/-- `validate_for`: the acknowledgement is of this request -/
def ProjectionSubscribeAck.validateFor (ack : ProjectionSubscribeAck) (request : ProjectionSubscribe) :
    Except ContractViolation Unit := do
  request.key.validate
  ack.key.validate
  ensure (ack.key = request.key) .projectionSubscribeKeyMismatch
  match ack.outcome with
  | .resumed fromCursor => match request.since with
    | none => .error .projectionResumeWithoutCursor
    | some since => do
      let expected ← since.next
      ensure (fromCursor = expected) (.projectionResumeCursorMismatch expected.seq fromCursor.seq)
  | .rejected error => error.validate
  | .currentFollows currentCursor => match request.since with
    | none => .ok ()
    | some since => ensure (since.seq < currentCursor.seq) (.projectionCurrentCursorNotAhead since.seq currentCursor.seq)

/-- `validate_projection_sequence`: the envelopes follow the cursor one by one -/
def validateProjectionSequence (key : ProjectionKey) (after : Cursor) (envelopes : List ProjectionEnvelope) :
    Except ContractViolation Unit := do
  key.validate
  go after envelopes
where
  go (previous : Cursor) : List ProjectionEnvelope → Except ContractViolation Unit
    | [] => .ok ()
    | envelope :: rest => do
      envelope.validateForTransport
      ensure (envelope.key = key) .mixedProjectionKeys
      ensure (envelope.cursor ≠ previous) (.cursorRepeated envelope.cursor.seq)
      let expected ← previous.next
      ensure (envelope.cursor = expected) (.cursorGap expected.seq envelope.cursor.seq)
      go envelope.cursor rest

end Kaleido.Proto
