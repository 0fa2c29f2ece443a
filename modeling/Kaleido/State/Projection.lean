/-
The read models the store builds from canonical state, and the fan-out matrix that decides which of them an effect
refreshes (`kaleido-state`, `projection.rs`).

`build` selects, sorts and aggregates one key's view and then runs the view's own validator: a view that fails it is
refused. `affectedKeys` names, for one effect and the states before and after it, the keys the store rebuilds.
-/
import Kaleido.State.Canonical

namespace Kaleido.State

open Check Proto

/-! ## Views -/

/-- the project's bindings into the group's runtimes -/
def groupBindings (runtimeIds : List ProviderRuntimeId) (project : Project) : List ProjectBindingSummary :=
  (project.bindings.filter fun binding => binding.runtimeId ∈ runtimeIds).map fun binding =>
    ⟨binding.id, binding.runtimeId⟩

/-- a project's entry in a provider group; a project without a binding into it has none -/
def groupProject (runtimeIds : List ProviderRuntimeId) (project : Project) : Option ProjectSummary :=
  let bindings := groupBindings runtimeIds project
  if bindings = [] then none
  else some ⟨project.id, project.displayName, bindings, project.sessionCounts, project.attentionCount,
    project.workflowCount, project.lastActivityAtMs⟩

/-- the runtimes of one family on a host -/
def groupRuntimeIds (s : CanonicalState) (hostId : HostId) (family : ProviderFamily) : List ProviderRuntimeId :=
  (s.runtimes.vals.filter fun runtime => runtime.hostId = hostId && runtime.family = family).map (·.id)

/-- one provider group; a family without runtimes has none -/
def providerGroup (s : CanonicalState) (hostId : HostId) (family : ProviderFamily) : Option ProviderGroup :=
  let runtimeIds := groupRuntimeIds s hostId family
  if runtimeIds = [] then none
  else some ⟨family, runtimeIds, s.projects.vals.filterMap (groupProject runtimeIds)⟩

/-- `project_index` -/
def projectIndex (s : CanonicalState) (hostId : HostId) : Except StateError ProjectIndexView :=
  match s.hosts.vals.find? fun host => host.id = hostId with
  | none => .error (.unknownHostId hostId)
  | some host => .ok ⟨host.id, host.reachability,
      [ProviderFamily.codex, .claudeCode, .openCode, .acp].filterMap (providerGroup s hostId)⟩

/-- `summarise` -/
def summarise (session : Session) : SessionSummary where
  sessionId := session.id
  projectBindingId := session.projectBindingId
  title := session.title
  status := session.status
  ownership := session.ownership
  liveBinding := session.liveBinding
  queueDepth := session.queueDepth
  openAttentionCount := session.openAttentionCount
  lastActivityAtMs := session.lastActivityAtMs

/-- `is_active` or `waits_for_human` -/
def shownActive : SessionStatus → Bool
  | .running | .queued | .waitingUser | .waitingApproval => true
  | _ => false

/-- `session_index`: the project's sessions, split into active, history and archived -/
def sessionIndex (s : CanonicalState) (projectId : ProjectId) : SessionIndexView :=
  let sessions := s.sessions.vals.filter fun session => session.projectId = projectId
  { projectId := projectId
    active := (sessions.filter fun session => !session.archived && shownActive session.status).map summarise
    history := (sessions.filter fun session => !session.archived && !shownActive session.status).map summarise
    archived := (sessions.filter fun session => session.archived).map summarise }

/-- `require_session` -/
def requireSession (s : CanonicalState) (sessionId : SessionId) : Except StateError Session :=
  match s.sessions[sessionId]? with
  | none => .error (.unknownSession sessionId)
  | some session => .ok session

/-- a turn with the items it has accumulated -/
def transcriptTurn (s : CanonicalState) (turn : Turn) : TranscriptTurn :=
  ⟨turn, turn.itemIds.filterMap fun itemId => s.items[itemId]?⟩

/-- `transcript` -/
def transcript (s : CanonicalState) (sessionId : SessionId) : Except StateError TranscriptView := do
  let _ ← requireSession s sessionId
  return ⟨sessionId, (s.turnsOf sessionId).map (transcriptTurn s), false⟩

/-- the latest plan of a list of items in sequence order -/
def latestPlan (items : List Item) : List PlanEntry :=
  items.foldl (fun plan item => match item.body with
    | .planUpdate entries => entries
    | _ => plan) []

/-- the latest tasks of a list of items in sequence order -/
def latestTasks (items : List Item) : List AgentTask :=
  items.foldl (fun tasks item => match item.body with
    | .taskUpdate updated => updated
    | _ => tasks) []

/-- `live_activity` -/
def liveActivity (s : CanonicalState) (sessionId : SessionId) : Except StateError LiveActivityView := do
  let session ← requireSession s sessionId
  let items := s.itemsOf sessionId
  return {
    sessionId := sessionId
    activeTurnId := session.activeTurnId
    streamingItemIds := match session.activeTurnId with
      | some activeTurnId =>
        (items.filter fun item => item.turnId = activeTurnId && item.status = .inProgress).map (·.id)
      | none => []
    plan := latestPlan items
    tasks := latestTasks items
    updatedAtMs := session.lastActivityAtMs }

/-- `input_queue` -/
def inputQueue (s : CanonicalState) (sessionId : SessionId) : Except StateError InputQueueView := do
  let session ← requireSession s sessionId
  return {
    sessionId := sessionId
    entries := s.queueOf sessionId
    writable := !session.archived && session.status ≠ .offline
    steerSupported := (s.capabilitiesOf session).any fun capabilities => capabilities.permits .turnSteer }

/-- `attention_inbox`: what waits on a human at the host, soonest expiry first -/
def attentionInbox (s : CanonicalState) (hostId : HostId) : AttentionInboxView :=
  ⟨sortByKey (fun entry => entry.expiresAtMs.getD i64Max)
    (s.attentionEntries.filter fun entry => entry.hostId = hostId && entry.state.isOpen)⟩

/-- the states of the step's dependencies that are known -/
def dependencyStates (s : CanonicalState) (step : Step) : List (StepId × StepState) :=
  step.dependsOn.filterMap fun dependencyId => s.steps[dependencyId]?.map fun dependency =>
    (dependency.id, dependency.state)

/-- the runtime behind the step's project binding -/
def stepRuntime (s : CanonicalState) (workflow : Workflow) (step : Step) : Option ProviderRuntime := do
  let project ← s.projects[workflow.projectId]?
  let binding ← project.bindings.find? fun binding => binding.id = step.assignment.projectBindingId
  s.runtimes[binding.runtimeId]?

/-- whether the step's human gate is open -/
def gateOpen (s : CanonicalState) (step : Step) : Bool :=
  (step.humanGate.bind fun attentionId => s.attention[attentionId]?).any fun attention => attention.state.isOpen

/-- `unavailable_runtime_blockers`: without a runtime every required capability blocks -/
def unavailableRuntimeBlockers (step : Step) (dependencyStates : List (StepId × StepState)) (gateOpen : Bool) :
    List StepBlocker :=
  (if step.state ≠ .ready then [.notSchedulable step.state] else []) ++
    (step.dependsOn.filter fun dependency => !dependencyStates.any fun (stepId, state) =>
      stepId = dependency && (state = .completed || state = .skipped)).map .dependencyIncomplete ++
    step.assignment.selector.required.map .capabilityNotSupported ++
    match step.humanGate with
    | some attentionId => if gateOpen then [.humanGateOpen attentionId] else []
    | none => []

/-- one step of the board -/
def boardStep (s : CanonicalState) (workflow : Workflow) (step : Step) : WorkflowBoardStep where
  stepId := step.id
  title := step.title
  state := step.state
  dependsOn := step.dependsOn
  assignment := step.assignment
  sessionId := step.sessionId
  blockers := match stepRuntime s workflow step with
    | some runtime => step.blockers (dependencyStates s step) runtime.capabilities (gateOpen s step)
    | none => unavailableRuntimeBlockers step (dependencyStates s step) (gateOpen s step)

/-- `workflow_board`: the steps the workflow lists, in its order -/
def workflowBoard (s : CanonicalState) (workflowId : WorkflowId) : Except StateError WorkflowBoardView :=
  match s.workflows[workflowId]? with
  | none => .error (.unknownWorkflow workflowId)
  | some workflow => .ok {
      workflowId := workflow.id
      state := workflow.state
      steps := (workflow.stepIds.filterMap fun stepId => s.steps[stepId]?).map (boardStep s workflow)
      artifacts := s.artifactsOf workflowId }

/-- `runtime_capability` -/
def runtimeCapability (s : CanonicalState) (runtimeId : ProviderRuntimeId) : Except StateError RuntimeCapabilityView :=
  match s.runtimes[runtimeId]? with
  | none => .error (.unknownRuntime runtimeId)
  | some runtime => .ok (.fromCapabilities runtime.hostId runtime.capabilities)

/-- the key's view, before its validation -/
def select (s : CanonicalState) : ProjectionKey → Except StateError ProjectionPayload
  | .projectIndex hostId => (projectIndex s hostId).map .projectIndex
  | .sessionIndex projectId => .ok (.sessionIndex (sessionIndex s projectId))
  | .transcript sessionId => (transcript s sessionId).map .transcript
  | .liveActivity sessionId => (liveActivity s sessionId).map .liveActivity
  | .inputQueue sessionId => (inputQueue s sessionId).map .inputQueue
  | .attentionInbox hostId => .ok (.attentionInbox (attentionInbox s hostId))
  | .workflowBoard workflowId => (workflowBoard s workflowId).map .workflowBoard
  | .runtimeCapability _ runtimeId => (runtimeCapability s runtimeId).map .runtimeCapability

/-- `build`: one complete, validated payload for its key -/
def build (s : CanonicalState) (key : ProjectionKey) : Except StateError ProjectionPayload := do
  let payload ← select s key
  contract (payload.validateForKey key)
  return payload

/-! ## The fan-out matrix -/

/-- `push_unique` -/
def pushUnique (keys : List ProjectionKey) (key : ProjectionKey) : List ProjectionKey :=
  if key ∈ keys then keys else keys ++ [key]

/-- `push_host_roots` -/
def hostRoots (hostId : HostId) : List ProjectionKey := [.projectIndex hostId, .attentionInbox hostId]

/-- `project_host_ids`: the hosts behind the project's bindings (repetitions are dropped by `push_unique`) -/
def projectHostIds (s : CanonicalState) (projectId : ProjectId) : List HostId :=
  match s.projects[projectId]? with
  | none => []
  | some project => project.bindings.filterMap fun binding => s.runtimes[binding.runtimeId]?.map (·.hostId)

/-- `push_project` -/
def projectKeys (s : CanonicalState) (projectId : ProjectId) : List ProjectionKey :=
  (projectHostIds s projectId).map .projectIndex

/-- `push_session` -/
def sessionKeys (s : CanonicalState) (session : Session) : List ProjectionKey :=
  [.sessionIndex session.projectId, .transcript session.id, .liveActivity session.id, .inputQueue session.id] ++
    projectKeys s session.projectId

/-- `push_session` of a session that may be unknown -/
def sessionKeysAt (s : CanonicalState) (sessionId : SessionId) : List ProjectionKey :=
  match s.sessions[sessionId]? with
  | none => []
  | some session => sessionKeys s session

/-- `push_runtime_sessions` -/
def runtimeSessionKeys (s : CanonicalState) (runtimeId : ProviderRuntimeId) : List ProjectionKey :=
  (s.sessions.vals.filter fun session => (s.runtimeOf session).any fun runtime => runtime.id = runtimeId).flatMap
    (sessionKeys s)

/-- `push_project_workflows` -/
def projectWorkflowKeys (s : CanonicalState) (projectId : ProjectId) : List ProjectionKey :=
  (s.workflows.vals.filter fun workflow => workflow.projectId = projectId).map fun workflow =>
    .workflowBoard workflow.id

/-- `push_runtime_workflows` -/
def runtimeWorkflowKeys (s : CanonicalState) (runtimeId : ProviderRuntimeId) : List ProjectionKey :=
  (s.projects.vals.filter fun project => project.bindings.any fun binding => binding.runtimeId = runtimeId).flatMap
    fun project => projectWorkflowKeys s project.id

/-- `push_all_workflows` -/
def allWorkflowKeys (s : CanonicalState) : List ProjectionKey :=
  s.workflows.vals.map fun workflow => .workflowBoard workflow.id

/-- `push_attention` -/
def attentionKeys (s : CanonicalState) (item : AttentionItem) : List ProjectionKey :=
  .attentionInbox item.hostId :: projectKeys s item.projectId ++
    match item.sessionId with
    | some sessionId => sessionKeysAt s sessionId
    | none => []

/-- the keys `affected_keys` pushes, in its order, repetitions included -/
def pushedKeys (before after : CanonicalState) : StateEffect → List ProjectionKey
  | .hostUpserted host => hostRoots host.id
  | .runtimeUpserted runtime =>
    (match before.runtimes[runtime.id]? with
      | some previous => [.projectIndex previous.hostId]
      | none => []) ++
    [.projectIndex runtime.hostId, .runtimeCapability runtime.hostId runtime.id] ++
    runtimeSessionKeys before runtime.id ++ runtimeSessionKeys after runtime.id ++
    runtimeWorkflowKeys before runtime.id ++ runtimeWorkflowKeys after runtime.id
  | .capabilitiesUpdated capabilities =>
    (match after.runtimes[capabilities.runtimeId]? with
      | some runtime => [.runtimeCapability runtime.hostId runtime.id]
      | none => []) ++
    runtimeSessionKeys after capabilities.runtimeId ++ runtimeWorkflowKeys after capabilities.runtimeId
  | .projectUpserted project =>
    projectKeys before project.id ++ projectKeys after project.id ++ [.sessionIndex project.id] ++
    projectWorkflowKeys before project.id ++ projectWorkflowKeys after project.id
  | .sessionUpserted session => sessionKeysAt before session.id ++ sessionKeysAt after session.id
  | .sessionStatusChanged sessionId _ => sessionKeysAt after sessionId
  | .turnUpserted turn => sessionKeysAt after turn.sessionId
  | .itemUpserted item =>
    (match before.items[item.id]? with
      | some previous => sessionKeysAt before previous.sessionId
      | none => []) ++ sessionKeysAt after item.sessionId
  | .queueEntryUpserted entry =>
    (match before.queue[entry.id]? with
      | some previous => sessionKeysAt before previous.sessionId
      | none => []) ++ sessionKeysAt after entry.sessionId
  | .queueReordered sessionId _ => sessionKeysAt after sessionId
  | .attentionUpserted item =>
    (match before.attention[item.id]? with
      | some previous => attentionKeys before previous
      | none => []) ++ attentionKeys after item ++ allWorkflowKeys after
  | .workflowUpserted workflow =>
    (match before.workflows[workflow.id]? with
      | some previous => projectKeys before previous.projectId
      | none => []) ++ projectKeys after workflow.projectId ++ [.workflowBoard workflow.id]
  | .stepUpserted step =>
    (match before.steps[step.id]? with
      | some previous => [.workflowBoard previous.workflowId]
      | none => []) ++ [.workflowBoard step.workflowId]
  | .artifactUpserted artifact =>
    ((before.workflows.vals.filter fun workflow =>
      (before.artifactsOf workflow.id).any fun existing => existing.id = artifact.id).map fun workflow =>
        .workflowBoard workflow.id) ++ [.workflowBoard artifact.workflowId]
  | .commandAcknowledged _ | .diagnosticRecorded _ => []

/-- `affected_keys` -/
def affectedKeys (before after : CanonicalState) (effect : StateEffect) : List ProjectionKey :=
  (pushedKeys before after effect).foldl pushUnique []

end Kaleido.State
