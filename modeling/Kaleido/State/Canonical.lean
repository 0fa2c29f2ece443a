/-
The canonical state and the rules for changing it (`kaleido-state`, `state.rs` and `error.rs`).

`CanonicalState` is everything the broker knows, rebuilt purely from applied effects. `transition` is the effect's own
change; `recomputeDerived` then recomputes every field the store owns rather than an effect (a session's active turn,
queue depth, attention count, status and last activity; a project's counts). `apply` is the two in sequence: it returns
the next state, or the refusal, and the caller keeps the old state on a refusal (the store applies to a clone).

The maps are ordered by identifier, so a list read off one is in the order the code iterates it.
-/
import Mathlib
import Kaleido.Lib.OrdMap
import Kaleido.Proto.Projection

namespace Kaleido.State

open Check Proto

/-- `StateError`, the variants the modelled code reports -/
inductive StateError where
  | contract (violation : ContractViolation)
  | io (path : String)
  | unknownSession (sessionId : SessionId)
  | unknownRuntime (runtimeId : ProviderRuntimeId)
  | runtimeHostChanged
  | unknownTurn (turnId : TurnId)
  | unknownHost
  | unknownHostId (hostId : HostId)
  | unknownWorkflow (workflowId : WorkflowId)
  | ambiguousScope (detail : String)
  | unsupportedEffect (detail : String)
  | unknownAttention (attentionId : AttentionId)
  | contentMissing (contentId : ContentId)
  | contentDigestMismatch (contentId : ContentId)
  | contentUnauthorized (contentId : ContentId)
  | contentExpired (contentId : ContentId)
  | contentMetadataMismatch (contentId : ContentId)
  | unsafeContentId (contentId : ContentId)
  | invalidContentOffset (contentId : ContentId) (offset : Nat)
  | timestampOverflow
  | invalidProjectionRetention
  | projectionJournalDiverged (key : ProjectionKey)
  | dispatchNotAvailable (commandId : CommandId)
  | dispatchNotAccepted (commandId : CommandId)
  | commandOutboxDiverged
  | recoveryRequired
  | deviceCommandMismatch (detail : String)
  | untrustedLocalAcknowledgement
  | uncorrelatedRuntimeAcknowledgement
  | runtimeAcknowledgementWithoutRemoteTurn
  | ambiguousRuntimeAcknowledgement
  | runtimeAcknowledgementRuntimeMismatch
  | duplicateRuntimeAcknowledgement
  | liveControlCapabilityWithoutRuntimeAcceptance
  | controllingBindingWithoutRuntimeAcceptance
  | remoteCommandTurnConflict
  | turnSessionChanged
  | turnOriginChanged
  | turnBindingChanged
  | liveSessionWithoutRuntimeReference
  | malformedRecord (path : String) (line : Nat)
  deriving DecidableEq

/-- a contract check inside the store: the violation becomes a `StateError` -/
def contract {α : Type} (x : Except ContractViolation α) : Except StateError α := x.mapError .contract

@[simp] theorem contract_eq_ok {α : Type} {x : Except ContractViolation α} {a : α} :
    contract x = .ok a ↔ x = .ok a := by
  cases x <;> simp [contract, Except.mapError]

/-! ## The state -/

/-- `CanonicalState` -/
structure CanonicalState where
  hosts : OrdMap HostId Host := ∅
  runtimes : OrdMap ProviderRuntimeId ProviderRuntime := ∅
  projects : OrdMap ProjectId Project := ∅
  sessions : OrdMap SessionId Session := ∅
  reportedStatus : OrdMap SessionId SessionStatus := ∅
  turns : OrdMap TurnId Turn := ∅
  turnOrder : List TurnId := []
  items : OrdMap ItemId Item := ∅
  queue : OrdMap QueueEntryId QueueEntry := ∅
  attention : OrdMap AttentionId AttentionItem := ∅
  attentionOrder : List AttentionId := []
  workflows : OrdMap WorkflowId Workflow := ∅
  steps : OrdMap StepId Step := ∅
  artifacts : OrdMap ArtifactId Artifact := ∅
  diagnostics : OrdMap String DiagnosticRecord := ∅
  acks : List CommandAck := []

/-- `i64::MIN` and `i64::MAX` -/
def i64Min : Int := -(2 ^ 63)
def i64Max : Int := 2 ^ 63 - 1

/-- `u32::try_from(count).unwrap_or(u32::MAX)` -/
def u32OfCount (n : Nat) : Nat := min n (2 ^ 32 - 1)

/-- `sort_by_key`: a stable sort -/
def sortByKey {α κ : Type} [LE κ] [DecidableLE κ] (key : α → κ) (l : List α) : List α :=
  l.insertionSort fun a b => key a ≤ key b

namespace CanonicalState

/-! ## Queries -/

/-- `turns_of`: one session's turns in the order they were first observed -/
def turnsOf (s : CanonicalState) (sessionId : SessionId) : List Turn :=
  (s.turnOrder.filterMap fun turnId => s.turns[turnId]?).filter fun turn => turn.sessionId = sessionId

/-- `items_of`: one session's items by sequence -/
def itemsOf (s : CanonicalState) (sessionId : SessionId) : List Item :=
  sortByKey (·.sequence) (s.items.vals.filter fun item => item.sessionId = sessionId)

/-- `queue_of`: one session's queue entries by position -/
def queueOf (s : CanonicalState) (sessionId : SessionId) : List QueueEntry :=
  sortByKey (·.position) (s.queue.vals.filter fun entry => entry.sessionId = sessionId)

/-- `attention_entries`: in observation order -/
def attentionEntries (s : CanonicalState) : List AttentionItem :=
  s.attentionOrder.filterMap fun attentionId => s.attention[attentionId]?

/-- `artifacts_of` -/
def artifactsOf (s : CanonicalState) (workflowId : WorkflowId) : List Artifact :=
  s.artifacts.vals.filter fun artifact => artifact.workflowId = workflowId

/-- the binding of the session's project that the session names -/
def projectBindingOf (s : CanonicalState) (session : Session) : Option ProjectBinding := do
  let project ← s.projects[session.projectId]?
  project.bindings.find? fun binding => binding.id = session.projectBindingId

/-- the runtime a session names: by its own handle, else by its history, else through its project binding -/
def runtimeIdOf (s : CanonicalState) (session : Session) : Option ProviderRuntimeId :=
  (session.bindingHandle.map (·.runtimeId)) <|> session.historySource.runtimeId <|>
    (s.projectBindingOf session).map (·.runtimeId)

/-- `runtime_of` -/
def runtimeOf (s : CanonicalState) (session : Session) : Option ProviderRuntime :=
  (s.runtimeIdOf session).bind fun runtimeId => s.runtimes[runtimeId]?

/-- `capabilities_of` -/
def capabilitiesOf (s : CanonicalState) (session : Session) : Option RuntimeCapabilities :=
  (s.runtimeOf session).map (·.capabilities)

/-- `live_runtime_of`: a live session must name its runtime itself -/
def liveRuntimeOf (s : CanonicalState) (session : Session) : Except StateError ProviderRuntime :=
  match (session.bindingHandle.map (·.runtimeId)) <|> session.historySource.runtimeId with
  | none => .error .liveSessionWithoutRuntimeReference
  | some runtimeId =>
    match s.runtimes[runtimeId]? with
    | none => .error (.unknownRuntime runtimeId)
    | some runtime => .ok runtime

/-- `accepted_runtime_session`: the session a runtime acceptance is about, if it still resolves to that runtime -/
def acceptedRuntimeSession (s : CanonicalState) (ack : CommandAck) (runtimeId : ProviderRuntimeId) : Option Session :=
  match ack.outcome with
  | .acceptedByRuntime sessionId _ bindingHandle =>
    if bindingHandle.runtimeId ≠ runtimeId then none
    else (s.sessions[sessionId]?).filter fun session => (s.runtimeOf session).any fun runtime => runtime.id = runtimeId
  | _ => none

/-- `has_runtime_acceptance_for` -/
def hasRuntimeAcceptanceFor (s : CanonicalState) (runtimeId : ProviderRuntimeId) : Bool :=
  s.acks.any fun ack => (s.acceptedRuntimeSession ack runtimeId).isSome

/-- the turns that answer a remote command -/
def remoteTurns (s : CanonicalState) (commandId : CommandId) : List Turn :=
  s.turns.vals.filter fun turn => turn.origin = .remoteCommand commandId

/-- `remote_command_turn` -/
def remoteCommandTurn (s : CanonicalState) (commandId : CommandId) : Except StateError Turn :=
  match s.remoteTurns commandId with
  | [] => .error .runtimeAcknowledgementWithoutRemoteTurn
  | [turn] => .ok turn
  | _ :: _ :: _ => .error .ambiguousRuntimeAcknowledgement

/-- `attention_is_answered` -/
def attentionIsAnswered (s : CanonicalState) (attentionId : AttentionId) : Bool :=
  s.attention[attentionId]?.any fun entry => match entry.state with
    | .answered .. => true
    | _ => false

/-- `queue_command_id`: the command whose acknowledgement created the entry -/
def queueCommandId (s : CanonicalState) (entryId : QueueEntryId) : Option CommandId :=
  s.acks.findSome? fun ack => if ack.outcome = .enqueued entryId then some ack.commandId else none

/-! ## Transitions -/

/-- an incoming binding replaces the one with its identifier, or is appended -/
def mergeBinding (bindings : List ProjectBinding) (incoming : ProjectBinding) : List ProjectBinding :=
  if bindings.any fun binding => binding.id = incoming.id then
    replaceFirst bindings
  else bindings ++ [incoming]
where
  /-- `iter_mut().find(..)`: only the first binding with the identifier is replaced -/
  replaceFirst : List ProjectBinding → List ProjectBinding
    | [] => []
    | binding :: rest => if binding.id = incoming.id then incoming :: rest else binding :: replaceFirst rest

/-- `ProjectUpserted`: bindings accumulate and the last activity never goes back -/
def mergeProject (existing : Option Project) (project : Project) : Project :=
  match existing with
  | none => project
  | some existing =>
    { project with
      bindings := project.bindings.foldl mergeBinding existing.bindings
      lastActivityAtMs := max project.lastActivityAtMs existing.lastActivityAtMs }

/-- the runtime must have accepted a command before it may claim live control -/
def checkLiveControl (s : CanonicalState) (capabilities : RuntimeCapabilities) (runtimeId : ProviderRuntimeId) :
    Except StateError Unit :=
  ensure (¬ (capabilities.permits .liveControl ∧ ¬ s.hasRuntimeAcceptanceFor runtimeId))
    .liveControlCapabilityWithoutRuntimeAcceptance

/-- `SessionUpserted`: a live binding needs the runtime's capabilities, a controlling one a runtime acceptance -/
def checkLiveBinding (s : CanonicalState) (session : Session) : Except StateError Unit := do
  if session.liveBinding.isLive then do
    let candidateRuntime ← s.liveRuntimeOf session
    contract (session.liveBinding.validateAgainst candidateRuntime.capabilities)
  if session.liveBinding.acceptsControl then do
    let candidateRuntime ← s.liveRuntimeOf session
    ensure (s.acks.any fun ack => (s.acceptedRuntimeSession ack candidateRuntime.id).any fun accepted =>
      accepted.id = session.id) .controllingBindingWithoutRuntimeAcceptance

/-- `SessionUpserted`: the creation instant is kept -/
def mergeSession (existing : Option Session) (session : Session) : Session :=
  match existing with
  | none => session
  | some existing => { session with createdAtMs := existing.createdAtMs }

/-- the accumulated item list, extended by the identifiers it does not hold yet -/
def extendItemIds (itemIds incoming : List ItemId) : List ItemId :=
  incoming.foldl (fun acc itemId => if itemId ∈ acc then acc else acc ++ [itemId]) itemIds

/-- `TurnUpserted` over an existing turn: session, origin and binding are immutable, the item list only grows -/
def mergeTurn (existing : Option Turn) (turn : Turn) : Except StateError Turn :=
  match existing with
  | none => .ok turn
  | some existing => do
    ensure (existing.sessionId = turn.sessionId) .turnSessionChanged
    ensure (existing.origin = turn.origin) .turnOriginChanged
    ensure (¬ (existing.bindingHandle.isSome ∧ turn.bindingHandle.isSome ∧
      existing.bindingHandle ≠ turn.bindingHandle)) .turnBindingChanged
    return { turn with
      itemIds := extendItemIds existing.itemIds turn.itemIds
      startedAtMs := turn.startedAtMs <|> existing.startedAtMs
      bindingHandle := turn.bindingHandle <|> existing.bindingHandle }

/-- a remote command is bound to one turn only -/
def checkRemoteCommand (s : CanonicalState) (turn : Turn) : Except StateError Unit :=
  match turn.origin with
  | .remoteCommand commandId =>
    ensure (¬ s.turns.vals.any fun existing => existing.id ≠ turn.id && existing.origin = .remoteCommand commandId)
      .remoteCommandTurnConflict
  | _ => .ok ()

/-- `QueueReordered`: the entries of the session take the positions of the order -/
def reorderQueue (sessionId : SessionId) (queue : OrdMap QueueEntryId QueueEntry) (order : List QueueEntryId) :
    OrdMap QueueEntryId QueueEntry :=
  (order.zipIdx).foldl (fun queue (entryId, position) =>
    queue.adjust entryId fun entry => if entry.sessionId = sessionId then { entry with position := position } else entry)
    queue

/-- `CommandAcknowledged` with a runtime acceptance: it follows a local acceptance, is the first of its command, names a
known session on the binding's runtime, and a prompt's acceptance has its turn in that session -/
def checkRuntimeAcknowledgement (s : CanonicalState) (ack : CommandAck) : Except StateError Unit :=
  match ack.outcome with
  | .acceptedByRuntime sessionId acceptanceKind bindingHandle => do
    ensure (s.acks.any fun existing => existing.commandId = ack.commandId && match existing.outcome with
      | .acceptedLocally _ => true
      | _ => false) .uncorrelatedRuntimeAcknowledgement
    ensure (¬ s.acks.any fun existing => existing.commandId = ack.commandId && match existing.outcome with
      | .acceptedByRuntime .. => true
      | _ => false) .duplicateRuntimeAcknowledgement
    match s.sessions[sessionId]? with
    | none => .error (.unknownSession sessionId)
    | some session => do
      ensure ((s.runtimeOf session).any fun runtime => runtime.id = bindingHandle.runtimeId)
        .runtimeAcknowledgementRuntimeMismatch
      if acceptanceKind = .promptTurn then do
        let turn ← s.remoteCommandTurn ack.commandId
        ensure (turn.sessionId = sessionId) .runtimeAcknowledgementRuntimeMismatch
  | _ => .ok ()

/-- the `Debug` text of a diagnostic code -/
def diagnosticCodeName : DiagnosticCode → String
  | .unknownUpstreamMessage => "UnknownUpstreamMessage"
  | .unknownUpstreamLabel => "UnknownUpstreamLabel"
  | .pointerResolutionFailed => "PointerResolutionFailed"
  | .joinDeferred => "JoinDeferred"
  | .joinFailed => "JoinFailed"
  | .backpressureCoalesced => "BackpressureCoalesced"
  | .malformedProviderMessage => "MalformedProviderMessage"

/-- `diagnostic_key`: diagnostics aggregate per code and scope -/
def diagnosticKey (d : DiagnosticRecord) : String :=
  diagnosticCodeName d.code ++ "|" ++ (d.runtimeId.map (·.value)).getD "-" ++ "|" ++ (d.sessionId.map (·.value)).getD "-"

/-- the effect's own change, before the derived fields are recomputed -/
def transition (s : CanonicalState) : StateEffect → Except StateError CanonicalState
  | .hostUpserted host => return { s with hosts := s.hosts.insert host.id host }
  | .runtimeUpserted runtime => do
    ensure (¬ s.runtimes[runtime.id]?.any fun existing => existing.hostId ≠ runtime.hostId) .runtimeHostChanged
    checkLiveControl s runtime.capabilities runtime.id
    return { s with runtimes := s.runtimes.insert runtime.id runtime }
  | .capabilitiesUpdated capabilities => do
    checkLiveControl s capabilities capabilities.runtimeId
    match s.runtimes[capabilities.runtimeId]? with
    | none => .error (.unknownRuntime capabilities.runtimeId)
    | some runtime =>
      return { s with runtimes := s.runtimes.insert capabilities.runtimeId { runtime with capabilities := capabilities } }
  | .projectUpserted project =>
    return { s with projects := s.projects.insert project.id (mergeProject s.projects[project.id]? project) }
  | .sessionUpserted session => do
    checkLiveBinding s session
    return { s with sessions := s.sessions.insert session.id (mergeSession s.sessions[session.id]? session) }
  | .sessionStatusChanged sessionId status => do
    ensure (s.sessions.contains sessionId) (.unknownSession sessionId)
    return { s with reportedStatus := s.reportedStatus.insert sessionId status }
  | .turnUpserted turn => do
    checkRemoteCommand s turn
    let merged ← mergeTurn s.turns[turn.id]? turn
    contract merged.validate
    return { s with
      turnOrder := if turn.id ∈ s.turnOrder then s.turnOrder else s.turnOrder ++ [turn.id]
      turns := s.turns.insert turn.id merged }
  | .itemUpserted item =>
    match s.turns[item.turnId]? with
    | none => .error (.unknownTurn item.turnId)
    | some turn => do
      let extended := { turn with itemIds := if item.id ∈ turn.itemIds then turn.itemIds else turn.itemIds ++ [item.id] }
      contract extended.validate
      return { s with turns := s.turns.insert item.turnId extended, items := s.items.insert item.id item }
  | .queueEntryUpserted entry => return { s with queue := s.queue.insert entry.id entry }
  | .queueReordered sessionId order => return { s with queue := reorderQueue sessionId s.queue order }
  | .attentionUpserted item => return { s with
      attentionOrder := if item.id ∈ s.attentionOrder then s.attentionOrder else s.attentionOrder ++ [item.id]
      attention := s.attention.insert item.id item }
  | .commandAcknowledged ack => do
    checkRuntimeAcknowledgement s ack
    return { s with acks := s.acks ++ [ack] }
  | .diagnosticRecorded diagnostic =>
    return { s with diagnostics := s.diagnostics.insert (diagnosticKey diagnostic) diagnostic }
  | .workflowUpserted workflow => return { s with workflows := s.workflows.insert workflow.id workflow }
  | .stepUpserted step => return { s with steps := s.steps.insert step.id step }
  | .artifactUpserted artifact => return { s with artifacts := s.artifacts.insert artifact.id artifact }

/-! ## Derived fields -/

/-- the last of the session's turns, in observation order, that is not terminal -/
def activeTurnOf (s : CanonicalState) (sessionId : SessionId) : Option TurnId :=
  (((s.turnsOf sessionId).filter fun turn => !turn.status.isTerminal).map (·.id)).getLast?

/-- the session's open attention entries -/
def openAttentionOf (s : CanonicalState) (sessionId : SessionId) : List AttentionItem :=
  s.attention.vals.filter fun entry => entry.sessionId = some sessionId && entry.state.isOpen

/-- the number of the session's pending queue entries -/
def pendingQueueOf (s : CanonicalState) (sessionId : SessionId) : Nat :=
  u32OfCount (s.queue.vals.filter fun entry => entry.sessionId = sessionId && entry.state.isPending).length

/-- `last_activity_of` -/
def lastActivityOf (s : CanonicalState) (sessionId : SessionId) : Int :=
  let items := (s.items.vals.filter fun item => item.sessionId = sessionId).map (·.updatedAtMs)
  let turns := (s.turns.vals.filter fun turn => turn.sessionId = sessionId).flatMap fun turn =>
    [turn.completedAtMs.getD i64Min, turn.startedAtMs.getD i64Min]
  let queue := (s.queue.vals.filter fun entry => entry.sessionId = sessionId).map (·.updatedAtMs)
  let attention := (s.attention.vals.filter fun entry => entry.sessionId = some sessionId).map (·.createdAtMs)
  (items ++ turns ++ queue ++ attention).foldl max i64Min

/-- what the session's status is derived from; a runtime that reports itself running counts as an active turn -/
def statusInputsOf (s : CanonicalState) (sessionId : SessionId) (session : Session) : StatusInputs where
  runtimeUsable := (s.runtimeOf session).any fun runtime => runtime.connection.isUsable
  hasActiveTurn := (s.activeTurnOf sessionId).isSome || s.reportedStatus[sessionId]? = some .running
  openApproval := (s.openAttentionOf sessionId).any fun entry => match entry.subject with
    | .approval _ => true
    | _ => false
  openQuestion := (s.openAttentionOf sessionId).any fun entry => match entry.subject with
    | .question _ => true
    | _ => false
  pendingQueueEntries := s.pendingQueueOf sessionId
  terminal := s.reportedStatus[sessionId]?.filter fun status =>
    status = .failed || status = .completed || status = .cancelled

/-- the derived fields of one session -/
def recomputeSession (s : CanonicalState) (sessionId : SessionId) (session : Session) : Session :=
  let lastActivityAtMs := s.lastActivityOf sessionId
  { session with
    activeTurnId := s.activeTurnOf sessionId
    queueDepth := s.pendingQueueOf sessionId
    openAttentionCount := u32OfCount (s.openAttentionOf sessionId).length
    status := deriveSessionStatus (s.statusInputsOf sessionId session)
    lastActivityAtMs :=
      if lastActivityAtMs > session.lastActivityAtMs then lastActivityAtMs else session.lastActivityAtMs
    updatedAtMs := if lastActivityAtMs > session.lastActivityAtMs then lastActivityAtMs else session.updatedAtMs }

/-- the session counts of a project -/
def sessionCountsOf (sessions : List Session) : SessionCounts where
  total := u32OfCount sessions.length
  running := u32OfCount (sessions.filter fun session => session.status = .running).length
  waitingHuman := u32OfCount (sessions.filter fun session => session.status.waitsForHuman).length
  failed := u32OfCount (sessions.filter fun session => session.status = .failed).length
  archived := u32OfCount (sessions.filter fun session => session.archived).length

/-- the counts of one project, from sessions already recomputed -/
def recomputeProject (s : CanonicalState) (projectId : ProjectId) (project : Project) : Project :=
  let sessions := s.sessions.vals.filter fun session => session.projectId = projectId
  { project with
    sessionCounts := sessionCountsOf sessions
    attentionCount :=
      u32OfCount (s.attention.vals.filter fun entry => entry.projectId = projectId && entry.state.isOpen).length
    workflowCount := u32OfCount (s.workflows.vals.filter fun workflow => workflow.projectId = projectId).length
    lastActivityAtMs :=
      let lastActivityAtMs := (sessions.map (·.lastActivityAtMs)).foldl max i64Min
      if lastActivityAtMs > project.lastActivityAtMs then lastActivityAtMs else project.lastActivityAtMs }

/-- `recompute_derived`: every session, then every project -/
def recomputeDerived (s : CanonicalState) : CanonicalState :=
  let s := { s with sessions := s.sessions.map (recomputeSession s) }
  { s with projects := s.projects.map (recomputeProject s) }

/-- `CanonicalState::apply` -/
def apply (s : CanonicalState) (effect : StateEffect) : Except StateError CanonicalState :=
  (s.transition effect).map recomputeDerived

end CanonicalState

end Kaleido.State
