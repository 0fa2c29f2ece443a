/-
The records and enumerations of the UACP contract (`kaleido-proto`), version 0.5: identifiers, content references,
errors, hosts, runtimes, projects, sessions, turns, items, queue entries, attention items, workflows and commands.

Conventions of the translation:
- every identifier is an `Ident` of its own kind, one type per kind as in `ids.rs`, ordered by its text (the order the
  `BTreeMap`s of the canonical state iterate in);
- `i64` instants are `Int`; `u32` / `u64` counts are `Nat`, with the bound written out where the code depends on it;
- `Vec` is `List`, an enumeration is an inductive type whose constructors keep the source's variants.
-/
import Mathlib.Tactic

namespace Kaleido.Proto

/-! ## Identifiers -/

/-- the identifier types of `ids.rs` -/
inductive IdKind where
  | host | device | providerRuntime | project | session | turn | item | queueEntry | attention | workflow | step
  | artifact | command | content | blocker | projectBinding | providerBinding | agentTask
  deriving DecidableEq

/-- an opaque identifier of one kind -/
@[ext] structure Ident (k : IdKind) where
  value : String
  deriving DecidableEq

namespace Ident

variable {k : IdKind}

instance : LawfulBEq (Ident k) := inferInstance

/-- `is_empty` -/
def isEmpty (i : Ident k) : Prop := i.value = ""

instance (i : Ident k) : Decidable i.isEmpty := inferInstanceAs (Decidable (i.value = ""))

instance : Ord (Ident k) := ⟨fun a b => compare a.value b.value⟩

instance : Std.TransOrd (Ident k) where
  eq_swap {a b} := show compare a.value b.value = (compare b.value a.value).swap from Std.OrientedCmp.eq_swap
  isLE_trans {a b c} h₁ h₂ :=
    show (compare a.value c.value).isLE from
      Std.TransCmp.isLE_trans (show (compare a.value b.value).isLE from h₁) h₂

instance : Std.LawfulEqOrd (Ident k) where
  eq_of_compare {a b} h :=
    congrArg Ident.mk (Std.LawfulEqCmp.eq_of_compare (show compare a.value b.value = .eq from h))

end Ident

abbrev HostId := Ident .host
abbrev DeviceId := Ident .device
abbrev ProviderRuntimeId := Ident .providerRuntime
abbrev ProjectId := Ident .project
abbrev SessionId := Ident .session
abbrev TurnId := Ident .turn
abbrev ItemId := Ident .item
abbrev QueueEntryId := Ident .queueEntry
abbrev AttentionId := Ident .attention
abbrev WorkflowId := Ident .workflow
abbrev StepId := Ident .step
abbrev ArtifactId := Ident .artifact
abbrev CommandId := Ident .command
abbrev ContentId := Ident .content
abbrev BlockerId := Ident .blocker
abbrev ProjectBindingId := Ident .projectBinding
abbrev ProviderBindingId := Ident .providerBinding
abbrev AgentTaskId := Ident .agentTask

inductive ProviderBindingKind where
  | session | turn | item | interactionRequest | runtimeAcknowledgement
  deriving DecidableEq

/-- broker-assigned opaque handle for provider-private binding data -/
structure ProviderBindingHandle where
  id : ProviderBindingId
  runtimeId : ProviderRuntimeId
  kind : ProviderBindingKind
  deriving DecidableEq

/-! ## Content references -/

inductive ContentKind where
  | plainText | markdown | toolArguments | toolOutput | unifiedDiff | filePath | structuredSummary
  deriving DecidableEq

inductive Sensitivity where
  | business | sensitive
  deriving DecidableEq

inductive ContentAvailability where
  | inline | stored | evicted | neverStored
  deriving DecidableEq

/-- a reference to a payload body, never the body itself -/
structure ContentRef where
  contentId : ContentId
  kind : ContentKind
  byteLen : Nat
  digest : String
  preview : Option String
  sensitivity : Sensitivity
  availability : ContentAvailability
  deriving DecidableEq

/-! ## Errors -/

inductive ErrorCode where
  | notFound | invalidCommand | commandExpired | idempotencyConflict | capabilityUnsupported | capabilityUnavailable
  | upstreamBlocked (blockerId : BlockerId)
  | approvalExpired | approvalAlreadyAnswered | joinFailed | runtimeUnavailable | runtimeProtocolViolation
  | upstreamRejected | upstreamTimeout | authRequired | cursorGap | contentEvicted | backpressureDropped | internal
  deriving DecidableEq

structure CanonicalError where
  code : ErrorCode
  retriable : Bool
  detailRef : Option ContentRef
  atMs : Int
  deriving DecidableEq

/-! ## Capabilities -/

inductive Capability where
  | historyList | historyRead | historyResume | liveObserve | liveControl | liveMultiSubscriber | turnPrompt | turnSteer
  | turnInterrupt | turnRetry | interactionApproval | interactionQuestion | statePlan | stateTasks | stateDiff
  | stateToolLifecycle | queueRead | queueWrite | queueReorder | workflowParticipate
  deriving DecidableEq

inductive CapabilityUnavailableReason where
  | runtimeDisconnected | authenticationRequired | subscriptionLost | policyRestricted | temporarilyUnavailable
  deriving DecidableEq

inductive CapabilityState where
  | supported
  | unsupported
  | unavailableOnThisConnection (reason : CapabilityUnavailableReason)
  | notVerified
  | upstreamBlocked (blockerId : BlockerId)
  deriving DecidableEq

inductive EvidenceSource where
  | handshakeDeclared | observedInTraffic | recordedFixture | manualAcceptance | absent
  deriving DecidableEq

structure CapabilityEvidence where
  source : EvidenceSource
  observedAtMs : Int
  noteRef : Option ContentRef
  deriving DecidableEq

structure CapabilityEntry where
  capability : Capability
  state : CapabilityState
  evidence : CapabilityEvidence
  deriving DecidableEq

structure RuntimeCapabilities where
  runtimeId : ProviderRuntimeId
  negotiatedAtMs : Int
  entries : List CapabilityEntry
  deriving DecidableEq

/-! ## Hosts, runtimes, projects -/

inductive HostPlatform where
  | windows | macOs | linux
  deriving DecidableEq

inductive HostReachability where
  | offline | lanDirect | peerToPeer | relayed
  deriving DecidableEq

structure Host where
  id : HostId
  displayName : String
  platform : HostPlatform
  reachability : HostReachability
  protocolVersion : String
  lastSeenAtMs : Int
  deriving DecidableEq

inductive ProviderFamily where
  | codex | claudeCode | openCode | acp
  deriving DecidableEq

inductive LaunchSurface where
  | brokerLaunched | sharedServer | externalNativeCli | externalNativeGui
  deriving DecidableEq

inductive ConnectionFaultReason where
  | processExited (exitCode : Option Int)
  | handshakeRejected | authRequired | timeout | transportError | protocolViolation
  deriving DecidableEq

inductive ConnectionState where
  | disconnected
  | connecting
  | connected (sinceAtMs : Int)
  | degraded (reason : ConnectionFaultReason) (sinceAtMs : Int)
  | unavailable (reason : ConnectionFaultReason) (sinceAtMs : Int)
  deriving DecidableEq

structure ProviderRuntime where
  id : ProviderRuntimeId
  hostId : HostId
  family : ProviderFamily
  versionLabel : Option String
  launchSurface : LaunchSurface
  connection : ConnectionState
  capabilities : RuntimeCapabilities
  bindingHandle : Option ProviderBindingHandle
  deriving DecidableEq

structure SessionCounts where
  total : Nat
  running : Nat
  waitingHuman : Nat
  failed : Nat
  archived : Nat
  deriving DecidableEq

structure ProjectBinding where
  id : ProjectBindingId
  projectId : ProjectId
  runtimeId : ProviderRuntimeId
  rootRef : ContentRef
  deriving DecidableEq

structure Project where
  id : ProjectId
  displayName : String
  bindings : List ProjectBinding
  sessionCounts : SessionCounts
  workflowCount : Nat
  attentionCount : Nat
  lastActivityAtMs : Int
  deriving DecidableEq

/-! ## Sessions -/

inductive OwnershipMode where
  | brokerManaged | providerManaged | sharedRuntime | externalNative
  deriving DecidableEq

inductive SessionStatus where
  | offline | idle | running | waitingUser | waitingApproval | queued | failed | completed | cancelled
  deriving DecidableEq

inductive HistorySourceKind where
  | none | providerApi | providerLocalStore | brokerLog
  deriving DecidableEq

structure HistorySource where
  kind : HistorySourceKind
  runtimeId : Option ProviderRuntimeId
  evidence : CapabilityEvidence
  deriving DecidableEq

inductive LiveUnboundReason where
  | neverStarted | runtimeExited | subscriptionLost | noPublicAttachPath
  deriving DecidableEq

inductive LiveBinding where
  | notBound (reason : LiveUnboundReason)
  | observing (runtimeId : ProviderRuntimeId) (sinceAtMs : Int) (evidence : CapabilityEvidence)
  | controlling (runtimeId : ProviderRuntimeId) (sinceAtMs : Int) (evidence : CapabilityEvidence)
  | blocked (blockerId : BlockerId)
  deriving DecidableEq

structure Session where
  id : SessionId
  projectId : ProjectId
  projectBindingId : ProjectBindingId
  ownership : OwnershipMode
  historySource : HistorySource
  liveBinding : LiveBinding
  status : SessionStatus
  title : Option String
  createdAtMs : Int
  updatedAtMs : Int
  lastActivityAtMs : Int
  activeTurnId : Option TurnId
  queueDepth : Nat
  openAttentionCount : Nat
  archived : Bool
  bindingHandle : Option ProviderBindingHandle
  deriving DecidableEq

/-! ## Turns and items -/

inductive TurnStatus where
  | pending | running | awaitingInteraction | completed | failed | cancelled
  deriving DecidableEq

inductive TurnOrigin where
  | localSurface
  | remoteCommand (commandId : CommandId)
  | workflowStep (stepId : StepId)
  deriving DecidableEq

structure Turn where
  id : TurnId
  sessionId : SessionId
  status : TurnStatus
  origin : TurnOrigin
  startedAtMs : Option Int
  completedAtMs : Option Int
  itemIds : List ItemId
  error : Option CanonicalError
  bindingHandle : Option ProviderBindingHandle
  deriving DecidableEq

inductive ItemStatus where
  | pending | inProgress | completed | declined | failed | cancelled
  deriving DecidableEq

inductive MessagePhase where
  | commentary | finalAnswer
  deriving DecidableEq

inductive ToolSurface where
  | shellCommand | fileSystem
  | mcpServer (serverName : String)
  | builtin
  deriving DecidableEq

structure ToolDescriptor where
  name : String
  surface : ToolSurface
  deriving DecidableEq

inductive FileChangeKind where
  | add | modify | delete
  | rename (fromRef : ContentRef)
  deriving DecidableEq

structure FileChange where
  pathRef : ContentRef
  kind : FileChangeKind
  diff : Option ContentRef
  deriving DecidableEq

structure ChangeSet where
  entries : List FileChange
  truncated : Bool
  deriving DecidableEq

inductive PlanEntryState where
  | pending | inProgress | completed | skipped
  deriving DecidableEq

structure PlanEntry where
  titleRef : ContentRef
  state : PlanEntryState
  deriving DecidableEq

structure AgentTask where
  id : AgentTaskId
  titleRef : ContentRef
  state : PlanEntryState
  deriving DecidableEq

inductive DiagnosticSeverity where
  | info | warning | error
  deriving DecidableEq

inductive ItemDiagnosticCode where
  | runtimeNotice | unsupportedContent | contentUnavailable | validationFailure
  deriving DecidableEq

inductive ItemBody where
  | userMessage (content : ContentRef)
  | agentMessage (content : ContentRef) (phase : MessagePhase)
  | reasoning (content : ContentRef)
  | toolCall (tool : ToolDescriptor) (arguments output : Option ContentRef) (exitCode : Option Int)
  | fileEdit (changeSet : ChangeSet)
  | planUpdate (entries : List PlanEntry)
  | taskUpdate (tasks : List AgentTask)
  | diagnostic (severity : DiagnosticSeverity) (code : ItemDiagnosticCode) (detail : ContentRef)
  deriving DecidableEq

structure Item where
  id : ItemId
  sessionId : SessionId
  turnId : TurnId
  sequence : Nat
  status : ItemStatus
  body : ItemBody
  createdAtMs : Int
  updatedAtMs : Int
  bindingHandle : Option ProviderBindingHandle
  deriving DecidableEq

/-! ## Queue entries -/

inductive QueueIntent where
  | newTurn | steerActiveTurn
  deriving DecidableEq

structure SteerAcknowledgement where
  source : EvidenceSource
  runtimeId : ProviderRuntimeId
  sessionId : SessionId
  turnId : TurnId
  bindingHandle : ProviderBindingHandle
  observedAtMs : Int
  deriving DecidableEq

inductive QueueState where
  | pending
  | submitting (commandId : CommandId)
  | deliveredAsNewTurn (turnId : TurnId) (deliveredAtMs : Int)
  | deliveredAsSteer (runtimeId : ProviderRuntimeId) (turnId : TurnId) (bindingHandle : ProviderBindingHandle)
      (injectedAtMs : Int) (ack : SteerAcknowledgement)
  | rejected (error : CanonicalError)
  | cancelled (atMs : Int)
  deriving DecidableEq

structure QueueEntry where
  id : QueueEntryId
  sessionId : SessionId
  position : Nat
  intent : QueueIntent
  body : ContentRef
  state : QueueState
  editable : Bool
  createdAtMs : Int
  updatedAtMs : Int
  deriving DecidableEq

/-! ## Attention -/

inductive DecisionSemantics where
  | allow | allowAlways | deny | denyAlways | cancel | choose
  deriving DecidableEq

structure DecisionOption where
  optionId : String
  label : String
  semantics : DecisionSemantics
  deriving DecidableEq

inductive JoinFailureReason where
  | itemNotYetSeen | itemUnknown | ambiguousTarget | scopeMismatch
  deriving DecidableEq

inductive JoinState where
  | joined (itemId : ItemId)
  | unjoined (reason : JoinFailureReason)
  deriving DecidableEq

structure ApprovalRequest where
  requestKey : String
  targetItemId : ItemId
  join : JoinState
  options : List DecisionOption
  summaryRef : ContentRef
  detailRef : Option ContentRef
  bindingHandle : ProviderBindingHandle
  deriving DecidableEq

structure QuestionPrompt where
  questionKey : String
  promptRef : ContentRef
  options : List DecisionOption
  multiSelect : Bool
  freeFormAllowed : Bool
  deriving DecidableEq

structure QuestionRequest where
  requestKey : String
  questions : List QuestionPrompt
  bindingHandle : ProviderBindingHandle
  deriving DecidableEq

structure QuestionAnswer where
  questionKey : String
  optionIds : List String
  freeFormRef : Option ContentRef
  deriving DecidableEq

structure WorkflowGateRequest where
  requestKey : String
  stepId : StepId
  promptRef : ContentRef
  options : List DecisionOption
  freeFormAllowed : Bool
  deriving DecidableEq

inductive AttentionSubject where
  | approval (request : ApprovalRequest)
  | question (request : QuestionRequest)
  | workflowGate (request : WorkflowGateRequest)
  | connectionFault (runtimeId : ProviderRuntimeId) (reason : ConnectionFaultReason)
  deriving DecidableEq

inductive AttentionAnswerEvidenceSource where
  | observedInTraffic | recordedFixture
  deriving DecidableEq

structure AttentionAnswerEvidence where
  observerHostId : HostId
  observedAtMs : Int
  source : AttentionAnswerEvidenceSource
  deriving DecidableEq

inductive AttentionAnswerSource where
  | localCommand (commandId : CommandId)
  | observedExternal (evidence : AttentionAnswerEvidence)
  deriving DecidableEq

inductive AttentionState where
  | open_
  | answered (optionId : Option String) (freeFormRef : Option ContentRef) (questionAnswers : List QuestionAnswer)
      (decidedAtMs : Int) (answerSource : AttentionAnswerSource)
  | expired (atMs : Int)
  | superseded (successor : AttentionId)
  | cancelled (atMs : Int)
  deriving DecidableEq

structure AttentionItem where
  id : AttentionId
  hostId : HostId
  projectId : ProjectId
  sessionId : Option SessionId
  turnId : Option TurnId
  workflowId : Option WorkflowId
  subject : AttentionSubject
  state : AttentionState
  createdAtMs : Int
  expiresAtMs : Option Int
  deriving DecidableEq

structure AttentionResponse where
  attentionId : AttentionId
  sessionId : Option SessionId
  requestKey : String
  expectedExpiresAtMs : Option Int
  optionId : Option String
  freeFormRef : Option ContentRef
  questionAnswers : List QuestionAnswer
  deriving DecidableEq

/-! ## Commands -/

inductive Actor where
  | human (deviceId : DeviceId)
  | workflow (workflowId : WorkflowId)
  | broker
  deriving DecidableEq

structure RuntimeSelector where
  family : ProviderFamily
  required : List Capability
  runtimeId : Option ProviderRuntimeId
  deriving DecidableEq

structure StepAssignment where
  selector : RuntimeSelector
  projectBindingId : ProjectBindingId
  worktreeRef : ContentRef
  deriving DecidableEq

inductive Command where
  | submitPrompt (sessionId : SessionId) (body : ContentRef)
  | enqueueInput (sessionId : SessionId) (body : ContentRef) (intent : QueueIntent)
  | editQueueEntry (entryId : QueueEntryId) (body : ContentRef)
  | reorderQueue (sessionId : SessionId) (order : List QueueEntryId)
  | cancelQueueEntry (entryId : QueueEntryId)
  | interruptTurn (sessionId : SessionId) (turnId : TurnId)
  | retryTurn (sessionId : SessionId) (turnId : TurnId)
  | respondAttention (response : AttentionResponse)
  | openSession (projectId : ProjectId) (runtimeId : ProviderRuntimeId)
  | resumeSession (sessionId : SessionId)
  | closeSession (sessionId : SessionId)
  | advanceStep (stepId : StepId)
  | retryStep (stepId : StepId)
  | reworkStep (stepId : StepId) (reasonRef : Option ContentRef)
  | skipStep (stepId : StepId) (reasonRef : Option ContentRef)
  | cancelStep (stepId : StepId)
  | reassignStep (stepId : StepId) (assignment : StepAssignment)
  | cancelWorkflow (workflowId : WorkflowId)
  deriving DecidableEq

structure CommandEnvelope where
  commandId : CommandId
  idempotencyKey : String
  actor : Actor
  issuedAtMs : Int
  expiresAtMs : Option Int
  body : Command
  deriving DecidableEq

inductive RuntimeAcceptanceKind where
  | promptTurn | sessionControl
  deriving DecidableEq

inductive CommandOutcome where
  | acceptedLocally (noteRef : Option ContentRef)
  | acceptedByRuntime (sessionId : SessionId) (acceptanceKind : RuntimeAcceptanceKind)
      (bindingHandle : ProviderBindingHandle)
  | enqueued (entryId : QueueEntryId)
  | rejected (error : CanonicalError)
  | duplicate (originalCommandId : CommandId)
  deriving DecidableEq

structure CommandAck where
  commandId : CommandId
  outcome : CommandOutcome
  ackedAtMs : Int
  deriving DecidableEq

/-! ## Workflows -/

inductive WorkflowState where
  | draft | ready | running | blocked | waitingHuman | review | rework | completed | failed | cancelled
  deriving DecidableEq

structure Workflow where
  id : WorkflowId
  projectId : ProjectId
  title : String
  state : WorkflowState
  stepIds : List StepId
  createdAtMs : Int
  updatedAtMs : Int
  deriving DecidableEq

inductive StepRole where
  | plan | implement | review | verify | custom
  deriving DecidableEq

inductive StepState where
  | draft | ready | running | blocked | waitingHuman | review | rework | completed | failed | skipped | cancelled
  deriving DecidableEq

inductive ArtifactKind where
  | plan | diff | commit | reviewNotes | testReport
  deriving DecidableEq

inductive CompletionCondition where
  | agentTurnCompleted
  | artifactProduced (artifactKind : ArtifactKind)
  | humanApproved
  deriving DecidableEq

inductive WorkflowAction where
  | advance | retry | rework | skip | cancel | reassign
  deriving DecidableEq

structure StepTransition where
  source : StepState
  target : StepState
  action : WorkflowAction
  actor : Actor
  atMs : Int
  reasonRef : Option ContentRef
  deriving DecidableEq

structure Step where
  id : StepId
  workflowId : WorkflowId
  title : String
  role : StepRole
  assignment : StepAssignment
  dependsOn : List StepId
  inputs : List ArtifactId
  outputs : List ArtifactId
  completion : CompletionCondition
  humanGate : Option AttentionId
  sessionId : Option SessionId
  state : StepState
  attempt : Nat
  audit : List StepTransition
  deriving DecidableEq

structure Artifact where
  id : ArtifactId
  workflowId : WorkflowId
  producedBy : Option StepId
  kind : ArtifactKind
  content : ContentRef
  createdAtMs : Int
  deriving DecidableEq

inductive StepBlocker where
  | dependencyIncomplete (stepId : StepId)
  | capabilityNotSupported (capability : Capability)
  | humanGateOpen (attentionId : AttentionId)
  | notSchedulable (state : StepState)
  deriving DecidableEq

/-! ## Effects and the durable log -/

inductive DiagnosticCode where
  | unknownUpstreamMessage | unknownUpstreamLabel | pointerResolutionFailed | joinDeferred | joinFailed
  | backpressureCoalesced | malformedProviderMessage
  deriving DecidableEq

structure DiagnosticRecord where
  runtimeId : Option ProviderRuntimeId
  sessionId : Option SessionId
  code : DiagnosticCode
  count : Nat
  firstAtMs : Int
  lastAtMs : Int
  detailRef : Option ContentRef
  deriving DecidableEq

inductive StateEffect where
  | hostUpserted (host : Host)
  | runtimeUpserted (runtime : ProviderRuntime)
  | capabilitiesUpdated (capabilities : RuntimeCapabilities)
  | projectUpserted (project : Project)
  | sessionUpserted (session : Session)
  | sessionStatusChanged (sessionId : SessionId) (status : SessionStatus)
  | turnUpserted (turn : Turn)
  | itemUpserted (item : Item)
  | queueEntryUpserted (entry : QueueEntry)
  | queueReordered (sessionId : SessionId) (order : List QueueEntryId)
  | attentionUpserted (item : AttentionItem)
  | workflowUpserted (workflow : Workflow)
  | stepUpserted (step : Step)
  | artifactUpserted (artifact : Artifact)
  | commandAcknowledged (ack : CommandAck)
  | diagnosticRecorded (diagnostic : DiagnosticRecord)
  deriving DecidableEq

inductive StreamKey where
  | host (hostId : HostId)
  | project (projectId : ProjectId)
  | session (sessionId : SessionId)
  | workflow (workflowId : WorkflowId)
  deriving DecidableEq

/-- a position in one stream or one projection; `seq` is a `u64` -/
structure Cursor where
  seq : Nat
  deriving DecidableEq

structure LogRecord where
  cursor : Cursor
  stream : StreamKey
  appendedAtMs : Int
  effect : StateEffect
  deriving DecidableEq

end Kaleido.Proto
