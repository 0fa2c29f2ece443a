/-
The validators of the contract (`kaleido-proto`): what a single record must satisfy before it may enter the durable log,
and the violation each check reports.

`StateEffect.validateForLog` is the entry point the store calls; every other validator here is reached from it, from a
projection's own validator, or from the admission of a command. Each one performs the source's checks in the source's
order, so a record that breaks several rules reports the same violation as the code.
-/
import Kaleido.Lib.Check
import Kaleido.Proto.Types

namespace Kaleido.Proto

open Check

/-! ## Violations -/

/-- `ContractViolation`, the variants the modelled validators report -/
inductive ContractViolation where
  | emptyIdentifier (field : String)
  | invalidProviderBindingId
  | providerBindingKindMismatch (expected actual : ProviderBindingKind)
  | malformedDigest (digest : String)
  | idempotencyKeyTooLong (byteLen : Nat)
  | invalidDeviceCommandTtl (ttlMs : Nat)
  | invalidContentReadSize (maxBytes : Nat)
  | contentReadChunkTooLarge (byteLen : Nat)
  | contentReadOffsetOverflow
  | contentReadEofHasNext
  | contentReadOffsetMismatch (expected : Nat) (found : Option Nat)
  | unsafePreview
  | sensitivePreview
  | previewTooLong (byteLen : Nat)
  | inlineTooLarge (byteLen : Nat)
  | sensitiveInline
  | sensitiveContentRequired (field : String)
  | turnErrorWithoutFailure (status : TurnStatus)
  | failedTurnWithoutError
  | terminalTurnWithoutTimestamp
  | duplicateItemReference
  | editableNonPendingQueueEntry
  | unprovenSteerDelivery (evidenceSource : EvidenceSource)
  | steerSessionMismatch
  | steerTurnMismatch
  | steerRuntimeMismatch
  | steerBindingMismatch
  | steerNotActiveTurn
  | steerCapabilityUnsupported
  | queueReorderDuplicate
  | queueReorderMissingPending
  | queueReorderCrossSession
  | queueReorderNonPending
  | queueReorderUnknownEntry
  | decisionOptionsMissing
  | duplicateDecisionOption (optionId : String)
  | questionSetEmpty
  | duplicateQuestionKey (questionKey : String)
  | questionAnswersRequired
  | questionAnswersUnexpected
  | questionTopLevelDecision
  | questionAnswerEmpty
  | questionAnswerDuplicateKey
  | questionAnswerDuplicateOption
  | questionAnswerUnknownKey
  | questionAnswerUnknownOption
  | questionAnswerTooManyOptions
  | questionAnswerMissing
  | freeFormNotAllowed
  | invalidFreeForm
  | unknownOption
  | attentionDecisionMissing
  | attentionSessionRequired
  | attentionWorkflowRequired
  | approvalJoinTargetMismatch
  | attentionAnswerObserverHostMismatch
  | liveBindingUnsupported (missing : String)
  | liveBindingRuntimeMismatch
  | liveBindingEvidenceNotObserved
  | duplicateCapability (capability : Capability)
  | duplicateProjectBinding (bindingId : ProjectBindingId)
  | projectBindingMismatch (bindingId : ProjectBindingId)
  | cursorGap (expected found : Nat)
  | cursorRepeated (cursor : Nat)
  | cursorOverflow
  | mixedStreams
  | mixedProjectionKeys
  | projectionKeyPayloadMismatch
  | invalidProjectionCursorWindow (floor head : Nat)
  | projectionSubscribeKeyMismatch
  | projectionResumeWithoutCursor
  | projectionResumeCursorMismatch (expected found : Nat)
  | projectionCurrentCursorNotAhead (since current : Nat)
  | danglingReference (field : String)
  | workflowTransitionNotAllowed
  deriving DecidableEq

/-- `EmptyIdentifier` unless the identifier has text -/
def nonEmpty {k : IdKind} (i : Ident k) (field : String) : Except ContractViolation Unit :=
  ensure (¬ i.isEmpty) (.emptyIdentifier field)

@[simp] theorem nonEmpty_eq_ok {k : IdKind} {i : Ident k} {field : String} :
    nonEmpty i field = .ok () ↔ ¬ i.isEmpty := ensure_eq_ok

/-! ## Text -/

/-- `str::strip_prefix`, on characters -/
def stripStart : List Char → List Char → Option (List Char)
  | [], text => some text
  | _ :: _, [] => none
  | p :: ps, c :: cs => if p = c then stripStart ps cs else none

/-- `str::contains` -/
def hasInfix (needle : List Char) : List Char → Bool
  | [] => needle.isEmpty
  | c :: cs => (stripStart needle (c :: cs)).isSome || hasInfix needle cs

/-- `char::is_control`: the Unicode category Cc -/
def isControl (c : Char) : Bool := c.toNat < 0x20 || (0x7f ≤ c.toNat && c.toNat < 0xa0)

/-! ## Binding handles -/

namespace ProviderBindingHandle

/-- the text after `bnd_` has at least eight characters, all ASCII letters, digits, `-` or `_` -/
def brokerShaped (id : ProviderBindingId) : Bool :=
  match stripStart "bnd_".toList id.value.toList with
  | none => false
  | some suffix => 8 ≤ suffix.length && suffix.all fun c => c.isAlphanum || c == '-' || c == '_'

def validate (h : ProviderBindingHandle) : Except ContractViolation Unit := do
  ensure (brokerShaped h.id) .invalidProviderBindingId
  nonEmpty h.runtimeId "binding_handle.runtime_id"

def validateFor (h : ProviderBindingHandle) (expected : ProviderBindingKind) : Except ContractViolation Unit := do
  h.validate
  ensure (h.kind = expected) (.providerBindingKindMismatch expected h.kind)

end ProviderBindingHandle

/-! ## Content references and errors -/

def maxInlineBytes : Nat := 4096
def maxPreviewBytes : Nat := 256

/-- `sha256:` followed by 64 lower-case hexadecimal digits -/
def digestShaped (digest : String) : Bool :=
  match stripStart "sha256:".toList digest.toList with
  | none => false
  | some hex => hex.length == 64 && hex.all fun c => c.isDigit || ('a' ≤ c && c ≤ 'f')

def validateDigest (digest : String) : Except ContractViolation Unit :=
  ensure (digestShaped digest) (.malformedDigest digest)

/-- a preview free of control characters, path separators and credential markers -/
def previewSafe (preview : String) : Bool :=
  let lowercase := preview.toList.map Char.toLower
  !(preview.toList.any fun c => isControl c || c == '/' || c == '\\') && !hasInfix "bearer".toList lowercase &&
    !hasInfix "sk-".toList lowercase && !hasInfix "ghp_".toList lowercase

namespace ContentRef

def validate (c : ContentRef) : Except ContractViolation Unit := do
  nonEmpty c.contentId "content_id"
  validateDigest c.digest
  ensure (¬ (c.sensitivity = .sensitive ∧ c.preview.isSome)) .sensitivePreview
  checkSome (fun preview => do
    ensure (preview.utf8ByteSize ≤ maxPreviewBytes) (.previewTooLong preview.utf8ByteSize)
    ensure (previewSafe preview) .unsafePreview) c.preview
  if c.availability = .inline then do
    ensure (c.byteLen ≤ maxInlineBytes) (.inlineTooLarge c.byteLen)
    ensure (c.sensitivity ≠ .sensitive) .sensitiveInline

/-- `ensure_sensitive`: the sensitivity is checked before the reference -/
def ensureSensitive (c : ContentRef) (field : String) : Except ContractViolation Unit := do
  ensure (c.sensitivity = .sensitive) (.sensitiveContentRequired field)
  c.validate

end ContentRef

/-- `validate_sensitive` of the queue, attention, command and workflow modules: the reference is checked first -/
def validateSensitive (c : ContentRef) (field : String) : Except ContractViolation Unit := do
  c.validate
  ensure (c.sensitivity = .sensitive) (.sensitiveContentRequired field)

def CanonicalError.validate (e : CanonicalError) : Except ContractViolation Unit :=
  checkSome (fun detailRef => validateSensitive detailRef "canonical_error.detail_ref") e.detailRef

/-! ## Capabilities -/

/-- `permits_use`: only `Supported` does -/
def CapabilityState.permitsUse (s : CapabilityState) : Bool := s = .supported

def CapabilityEvidence.validate (e : CapabilityEvidence) : Except ContractViolation Unit :=
  checkSome (fun noteRef => noteRef.ensureSensitive "capability_evidence.note_ref") e.noteRef

/-- the blocker check made on each capability entry -/
def CapabilityState.validate : CapabilityState → Except ContractViolation Unit
  | .upstreamBlocked blockerId => nonEmpty blockerId "capability.blocker_id"
  | _ => .ok ()

namespace RuntimeCapabilities

/-- `state_of`: the first entry for the capability, `NotVerified` when there is none -/
def stateOf (c : RuntimeCapabilities) (capability : Capability) : CapabilityState :=
  match c.entries.find? (fun entry => entry.capability = capability) with
  | some entry => entry.state
  | none => .notVerified

def permits (c : RuntimeCapabilities) (capability : Capability) : Bool := (c.stateOf capability).permitsUse

def validate (c : RuntimeCapabilities) : Except ContractViolation Unit := do
  nonEmpty c.runtimeId "runtime_capabilities.runtime_id"
  checkFresh (·.capability) (fun entry => .duplicateCapability entry.capability) (fun _ => .ok ())
    (fun entry => do
      entry.evidence.validate
      entry.state.validate) [] c.entries

end RuntimeCapabilities

/-! ## Hosts, runtimes, projects -/

/-- `is_usable` -/
def ConnectionState.isUsable : ConnectionState → Bool
  | .connected _ | .degraded _ _ => true
  | _ => false

def Host.validate (h : Host) : Except ContractViolation Unit := nonEmpty h.id "host.id"

def ProviderRuntime.validate (r : ProviderRuntime) : Except ContractViolation Unit := do
  nonEmpty r.id "provider_runtime.id"
  nonEmpty r.hostId "provider_runtime.host_id"
  r.capabilities.validate
  ensure (r.capabilities.runtimeId = r.id) (.danglingReference "provider_runtime.capabilities.runtime_id")
  checkSome (fun handle => do
    handle.validate
    ensure (handle.runtimeId = r.id) (.danglingReference "provider_runtime.binding_handle.runtime_id"))
    r.bindingHandle

def Project.validate (p : Project) : Except ContractViolation Unit := do
  nonEmpty p.id "project.id"
  checkFresh (·.id) (fun binding => .duplicateProjectBinding binding.id)
    (fun binding => do
      nonEmpty binding.id "project_binding.id"
      ensure (binding.projectId = p.id) (.projectBindingMismatch binding.id)
      nonEmpty binding.runtimeId "project_binding.runtime_id"
      binding.rootRef.ensureSensitive "project_binding.root_ref")
    (fun _ => .ok ()) [] p.bindings

/-! ## Sessions -/

/-- `validate_observed_evidence` -/
def validateObservedEvidence (runtimeId : ProviderRuntimeId) (evidence : CapabilityEvidence) :
    Except ContractViolation Unit := do
  nonEmpty runtimeId "live_binding.runtime_id"
  ensure (evidence.source = .observedInTraffic) .liveBindingEvidenceNotObserved
  evidence.validate

/-- `validate_live_evidence` -/
def validateLiveEvidence (runtimeId : ProviderRuntimeId) (evidence : CapabilityEvidence)
    (capabilities : RuntimeCapabilities) : Except ContractViolation Unit := do
  validateObservedEvidence runtimeId evidence
  ensure (runtimeId = capabilities.runtimeId) .liveBindingRuntimeMismatch

namespace LiveBinding

def isLive : LiveBinding → Bool
  | .observing .. | .controlling .. => true
  | _ => false

def acceptsControl : LiveBinding → Bool
  | .controlling .. => true
  | _ => false

def validateShape : LiveBinding → Except ContractViolation Unit
  | .notBound _ => .ok ()
  | .blocked blockerId => nonEmpty blockerId "live_binding.blocker_id"
  | .observing runtimeId _ evidence | .controlling runtimeId _ evidence =>
    validateObservedEvidence runtimeId evidence

def validateAgainst (capabilities : RuntimeCapabilities) : LiveBinding → Except ContractViolation Unit
  | .notBound _ | .blocked _ => .ok ()
  | .observing runtimeId _ evidence => do
    validateLiveEvidence runtimeId evidence capabilities
    ensure (capabilities.permits .liveObserve) (.liveBindingUnsupported "live_observe")
  | .controlling runtimeId _ evidence => do
    validateLiveEvidence runtimeId evidence capabilities
    ensure (capabilities.permits .liveObserve) (.liveBindingUnsupported "live_observe")
    ensure (capabilities.permits .liveControl) (.liveBindingUnsupported "live_control")

end LiveBinding

namespace Session

def validateShape (s : Session) : Except ContractViolation Unit := do
  nonEmpty s.id "session.id"
  nonEmpty s.projectId "session.project_id"
  nonEmpty s.projectBindingId "session.project_binding_id"
  s.historySource.evidence.validate
  checkSome (fun runtimeId => nonEmpty runtimeId "session.history_source.runtime_id") s.historySource.runtimeId
  checkSome (fun handle => handle.validateFor .session) s.bindingHandle
  s.liveBinding.validateShape

def validate (s : Session) (capabilities : RuntimeCapabilities) : Except ContractViolation Unit := do
  s.validateShape
  capabilities.validate
  s.liveBinding.validateAgainst capabilities

end Session

/-- `StatusInputs`: what a session's status is derived from -/
structure StatusInputs where
  runtimeUsable : Bool
  hasActiveTurn : Bool
  openApproval : Bool
  openQuestion : Bool
  pendingQueueEntries : Nat
  terminal : Option SessionStatus

def deriveSessionStatus (inputs : StatusInputs) : SessionStatus :=
  if !inputs.runtimeUsable then .offline
  else if inputs.openApproval then .waitingApproval
  else if inputs.openQuestion then .waitingUser
  else if inputs.hasActiveTurn then .running
  else if inputs.pendingQueueEntries > 0 then .queued
  else match inputs.terminal with
    | some .failed => .failed
    | some .completed => .completed
    | some .cancelled => .cancelled
    | _ => .idle

/-- `waits_for_human` -/
def SessionStatus.waitsForHuman : SessionStatus → Bool
  | .waitingUser | .waitingApproval => true
  | _ => false

/-! ## Turns and items -/

/-- `is_terminal` -/
def TurnStatus.isTerminal : TurnStatus → Bool
  | .completed | .failed | .cancelled => true
  | _ => false

/-- `is_terminal` -/
def ItemStatus.isTerminal : ItemStatus → Bool
  | .completed | .declined | .failed | .cancelled => true
  | _ => false

def Turn.validate (t : Turn) : Except ContractViolation Unit := do
  ensure (¬ (t.error.isSome ∧ t.status ≠ .failed)) (.turnErrorWithoutFailure t.status)
  ensure (¬ (t.status = .failed ∧ t.error.isNone)) .failedTurnWithoutError
  ensure (¬ (t.status.isTerminal ∧ t.completedAtMs.isNone)) .terminalTurnWithoutTimestamp
  -- the source sorts, deduplicates and compares lengths
  ensure t.itemIds.Nodup .duplicateItemReference
  checkSome (fun handle => handle.validateFor .turn) t.bindingHandle

def FileChange.validate (c : FileChange) : Except ContractViolation Unit := do
  c.pathRef.ensureSensitive "item.file_edit.path_ref"
  checkSome (fun diff => diff.ensureSensitive "item.file_edit.diff") c.diff
  match c.kind with
  | .rename fromRef => fromRef.ensureSensitive "item.file_edit.rename.from_ref"
  | _ => .ok ()

def ItemBody.validate : ItemBody → Except ContractViolation Unit
  | .userMessage content => content.ensureSensitive "item.user_message.content"
  | .agentMessage content _ => content.ensureSensitive "item.agent_message.content"
  | .reasoning content => content.ensureSensitive "item.reasoning.content"
  | .toolCall _ arguments output _ => do
    checkSome (fun c => c.ensureSensitive "item.tool_call.arguments") arguments
    checkSome (fun c => c.ensureSensitive "item.tool_call.output") output
  | .fileEdit changeSet => checkAll FileChange.validate changeSet.entries
  | .planUpdate entries => checkAll (fun entry => entry.titleRef.ensureSensitive "item.plan_update.title_ref") entries
  | .taskUpdate tasks => checkAll (fun task => do
      nonEmpty task.id "agent_task.id"
      task.titleRef.ensureSensitive "item.task_update.title_ref") tasks
  | .diagnostic _ _ detail => detail.ensureSensitive "item.diagnostic.detail"

def Item.validate (i : Item) : Except ContractViolation Unit := do
  nonEmpty i.id "item.id"
  nonEmpty i.sessionId "item.session_id"
  nonEmpty i.turnId "item.turn_id"
  checkSome (fun handle => handle.validateFor .item) i.bindingHandle
  i.body.validate

/-! ## Queue entries -/

def QueueState.isPending : QueueState → Bool
  | .pending => true
  | _ => false

def QueueState.isTerminal : QueueState → Bool
  | .deliveredAsNewTurn .. | .deliveredAsSteer .. | .rejected _ | .cancelled _ => true
  | _ => false

/-- the checks made on the entry's state: a delivered steer carries observed proof naming the same session, turn,
runtime and binding; a rejection carries a valid error -/
def QueueState.validate (sessionId : SessionId) : QueueState → Except ContractViolation Unit
  | .deliveredAsSteer runtimeId turnId bindingHandle _ ack => do
    ensure (ack.source = .observedInTraffic) (.unprovenSteerDelivery ack.source)
    ensure (ack.sessionId = sessionId) .steerSessionMismatch
    ensure (ack.turnId = turnId) .steerTurnMismatch
    ensure (ack.runtimeId = runtimeId) .steerRuntimeMismatch
    ensure (ack.bindingHandle = bindingHandle) .steerBindingMismatch
    bindingHandle.validateFor .runtimeAcknowledgement
    ensure (bindingHandle.runtimeId = runtimeId) .steerBindingMismatch
  | .rejected error => error.validate
  | _ => .ok ()

namespace QueueEntry

def validate (e : QueueEntry) : Except ContractViolation Unit := do
  validateSensitive e.body "queue_entry.body"
  ensure (¬ (e.editable ∧ ¬ e.state.isPending)) .editableNonPendingQueueEntry
  e.state.validate e.sessionId

def validateForActiveTurn (e : QueueEntry) (activeTurnId : TurnId) (capabilities : RuntimeCapabilities) :
    Except ContractViolation Unit := do
  e.validate
  match e.state with
  | .deliveredAsSteer runtimeId turnId _ _ _ => do
    ensure (turnId = activeTurnId) .steerNotActiveTurn
    ensure (capabilities.runtimeId = runtimeId) .steerRuntimeMismatch
    ensure (capabilities.permits .turnSteer) .steerCapabilityUnsupported
  | _ => .ok ()

/-- `may_submit` -/
def maySubmit (e : QueueEntry) (capabilities : RuntimeCapabilities) : Bool :=
  match e.intent with
  | .newTurn => capabilities.permits .turnPrompt
  | .steerActiveTurn => capabilities.permits .turnSteer

end QueueEntry

/-- `validate_queue_reorder`: the order lists exactly the session's pending entries, each once -/
def validateQueueReorder (sessionId : SessionId) (order : List QueueEntryId) (entries : List QueueEntry) :
    Except ContractViolation Unit := do
  checkFresh id (fun _ => .queueReorderDuplicate) (fun _ => .ok ())
    (fun entryId =>
      match entries.find? (fun candidate => candidate.id = entryId) with
      | none => .error .queueReorderUnknownEntry
      | some entry => do
        ensure (entry.sessionId = sessionId) .queueReorderCrossSession
        ensure entry.state.isPending .queueReorderNonPending) [] order
  ensure (¬ entries.any fun entry => entry.sessionId = sessionId && entry.state.isPending && entry.id ∉ order)
    .queueReorderMissingPending

/-! ## Attention -/

/-- `ReplyRejection`: why a reply to an attention item is refused -/
inductive ReplyRejection where
  | attentionMismatch | notOpen | notReplyable | sessionRequired | sessionMismatch | requestKeyMismatch | expiryMismatch
  | expired | unknownOption | freeFormNotAllowed | invalidFreeForm | decisionMissing | questionAnswersRequired
  | questionAnswersUnexpected | questionTopLevelDecision | questionAnswerEmpty | questionAnswerDuplicateKey
  | questionAnswerDuplicateOption | questionAnswerUnknownKey | questionAnswerUnknownOption
  | questionAnswerTooManyOptions | questionAnswerMissing
  deriving DecidableEq

namespace ReplyRejection

def fromContractViolation : ContractViolation → ReplyRejection
  | .questionAnswersRequired => .questionAnswersRequired
  | .questionAnswerEmpty => .questionAnswerEmpty
  | .questionAnswerDuplicateKey => .questionAnswerDuplicateKey
  | .questionAnswerDuplicateOption => .questionAnswerDuplicateOption
  | .questionAnswerUnknownKey => .questionAnswerUnknownKey
  | .questionAnswerUnknownOption => .questionAnswerUnknownOption
  | .questionAnswerTooManyOptions => .questionAnswerTooManyOptions
  | .questionAnswerMissing => .questionAnswerMissing
  | .freeFormNotAllowed => .freeFormNotAllowed
  | .invalidFreeForm => .invalidFreeForm
  | .questionTopLevelDecision => .questionTopLevelDecision
  | .questionAnswersUnexpected => .questionAnswersUnexpected
  | _ => .decisionMissing

def contractViolation : ReplyRejection → ContractViolation
  | .questionAnswersUnexpected => .questionAnswersUnexpected
  | .questionTopLevelDecision => .questionTopLevelDecision
  | .questionAnswerEmpty => .questionAnswerEmpty
  | .questionAnswerDuplicateKey => .questionAnswerDuplicateKey
  | .questionAnswerDuplicateOption => .questionAnswerDuplicateOption
  | .questionAnswerUnknownOption => .questionAnswerUnknownOption
  | .questionAnswerTooManyOptions => .questionAnswerTooManyOptions
  | .questionAnswerUnknownKey => .questionAnswerUnknownKey
  | .questionAnswerMissing => .questionAnswerMissing
  | .freeFormNotAllowed => .freeFormNotAllowed
  | .invalidFreeForm => .invalidFreeForm
  | .unknownOption => .unknownOption
  | _ => .attentionDecisionMissing

end ReplyRejection

def validateOptions (options : List DecisionOption) (freeFormAllowed : Bool) : Except ContractViolation Unit := do
  ensure (¬ (options = [] ∧ ¬ freeFormAllowed)) .decisionOptionsMissing
  checkFresh (·.optionId) (fun option => .duplicateDecisionOption option.optionId)
    (fun option => ensure (option.optionId ≠ "") (.emptyIdentifier "option_id")) (fun _ => .ok ()) [] options

def validateQuestions (questions : List QuestionPrompt) : Except ContractViolation Unit := do
  ensure (questions ≠ []) .questionSetEmpty
  checkFresh (·.questionKey) (fun question => .duplicateQuestionKey question.questionKey)
    (fun question => ensure (question.questionKey ≠ "") (.emptyIdentifier "question_key"))
    (fun question => do
      validateOptions question.options question.freeFormAllowed
      validateSensitive question.promptRef "question.prompt_ref") [] questions

/-- a free-form body must be a valid sensitive reference -/
def freeFormValid (c : ContentRef) : Prop := c.validate = .ok () ∧ c.sensitivity = .sensitive

instance (c : ContentRef) : Decidable (freeFormValid c) := inferInstanceAs (Decidable (_ ∧ _))

def validateAnswerOptionsShape (answer : QuestionAnswer) : Except ContractViolation Unit := do
  checkFresh id (fun _ => .questionAnswerDuplicateOption)
    (fun optionId => ensure (optionId ≠ "") (.emptyIdentifier "question_answer.option_id")) (fun _ => .ok ()) []
    answer.optionIds
  ensure (¬ (answer.optionIds = [] ∧ answer.freeFormRef.isNone)) .questionAnswerEmpty
  checkSome (fun freeFormRef => ensure (freeFormValid freeFormRef) .invalidFreeForm) answer.freeFormRef

def validateQuestionAnswersShape (answers : List QuestionAnswer) : Except ContractViolation Unit := do
  ensure (answers ≠ []) .questionAnswersRequired
  checkFresh (·.questionKey) (fun _ => .questionAnswerDuplicateKey)
    (fun answer => ensure (answer.questionKey ≠ "") (.emptyIdentifier "question_answer.question_key"))
    validateAnswerOptionsShape [] answers

/-- one answer against the prompt it names -/
def validateQuestionAnswer (request : QuestionRequest) (answer : QuestionAnswer) : Except ReplyRejection Unit :=
  match request.questions.find? (fun question => question.questionKey = answer.questionKey) with
  | none => .error .questionAnswerUnknownKey
  | some question => do
    ensure (¬ (¬ question.multiSelect ∧ answer.optionIds.length > 1)) .questionAnswerTooManyOptions
    checkAll (fun optionId => ensure (question.options.any fun option => option.optionId = optionId)
      .questionAnswerUnknownOption) answer.optionIds
    ensure (¬ (answer.freeFormRef.isSome ∧ ¬ question.freeFormAllowed)) .freeFormNotAllowed

def validateQuestionAnswers (request : QuestionRequest) (answers : List QuestionAnswer) :
    Except ReplyRejection Unit := do
  (validateQuestionAnswersShape answers).mapError ReplyRejection.fromContractViolation
  checkAll (validateQuestionAnswer request) answers
  ensure (answers.length = request.questions.length) .questionAnswerMissing

def validateTopLevelResponse (options : List DecisionOption) (freeFormAllowed : Bool) (optionId : Option String)
    (freeFormRef : Option ContentRef) : Except ReplyRejection Unit := do
  checkSome (fun optionId => do
    ensure (optionId ≠ "") .unknownOption
    ensure (options = [] ∨ options.any fun option => option.optionId = optionId) .unknownOption) optionId
  checkSome (fun freeFormRef => do
    ensure freeFormAllowed .freeFormNotAllowed
    ensure (freeFormValid freeFormRef) .invalidFreeForm) freeFormRef
  ensure (¬ (optionId.isNone ∧ freeFormRef.isNone)) .decisionMissing

/-- `is_open` -/
def AttentionState.isOpen : AttentionState → Bool
  | .open_ => true
  | _ => false

namespace AttentionSubject

/-- `request_key` -/
def requestKey : AttentionSubject → Option String
  | .approval request => some request.requestKey
  | .question request => some request.requestKey
  | .workflowGate request => some request.requestKey
  | .connectionFault .. => none

/-- `requires_session` -/
def requiresSession : AttentionSubject → Bool
  | .approval _ | .question _ => true
  | _ => false

/-- the checks made on the subject, given the scope of its attention item -/
def validate (sessionId : Option SessionId) (workflowId : Option WorkflowId) :
    AttentionSubject → Except ContractViolation Unit
  | .approval request => do
    ensure sessionId.isSome .attentionSessionRequired
    ensure (request.requestKey ≠ "") (.emptyIdentifier "request_key")
    nonEmpty request.targetItemId "target_item_id"
    request.bindingHandle.validateFor .interactionRequest
    validateOptions request.options false
    validateSensitive request.summaryRef "approval.summary_ref"
    checkSome (fun detailRef => validateSensitive detailRef "approval.detail_ref") request.detailRef
    match request.join with
    | .joined itemId => ensure (itemId = request.targetItemId) .approvalJoinTargetMismatch
    | .unjoined _ => .ok ()
  | .question request => do
    ensure sessionId.isSome .attentionSessionRequired
    ensure (request.requestKey ≠ "") (.emptyIdentifier "request_key")
    request.bindingHandle.validateFor .interactionRequest
    validateQuestions request.questions
  | .workflowGate request => do
    ensure workflowId.isSome .attentionWorkflowRequired
    ensure (request.requestKey ≠ "") (.emptyIdentifier "request_key")
    validateOptions request.options request.freeFormAllowed
    validateSensitive request.promptRef "workflow_gate.prompt_ref"
  | .connectionFault .. => .ok ()

/-- the checks made on an answer recorded against the subject -/
def validateAnswer (optionId : Option String) (freeFormRef : Option ContentRef) (questionAnswers : List QuestionAnswer) :
    AttentionSubject → Except ContractViolation Unit
  | .question request => do
    ensure (¬ (optionId.isSome ∨ freeFormRef.isSome)) .questionTopLevelDecision
    (validateQuestionAnswers request questionAnswers).mapError ReplyRejection.contractViolation
  | .approval request => do
    ensure (questionAnswers = []) .questionAnswersUnexpected
    (validateTopLevelResponse request.options false optionId freeFormRef).mapError ReplyRejection.contractViolation
  | .workflowGate request => do
    ensure (questionAnswers = []) .questionAnswersUnexpected
    (validateTopLevelResponse request.options request.freeFormAllowed optionId freeFormRef).mapError
      ReplyRejection.contractViolation
  | .connectionFault .. => .error .attentionDecisionMissing

end AttentionSubject

/-- the checks made on who answered -/
def AttentionAnswerSource.validate (hostId : HostId) : AttentionAnswerSource → Except ContractViolation Unit
  | .localCommand commandId => nonEmpty commandId "attention_state.answer_source.command_id"
  | .observedExternal evidence => do
    nonEmpty evidence.observerHostId "attention_state.answer_source.evidence.observer_host_id"
    ensure (evidence.observerHostId = hostId) .attentionAnswerObserverHostMismatch

namespace AttentionItem

/-- `expired_at` -/
def expiredAt (a : AttentionItem) (nowMs : Int) : Bool := a.expiresAtMs.any fun expiry => expiry ≤ nowMs

def validate (a : AttentionItem) : Except ContractViolation Unit := do
  nonEmpty a.id "attention.id"
  nonEmpty a.hostId "attention.host_id"
  nonEmpty a.projectId "attention.project_id"
  checkSome (fun sessionId => nonEmpty sessionId "attention.session_id") a.sessionId
  checkSome (fun turnId => nonEmpty turnId "attention.turn_id") a.turnId
  checkSome (fun workflowId => nonEmpty workflowId "attention.workflow_id") a.workflowId
  a.subject.validate a.sessionId a.workflowId
  match a.state with
  | .answered optionId freeFormRef questionAnswers _ answerSource => do
    a.subject.validateAnswer optionId freeFormRef questionAnswers
    answerSource.validate a.hostId
  | _ => .ok ()

/-- the last step of `check_reply`: the decision against the subject -/
def checkDecision (response : AttentionResponse) : AttentionSubject → Except ReplyRejection Unit
  | .question request => do
    ensure (¬ (response.optionId.isSome ∨ response.freeFormRef.isSome)) .questionTopLevelDecision
    validateQuestionAnswers request response.questionAnswers
  | .approval request => do
    ensure (response.questionAnswers = []) .questionAnswersUnexpected
    validateTopLevelResponse request.options false response.optionId response.freeFormRef
  | .workflowGate request => do
    ensure (response.questionAnswers = []) .questionAnswersUnexpected
    validateTopLevelResponse request.options request.freeFormAllowed response.optionId response.freeFormRef
  | .connectionFault .. => .error .notReplyable

def checkReply (a : AttentionItem) (response : AttentionResponse) (nowMs : Int) : Except ReplyRejection Unit := do
  ensure (response.attentionId = a.id) .attentionMismatch
  ensure a.state.isOpen .notOpen
  match a.subject.requestKey with
  | none => .error .notReplyable
  | some requestKey => do
    ensure (¬ (a.subject.requiresSession ∧ a.sessionId.isNone)) .sessionRequired
    ensure (response.sessionId = a.sessionId) .sessionMismatch
    ensure (response.requestKey = requestKey) .requestKeyMismatch
    ensure (response.expectedExpiresAtMs = a.expiresAtMs) .expiryMismatch
    ensure (¬ a.expiredAt nowMs) .expired
    checkDecision response a.subject

end AttentionItem

def AttentionResponse.validate (r : AttentionResponse) : Except ContractViolation Unit := do
  nonEmpty r.attentionId "attention_id"
  ensure (r.requestKey ≠ "") (.emptyIdentifier "request_key")
  checkSome (fun sessionId => nonEmpty sessionId "session_id") r.sessionId
  checkSome (fun optionId => ensure (optionId ≠ "") (.emptyIdentifier "option_id")) r.optionId
  if r.questionAnswers ≠ [] then do
    ensure (¬ (r.optionId.isSome ∨ r.freeFormRef.isSome)) .questionTopLevelDecision
    validateQuestionAnswersShape r.questionAnswers
  else (validateTopLevelResponse [] true r.optionId r.freeFormRef).mapError ReplyRejection.contractViolation

/-! ## Workflows -/

/-- `validate_transition`: the moves a workflow action allows -/
def validateTransition (source : StepState) (action : WorkflowAction) (target : StepState) :
    Except ContractViolation Unit :=
  let valid : Bool := match action with
    | .advance => match source, target with
      | .draft, .ready | .ready, .running | .running, .review | .running, .completed | .waitingHuman, .ready
      | .blocked, .ready | .rework, .ready | .review, .completed => true
      | _, _ => false
    | .retry => source = .failed && target = .ready
    | .rework => source ∈ [.review, .completed, .failed] && target = .rework
    | .skip => source ∈ [.draft, .ready, .blocked, .waitingHuman, .review, .rework, .failed] && target = .skipped
    | .cancel => source ∉ [.completed, .failed, .skipped, .cancelled] && target = .cancelled
    | .reassign => source ∈ [.draft, .ready, .blocked, .waitingHuman, .rework, .failed] && target = source
  ensure valid .workflowTransitionNotAllowed

def StepAssignment.validate (a : StepAssignment) : Except ContractViolation Unit := do
  nonEmpty a.projectBindingId "project_binding_id"
  validateSensitive a.worktreeRef "step_assignment.worktree_ref"

def StepTransition.validate (t : StepTransition) : Except ContractViolation Unit := do
  validateTransition t.source t.action t.target
  checkSome (fun reasonRef => validateSensitive reasonRef "step_transition.reason_ref") t.reasonRef

def Workflow.validate (w : Workflow) : Except ContractViolation Unit := do
  nonEmpty w.id "workflow.id"
  nonEmpty w.projectId "workflow.project_id"
  checkAll (fun stepId => nonEmpty stepId "workflow.step_ids") w.stepIds

namespace Step

def validate (s : Step) : Except ContractViolation Unit := do
  nonEmpty s.id "step.id"
  nonEmpty s.workflowId "step.workflow_id"
  s.assignment.validate
  checkAll StepTransition.validate s.audit

/-- `blockers`: why the step cannot be scheduled now -/
def blockers (s : Step) (dependencyStates : List (StepId × StepState)) (capabilities : RuntimeCapabilities)
    (gateOpen : Bool) : List StepBlocker :=
  (if s.state ≠ .ready then [.notSchedulable s.state] else []) ++
    (s.dependsOn.filter fun dependency => !dependencyStates.any fun (stepId, state) =>
      stepId = dependency && (state = .completed || state = .skipped)).map .dependencyIncomplete ++
    (s.assignment.selector.required.filter fun capability => !capabilities.permits capability).map
      .capabilityNotSupported ++
    match s.humanGate with
    | some attentionId => if gateOpen then [.humanGateOpen attentionId] else []
    | none => []

end Step

def Artifact.validate (a : Artifact) : Except ContractViolation Unit := do
  nonEmpty a.id "artifact.id"
  nonEmpty a.workflowId "artifact.workflow_id"
  checkSome (fun stepId => nonEmpty stepId "artifact.produced_by") a.producedBy
  a.content.validate

/-! ## Commands -/

def CommandOutcome.validate : CommandOutcome → Except ContractViolation Unit
  | .acceptedLocally noteRef => checkSome (fun c => validateSensitive c "command_outcome.note_ref") noteRef
  | .acceptedByRuntime sessionId _ bindingHandle => do
    nonEmpty sessionId "command_outcome.session_id"
    bindingHandle.validateFor .runtimeAcknowledgement
  | .rejected error => error.validate
  | .enqueued _ | .duplicate _ => .ok ()

def CommandAck.validate (a : CommandAck) : Except ContractViolation Unit := do
  nonEmpty a.commandId "command_id"
  a.outcome.validate

def Actor.validate : Actor → Except ContractViolation Unit
  | .human deviceId => nonEmpty deviceId "actor.device_id"
  | .workflow workflowId => nonEmpty workflowId "actor.workflow_id"
  | .broker => .ok ()

def Command.validate : Command → Except ContractViolation Unit
  | .submitPrompt _ body | .enqueueInput _ body _ | .editQueueEntry _ body => validateSensitive body "command.body"
  | .respondAttention response => response.validate
  | .reworkStep _ reasonRef => checkSome (fun c => validateSensitive c "command.rework.reason_ref") reasonRef
  | .skipStep _ reasonRef => checkSome (fun c => validateSensitive c "command.skip.reason_ref") reasonRef
  | .reassignStep _ assignment => assignment.validate
  | .reorderQueue .. | .cancelQueueEntry _ | .interruptTurn .. | .retryTurn .. | .openSession .. | .resumeSession _
  | .closeSession _ | .advanceStep _ | .retryStep _ | .cancelStep _ | .cancelWorkflow _ => .ok ()

namespace CommandEnvelope

/-- `expired_at` -/
def expiredAt (e : CommandEnvelope) (nowMs : Int) : Bool := e.expiresAtMs.any fun expiry => expiry ≤ nowMs

/-- `dedupe_key`: actor and idempotency key, each preceded by its byte length -/
def dedupeKey (e : CommandEnvelope) : String :=
  let actor := match e.actor with
    | .human deviceId => "human:" ++ toString deviceId.value.utf8ByteSize ++ ":" ++ deviceId.value
    | .workflow workflowId => "workflow:" ++ toString workflowId.value.utf8ByteSize ++ ":" ++ workflowId.value
    | .broker => "broker:0:"
  actor ++ "|key:" ++ toString e.idempotencyKey.utf8ByteSize ++ ":" ++ e.idempotencyKey

def validate (e : CommandEnvelope) : Except ContractViolation Unit := do
  nonEmpty e.commandId "command_id"
  ensure (e.idempotencyKey ≠ "") (.emptyIdentifier "idempotency_key")
  e.actor.validate
  e.body.validate

end CommandEnvelope

/-! ## Effects -/

def DiagnosticRecord.validate (d : DiagnosticRecord) : Except ContractViolation Unit := do
  checkSome (fun runtimeId => nonEmpty runtimeId "diagnostic.runtime_id") d.runtimeId
  checkSome (fun sessionId => nonEmpty sessionId "diagnostic.session_id") d.sessionId
  checkSome (fun detailRef => detailRef.ensureSensitive "diagnostic.detail_ref") d.detailRef

def StateEffect.validateForLog : StateEffect → Except ContractViolation Unit
  | .hostUpserted host => host.validate
  | .runtimeUpserted runtime => runtime.validate
  | .capabilitiesUpdated capabilities => capabilities.validate
  | .projectUpserted project => project.validate
  | .sessionUpserted session => session.validateShape
  | .sessionStatusChanged sessionId _ => nonEmpty sessionId "session_status_changed.session_id"
  | .turnUpserted turn => turn.validate
  | .itemUpserted item => item.validate
  | .queueEntryUpserted entry => entry.validate
  | .queueReordered sessionId order => do
    nonEmpty sessionId "queue_reordered.session_id"
    checkAll (fun entryId => nonEmpty entryId "queue_reordered.order") order
    checkFresh id (fun _ => .queueReorderDuplicate) (fun _ => .ok ()) (fun _ => .ok ()) [] order
  | .attentionUpserted item => item.validate
  | .workflowUpserted workflow => workflow.validate
  | .stepUpserted step => step.validate
  | .artifactUpserted artifact => artifact.validate
  | .commandAcknowledged ack => ack.validate
  | .diagnosticRecorded diagnostic => diagnostic.validate

/-! ## Cursors -/

/-- `u64::MAX` -/
def u64Max : Nat := 2 ^ 64 - 1

namespace Cursor

def start : Cursor := ⟨0⟩

/-- `next`: checked, the last cursor has no successor -/
def next (c : Cursor) : Except ContractViolation Cursor :=
  if c.seq < u64Max then .ok ⟨c.seq + 1⟩ else .error .cursorOverflow

end Cursor

/-- `verify_contiguous`: one stream, each cursor the successor of the one before -/
def verifyContiguous : List LogRecord → Except ContractViolation Unit
  | [] | [_] => .ok ()
  | last :: record :: rest => do
    ensure (last.stream = record.stream) .mixedStreams
    let expected ← last.cursor.next
    ensure (record.cursor ≠ last.cursor) (.cursorRepeated record.cursor.seq)
    ensure (record.cursor = expected) (.cursorGap expected.seq record.cursor.seq)
    verifyContiguous (record :: rest)

end Kaleido.Proto
