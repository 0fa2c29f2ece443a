/-
The operations of the store (`kaleido-state`, `store.rs`): submitting a command, admitting a device command through the
outbox, claiming, finishing and rejecting its dispatch, and delivering a queued input.
-/
import Kaleido.State.Commit

namespace Kaleido.State

open Check LineFile Prog Proto

/-! ## Decisions on a command -/

/-- `canonical_error` -/
def canonicalError (code : ErrorCode) (retriable : Bool) (atMs : Int) : CanonicalError := ⟨code, retriable, none, atMs⟩

/-- a local refusal -/
def refusal (code : ErrorCode) (nowMs : Int) : CommandOutcome := .rejected (canonicalError code false nowMs)

/-- `reply_rejection_code` -/
def replyRejectionCode (entry : AttentionItem) : ReplyRejection → ErrorCode
  | .expired => .approvalExpired
  | .notOpen => match entry.state with
    | .answered .. => .approvalAlreadyAnswered
    | _ => .invalidCommand
  | .attentionMismatch | .notReplyable => .notFound
  | _ => .invalidCommand

/-- `device_route_uses_submit` -/
def deviceRouteUsesSubmit : Command → Bool
  | .submitPrompt .. | .respondAttention _ | .enqueueInput .. => true
  | _ => false

/-- the outcome of a reply to an attention entry, as `dispatch` and `preview_device_admission` decide it -/
def replyOutcome (s : CanonicalState) (response : AttentionResponse) (nowMs : Int) : CommandOutcome :=
  match s.attention[response.attentionId]? with
  | none => refusal .notFound nowMs
  | some entry => match entry.checkReply response nowMs with
    | .ok () => .acceptedLocally none
    | .error rejection => refusal (replyRejectionCode entry rejection) nowMs

/-- the outcome of a command that needs only a known session -/
def sessionOutcome (s : CanonicalState) (sessionId : SessionId) (accepted : CommandOutcome) (nowMs : Int) :
    CommandOutcome :=
  if s.sessions.contains sessionId then accepted else refusal .notFound nowMs

variable (env : Env)

/-- `queue_entry_id` -/
def queueEntryId (commandId : CommandId) : QueueEntryId :=
  ⟨"que_" ++ String.ofList ((env.hexDigest (utf8 commandId.value)).toList.take 16)⟩

/-- the digest of a command's `(actor, key)` pair -/
def dedupeDigest (envelope : CommandEnvelope) : String := env.hexDigest (utf8 envelope.dedupeKey)

/-- the queue entry an input becomes -/
def queuedEntry (s : CanonicalState) (commandId : CommandId) (sessionId : SessionId) (body : ContentRef)
    (intent : QueueIntent) (nowMs : Int) : QueueEntry where
  id := queueEntryId env commandId
  sessionId := sessionId
  position := u32OfCount ((s.queueOf sessionId).filter fun entry => entry.state.isPending).length
  intent := intent
  body := body
  state := .pending
  editable := true
  createdAtMs := nowMs
  updatedAtMs := nowMs

/-! ## Submitting a command -/

/-- `enqueue` -/
def enqueue (commandId : CommandId) (sessionId : SessionId) (body : ContentRef) (intent : QueueIntent) (nowMs : Int) :
    StoreM CommandOutcome := do
  let s ← read (·.store.state)
  if !s.sessions.contains sessionId then return refusal .notFound nowMs
  let _ ← apply env (.queueEntryUpserted (queuedEntry env s commandId sessionId body intent nowMs))
  return .enqueued (queueEntryId env commandId)

/-- `dispatch` -/
def dispatch (envelope : CommandEnvelope) (nowMs : Int) : StoreM CommandOutcome := do
  let s ← read (·.store.state)
  match envelope.body with
  | .submitPrompt sessionId _ => return sessionOutcome s sessionId (.acceptedLocally none) nowMs
  | .respondAttention response => return replyOutcome s response nowMs
  | .enqueueInput sessionId body intent => enqueue env envelope.commandId sessionId body intent nowMs
  | _ => return .acceptedLocally none

/-- `submit_command` -/
def submitCommand (envelope : CommandEnvelope) (nowMs : Int) : StoreM CommandAck := do
  liftExcept (contract envelope.validate)
  let key := dedupeDigest env envelope
  let idempotency ← read (·.store.idempotency)
  match idempotency[key]? with
  | some originalCommandId => return ⟨envelope.commandId, .duplicate originalCommandId, nowMs⟩
  | none => do
    let outcome ← if envelope.expiredAt nowMs then pure (refusal .commandExpired nowMs) else dispatch env envelope nowMs
    let ack : CommandAck := ⟨envelope.commandId, outcome, nowMs⟩
    let _ ← applyTrusted env (.commandAcknowledged ack)
    recordIdempotency env key envelope.commandId
    return ack

/-! ## Admitting a device command -/

/-- `DeviceCommandAdmission` -/
structure DeviceCommandAdmission where
  ack : CommandAck
  dispatchTicket : Option DispatchTicket
  projections : List ProjectionEnvelope
  deriving DecidableEq

/-- `validate_device_envelope` -/
def validateDeviceEnvelope (authenticatedDevice : DeviceId) (envelope : CommandEnvelope)
    (request : DeviceCommandRequest) (nowMs : Int) : Except StateError Unit := do
  ensure (envelope.actor = .human authenticatedDevice) (.deviceCommandMismatch "actor is not the authenticated device")
  ensure (envelope.idempotencyKey = request.idempotencyKey)
    (.deviceCommandMismatch "idempotency key differs from the authenticated request")
  ensure (envelope.body = request.body)
    (.deviceCommandMismatch "command body differs from the authenticated request")
  ensure (envelope.issuedAtMs = nowMs)
    (.deviceCommandMismatch "issued timestamp was not injected from host receive time")
  checkSome (fun ttlMs => ensure (nowMs + (ttlMs : Int) ≤ i64Max)
    (.deviceCommandMismatch "ttl cannot be represented as an absolute expiry")) request.ttlMs
  ensure (envelope.expiresAtMs = request.ttlMs.map fun (ttlMs : Nat) => nowMs + (ttlMs : Int))
    (.deviceCommandMismatch "absolute expiry does not match the request ttl")

/-- the references a device command carries -/
def commandRefs : Command → List ContentRef
  | .submitPrompt _ body | .enqueueInput _ body _ | .editQueueEntry _ body => [body]
  | .respondAttention response => response.questionAnswers.filterMap (·.freeFormRef) ++ response.freeFormRef.toList
  | .reworkStep _ reasonRef | .skipStep _ reasonRef => reasonRef.toList
  | _ => []

/-- `validate_device_command_content` -/
def validateDeviceCommandContent (content : ContentStore) (deviceId : DeviceId) (command : Command) (nowMs : Int) :
    Except StateError Unit :=
  checkAll (fun reference => content.validateDeviceReference env deviceId reference nowMs) (commandRefs command)

/-- the outcome `preview_device_admission` decides for a command that has not expired -/
def previewOutcome (s : CanonicalState) (boxes : Outbox) (envelope : CommandEnvelope) (nowMs : Int) : CommandOutcome :=
  match envelope.body with
  | .submitPrompt sessionId _ | .interruptTurn sessionId _ => sessionOutcome s sessionId (.acceptedLocally none) nowMs
  | .respondAttention response =>
    if boxes.hasUnfinishedAttention response.attentionId then refusal .approvalAlreadyAnswered nowMs
    else replyOutcome s response nowMs
  | .resumeSession sessionId => match s.sessions[sessionId]? with
    | none => refusal .notFound nowMs
    | some session =>
      if (s.runtimeOf session).any fun runtime => runtime.capabilities.permits .historyResume then .acceptedLocally none
      else refusal .capabilityUnavailable nowMs
  | .enqueueInput sessionId _ _ => sessionOutcome s sessionId (.enqueued (queueEntryId env envelope.commandId)) nowMs
  | _ => refusal .invalidCommand nowMs

/-- `preview_device_admission`: the acknowledgement, and whether a runtime will be asked -/
def previewDeviceAdmission (s : CanonicalState) (boxes : Outbox) (envelope : CommandEnvelope) (nowMs : Int) :
    CommandAck × Bool :=
  let outcome := if envelope.expiredAt nowMs then refusal .commandExpired nowMs
    else previewOutcome env s boxes envelope nowMs
  (⟨envelope.commandId, outcome, nowMs⟩, match outcome with
    | .acceptedLocally _ => true
    | _ => false)

/-- the answer to a key the outbox already holds -/
def repeatOutcome (existing : OutboxRecord) (requestDigest : String) (nowMs : Int) : CommandOutcome :=
  if existing.requestDigest = requestDigest then .duplicate existing.admissionAck.commandId
  else refusal .idempotencyConflict nowMs

/-- the projections recorded since a checkpoint -/
def changesSince (checkpoint : ProjectionKey → Nat) : StoreM (List ProjectionEnvelope) :=
  read fun w => w.store.projections.changesSince env checkpoint

/-- an admission that a runtime will be asked about: the record is Ready before the command is submitted -/
def admitReady (record : OutboxRecord) (nowMs : Int) : StoreM DeviceCommandAdmission := do
  let ticket ← insertInitial env { record with status := .ready }
  let checkpoint ← read (·.store.projections.checkpoint)
  let actualAck ← blockOnError (submitCommand env record.envelope nowMs)
  blockOnError (require (actualAck = record.admissionAck) .commandOutboxDiverged)
  let projections ← changesSince env checkpoint
  return ⟨actualAck, some ticket, projections⟩

/-- an enqueued input or a local acceptance -/
def acceptedOutcome : CommandOutcome → Bool
  | .acceptedLocally _ | .enqueued _ => true
  | _ => false

/-- an admission decided here: the record is Claimed, the acknowledgement written, the record completed -/
def admitLocal (record : OutboxRecord) (nowMs : Int) : StoreM DeviceCommandAdmission := do
  let ticket ← insertInitial env { record with status := .claimed }
  let checkpoint ← read (·.store.projections.checkpoint)
  let actualAck ←
    if deviceRouteUsesSubmit record.envelope.body && acceptedOutcome record.admissionAck.outcome then
      blockOnError (submitCommand env record.envelope nowMs)
    else do
      let _ ← blockOnError (applyTrusted env (.commandAcknowledged record.admissionAck))
      pure record.admissionAck
  blockOnError (require (actualAck = record.admissionAck) .commandOutboxDiverged)
  blockOnError (completeRecord env ticket)
  let projections ← changesSince env checkpoint
  return ⟨actualAck, none, projections⟩

/-- the record of a new admission -/
def admissionRecord (keyDigest requestDigest : String) (envelope : CommandEnvelope) (admissionAck : CommandAck) :
    OutboxRecord :=
  ⟨outboxFormatVersion, keyDigest, requestDigest, envelope, admissionAck, .ready⟩

/-- `admit_device_command` -/
def admitDeviceCommand (authenticatedDevice : DeviceId) (envelope : CommandEnvelope) (request : DeviceCommandRequest)
    (nowMs : Int) : StoreM DeviceCommandAdmission := do
  ensureWritable
  liftExcept (contract request.validate)
  liftExcept (contract envelope.validate)
  liftExcept (validateDeviceEnvelope authenticatedDevice envelope request nowMs)
  let keyDigest := deviceCommandKeyDigest env authenticatedDevice request.idempotencyKey
  let requestDigest := deviceRequestDigest env request
  let w ← read id
  match w.store.deviceOutbox[keyDigest]? with
  | some existing => return ⟨⟨envelope.commandId, repeatOutcome existing requestDigest nowMs, nowMs⟩, none, []⟩
  | none => do
    liftExcept (validateDeviceCommandContent env w.content authenticatedDevice request.body nowMs)
    let (admissionAck, runtimeDispatch) := previewDeviceAdmission env w.store.state w.store.deviceOutbox envelope nowMs
    let record := admissionRecord keyDigest requestDigest envelope admissionAck
    if runtimeDispatch then admitReady env record nowMs else admitLocal env record nowMs

/-! ## Dispatching -/

/-- `DispatchClaim` -/
structure DispatchClaim where
  envelope : CommandEnvelope
  ticket : DispatchTicket
  projections : List ProjectionEnvelope
  deriving DecidableEq

/-- `claim_dispatch` -/
def claimDispatch (ticket : DispatchTicket) : StoreM DispatchClaim := do
  ensureWritable
  let envelope ← claimRecord env ticket
  return ⟨envelope, ticket, []⟩

/-- the commands with a concrete runtime route -/
def hasRuntimeRoute : Command → Bool
  | .submitPrompt .. | .respondAttention _ | .interruptTurn .. | .resumeSession _ => true
  | _ => false

/-- the acknowledgement of a route that no longer exists -/
def unavailableAck (commandId : CommandId) (atMs : Int) : CommandAck :=
  ⟨commandId, .rejected (canonicalError .runtimeUnavailable true atMs), atMs⟩

/-- `reject_ready_dispatch` -/
def rejectReadyDispatch (ticket : DispatchTicket) (atMs : Int) : StoreM (List ProjectionEnvelope) := do
  ensureWritable
  let boxes ← read (·.store.deviceOutbox)
  match (boxes.pending env).find? fun pending => pending.ticket = ticket with
  | none => fail (.dispatchNotAvailable ticket.commandId)
  | some pending => do
    require (hasRuntimeRoute pending.envelope.body)
      (.deviceCommandMismatch "only a concrete R3 runtime route can be rejected during recovery")
    let envelope ← claimRecord env ticket
    let checkpoint ← read (·.store.projections.checkpoint)
    let _ ← apply env (.commandAcknowledged (unavailableAck envelope.commandId atMs))
    completeRecord env ticket
    changesSince env checkpoint

/-- a terminal outcome of a dispatched command -/
def isTerminalOutcome : CommandOutcome → Bool
  | .acceptedByRuntime .. | .rejected _ => true
  | _ => false

/-- the acknowledgements among a list of effects -/
def acknowledgements (effects : List StateEffect) : List CommandAck :=
  effects.filterMap fun effect => match effect with
    | .commandAcknowledged ack => some ack
    | _ => none

/-- one terminal acknowledgement of the command, and no other acknowledgement -/
def commonTerminal (commandId : CommandId) (effects : List StateEffect) : Bool :=
  ((acknowledgements effects).filter fun ack => ack.commandId = commandId && isTerminalOutcome ack.outcome).length == 1 &&
  (acknowledgements effects).all fun ack => ack.commandId = commandId && isTerminalOutcome ack.outcome

/-- the outcome of the command's first acknowledgement -/
def terminalOutcome (commandId : CommandId) (effects : List StateEffect) : Option CommandOutcome :=
  ((acknowledgements effects).find? fun ack => ack.commandId = commandId).map (·.outcome)

/-- a turn of the session that answers the command -/
def hasCorrelatedTurn (commandId : CommandId) (sessionId : SessionId) (effects : List StateEffect) : Bool :=
  effects.any fun effect => match effect with
    | .turnUpserted turn => turn.sessionId = sessionId && turn.origin = .remoteCommand commandId
    | _ => false

/-- the answered transition of exactly this response -/
def answersResponse (commandId : CommandId) (response : AttentionResponse) (effect : StateEffect) : Bool :=
  match effect with
  | .attentionUpserted item => item.id = response.attentionId && item.sessionId = response.sessionId &&
    match item.state with
    | .answered optionId freeFormRef questionAnswers _ (.localCommand answered) =>
      optionId = response.optionId && freeFormRef = response.freeFormRef &&
        questionAnswers = response.questionAnswers && answered = commandId
    | _ => false
  | _ => false

/-- `valid_terminal` of `finish_dispatch`: the effects close the claimed command's route -/
def validTerminal (s : CanonicalState) (claimed : CommandEnvelope) (effects : List StateEffect) : Bool :=
  let commandId := claimed.commandId
  match claimed.body with
  | .submitPrompt sessionId _ => commonTerminal commandId effects && match terminalOutcome commandId effects with
    | some (.acceptedByRuntime acknowledged .promptTurn _) =>
      acknowledged = sessionId && hasCorrelatedTurn commandId sessionId effects
    | some (.rejected _) => true
    | _ => false
  | .interruptTurn sessionId _ => commonTerminal commandId effects && match terminalOutcome commandId effects with
    | some (.acceptedByRuntime acknowledged .sessionControl _) => acknowledged = sessionId
    | some (.rejected _) => true
    | _ => false
  | .resumeSession sessionId => acknowledgements effects = [] && effects.any fun effect => match effect with
    | .sessionUpserted session => session.id = sessionId && (s.runtimeOf session).isSome
    | _ => false
  | .respondAttention response => acknowledgements effects = [] && effects.any (answersResponse commandId response)
  | _ => false

/-- `finish_dispatch` -/
def finishDispatch (ticket : DispatchTicket) (effects : List StateEffect) : StoreM (List ProjectionEnvelope) := do
  ensureWritable
  let store ← read (·.store)
  let claimed ← liftExcept (store.deviceOutbox.ensureClaimed env ticket)
  require (validTerminal store.state claimed effects)
    (.deviceCommandMismatch "dispatch result does not close the claimed command's concrete runtime route")
  let checkpoint ← read (·.store.projections.checkpoint)
  let _ ← applyAll env effects
  completeRecord env ticket
  changesSince env checkpoint

/-- `pending_dispatches` -/
def Store.pendingDispatches (s : Store) : List PendingDispatch := s.deviceOutbox.pending env

/-! ## Delivering a queued input -/

/-- `QueueDeliveryClaim` -/
structure QueueDeliveryClaim where
  entry : QueueEntry
  commandId : CommandId
  projections : List ProjectionEnvelope
  deriving DecidableEq

/-- `pending_queue_deliveries` -/
def Store.pendingQueueDeliveries (s : Store) : List (QueueEntry × CommandId) :=
  ((s.state.sessions.vals.filter fun session => session.activeTurnId.isNone).filterMap fun session =>
    (s.state.queueOf session.id).find? fun entry => entry.intent = .newTurn && entry.state = .pending).filterMap
  fun entry => (s.state.queueCommandId entry.id).map fun commandId => (entry, commandId)

/-- `claim_queue_delivery` -/
def claimQueueDelivery (entryId : QueueEntryId) (atMs : Int) : StoreM QueueDeliveryClaim := do
  ensureWritable
  let s ← read (·.store.state)
  match s.queue[entryId]?.filter fun entry => entry.intent = .newTurn && entry.state = .pending with
  | none => fail (.deviceCommandMismatch "queue entry is not a pending new-turn delivery")
  | some entry => match s.queueCommandId entryId with
    | none => fail .commandOutboxDiverged
    | some commandId => do
      let entry := { entry with state := .submitting commandId, editable := false, updatedAtMs := atMs }
      let checkpoint ← read (·.store.projections.checkpoint)
      let _ ← apply env (.queueEntryUpserted entry)
      let projections ← changesSince env checkpoint
      return ⟨entry, commandId, projections⟩

/-- the upserts of one queue entry among a list of effects -/
def entryUpserts (entryId : QueueEntryId) (effects : List StateEffect) : List QueueEntry :=
  effects.filterMap fun effect => match effect with
    | .queueEntryUpserted entry => if entry.id = entryId then some entry else none
    | _ => none

/-- the checks of `finish_queue_delivery` -/
def checkQueueDelivery (s : CanonicalState) (entryId : QueueEntryId) (effects : List StateEffect) :
    Except StateError Unit :=
  match s.queue[entryId]? with
  | none => .error (.deviceCommandMismatch "queue delivery has no canonical entry")
  | some current => match current.state with
    | .submitting commandId => do
      ensure (acknowledgements effects = [])
        (.deviceCommandMismatch "queue delivery cannot fabricate a command acknowledgement")
      match entryUpserts entryId effects with
      | [delivered] => do
        ensure (delivered.sessionId = current.sessionId ∧ delivered.intent = current.intent ∧
          delivered.body = current.body ∧ delivered.createdAtMs = current.createdAtMs ∧ delivered.editable = false)
          (.deviceCommandMismatch "queue delivery changed immutable entry fields")
        match delivered.state with
        | .deliveredAsNewTurn turnId _ =>
          ensure (effects.any fun effect => match effect with
            | .turnUpserted turn => turn.id = turnId && turn.sessionId = current.sessionId &&
                turn.origin = .remoteCommand commandId
            | _ => false) (.deviceCommandMismatch "queue delivery has no correlated provider turn")
        | _ => .error (.deviceCommandMismatch "new-turn queue delivery lacks a structured terminal receipt")
      | _ => .error (.deviceCommandMismatch "queue delivery requires one exact terminal entry")
    | _ => .error (.deviceCommandMismatch "queue delivery was not durably claimed")

/-- `finish_queue_delivery` -/
def finishQueueDelivery (entryId : QueueEntryId) (effects : List StateEffect) : StoreM (List ProjectionEnvelope) := do
  ensureWritable
  let s ← read (·.store.state)
  liftExcept (checkQueueDelivery s entryId effects)
  let checkpoint ← read (·.store.projections.checkpoint)
  let _ ← applyAll env effects
  changesSince env checkpoint

/-! ## Bodies -/

/-- `write_content_for_device` -/
def writeContentForDevice (deviceId : DeviceId) (request : ContentWriteRequest) (bytes : List UInt8) (nowMs : Int) :
    StoreM ContentWriteResponse := fun w =>
  let (response, content) := w.content.writeForDevice env deviceId request bytes nowMs
  (response, { w with content := content })

/-- `store_content` -/
def storeContent (kind : ContentKind) (sensitivity : Sensitivity) (bytes : List UInt8) : StoreM ContentRef := fun w =>
  match w.content.store env kind sensitivity bytes with
  | .error e => (.error e, w)
  | .ok (reference, content) => (.ok reference, { w with content := content })

/-- writing a body touches neither the store nor its files -/
theorem writeContentForDevice_world (deviceId : DeviceId) (request : ContentWriteRequest) (bytes : List UInt8)
    (nowMs : Int) (w : World) : ∃ content,
      (writeContentForDevice env deviceId request bytes nowMs w).2 = { w with content := content } := ⟨_, rfl⟩

theorem storeContent_world (kind : ContentKind) (sensitivity : Sensitivity) (bytes : List UInt8) (w : World) :
    ∃ content, (storeContent env kind sensitivity bytes w).2 = { w with content := content } := by
  unfold storeContent
  split
  · exact ⟨w.content, rfl⟩
  · exact ⟨_, rfl⟩

end Kaleido.State
