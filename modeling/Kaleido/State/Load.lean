/-
Reloading a store (`kaleido-state`, `store.rs`, `CanonicalStore::load`): read and verify every file, replay the log,
complete the projection journal, and repair the admissions that a crash cut short; then collect unprotected bodies.
-/
import Kaleido.State.Store

namespace Kaleido.State

open Check LineFile Prog Proto

/-! ## Replaying the log -/

/-- what the log determines: the state, the head of each stream, the last timestamp, and the journal it implies -/
structure Replayed where
  state : CanonicalState := {}
  cursors : StreamKey → Option Cursor := fun _ => none
  lastAppendedAtMs : Int := i64Min
  expected : ProjectionJournal := {}

/-- the journal after the views of the keys are recorded -/
def expectAll (s : CanonicalState) : ProjectionJournal → List ProjectionKey → Except StateError ProjectionJournal
  | expected, [] => .ok expected
  | expected, key :: rest => do
    let payload ← build s key
    let expected ← expected.record key payload
    expectAll s expected rest

/-- one record of the log -/
def Replayed.step (r : Replayed) (record : LogRecord) : Except StateError Replayed := do
  let next ← r.state.apply record.effect
  let expected ← expectAll next r.expected (affectedKeys r.state next record.effect)
  return {
    state := next
    cursors := Function.update r.cursors record.stream (some record.cursor)
    lastAppendedAtMs := max r.lastAppendedAtMs record.appendedAtMs
    expected := expected }

/-- the whole log -/
def replay : Replayed → List LogRecord → Except StateError Replayed
  | r, [] => .ok r
  | r, record :: rest => do
    let r ← r.step record
    replay r rest

/-! ## Repairing admissions -/

variable (env : Env)

/-- `ensure_command_idempotency` -/
def ensureCommandIdempotency (envelope : CommandEnvelope) : StoreM Unit := do
  let key := dedupeDigest env envelope
  let idempotency ← read (·.store.idempotency)
  match idempotency[key]? with
  | some commandId => require (commandId = envelope.commandId) .commandOutboxDiverged
  | none => recordIdempotency env key envelope.commandId

/-- a terminal acknowledgement that `recover_admission` recognises -/
def closesRoute (body : Command) (outcome : CommandOutcome) : Bool :=
  match body, outcome with
  | .submitPrompt .., .acceptedByRuntime .. | .submitPrompt .., .rejected _ | .respondAttention _, .rejected _ => true
  | _, _ => false

/-- the command's acknowledgements are the admission's own, and possibly one that closes its route: whether it is closed -/
def acknowledgedTerminal (recovery : AdmissionRecovery) : List CommandAck → Except StateError Bool
  | [existing] => if existing = recovery.admissionAck then .ok false else .error .commandOutboxDiverged
  | [existing, terminal] =>
    if existing = recovery.admissionAck ∧ closesRoute recovery.envelope.body terminal.outcome then .ok true
    else .error .commandOutboxDiverged
  | _ => .error .commandOutboxDiverged

/-- the idempotency line of a command that goes through `submit_command` -/
def ensureSubmitIdempotency (envelope : CommandEnvelope) : StoreM Unit :=
  if deviceRouteUsesSubmit envelope.body then ensureCommandIdempotency env envelope else pure ()

/-- the command is acknowledged already -/
def recoverAcknowledged (recovery : AdmissionRecovery) (acks : List CommandAck) : StoreM Bool := do
  let terminal ← liftExcept (acknowledgedTerminal recovery acks)
  ensureSubmitIdempotency env recovery.envelope
  return terminal

/-- the acknowledgement is missing but the rest of the decision is there -/
def acknowledgeRecovered (recovery : AdmissionRecovery) : StoreM Bool := do
  let _ ← applyTrusted env (.commandAcknowledged recovery.admissionAck)
  ensureCommandIdempotency env recovery.envelope
  return false

/-- nothing of the decision is there: take it again, as of the time the command was issued -/
def decideAgain (recovery : AdmissionRecovery) : StoreM Bool := do
  let actualAck ←
    if deviceRouteUsesSubmit recovery.envelope.body then
      submitCommand env recovery.envelope recovery.envelope.issuedAtMs
    else do
      let _ ← applyTrusted env (.commandAcknowledged recovery.admissionAck)
      pure recovery.admissionAck
  require (actualAck = recovery.admissionAck) .commandOutboxDiverged
  return false

/-- the entry an enqueued input should have left -/
def expectedEntry (s : CanonicalState) (envelope : CommandEnvelope) (entryId : QueueEntryId) (sessionId : SessionId)
    (body : ContentRef) (intent : QueueIntent) : QueueEntry where
  id := entryId
  sessionId := sessionId
  position := u32OfCount ((s.queueOf sessionId).filter fun entry => entry.id ≠ entryId && entry.state.isPending).length
  intent := intent
  body := body
  state := .pending
  editable := true
  createdAtMs := envelope.issuedAtMs
  updatedAtMs := envelope.issuedAtMs

/-- the attention entry is answered by exactly this command -/
def answeredBy (envelope : CommandEnvelope) (response : AttentionResponse) (attention : AttentionItem) : Bool :=
  match attention.state with
  | .answered optionId freeFormRef questionAnswers decidedAtMs (.localCommand commandId) =>
    optionId = response.optionId && freeFormRef = response.freeFormRef && questionAnswers = response.questionAnswers &&
      decidedAtMs = envelope.issuedAtMs && commandId = envelope.commandId
  | _ => false

/-- `recover_admission`: whether the command's route turned out to be closed -/
def recoverAdmission (recovery : AdmissionRecovery) : StoreM Bool := do
  let s ← read (·.store.state)
  match s.acks.filter fun ack => ack.commandId = recovery.envelope.commandId with
  | existing :: rest => recoverAcknowledged env recovery (existing :: rest)
  | [] => match recovery.admissionAck.outcome, recovery.envelope.body with
    | .enqueued entryId, .enqueueInput sessionId body intent => do
      require (entryId = queueEntryId env recovery.envelope.commandId) .commandOutboxDiverged
      match s.queue[entryId]? with
      | some existing => do
        require (existing = expectedEntry s recovery.envelope entryId sessionId body intent) .commandOutboxDiverged
        acknowledgeRecovered env recovery
      | none => decideAgain env recovery
    | .enqueued _, _ => fail .commandOutboxDiverged
    | .acceptedLocally _, .respondAttention response =>
      match s.attention[response.attentionId]? with
      | none => fail .commandOutboxDiverged
      | some attention =>
        if answeredBy recovery.envelope response attention then acknowledgeRecovered env recovery
        else do
          require attention.state.isOpen .commandOutboxDiverged
          decideAgain env recovery
    | _, _ => decideAgain env recovery

/-- one step of `recover_admissions` -/
def recoverOne (recovery : AdmissionRecovery) : StoreM Unit := do
  let terminal ← recoverAdmission env recovery
  if recovery.completeAfterRecovery || terminal then completeRecord env recovery.ticket

/-- `recover_admissions` -/
def recoverAdmissions : StoreM Unit := do
  let boxes ← read (·.store.deviceOutbox)
  let _ ← forEach (recoverOne env) (boxes.admissionRecoveries env)

/-! ## Loading -/

/-- `reconcile` -/
def reconcile (expected : ProjectionJournal) : StoreM Unit := do
  let projections ← read (·.store.projections)
  match projections.diverges expected with
  | some key => fail (.projectionJournalDiverged key)
  | none => do
    let _ ← forEach (fun envelope => do
      appendEntry env (projectionFileName env envelope.key) (.projection envelope)
      modifyStore fun s => { s with projections := s.projections.push envelope }) (projections.missing expected)

/-- an invariant that projection appends keep, and that does not look at the journal, is kept by `reconcile` -/
theorem keeps_reconcile {C : Disk → Prop} {I J : World → Prop} (hIJ : ∀ w, I w → J w)
    (hview : ∀ path envelope, Keeps World.disk C I J (appendEntry env path (.projection envelope)))
    (hstore : ∀ w projections, I w → I { w with store := { w.store with projections := projections } })
    (expected : ProjectionJournal) : Keeps World.disk C I J (reconcile env expected) := by
  refine Keeps.bind Keeps.read fun projections => ?_
  split
  · exact Keeps.fail hIJ
  · refine Keeps.bind (Keeps.forEach (fun envelope => ?_) _) fun _ => Keeps.pure
    exact Keeps.bind (hview _ _) fun _ => Keeps.modify (fun _ => rfl) fun w h => hstore w _ h

/-- the bodies canonical state and the outbox still need -/
def Store.protectedContent (s : Store) : List ContentId :=
  s.state.contentRefs.map (·.contentId) ++ s.deviceOutbox.referencedContentIds

/-- `cleanup_after_replay` -/
def collectContent : StoreM Unit := do
  let now ← nowMs env
  modify fun w => { w with content := w.content.cleanupAfterReplay now w.store.protectedContent }

/-- what `load` reads and replays before it writes anything -/
def readStore (disk : Disk) : Except StateError (Store × ProjectionJournal) := do
  let projections ← readJournal env disk
  let deviceOutbox ← readRecords env disk
  let records ← readAll disk
  let replayed ← replay {} records
  return ({
    projections := projections
    deviceOutbox := deviceOutbox
    state := replayed.state
    cursors := replayed.cursors
    lastAppendedAtMs := replayed.lastAppendedAtMs }, replayed.expected)

/-- `CanonicalStore::load` -/
def load : StoreM Unit := do
  let disk ← read (·.disk)
  let (store, expected) ← liftExcept (readStore env disk)
  modifyStore fun _ => store
  reconcile env expected
  let idempotency ← liftExcept (readIdempotency disk)
  modifyStore fun s => { s with idempotency := idempotency }
  recoverAdmissions env
  collectContent env

end Kaleido.State
