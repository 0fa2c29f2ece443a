/-
The device command outbox (`kaleido-state`, `command_outbox.rs`): the durable record of every admitted device command,
its status, and the digests and tickets that name it. Writing a record is an append of the store; what is here is what
the code decides about records: which ticket names one, which are pending, what a record may change into, and how the
file is read back and verified.
-/
import Kaleido.State.Disk

namespace Kaleido.State

open Check LineFile Proto

/-! ## Requests, digests and tickets -/

/-- `DeviceCommandRequest` -/
structure DeviceCommandRequest where
  idempotencyKey : String
  ttlMs : Option Nat
  body : Command
  deriving DecidableEq

def maxIdempotencyKeyBytes : Nat := 128
def maxDeviceCommandTtlMs : Nat := 300000

/-- `DeviceCommandRequest::validate` -/
def DeviceCommandRequest.validate (r : DeviceCommandRequest) : Except ContractViolation Unit := do
  ensure (r.idempotencyKey ≠ "") (.emptyIdentifier "device_command.idempotency_key")
  ensure (r.idempotencyKey.utf8ByteSize ≤ maxIdempotencyKeyBytes)
    (.idempotencyKeyTooLong r.idempotencyKey.utf8ByteSize)
  checkSome (fun ttlMs => ensure (1 ≤ ttlMs ∧ ttlMs ≤ maxDeviceCommandTtlMs) (.invalidDeviceCommandTtl ttlMs)) r.ttlMs
  r.body.validate

/-- `DispatchTicket` -/
structure DispatchTicket where
  commandId : CommandId
  tokenDigest : String
  deriving DecidableEq

/-- `PendingDispatch` -/
structure PendingDispatch where
  ticket : DispatchTicket
  envelope : CommandEnvelope
  deriving DecidableEq

/-- `AdmissionRecovery` -/
structure AdmissionRecovery where
  ticket : DispatchTicket
  envelope : CommandEnvelope
  admissionAck : CommandAck
  completeAfterRecovery : Bool
  deriving DecidableEq

variable (env : Env)

/-- `device_command_key_digest` -/
def deviceCommandKeyDigest (deviceId : DeviceId) (idempotencyKey : String) : String :=
  env.hexDigest (lengthPrefixed (utf8 "human") ++ lengthPrefixed (utf8 deviceId.value) ++
    lengthPrefixed (utf8 idempotencyKey))

/-- `device_request_digest` -/
def deviceRequestDigest (request : DeviceCommandRequest) : String :=
  env.hexDigest (lengthPrefixed (utf8 "device-request-v1") ++
    lengthPrefixed (env.encodeRequest request.ttlMs request.body))

/-- `ticket_for` -/
def ticketFor (record : OutboxRecord) : DispatchTicket where
  commandId := record.envelope.commandId
  tokenDigest := env.hexDigest (lengthPrefixed (utf8 record.keyDigest) ++ lengthPrefixed (utf8 record.requestDigest) ++
    lengthPrefixed (utf8 record.envelope.commandId.value))

/-- `request_from_envelope` -/
def requestFromEnvelope (envelope : CommandEnvelope) : Option DeviceCommandRequest :=
  match envelope.expiresAtMs with
  | none => some ⟨envelope.idempotencyKey, none, envelope.body⟩
  | some expiresAtMs =>
    -- `checked_sub`, then `u64::try_from`
    let relative := expiresAtMs - envelope.issuedAtMs
    if 0 ≤ relative ∧ relative ≤ i64Max then some ⟨envelope.idempotencyKey, some relative.toNat, envelope.body⟩
    else none

/-! ## Records -/

def outboxFile : String := "device-command-outbox.jsonl"
def outboxFormatVersion : Nat := 1

/-- the records by the digest of their device and idempotency key -/
abbrev Outbox := OrdMap String OutboxRecord

namespace Outbox

/-- the record a ticket names -/
def find (boxes : Outbox) (ticket : DispatchTicket) : Option OutboxRecord :=
  boxes.vals.find? fun record => ticketFor env record = ticket

/-- `claim`: the record as it is claimed -/
def claim (boxes : Outbox) (ticket : DispatchTicket) : Except StateError OutboxRecord :=
  match boxes.find env ticket with
  | none => .error (.dispatchNotAvailable ticket.commandId)
  | some record =>
    if record.status = .ready then .ok { record with status := .claimed }
    else .error (.dispatchNotAvailable ticket.commandId)

/-- `complete`: the record as it is completed -/
def complete (boxes : Outbox) (ticket : DispatchTicket) : Except StateError OutboxRecord :=
  match boxes.find env ticket with
  | none => .error (.dispatchNotAvailable ticket.commandId)
  | some record =>
    if record.status = .claimed then .ok { record with status := .completed }
    else .error (.dispatchNotAvailable ticket.commandId)

/-- `insert_initial`: neither the key nor the command may be known -/
def checkInitial (boxes : Outbox) (record : OutboxRecord) : Except StateError Unit :=
  ensure (¬ (boxes.contains record.keyDigest ∨
    boxes.vals.any fun existing => existing.envelope.commandId = record.envelope.commandId)) .commandOutboxDiverged

/-- `ensure_claimed` -/
def ensureClaimed (boxes : Outbox) (ticket : DispatchTicket) : Except StateError CommandEnvelope :=
  match boxes.vals.find? fun record => record.status = .claimed ∧ ticketFor env record = ticket with
  | none => .error (.dispatchNotAvailable ticket.commandId)
  | some record => .ok record.envelope

/-- `pending` -/
def pending (boxes : Outbox) : List PendingDispatch :=
  (boxes.vals.filter fun record => record.status = .ready).map fun record => ⟨ticketFor env record, record.envelope⟩

/-- `uncertain` -/
def uncertain (boxes : Outbox) : List CommandId :=
  (boxes.vals.filter fun record => record.status = .claimed && match record.admissionAck.outcome with
    | .acceptedLocally _ => true
    | _ => false).map (·.envelope.commandId)

/-- `has_unfinished_attention` -/
def hasUnfinishedAttention (boxes : Outbox) (attentionId : AttentionId) : Bool :=
  boxes.vals.any fun record => record.status ≠ .completed && match record.envelope.body with
    | .respondAttention response => response.attentionId = attentionId
    | _ => false

/-- the bodies `referenced_content_ids` protects for one command -/
def protectedRefs : Command → List ContentRef
  | .submitPrompt _ body | .enqueueInput _ body _ | .editQueueEntry _ body => [body]
  | .respondAttention response => response.freeFormRef.toList
  | .reworkStep _ reasonRef | .skipStep _ reasonRef => reasonRef.toList
  | _ => []

/-- `referenced_content_ids` -/
def referencedContentIds (boxes : Outbox) : List ContentId :=
  (boxes.vals.filter fun record => record.status ≠ .completed).flatMap fun record =>
    (protectedRefs record.envelope.body).map (·.contentId)

/-- `admission_recoveries`: every record that is not completed -/
def admissionRecoveries (boxes : Outbox) : List AdmissionRecovery :=
  (boxes.vals.filter fun record => record.status ≠ .completed).map fun record =>
    { ticket := ticketFor env record
      envelope := record.envelope
      admissionAck := record.admissionAck
      completeAfterRecovery := match record.admissionAck.outcome with
        | .acceptedLocally _ => false
        | _ => true }

end Outbox

/-! ## Reading the file back -/

/-- `valid_record` -/
def validRecord (record : OutboxRecord) : Bool :=
  record.formatVersion == outboxFormatVersion && validDigest record.keyDigest && validDigest record.requestDigest

/-- `valid_transition` -/
def validTransition : OutboxStatus → OutboxStatus → Bool
  | .ready, .claimed | .claimed, .completed => true
  | _, _ => false

/-- the checks of one line against itself -/
def checkRecord (line : Nat) (record : OutboxRecord) : Except StateError Unit := do
  ensure (validRecord record) (.malformedRecord outboxFile line)
  contract record.envelope.validate
  contract record.admissionAck.validate
  match requestFromEnvelope record.envelope, record.envelope.actor with
  | some request, .human deviceId =>
    ensure (record.admissionAck.commandId = record.envelope.commandId ∧
      record.admissionAck.ackedAtMs = record.envelope.issuedAtMs ∧ request.validate = .ok () ∧
      deviceCommandKeyDigest env deviceId request.idempotencyKey = record.keyDigest ∧
      deviceRequestDigest env request = record.requestDigest) (.malformedRecord outboxFile line)
  | _, _ => .error (.malformedRecord outboxFile line)

/-- what a line may follow: nothing for its key and its command, or the same record one status earlier -/
def follows (boxes : Outbox) (record : OutboxRecord) : Bool :=
  match boxes[record.keyDigest]? with
  | none => !boxes.vals.any fun existing => existing.envelope.commandId = record.envelope.commandId
  | some previous => previous.requestDigest = record.requestDigest && previous.envelope = record.envelope &&
      previous.admissionAck = record.admissionAck && validTransition previous.status record.status

/-- one line of the outbox -/
def readOutboxRecord (line : Nat) (boxes : Outbox) (record : OutboxRecord) : Except StateError Outbox := do
  checkRecord env line record
  ensure (follows boxes record) (.malformedRecord outboxFile line)
  return boxes.insert record.keyDigest record

/-- the lines of the outbox, from line `n` on -/
def readOutboxFrom : Nat → Outbox → List OutboxRecord → Except StateError Outbox
  | _, boxes, [] => .ok boxes
  | n, boxes, record :: rest => do
    let boxes ← readOutboxRecord env n boxes record
    readOutboxFrom (n + 1) boxes rest

/-- `read_records` -/
def readRecords (disk : Disk) : Except StateError Outbox := do
  let records ← readFile outboxFile (chunksOf Entry.outbox? disk)
  readOutboxFrom env 1 ∅ records

end Kaleido.State
