/-
Bodies (`kaleido-state`, `content.rs`, and the reference traversal of `state.rs`): the content-addressed store, the
ownership of uploads, and the collection of unprotected bodies at startup.

`contentRefs` is the traversal the code uses to decide which bodies canonical state still needs. The body directory and
the ownership file are written through on every change (an ownership rewrite replaces the file atomically), so the store
on disk and the store in memory are one value.
-/
import Kaleido.State.Disk

namespace Kaleido.State

open Check Proto

/-! ## References held by canonical state -/

/-- the references of one file change -/
def changeContentRefs (change : FileChange) : List ContentRef :=
  change.pathRef :: change.diff.toList ++ match change.kind with
    | .rename fromRef => [fromRef]
    | .add | .modify | .delete => []

/-- `item_content_refs` -/
def itemContentRefs (item : Item) : List ContentRef :=
  match item.body with
  | .userMessage content | .agentMessage content _ | .reasoning content => [content]
  | .toolCall _ arguments output _ => arguments.toList ++ output.toList
  | .fileEdit changeSet => changeSet.entries.flatMap changeContentRefs
  | .planUpdate entries => entries.map (·.titleRef)
  | .taskUpdate tasks => tasks.map (·.titleRef)
  | .diagnostic _ _ detail => [detail]

/-- `attention_content_refs` -/
def attentionContentRefs (item : AttentionItem) : List ContentRef :=
  (match item.subject with
    | .approval request => request.summaryRef :: request.detailRef.toList
    | .question request => request.questions.map (·.promptRef)
    | .workflowGate request => [request.promptRef]
    | .connectionFault .. => []) ++
  match item.state with
    | .answered _ freeFormRef questionAnswers _ _ => freeFormRef.toList ++ questionAnswers.filterMap (·.freeFormRef)
    | _ => []

/-- the note of a live binding -/
def liveNoteRef : LiveBinding → Option ContentRef
  | .observing _ _ evidence | .controlling _ _ evidence => evidence.noteRef
  | .notBound _ | .blocked _ => none

/-- the references of an acknowledgement -/
def ackContentRef (ack : CommandAck) : Option ContentRef :=
  match ack.outcome with
  | .acceptedLocally noteRef => noteRef
  | .rejected error => error.detailRef
  | .acceptedByRuntime .. | .enqueued _ | .duplicate _ => none

/-- `content_refs` -/
def CanonicalState.contentRefs (s : CanonicalState) : List ContentRef :=
  (s.runtimes.vals.flatMap fun runtime => runtime.capabilities.entries.filterMap (·.evidence.noteRef)) ++
  (s.projects.vals.flatMap fun project => project.bindings.map (·.rootRef)) ++
  (s.sessions.vals.flatMap fun session =>
    session.historySource.evidence.noteRef.toList ++ (liveNoteRef session.liveBinding).toList) ++
  (s.turns.vals.filterMap fun turn => turn.error.bind (·.detailRef)) ++
  s.items.vals.flatMap itemContentRefs ++
  s.queue.vals.map (·.body) ++
  s.attention.vals.flatMap attentionContentRefs ++
  (s.steps.vals.flatMap fun step => step.assignment.worktreeRef :: step.audit.filterMap (·.reasonRef)) ++
  s.artifacts.vals.map (·.content) ++
  s.diagnostics.vals.filterMap (·.detailRef) ++
  s.acks.filterMap ackContentRef

/-! ## The body store -/

/-- `ContentWriteRequest` -/
structure ContentWriteRequest where
  contentKind : ContentKind
  byteLen : Nat
  digest : String
  deriving DecidableEq

def maxContentWriteBytes : Nat := 65536

/-- `ContentWriteRequest::validate` -/
def ContentWriteRequest.valid (r : ContentWriteRequest) : Bool :=
  (r.contentKind = .plainText || r.contentKind = .markdown) && (1 ≤ r.byteLen && r.byteLen ≤ maxContentWriteBytes) &&
    digestShaped r.digest

/-- `ContentWriteResponse` -/
inductive ContentWriteResponse where
  | stored (contentRef : ContentRef)
  | rejected (error : CanonicalError)
  deriving DecidableEq

/-- `OwnershipRecord` -/
structure OwnershipRecord where
  deviceDigest : String
  contentRef : ContentRef
  createdAtMs : Int
  expiresAtMs : Int
  deriving DecidableEq

def deviceContentTtlMs : Int := 600000
def deviceContentQuotaBytes : Nat := 8 * 1024 * 1024

/-- `ContentStore`: the bodies by content identifier, and one ownership record per device and body -/
structure ContentStore where
  bodies : OrdMap ContentId (List UInt8) := ∅
  ownership : List OwnershipRecord := []

/-- `rejected_write` -/
def rejectedWrite (atMs : Int) : ContentWriteResponse := .rejected ⟨.invalidCommand, false, none, atMs⟩

namespace ContentStore

variable (env : Env)

/-- `device_digest` -/
def deviceDigest (deviceId : DeviceId) : String := env.hexDigest (lengthPrefixed (utf8 deviceId.value))

/-- the ownership record of a device's upload -/
def owned (c : ContentStore) (digest : String) (contentId : ContentId) : Option OwnershipRecord :=
  c.ownership.find? fun record => record.deviceDigest = digest ∧ record.contentRef.contentId = contentId

/-- the ownership record replaces the one of the same device and body -/
def insertOwnership (c : ContentStore) (record : OwnershipRecord) : ContentStore :=
  { c with ownership := (c.ownership.filter fun existing => ¬ (existing.deviceDigest = record.deviceDigest ∧
      existing.contentRef.contentId = record.contentRef.contentId)) ++ [record] }

/-- `store`: the same bytes give the same reference, and an existing body is verified -/
def store (c : ContentStore) (kind : ContentKind) (sensitivity : Sensitivity) (bytes : List UInt8) :
    Except StateError (ContentRef × ContentStore) := do
  let hex := env.hexDigest bytes
  let contentId : ContentId := ⟨hex⟩
  ensure (validDigest hex) (.unsafeContentId contentId)
  ensure (c.bodies[contentId]?.all fun existing => existing.length = bytes.length && env.hexDigest existing = hex)
    (.contentDigestMismatch contentId)
  let reference : ContentRef := ⟨contentId, kind, bytes.length, "sha256:" ++ hex, none, sensitivity, .stored⟩
  contract reference.validate
  return (reference, { c with bodies := if c.bodies.contains contentId then c.bodies else c.bodies.insert contentId bytes })

/-- `load` -/
def load (c : ContentStore) (reference : ContentRef) : Except StateError (List UInt8) := do
  ensure (validDigest reference.contentId.value) (.unsafeContentId reference.contentId)
  match c.bodies[reference.contentId]? with
  | none => .error (.contentMissing reference.contentId)
  | some bytes => do
    ensure (bytes.length = reference.byteLen ∧ "sha256:" ++ env.hexDigest bytes = reference.digest)
      (.contentDigestMismatch reference.contentId)
    return bytes

/-- `cleanup_expired_ownership` -/
def cleanupExpiredOwnership (c : ContentStore) (nowMs : Int) : ContentStore :=
  { c with ownership := c.ownership.filter fun record => record.expiresAtMs > nowMs }

/-- the unexpired bytes a device owns -/
def ownedBytes (c : ContentStore) (digest : String) (nowMs : Int) : Nat :=
  ((c.ownership.filter fun record => record.deviceDigest = digest && record.expiresAtMs > nowMs).map
    (·.contentRef.byteLen)).sum

/-- `write_for_device`: an upload, checked against its header and the device's quota -/
def writeForDevice (c : ContentStore) (deviceId : DeviceId) (request : ContentWriteRequest) (bytes : List UInt8)
    (nowMs : Int) : Except StateError ContentWriteResponse × ContentStore :=
  let c := c.cleanupExpiredOwnership nowMs
  let hex := env.hexDigest bytes
  let digest := deviceDigest env deviceId
  if !request.valid || bytes.length ≠ request.byteLen || "sha256:" ++ hex ≠ request.digest then
    (.ok (rejectedWrite nowMs), c)
  else if !((c.owned digest ⟨hex⟩).any fun record =>
        record.expiresAtMs > nowMs && record.contentRef.byteLen = bytes.length) &&
      c.ownedBytes digest nowMs + bytes.length > deviceContentQuotaBytes then
    (.ok (rejectedWrite nowMs), c)
  else if nowMs + deviceContentTtlMs > i64Max then (.ok (rejectedWrite nowMs), c)
  else match c.store env request.contentKind .sensitive bytes with
    | .error e => (.error e, c)
    | .ok (reference, c) =>
      (.ok (.stored reference), c.insertOwnership ⟨digest, reference, nowMs, nowMs + deviceContentTtlMs⟩)

/-- `validate_device_reference` -/
def validateDeviceReference (c : ContentStore) (deviceId : DeviceId) (reference : ContentRef) (nowMs : Int) :
    Except StateError Unit := do
  contract (reference.ensureSensitive "device_command.content_ref")
  match c.owned (deviceDigest env deviceId) reference.contentId with
  | none => .error (.contentUnauthorized reference.contentId)
  | some record => do
    ensure (record.expiresAtMs > nowMs) (.contentExpired reference.contentId)
    ensure (record.contentRef = reference) (.contentMetadataMismatch reference.contentId)
    let _ ← c.load env reference

/-- `cleanup_after_replay`: bodies neither protected nor owned are removed -/
def cleanupAfterReplay (c : ContentStore) (nowMs : Int) (canonicalContentIds : List ContentId) : ContentStore :=
  let c := c.cleanupExpiredOwnership nowMs
  let isProtected := canonicalContentIds ++ c.ownership.map (·.contentRef.contentId)
  { c with bodies := c.bodies.filter fun contentId _ => contentId ∈ isProtected || !validDigest contentId.value }

end ContentStore

end Kaleido.State
