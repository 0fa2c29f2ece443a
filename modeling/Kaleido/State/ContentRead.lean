/-
Reads of stored bodies (`kaleido-proto`, `content.rs`; `kaleido-state`, `content.rs`, `store.rs`): a device names a body,
an offset and a size, and receives a chunk of the body or the reason why there is none.

`readReference_stored` says what a read of a stored body returns: the bytes from the offset on, at most as many as asked
for, with the offset of the rest or the end mark.
-/
import Kaleido.Proto.Wire
import Kaleido.State.Store

namespace Kaleido.State

open Check Proto

/-! ## Requests and responses -/

/-- `MAX_CONTENT_READ_BYTES` -/
def maxContentReadBytes : Nat := 65536

structure ContentReadRequest where
  contentId : ContentId
  offset : Nat
  maxBytes : Nat
  deriving DecidableEq

structure ContentReadChunk where
  contentId : ContentId
  offset : Nat
  bytes : List UInt8
  nextOffset : Option Nat
  eof : Bool
  digest : String
  deriving DecidableEq

inductive ContentUnavailableReason where
  | evicted | neverStored | notFound | unauthorized | digestMismatch
  deriving DecidableEq

inductive ContentReadResponse where
  | chunk (chunk : ContentReadChunk)
  | unavailable (contentId : ContentId) (reason : ContentUnavailableReason)
  deriving DecidableEq

/-- `ContentReadRequest::validate` -/
def ContentReadRequest.validate (r : ContentReadRequest) : Except ContractViolation Unit := do
  nonEmpty r.contentId "content_id"
  ensure (1 ≤ r.maxBytes ∧ r.maxBytes ≤ maxContentReadBytes) (.invalidContentReadSize r.maxBytes)

/-- the end of a body has no next offset; any other chunk names the offset after it -/
def ContentReadChunk.validateNext (c : ContentReadChunk) : Except ContractViolation Unit :=
  if c.eof then ensure (c.nextOffset = none) .contentReadEofHasNext
  else ensure (c.nextOffset = some (c.offset + c.bytes.length))
    (.contentReadOffsetMismatch (c.offset + c.bytes.length) c.nextOffset)

/-- `ContentReadChunk::validate` -/
def ContentReadChunk.validate (c : ContentReadChunk) : Except ContractViolation Unit := do
  nonEmpty c.contentId "content_id"
  ensure (c.bytes.length ≤ maxContentReadBytes) (.contentReadChunkTooLarge c.bytes.length)
  ensure (c.offset + c.bytes.length ≤ u64Max) .contentReadOffsetOverflow
  c.validateNext
  validateDigest c.digest

/-- `ContentReadResponse::validate` -/
def ContentReadResponse.validate : ContentReadResponse → Except ContractViolation Unit
  | .chunk c => c.validate
  | .unavailable contentId _ => nonEmpty contentId "content_id"

instance : ToJson ContentReadRequest := ⟨fun r =>
  .obj [("content_id", toJson r.contentId), ("offset", toJson r.offset), ("max_bytes", toJson r.maxBytes)]⟩

instance : ToJson ContentReadChunk := ⟨fun c =>
  .obj [("content_id", toJson c.contentId), ("offset", toJson c.offset), ("bytes", toJson c.bytes),
    ("next_offset", toJson c.nextOffset), ("eof", toJson c.eof), ("digest", toJson c.digest)]⟩

instance : ToJson ContentUnavailableReason := ⟨fun
  | .evicted => .str "evicted"
  | .neverStored => .str "never_stored"
  | .notFound => .str "not_found"
  | .unauthorized => .str "unauthorized"
  | .digestMismatch => .str "digest_mismatch"⟩

instance : ToJson ContentReadResponse := ⟨fun
  | .chunk chunk => Json.tagged "chunk" [("chunk", toJson chunk)]
  | .unavailable contentId reason => Json.tagged "unavailable"
      [("content_id", toJson contentId), ("reason", toJson reason)]⟩

instance : ToJson ContentWriteRequest := ⟨fun r =>
  .obj [("content_kind", toJson r.contentKind), ("byte_len", toJson r.byteLen), ("digest", toJson r.digest)]⟩

instance : ToJson ContentWriteResponse := ⟨fun
  | .stored contentRef => Json.tagged "stored" [("content_ref", toJson contentRef)]
  | .rejected error => Json.tagged "rejected" [("error", toJson error)]⟩

/-! ## Reading -/

namespace ContentStore

variable (env : Env)

/-- the chunk of a body that a request selects -/
def chunkOf (reference : ContentRef) (request : ContentReadRequest) (bytes : List UInt8) : ContentReadChunk :=
  let stop := min (request.offset + request.maxBytes) bytes.length
  let eof := stop == bytes.length
  { contentId := request.contentId
    offset := request.offset
    bytes := (bytes.take stop).drop request.offset
    nextOffset := if eof then none else some stop
    eof := eof
    digest := reference.digest }

/-- `read_reference` -/
def readReference (c : ContentStore) (reference : ContentRef) (request : ContentReadRequest) :
    Except StateError ContentReadResponse := do
  contract request.validate
  ensure (reference.contentId = request.contentId) (.contentMetadataMismatch request.contentId)
  match reference.availability with
  | .evicted => return .unavailable request.contentId .evicted
  | .inline | .neverStored => return .unavailable request.contentId .neverStored
  | .stored =>
    match c.load env reference with
    | .error (.contentMissing _) => return .unavailable request.contentId .evicted
    | .error (.contentDigestMismatch _) => return .unavailable request.contentId .digestMismatch
    | .error other => .error other
    | .ok bytes => do
      ensure (request.offset ≤ bytes.length) (.invalidContentOffset request.contentId request.offset)
      let response : ContentReadResponse := .chunk (chunkOf reference request bytes)
      contract response.validate
      return response

/-- `read_for_device`: the upload the device owns, while it has not expired -/
def readForDevice (c : ContentStore) (deviceId : DeviceId) (request : ContentReadRequest) (nowMs : Int) :
    Except StateError ContentReadResponse := do
  contract request.validate
  match c.owned (deviceDigest env deviceId) request.contentId with
  | none => return .unavailable request.contentId .unauthorized
  | some record =>
    if record.expiresAtMs ≤ nowMs then return .unavailable request.contentId .evicted
    else c.readReference env record.contentRef request

end ContentStore

/-- `read_content_for_device`: a body canonical state refers to, or else one the device uploaded -/
def World.readContentForDevice (env : Env) (w : World) (deviceId : DeviceId) (request : ContentReadRequest)
    (nowMs : Int) : Except StateError ContentReadResponse :=
  match w.store.state.contentRefs.find? fun reference => reference.contentId = request.contentId with
  | some reference => w.content.readReference env reference request
  | none => w.content.readForDevice env deviceId request nowMs

/-! ## What a read of a stored body returns -/

/-- 64 lower-case hexadecimal digits after `sha256:` are a digest -/
theorem digestShaped_of_validDigest {hex : String} (h : validDigest hex = true) :
    digestShaped ("sha256:" ++ hex) = true := by
  have hstrip : stripStart "sha256:".toList ("sha256:" ++ hex).toList = some hex.toList := by
    rw [String.toList_append]
    rfl
  rw [digestShaped, hstrip]
  exact h

section

variable {env : Env} {c : ContentStore} {reference : ContentRef} {request : ContentReadRequest} {body : List UInt8}

theorem load_eq_ok : c.load env reference = .ok body ↔ validDigest reference.contentId.value = true ∧
    c.bodies[reference.contentId]? = some body ∧ body.length = reference.byteLen ∧
    "sha256:" ++ env.hexDigest body = reference.digest := by
  unfold ContentStore.load
  cases hbody : c.bodies[reference.contentId]? with
  | none => simp
  | some bytes =>
    simp only [seq_eq_ok, ensure_eq_ok, pure_eq_ok, Option.some.injEq]
    constructor
    · rintro ⟨hid, hbytes, rfl⟩
      exact ⟨hid, rfl, hbytes⟩
    · rintro ⟨hid, rfl, hbytes⟩
      exact ⟨hid, hbytes, rfl⟩

/-- a read of a stored body is answered with a chunk of it -/
theorem readReference_stored (hload : c.load env reference = .ok body) (hdigest : validDigest (env.hexDigest body) = true)
    (havailable : reference.availability = .stored) (hid : reference.contentId = request.contentId)
    (hvalid : request.validate = .ok ()) (hoffset : request.offset ≤ body.length) (hlength : body.length ≤ u64Max) :
    c.readReference env reference request = .ok (.chunk (ContentStore.chunkOf reference request body)) := by
  have hlen : request.offset + (ContentStore.chunkOf reference request body).bytes.length =
      min (request.offset + request.maxBytes) body.length := by
    simp only [ContentStore.chunkOf, List.length_drop, List.length_take]
    omega
  obtain ⟨hname, hsize⟩ : ¬ request.contentId.isEmpty ∧ 1 ≤ request.maxBytes ∧ request.maxBytes ≤ maxContentReadBytes := by
    simpa [ContentReadRequest.validate, nonEmpty] using hvalid
  have hshape : digestShaped reference.digest = true := by
    rw [← (load_eq_ok.mp hload).2.2.2]
    exact digestShaped_of_validDigest hdigest
  have hnext : (ContentStore.chunkOf reference request body).validateNext = .ok () := by
    rw [ContentReadChunk.validateNext]
    by_cases heof : min (request.offset + request.maxBytes) body.length = body.length
    · simp [ContentStore.chunkOf, heof]
    · rw [if_neg (by simpa [ContentStore.chunkOf] using heof), ensure_eq_ok]
      rw [show (ContentStore.chunkOf reference request body).offset = request.offset from rfl, hlen]
      simp [ContentStore.chunkOf, heof]
  have hchunk : (ContentStore.chunkOf reference request body).validate = .ok () := by
    rw [ContentReadChunk.validate]
    simp only [seq_eq_ok, ensure_eq_ok, nonEmpty, validateDigest]
    refine ⟨hname, ?_, ?_, hnext, hshape⟩
    · omega
    · rw [show (ContentStore.chunkOf reference request body).offset = request.offset from rfl]
      omega
  unfold ContentStore.readReference
  simp only [havailable, hload, seq_eq_ok, contract_eq_ok, ensure_eq_ok, pure_eq_ok, hvalid, hid, hoffset,
    ContentReadResponse.validate, hchunk, true_and]

/-- what a read returns passes its own check -/
theorem readReference_valid {response : ContentReadResponse} (h : c.readReference env reference request = .ok response) :
    response.validate = .ok () := by
  unfold ContentStore.readReference at h
  rw [seq_eq_ok, contract_eq_ok, seq_eq_ok] at h
  obtain ⟨hrequest, -, h⟩ := h
  have hnamed : nonEmpty request.contentId "content_id" = .ok () := by
    rw [ContentReadRequest.validate, seq_eq_ok] at hrequest
    exact hrequest.1
  have hunavailable : ∀ reason, (pure (.unavailable request.contentId reason) : Except StateError ContentReadResponse) =
      .ok response → response.validate = .ok () := by
    intro reason hreason
    rw [← pure_eq_ok.mp hreason]
    exact hnamed
  cases havailable : reference.availability <;> rw [havailable] at h
  case evicted => exact hunavailable _ h
  case inline => exact hunavailable _ h
  case neverStored => exact hunavailable _ h
  case stored =>
    cases hload : c.load env reference with
    | ok bytes =>
      simp only [hload, seq_eq_ok, contract_eq_ok, pure_eq_ok] at h
      obtain ⟨-, hvalid, rfl⟩ := h
      exact hvalid
    | error e =>
      rw [hload] at h
      cases e
      case contentMissing => exact hunavailable _ h
      case contentDigestMismatch => exact hunavailable _ h
      all_goals cases h

end

end Kaleido.State
