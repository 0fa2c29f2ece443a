/-
Frames on the wire (`kaleido-transport`, `frame.rs`): four bytes of length, one byte of kind, then the body.

A control frame's body is its JSON text and may take 65,536 bytes. `encodeControl_ok_iff` says that this is the only
reason why a frame cannot be sent. `content_read_sent_iff` counts the text of the answer to a content read: every byte of the
chunk takes one to three digits and a comma, so that an answer to a request within the limits of the contract may be four
times as long as the bytes it carries.
-/
import Kaleido.State.Synced
import Kaleido.Transport.Control

namespace Kaleido.Transport

open Check Json Proto State

def maxFrameLength : Nat := 65545
def maxControlBodyBytes : Nat := 65536
def maxContentBodyBytes : Nat := 65536

def controlKind : UInt8 := 0x01
def contentKind : UInt8 := 0x02

/-- `u32::to_be_bytes` -/
def beBytes32 (n : Nat) : List UInt8 := [3, 2, 1, 0].map fun i => UInt8.ofNat (n / 256 ^ i)

/-- `encode` -/
def encode (kind : UInt8) (body : List UInt8) : Except TransportError (List UInt8) := do
  ensure (body.length + 1 < 2 ^ 32) .frameTooLarge
  ensure (body.length + 1 ≤ maxFrameLength) .frameTooLarge
  return beBytes32 (body.length + 1) ++ kind :: body

/-- `encode_control` -/
def encodeControl (frame : ControlFrame) : Except TransportError (List UInt8) := do
  let body := frame.encode
  ensure (¬ (body = [] ∨ maxControlBodyBytes < body.length)) .frameTooLarge
  encode controlKind body

/-! ## The length of a frame -/

theorem length_utf8 (text : String) : (utf8 text).length = text.utf8ByteSize := rfl

theorem length_encode (frame : ControlFrame) : frame.encode.length = (toJson frame).size := by
  rw [ControlFrame.encode, length_utf8, utf8ByteSize_render]

theorem size_frame_pos (frame : ControlFrame) : 0 < (toJson frame).size := by
  obtain ⟨kind, fields, h⟩ : ∃ kind fields, toJson frame = tagged kind fields := by cases frame <;> exact ⟨_, _, rfl⟩
  rw [h, tagged, size]
  omega

/-- a control frame can be sent when its text is within the limit -/
theorem encodeControl_ok_iff (frame : ControlFrame) :
    (∃ encoded, encodeControl frame = .ok encoded) ↔ (toJson frame).size ≤ maxControlBodyBytes := by
  have hlength := length_encode frame
  have hpos := size_frame_pos frame
  unfold encodeControl encode
  simp only [seq_eq_ok, ensure_eq_ok, pure_eq_ok, exists_and_left, exists_eq', and_true, not_or, not_lt,
    ← List.length_eq_zero_iff, hlength, maxFrameLength, maxControlBodyBytes]
  omega

/-! ## Answers to content reads -/

/-- the characters of a digest are written as they are -/
theorem plain_of_hex {c : Char} (h : (c.isDigit || ('a' ≤ c && c ≤ 'f')) = true) : Plain c := by
  rcases Bool.or_eq_true _ _ |>.mp h with hdigit | hletter
  · obtain ⟨hlow, hhigh⟩ := isDigit_toNat hdigit
    refine ⟨by omega, by omega, ?_, ?_⟩ <;> rintro rfl <;> revert hlow hhigh <;> decide
  · simp only [Bool.and_eq_true, decide_eq_true_eq] at hletter
    have hlow : 97 ≤ c.toNat := hletter.1
    have hhigh : c.toNat ≤ 102 := hletter.2
    refine ⟨by omega, by omega, ?_, ?_⟩ <;> rintro rfl <;> revert hlow hhigh <;> decide

/-- a digest takes 64 bytes and its quotes -/
theorem quotedSize_hex {hex : String} (h : validDigest hex = true) : quotedSize hex = 66 := by
  simp only [validDigest, Bool.and_eq_true, beq_iff_eq, List.all_eq_true] at h
  rw [quotedSize_plain fun c hc => plain_of_hex (h.2 c hc), h.1]

theorem quotedSize_digest {hex : String} (h : validDigest hex = true) : quotedSize ("sha256:" ++ hex) = 73 := by
  have hhex : escapedSize hex.toList = 64 := by
    have := quotedSize_hex h
    rw [quotedSize] at this
    omega
  rw [quotedSize, String.toList_append, escapedSize, List.map_append, List.sum_append]
  rw [escapedSize] at hhex
  rw [hhex]
  rfl

/-- the bytes of a body that a request selects -/
def selected (request : ContentReadRequest) (body : List UInt8) : List UInt8 :=
  (body.take (request.offset + request.maxBytes)).drop request.offset

/-- the length of the answer to a read, in bytes: 298 for what is the same in every answer, the digits of the numbers,
the digits of the selected bytes and the commas between them, and the two fields that tell where the chunk ends -/
def answerLength (requestId : Nat) (request : ContentReadRequest) (body : List UInt8) : Nat :=
  298 + decimalLength requestId + decimalLength request.offset +
    ((selected request body).map fun byte => decimalLength byte.toNat).sum + ((selected request body).length - 1) +
    (if body.length ≤ request.offset + request.maxBytes then 8 else decimalLength (request.offset + request.maxBytes) + 5)

theorem size_contentReadResult (env : Env) {reference : ContentRef} {request : ContentReadRequest} {body : List UInt8}
    (requestId : Nat) (hid : validDigest request.contentId.value = true)
    (hdigest : reference.digest = "sha256:" ++ env.hexDigest body) (hhex : validDigest (env.hexDigest body) = true) :
    (toJson (ControlFrame.contentReadResult requestId (.chunk (ContentStore.chunkOf reference request body)))).size =
      answerLength requestId request body := by
  have hbytes : (ContentStore.chunkOf reference request body).bytes = selected request body := by
    rw [selected, List.take_eq_take_min]
    rfl
  have harray : (toJson (selected request body)).size =
      ((selected request body).map fun byte => decimalLength byte.toNat).sum + ((selected request body).length - 1) + 2 := by
    simp only [toJson, size_arr, List.map_map, List.length_map]
    congr 3
    exact List.map_congr_left fun byte _ => size_num byte.toNat
  have hend : (toJson (ContentStore.chunkOf reference request body).nextOffset).size +
      (toJson (ContentStore.chunkOf reference request body).eof).size =
      if body.length ≤ request.offset + request.maxBytes then 8
      else decimalLength (request.offset + request.maxBytes) + 5 := by
    by_cases heof : body.length ≤ request.offset + request.maxBytes
    · simp [ContentStore.chunkOf, heof, toJson, size]
    · have hstop : min (request.offset + request.maxBytes) body.length = request.offset + request.maxBytes := by omega
      have hne : request.offset + request.maxBytes ≠ body.length := by omega
      simp only [ContentStore.chunkOf, hstop, heof, beq_eq_false_iff_ne.mpr hne, toJson, if_false, size,
        Bool.false_eq_true]
      rw [← size_num, size]
  have hnames : quotedSize "kind" = 6 ∧ quotedSize "content_read_result" = 21 ∧ quotedSize "request_id" = 12 ∧
      quotedSize "response" = 10 ∧ quotedSize "chunk" = 7 ∧ quotedSize "content_id" = 12 ∧ quotedSize "value" = 7 ∧
      quotedSize "offset" = 8 ∧ quotedSize "bytes" = 7 ∧ quotedSize "next_offset" = 13 ∧ quotedSize "eof" = 5 ∧
      quotedSize "digest" = 8 := by decide
  have hdigestSize : quotedSize reference.digest = 73 := by rw [hdigest, quotedSize_digest hhex]
  have hidSize := quotedSize_hex hid
  have hrequestId := size_num requestId
  have hoffset := size_num request.offset
  rw [answerLength, ← hend, ← hrequestId, ← hoffset]
  rw [← hbytes] at harray ⊢
  change size (tagged "content_read_result" [("request_id", .num requestId), ("response", tagged "chunk" [("chunk",
    .obj [("content_id", .obj [("value", .str request.contentId.value)]), ("offset", .num request.offset),
      ("bytes", toJson (ContentStore.chunkOf reference request body).bytes),
      ("next_offset", toJson (ContentStore.chunkOf reference request body).nextOffset),
      ("eof", toJson (ContentStore.chunkOf reference request body).eof), ("digest", .str reference.digest)])])]) = _
  simp only [tagged, size_obj, size_str, fieldsSize]
  omega

/-- **A content read can be answered exactly when the text of its bytes fits.** A read of a stored body, within the limits
of the contract and from an offset within the body, is answered; the answer can be sent if and only if 298 bytes, the digits
of its numbers and of the selected bytes, the commas between these and the two fields about the end of the chunk are at most
65,536 bytes together. -/
theorem content_read_sent_iff (env : Env) (hhex : env.HexDigests) (c : ContentStore) (reference : ContentRef)
    (request : ContentReadRequest) (requestId : Nat) (body : List UInt8) (hload : c.load env reference = .ok body)
    (havailable : reference.availability = .stored) (hid : reference.contentId = request.contentId)
    (hvalid : request.validate = .ok ()) (hoffset : request.offset ≤ body.length) (hlength : body.length ≤ u64Max) :
    ∃ response, c.readReference env reference request = .ok response ∧
      ((∃ encoded, encodeControl (.contentReadResult requestId response) = .ok encoded) ↔
        answerLength requestId request body ≤ maxControlBodyBytes) := by
  obtain ⟨hname, -, -, hdigest⟩ := load_eq_ok.mp hload
  refine ⟨_, readReference_stored hload (hhex body) havailable hid hvalid hoffset hlength, ?_⟩
  rw [encodeControl_ok_iff, size_contentReadResult env requestId (hid ▸ hname) hdigest.symm (hhex body)]

/-- the reference `store` returns for a body -/
def storedReference (body : List UInt8) : ContentRef :=
  ⟨⟨sampleEnv.hexDigest body⟩, .plainText, body.length, "sha256:" ++ sampleEnv.hexDigest body, none, .sensitive, .stored⟩

/-- a store that holds one body -/
def storeOf (body : List UInt8) : ContentStore := { bodies := (∅ : OrdMap ContentId (List UInt8)).insert ⟨sampleEnv.hexDigest body⟩ body }

theorem load_storeOf (body : List UInt8) : (storeOf body).load sampleEnv (storedReference body) = .ok body :=
  load_eq_ok.mpr ⟨sampleDigest_valid body, (OrdMap.get_insert ..).trans (if_pos rfl), rfl, rfl⟩

theorem content_read_sent_three : ∃ response,
    (storeOf [1, 20, 255]).readReference sampleEnv (storedReference [1, 20, 255])
      ⟨⟨sampleEnv.hexDigest [1, 20, 255]⟩, 1, 65536⟩ = .ok response ∧
      ((∃ encoded, encodeControl (.contentReadResult 7 response) = .ok encoded) ↔
        answerLength 7 ⟨⟨sampleEnv.hexDigest [1, 20, 255]⟩, 1, 65536⟩ [1, 20, 255] ≤ maxControlBodyBytes) :=
  content_read_sent_iff sampleEnv sampleDigest_valid (storeOf [1, 20, 255]) (storedReference [1, 20, 255]) _ 7 _
    (load_storeOf _) rfl rfl (by decide +kernel) (by decide) (by decide)

/-- a body of `n` bytes that all take three digits, and the request for all of it -/
def wideBody (n : Nat) : List UInt8 := List.replicate n 255

def wideRequest (n : Nat) : ContentReadRequest := ⟨⟨sampleEnv.hexDigest (wideBody n)⟩, 0, n⟩

theorem answerLength_wide (requestId n : Nat) : 4 * n + 297 ≤ answerLength requestId (wideRequest n) (wideBody n) := by
  have hselected : selected (wideRequest n) (wideBody n) = wideBody n := by
    simp [selected, wideRequest, wideBody]
  have hdigits : ((wideBody n).map fun byte => decimalLength byte.toNat).sum = n * 3 := by
    rw [wideBody, List.map_replicate, List.sum_replicate]
    rfl
  rw [answerLength, hselected, hdigits, wideBody, List.length_replicate]
  omega

theorem wideRequest_valid {n : Nat} (h : 1 ≤ n ∧ n ≤ maxContentReadBytes) : (wideRequest n).validate = .ok () := by
  have hname : ¬ (wideRequest n).contentId.isEmpty := by
    intro hempty
    have hvalid := sampleDigest_valid (wideBody n)
    rw [show sampleDigest (wideBody n) = "" from hempty] at hvalid
    exact absurd hvalid (by decide)
  simp only [ContentReadRequest.validate, seq_eq_ok, nonEmpty, ensure_eq_ok]
  exact ⟨hname, h⟩

/-- A valid read of 16,384 stored bytes, a quarter of what the contract allows, has an answer that cannot be sent. -/
theorem wide_read_unsent : ¬ ∀ (c : ContentStore) (reference : ContentRef) (request : ContentReadRequest) (requestId : Nat)
    (body : List UInt8), c.load sampleEnv reference = .ok body → reference.availability = .stored →
    reference.contentId = request.contentId → request.validate = .ok () → request.offset ≤ body.length →
    ∃ response encoded, c.readReference sampleEnv reference request = .ok response ∧
      encodeControl (.contentReadResult requestId response) = .ok encoded := by
  intro hall
  -- the length stays a variable, so that the body is never written out
  obtain ⟨n, hn⟩ : ∃ n, n = 16384 := ⟨_, rfl⟩
  have hvalid : (wideRequest n).validate = .ok () := wideRequest_valid (by rw [maxContentReadBytes]; omega)
  have hlength : (wideBody n).length ≤ u64Max := by
    rw [wideBody, List.length_replicate, u64Max]
    omega
  obtain ⟨response, encoded, hread, hencode⟩ := hall (storeOf (wideBody n)) (storedReference (wideBody n)) (wideRequest n) 1
    (wideBody n) (load_storeOf _) rfl rfl hvalid (Nat.zero_le _)
  have hdigest : validDigest (sampleEnv.hexDigest (wideBody n)) = true := sampleDigest_valid (wideBody n)
  have hanswer : (storeOf (wideBody n)).readReference sampleEnv (storedReference (wideBody n)) (wideRequest n) =
      .ok (.chunk (ContentStore.chunkOf (storedReference (wideBody n)) (wideRequest n) (wideBody n))) :=
    readReference_stored (load_storeOf _) hdigest rfl rfl hvalid (Nat.zero_le _) hlength
  obtain rfl := Except.ok.inj (hanswer.symm.trans hread)
  have hfits := (encodeControl_ok_iff _).mp ⟨encoded, hencode⟩
  have hsize : (toJson (ControlFrame.contentReadResult 1 (.chunk (ContentStore.chunkOf (storedReference (wideBody n))
      (wideRequest n) (wideBody n))))).size = answerLength 1 (wideRequest n) (wideBody n) :=
    size_contentReadResult sampleEnv 1 hdigest rfl hdigest
  have hlong := answerLength_wide 1 n
  rw [hsize, maxControlBodyBytes] at hfits
  omega

end Kaleido.Transport
