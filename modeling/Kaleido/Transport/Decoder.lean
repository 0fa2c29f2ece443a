/-
The frame decoder (`kaleido-transport`, `frame.rs`): bytes come in as the socket delivers them, frames go out when they are
complete.

`push` takes as many bytes of its input as the state has room for. `advance_slice` says that this is the same as taking them
one at a time, so that the decoder is a reader of the machine `advance` in the sense of `Lib/Feed`. `Leading` says what the
frames at the start of a stream are without looking at the decoder: well formed frames whose bytes are the first bytes of the
stream.

`chunks_decode` is the result: frames that were encoded are decoded whatever the chunks are, and two ways of cutting one
stream into chunks end alike.
-/
import Kaleido.Lib.Feed
import Kaleido.Transport.Frame

namespace Kaleido.Transport

open Check Feed Json State

/-! ## Numbers and text in bytes -/

/-- `u64::to_be_bytes` -/
def beBytes64 (n : Nat) : List UInt8 := [7, 6, 5, 4, 3, 2, 1, 0].map fun i => UInt8.ofNat (n / 256 ^ i)

/-- `from_be_bytes` -/
def ofBeBytes (bytes : List UInt8) : Nat := bytes.foldl (fun n byte => n * 256 + byte.toNat) 0

/-- `str::from_utf8` succeeds -/
def isUtf8 (bytes : List UInt8) : Bool := (⟨bytes.toArray⟩ : ByteArray).validateUTF8

theorem ofBeBytes_beBytes32 {n : Nat} (h : n < 2 ^ 32) : ofBeBytes (beBytes32 n) = n := by
  simp only [beBytes32, ofBeBytes, List.map_cons, List.map_nil, List.foldl_cons, List.foldl_nil, UInt8.toNat_ofNat']
  omega

theorem ofBeBytes_beBytes64 {n : Nat} (h : n < 2 ^ 64) : ofBeBytes (beBytes64 n) = n := by
  simp only [beBytes64, ofBeBytes, List.map_cons, List.map_nil, List.foldl_cons, List.foldl_nil, UInt8.toNat_ofNat']
  omega

theorem ofNat_toNat_of_eq {n : Nat} {byte : UInt8} (h : n % 256 = byte.toNat) : UInt8.ofNat n = byte := by
  rw [← UInt8.toNat_inj, UInt8.toNat_ofNat', h]

theorem beBytes32_ofBeBytes (a b c d : UInt8) : beBytes32 (ofBeBytes [a, b, c, d]) = [a, b, c, d] := by
  have ha := a.toNat_lt
  have hb := b.toNat_lt
  have hc := c.toNat_lt
  have hd := d.toNat_lt
  simp only [beBytes32, ofBeBytes, List.map_cons, List.map_nil, List.foldl_cons, List.foldl_nil, List.cons.injEq, and_true]
  refine ⟨?_, ?_, ?_, ?_⟩ <;> apply ofNat_toNat_of_eq <;> omega

theorem beBytes64_ofBeBytes (a b c d e f g h : UInt8) :
    beBytes64 (ofBeBytes [a, b, c, d, e, f, g, h]) = [a, b, c, d, e, f, g, h] := by
  have ha := a.toNat_lt
  have hb := b.toNat_lt
  have hc := c.toNat_lt
  have hd := d.toNat_lt
  have he := e.toNat_lt
  have hf := f.toNat_lt
  have hg := g.toNat_lt
  have hh := h.toNat_lt
  simp only [beBytes64, ofBeBytes, List.map_cons, List.map_nil, List.foldl_cons, List.foldl_nil, List.cons.injEq, and_true]
  refine ⟨?_, ?_, ?_, ?_, ?_, ?_, ?_, ?_⟩ <;> apply ofNat_toNat_of_eq <;> omega

theorem ofBeBytes_lt (bytes : List UInt8) : ofBeBytes bytes < 256 ^ bytes.length := by
  induction bytes using List.reverseRecOn with
  | nil => simp [ofBeBytes]
  | append_singleton bytes byte ih =>
    have hbyte := byte.toNat_lt
    have hsnoc : ofBeBytes (bytes ++ [byte]) = ofBeBytes bytes * 256 + byte.toNat := by simp [ofBeBytes]
    rw [hsnoc, List.length_append, List.length_singleton, pow_succ]
    omega

theorem isUtf8_utf8 (text : String) : isUtf8 (utf8 text) = true := by
  have hvalid := text.isValidUTF8
  exact ByteArray.validateUTF8_eq_true_iff.mpr hvalid

/-! ## The decoder -/

/-- `Frame`, as the decoder delivers it: the body of a control frame is text that was not yet read -/
inductive RawFrame where
  | control (body : List UInt8)
  | content (requestId : Nat) (body : List UInt8)
  deriving DecidableEq

def headerBytes : Nat := 5

/-- `validate_header` -/
def validateHeader (length : Nat) (kind : UInt8) : Except TransportError Nat := do
  ensure (length ≠ 0) .malformedFrame
  ensure (length ≤ maxFrameLength) .frameTooLarge
  let bodyLen := length - 1
  if kind = controlKind then
    ensure (1 ≤ bodyLen ∧ bodyLen ≤ maxControlBodyBytes) .malformedFrame
  else if kind = contentKind then
    ensure (9 ≤ bodyLen ∧ bodyLen ≤ 8 + maxContentBodyBytes) .malformedFrame
  else
    .error .malformedFrame
  return bodyLen

/-- `decode_body` -/
def decodeBody (kind : UInt8) (body : List UInt8) : Except TransportError RawFrame :=
  if kind = controlKind then do
    ensure (isUtf8 body) .malformedFrame
    return .control body
  else if kind = contentKind then do
    ensure (8 ≤ body.length) .malformedFrame
    let requestId := ofBeBytes (body.take 8)
    let content := body.drop 8
    ensure (¬ (requestId = 0 ∨ content = [])) .malformedFrame
    return .content requestId content
  else
    .error .malformedFrame

theorem validateHeader_eq_ok {length bodyLen : Nat} {kind : UInt8} : validateHeader length kind = .ok bodyLen ↔
    length = bodyLen + 1 ∧ length ≤ maxFrameLength ∧
      (kind = controlKind ∧ 1 ≤ bodyLen ∧ bodyLen ≤ maxControlBodyBytes ∨
        kind = contentKind ∧ 9 ≤ bodyLen ∧ bodyLen ≤ 8 + maxContentBodyBytes) := by
  have hkinds : controlKind ≠ contentKind := by decide
  unfold validateHeader
  by_cases hcontrol : kind = controlKind
  · subst hcontrol
    simp only [if_true, hkinds, seq_eq_ok, ensure_eq_ok, pure_eq_ok, true_and, false_and, or_false]
    omega
  · by_cases hcontent : kind = contentKind
    · simp only [hcontent, hkinds.symm, if_true, if_false, seq_eq_ok, ensure_eq_ok, pure_eq_ok, true_and, false_and,
        false_or]
      omega
    · simp [hcontrol, hcontent]

/-- a header that `validate_header` accepted -/
structure Header where
  kind : UInt8
  expected : Nat
  valid : validateHeader (expected + 1) kind = .ok expected

/-- `DecodeState`: a header or a body, each with bytes that are still to come -/
inductive DecodeState where
  | header (bytes : List UInt8) (room : bytes.length < headerBytes)
  | body (start : Header) (bytes : List UInt8) (room : bytes.length < start.expected)

/-- `FrameDecoder` -/
structure FrameDecoder where
  state : DecodeState
  failed : Bool

namespace DecodeState

def fresh : DecodeState := .header [] (by decide)

/-- the bytes that are missing -/
def room : DecodeState → Nat
  | .header bytes _ => headerBytes - bytes.length
  | .body start bytes _ => start.expected - bytes.length

theorem room_pos (state : DecodeState) : 0 < state.room := by
  cases state <;> simp only [room] <;> omega

/-- the length of a frame is looked at as soon as its four bytes are there -/
def checkLength (bytes : List UInt8) : Except TransportError Unit :=
  if 4 ≤ bytes.length then do
    ensure (ofBeBytes (bytes.take 4) ≠ 0) .malformedFrame
    ensure (ofBeBytes (bytes.take 4) ≤ maxFrameLength) .frameTooLarge
  else .ok ()

/-- a header's bytes after a read -/
def advanceHeader (bytes : List UInt8) : Except TransportError DecodeState := do
  checkLength bytes
  if room : bytes.length < headerBytes then
    return .header bytes room
  else
    let kind := bytes.getD 4 0
    match valid : validateHeader (ofBeBytes (bytes.take 4)) kind with
    | .error e => .error e
    | .ok expected =>
      have hvalid := validateHeader_eq_ok.mp valid
      return .body ⟨kind, expected, hvalid.1 ▸ valid⟩ [] (by simp only [List.length_nil]; omega)

/-- a body's bytes after a read -/
def advanceBody (start : Header) (bytes : List UInt8) : Except TransportError (DecodeState × Option RawFrame) :=
  if room : bytes.length < start.expected then
    .ok (.body start bytes room, none)
  else do
    let frame ← decodeBody start.kind bytes
    return (fresh, some frame)

/-- bytes that the state has room for -/
def advance : DecodeState → List UInt8 → Except TransportError (DecodeState × Option RawFrame)
  | .header bytes _, slice => do
    let state ← advanceHeader (bytes ++ slice)
    return (state, none)
  | .body start bytes _, slice => advanceBody start (bytes ++ slice)

end DecodeState

namespace FrameDecoder

def new : FrameDecoder := ⟨.fresh, false⟩

/-- the loop of `push`: every round takes what the state has room for -/
def pushLoop (state : DecodeState) (frames : List RawFrame) (input : List UInt8) :
    Except TransportError (List RawFrame) × FrameDecoder :=
  if input = [] then (.ok frames, ⟨state, false⟩)
  else
    match state.advance (input.take state.room) with
    | .error e => (.error e, ⟨state, true⟩)
    | .ok (state', frame) => pushLoop state' (frames ++ frame.toList) (input.drop state.room)
termination_by input.length
decreasing_by
  have hroom := state.room_pos
  have hinput := List.length_pos_of_ne_nil (l := input) ‹_›
  rw [List.length_drop]
  omega

/-- `push` -/
def push (d : FrameDecoder) (input : List UInt8) : Except TransportError (List RawFrame) × FrameDecoder :=
  if d.failed then (.error .malformedFrame, d) else pushLoop d.state [] input

/-- `finish` -/
def finish (d : FrameDecoder) : Except TransportError Unit :=
  match d.state with
  | .header [] _ => if d.failed then .error .malformedFrame else .ok ()
  | _ => .error .malformedFrame

end FrameDecoder

/-! ## One byte at a time -/

namespace DecodeState

variable {state state' : DecodeState} {bytes rest : List UInt8} {b : UInt8}

/-- the machine that the decoder is a reader of -/
abbrev accept (state : DecodeState) (b : UInt8) : Except TransportError (DecodeState × Option RawFrame) := state.advance [b]

theorem checkLength_append (h : 4 ≤ bytes.length) : checkLength (bytes ++ rest) = checkLength bytes := by
  have hlong : 4 ≤ (bytes ++ rest).length := by simp only [List.length_append]; omega
  simp only [checkLength, if_pos h, if_pos hlong, List.take_append_of_le_length h]

theorem advanceHeader_short (h : bytes.length < headerBytes) :
    advanceHeader bytes = (checkLength bytes).map fun _ => .header bytes h := by
  rw [advanceHeader]
  cases checkLength bytes with
  | error e => rfl
  | ok u => simp [bind, Except.bind, h, pure, Except.pure, Except.map]

theorem advanceHeader_error {e : TransportError} (h : checkLength bytes = .error e) : advanceHeader bytes = .error e := by
  rw [advanceHeader, h]
  rfl

/-- a slice is read like its first byte and then the others -/
theorem advance_cons (hrest : rest ≠ []) (hroom : (b :: rest).length ≤ state.room) :
    (∃ e, state.advance [b] = .error e ∧ state.advance (b :: rest) = .error e) ∨
    ∃ state', state.advance [b] = .ok (state', none) ∧ state.advance (b :: rest) = state'.advance rest ∧
      state'.room + 1 = state.room := by
  have hpos := List.length_pos_of_ne_nil hrest
  cases state with
  | header bytes room =>
    simp only [DecodeState.room, List.length_cons, headerBytes] at hroom room
    have hone : (bytes ++ [b]).length < headerBytes := by simp [headerBytes]; omega
    have hsplit : bytes ++ b :: rest = (bytes ++ [b]) ++ rest := by simp
    cases hcheck : checkLength (bytes ++ [b]) with
    | error e =>
      -- the length is complete with this byte, and is refused with or without the bytes after it
      have hfour : 4 ≤ (bytes ++ [b]).length := by
        by_contra hshort
        rw [checkLength, if_neg hshort] at hcheck
        cases hcheck
      refine .inl ⟨e, ?_, ?_⟩
      · simp only [advance, advanceHeader_error hcheck]
        rfl
      · simp only [advance, hsplit, advanceHeader_error ((checkLength_append hfour).trans hcheck)]
        rfl
    | ok u =>
      refine .inr ⟨.header (bytes ++ [b]) hone, ?_, ?_, ?_⟩
      · simp only [advance, advanceHeader_short hone, hcheck]
        rfl
      · simp only [advance, hsplit]
      · simp only [DecodeState.room, List.length_append, List.length_singleton, headerBytes]
        omega
  | body start bytes room =>
    simp only [DecodeState.room, List.length_cons] at hroom
    have hone : (bytes ++ [b]).length < start.expected := by simp only [List.length_append, List.length_singleton]; omega
    refine .inr ⟨.body start (bytes ++ [b]) hone, ?_, ?_, ?_⟩
    · simp only [advance, advanceBody, hone, dif_pos]
    · simp only [advance, List.append_assoc, List.cons_append, List.nil_append]
    · simp only [DecodeState.room, List.length_append, List.length_singleton]
      omega

/-- a slice the state has room for is read like its bytes one at a time -/
theorem advance_slice {slice : List UInt8} (hslice : slice ≠ []) (hroom : slice.length ≤ state.room) :
    feed accept state slice = match state.advance slice with
      | .error e => ([], .error e)
      | .ok (state', frame) => (frame.toList, .ok state') := by
  induction slice generalizing state with
  | nil => exact absurd rfl hslice
  | cons b rest ih =>
    by_cases hrest : rest = []
    · subst hrest
      cases hb : accept state b with
      | error e =>
        rw [feed_cons_error hb, show state.advance [b] = _ from hb]
      | ok r =>
        rw [feed_cons_ok hb, show state.advance [b] = _ from hb]
        simp
    · rcases advance_cons hrest hroom with ⟨e, hb, hall⟩ | ⟨state', hb, hall, hless⟩
      · have hbyte : accept state b = .error e := hb
        rw [hall, feed_cons_error hbyte]
      · have hbyte : accept state b = .ok (state', none) := hb
        have hfits : rest.length ≤ state'.room := by
          simp only [List.length_cons] at hroom
          omega
        rw [hall, feed_cons_ok hbyte, ih hrest hfits]
        cases state'.advance rest with
        | error e => rfl
        | ok r => simp

end DecodeState

namespace FrameDecoder

open DecodeState

/-- the loop of `push` reads its input like the machine, one byte at a time -/
theorem pushLoop_eq (state : DecodeState) (frames : List RawFrame) (input : List UInt8) :
    (∀ out state', feed accept state input = (out, .ok state') →
      pushLoop state frames input = (.ok (frames ++ out), ⟨state', false⟩)) ∧
    ∀ out e, feed accept state input = (out, .error e) → ∃ d, d.failed = true ∧ pushLoop state frames input = (.error e, d) := by
  induction hn : input.length using Nat.strong_induction_on generalizing state frames input with
  | _ n ih =>
    unfold pushLoop
    by_cases hinput : input = []
    · subst hinput
      constructor
      · intro out state' h
        simp only [feed_nil, Prod.mk.injEq, Except.ok.injEq] at h
        obtain ⟨rfl, rfl⟩ := h
        simp
      · intro out e h
        simp at h
    · have hpos := List.length_pos_of_ne_nil hinput
      have hroom := state.room_pos
      have hslice : input.take state.room ≠ [] := by
        rw [← List.length_pos_iff, List.length_take]
        omega
      have hfits : (input.take state.room).length ≤ state.room := by
        rw [List.length_take]
        omega
      have hfeed := advance_slice hslice hfits
      have hsplit := List.take_append_drop state.room input
      rw [if_neg hinput]
      cases hadv : state.advance (input.take state.room) with
      | error e =>
        rw [hadv] at hfeed
        have hall : feed accept state input = ([], .error e) := by
          rw [← hsplit]
          exact feed_append_error hfeed
        constructor
        · intro out state' h
          rw [hall] at h
          cases h
        · intro out e' h
          rw [hall, Prod.mk.injEq, Except.error.injEq] at h
          exact ⟨⟨state, true⟩, rfl, by rw [h.2]⟩
      | ok r =>
        obtain ⟨mid, frame⟩ := r
        rw [hadv] at hfeed
        have hless : (input.drop state.room).length < n := by
          rw [List.length_drop]
          omega
        obtain ⟨hok, herror⟩ := ih _ hless mid (frames ++ frame.toList) (input.drop state.room) rfl
        have hall : feed accept state input =
            (frame.toList ++ (feed accept mid (input.drop state.room)).1, (feed accept mid (input.drop state.room)).2) := by
          conv_lhs => rw [← hsplit]
          exact feed_append_ok hfeed
        constructor
        · intro out state' h
          rw [hall, Prod.mk.injEq] at h
          obtain ⟨rfl, hstate⟩ := h
          simp only [hok _ _ (Prod.ext rfl hstate), List.append_assoc]
        · intro out e h
          rw [hall, Prod.mk.injEq] at h
          obtain ⟨rfl, hstate⟩ := h
          exact herror _ _ (Prod.ext rfl hstate)

/-- the decoder is a reader of the machine -/
theorem reads : Reads accept push (fun state => ⟨state, false⟩) fun d => d.failed = true where
  ok h := by simpa [push] using (pushLoop_eq _ [] _).1 _ _ h
  error h := by simpa [push] using (pushLoop_eq _ [] _).2 _ _ h
  failed l hd := ⟨_, _, hd, by rw [push, if_pos hd]⟩

end FrameDecoder

/-! ## The frames at the start of a stream -/

namespace RawFrame

/-- the bytes of a frame -/
def bytes : RawFrame → List UInt8
  | .control body => beBytes32 (body.length + 1) ++ controlKind :: body
  | .content requestId body => beBytes32 (body.length + 9) ++ contentKind :: (beBytes64 requestId ++ body)

/-- what the contract asks of a frame -/
def WellFormed : RawFrame → Prop
  | .control body => isUtf8 body = true ∧ 1 ≤ body.length ∧ body.length ≤ maxControlBodyBytes
  | .content requestId body => (1 ≤ requestId ∧ requestId < 2 ^ 64) ∧ 1 ≤ body.length ∧ body.length ≤ maxContentBodyBytes

end RawFrame

/-- the stream starts with these frames -/
def Leading (stream : List UInt8) (frames : List RawFrame) : Prop :=
  (∀ frame ∈ frames, frame.WellFormed) ∧ (frames.map RawFrame.bytes).flatten <+: stream

namespace DecodeState

/-- the bytes of the frame that is under way -/
def pending : DecodeState → List UInt8
  | .header bytes _ => bytes
  | .body start bytes _ => beBytes32 (start.expected + 1) ++ start.kind :: bytes

variable {state state' : DecodeState} {b : UInt8}

/-- a complete header is the length and the kind it was read as -/
theorem pending_advanceHeader {bytes : List UInt8} (hlength : bytes.length ≤ headerBytes)
    (h : advanceHeader bytes = .ok state) : state.pending = bytes := by
  simp only [advanceHeader, seq_eq_ok] at h
  obtain ⟨-, h⟩ := h
  by_cases hroom : bytes.length < headerBytes
  · rw [dif_pos hroom, pure_eq_ok] at h
    rw [← h, pending]
  · rw [dif_neg hroom] at h
    obtain ⟨a, c, d, e, kind, rfl⟩ : ∃ a c d e kind, bytes = [a, c, d, e, kind] := by
      have hfive : bytes.length = 5 := by
        simp only [headerBytes] at hlength hroom
        omega
      rcases bytes with _ | ⟨a, _ | ⟨c, _ | ⟨d, _ | ⟨e, _ | ⟨kind, _ | ⟨_, _⟩⟩⟩⟩⟩⟩ <;> simp at hfive
      exact ⟨a, c, d, e, kind, rfl⟩
    split at h
    · cases h
    · rename_i expected hvalid
      rw [pure_eq_ok] at h
      have hexpected := (validateHeader_eq_ok.mp hvalid).1
      simp only [List.take_succ_cons, List.take_zero] at hexpected
      rw [← h, pending, ← hexpected, beBytes32_ofBeBytes]
      rfl

/-- a complete body is a well formed frame with the bytes that were read -/
theorem bytes_of_decodeBody {start : Header} {body : List UInt8} {frame : RawFrame} (hlength : body.length = start.expected)
    (h : decodeBody start.kind body = .ok frame) :
    frame.bytes = beBytes32 (start.expected + 1) ++ start.kind :: body ∧ frame.WellFormed := by
  obtain ⟨-, -, hkind⟩ := validateHeader_eq_ok.mp start.valid
  unfold decodeBody at h
  rcases hkind with ⟨hcontrol, hlow, hhigh⟩ | ⟨hcontent, hlow, hhigh⟩
  · simp only [hcontrol, if_true, seq_eq_ok, ensure_eq_ok, pure_eq_ok] at h
    obtain ⟨hutf8, rfl⟩ := h
    exact ⟨by rw [RawFrame.bytes, hcontrol, hlength], hutf8, by omega, by omega⟩
  · have hkinds : contentKind ≠ controlKind := by decide
    simp only [hcontent, hkinds, if_true, if_false, seq_eq_ok, ensure_eq_ok, pure_eq_ok, not_or] at h
    obtain ⟨height, ⟨hid, hbody⟩, rfl⟩ := h
    obtain ⟨a, b, c, d, e, f, g, i, content, rfl⟩ : ∃ a b c d e f g i content, body = a :: b :: c :: d :: e :: f :: g :: i :: content := by
      rcases body with _ | ⟨a, _ | ⟨b, _ | ⟨c, _ | ⟨d, _ | ⟨e, _ | ⟨f, _ | ⟨g, _ | ⟨i, content⟩⟩⟩⟩⟩⟩⟩⟩ <;> simp at height
      exact ⟨a, b, c, d, e, f, g, i, content, rfl⟩
    simp only [List.length_cons] at hlength
    have hlt := ofBeBytes_lt [a, b, c, d, e, f, g, i]
    have hpos := List.length_pos_of_ne_nil hbody
    simp only [List.take_succ_cons, List.take_zero, List.drop_succ_cons, List.drop_zero] at hid hbody hpos ⊢
    refine ⟨?_, ⟨by omega, by simpa using hlt⟩, by omega, ?_⟩
    · rw [RawFrame.bytes, hcontent, beBytes64_ofBeBytes, ← hlength]
      rfl
    · simp only [maxContentBodyBytes] at hhigh ⊢
      omega

/-- a byte that completes no frame is kept -/
theorem pending_accept (h : accept state b = .ok (state', none)) : state'.pending = state.pending ++ [b] := by
  cases state with
  | header bytes room =>
    simp only [accept, advance, bind_eq_ok, pure_eq_ok, Prod.mk.injEq, and_true] at h
    obtain ⟨mid, hmid, rfl⟩ := h
    have hlength : (bytes ++ [b]).length ≤ headerBytes := by
      simp only [List.length_append, List.length_singleton]
      omega
    exact pending_advanceHeader hlength hmid
  | body start bytes room =>
    simp only [accept, advance, advanceBody] at h
    split at h
    · simp only [Except.ok.injEq, Prod.mk.injEq, and_true] at h
      rw [← h]
      simp [pending]
    · simp only [bind_eq_ok, pure_eq_ok, Prod.mk.injEq, reduceCtorEq, and_false, exists_false] at h

/-- a byte that completes a frame -/
theorem frame_accept {frame : RawFrame} (h : accept state b = .ok (state', some frame)) :
    state' = fresh ∧ frame.bytes = state.pending ++ [b] ∧ frame.WellFormed := by
  cases state with
  | header bytes room =>
    simp only [accept, advance, bind_eq_ok, pure_eq_ok, Prod.mk.injEq, reduceCtorEq, and_false, exists_false] at h
  | body start bytes room =>
    simp only [accept, advance, advanceBody] at h
    split at h
    · simp at h
    · rename_i hfull
      simp only [bind_eq_ok, pure_eq_ok, Prod.mk.injEq, Option.some.injEq] at h
      obtain ⟨decoded, hdecoded, rfl, rfl⟩ := h
      have hlength : (bytes ++ [b]).length = start.expected := by
        simp only [List.length_append, List.length_singleton] at hfull ⊢
        omega
      obtain ⟨hbytes, hwell⟩ := bytes_of_decodeBody hlength hdecoded
      exact ⟨rfl, by rw [hbytes]; simp [pending], hwell⟩

/-- the frames that were delivered are the ones whose bytes were read -/
theorem feed_leading (state : DecodeState) (input : List UInt8) :
    Leading (state.pending ++ input) (feed accept state input).1 := by
  induction input generalizing state with
  | nil => exact ⟨by simp, by simp⟩
  | cons b rest ih =>
    cases hb : accept state b with
    | error e =>
      rw [feed_cons_error hb]
      exact ⟨by simp, by simp⟩
    | ok r =>
      obtain ⟨state', _ | frame⟩ := r
      · have hsame : state.pending ++ b :: rest = state'.pending ++ rest := by
          rw [pending_accept hb, List.append_assoc, List.singleton_append]
        rw [feed_cons_ok hb, hsame]
        simpa using ih state'
      · obtain ⟨rfl, hbytes, hwell⟩ := frame_accept hb
        obtain ⟨hall, hpre⟩ := ih fresh
        rw [feed_cons_ok hb]
        refine ⟨?_, ?_⟩
        · intro f hf
          simp only [Option.toList_some, List.singleton_append, List.mem_cons] at hf
          rcases hf with rfl | hf
          · exact hwell
          · exact hall f hf
        · have hsame : state.pending ++ b :: rest = frame.bytes ++ rest := by
            rw [hbytes, List.append_assoc, List.singleton_append]
          have hrest : fresh.pending ++ rest = rest := rfl
          rw [hrest] at hpre
          rw [hsame]
          simpa using (List.prefix_append_right_inj frame.bytes).mpr hpre

/-- a well formed frame is a header that is accepted and a body that is decoded -/
theorem wellFormed_parts {frame : RawFrame} (h : frame.WellFormed) :
    ∃ kind body, frame.bytes = beBytes32 (body.length + 1) ++ kind :: body ∧
      validateHeader (body.length + 1) kind = .ok body.length ∧ decodeBody kind body = .ok frame := by
  cases frame with
  | control body =>
    obtain ⟨hutf8, hlow, hhigh⟩ := h
    have hlength : body.length + 1 ≤ maxFrameLength := by
      simp only [maxFrameLength, maxControlBodyBytes] at hhigh ⊢
      omega
    refine ⟨controlKind, body, rfl, validateHeader_eq_ok.mpr ⟨rfl, hlength, .inl ⟨rfl, hlow, hhigh⟩⟩, ?_⟩
    rw [decodeBody, if_pos rfl]
    simp only [seq_eq_ok, ensure_eq_ok, pure_eq_ok, and_true]
    exact hutf8
  | content requestId body =>
    obtain ⟨⟨hid, hlt⟩, hlow, hhigh⟩ := h
    have hkinds : contentKind ≠ controlKind := by decide
    have height : (beBytes64 requestId).length = 8 := rfl
    have hall : (beBytes64 requestId ++ body).length = body.length + 8 := by rw [List.length_append, height, add_comm]
    have hlength : body.length + 8 + 1 ≤ maxFrameLength := by
      simp only [maxFrameLength, maxContentBodyBytes] at hhigh ⊢
      omega
    refine ⟨contentKind, beBytes64 requestId ++ body, by rw [hall]; rfl, ?_, ?_⟩
    · rw [hall]
      exact validateHeader_eq_ok.mpr ⟨rfl, hlength, .inr ⟨rfl, by omega, by omega⟩⟩
    · have htake : (beBytes64 requestId ++ body).take 8 = beBytes64 requestId := List.take_left' height
      have hdrop : (beBytes64 requestId ++ body).drop 8 = body := List.drop_left' height
      have hne : body ≠ [] := List.length_pos_iff.mp hlow
      rw [decodeBody, if_neg hkinds, if_pos rfl]
      simp only [seq_eq_ok, ensure_eq_ok, pure_eq_ok, htake, hdrop, ofBeBytes_beBytes64 hlt, and_true, not_or]
      exact ⟨by omega, by omega, hne⟩

/-- the five bytes of a header that is accepted -/
theorem advanceHeader_valid {n : Nat} {kind : UInt8} (hvalid : validateHeader (n + 1) kind = .ok n) (hpos : 0 < n) :
    advanceHeader (beBytes32 (n + 1) ++ [kind]) = .ok (.body ⟨kind, n, hvalid⟩ [] hpos) := by
  have hlimit := (validateHeader_eq_ok.mp hvalid).2.1
  have hfour : (beBytes32 (n + 1)).length = 4 := rfl
  have htake : (beBytes32 (n + 1) ++ [kind]).take 4 = beBytes32 (n + 1) := List.take_left' hfour
  have hnumber : ofBeBytes ((beBytes32 (n + 1) ++ [kind]).take 4) = n + 1 := by
    rw [htake, ofBeBytes_beBytes32 (lt_of_le_of_lt hlimit (by decide))]
  have hkind : (beBytes32 (n + 1) ++ [kind]).getD 4 0 = kind := rfl
  have hcheck : checkLength (beBytes32 (n + 1) ++ [kind]) = .ok () := by
    rw [checkLength, if_pos (by simp [hfour]), hnumber]
    simp only [seq_eq_ok, ensure_eq_ok]
    exact ⟨by omega, hlimit⟩
  have hfull : ¬ (beBytes32 (n + 1) ++ [kind]).length < headerBytes := by simp [hfour, headerBytes]
  simp only [advanceHeader, seq_eq_ok, hcheck, dif_neg hfull, true_and]
  split
  · rename_i e he
    rw [hnumber, hkind, hvalid] at he
    cases he
  · rename_i expected he
    have hexpected := he
    rw [hnumber, hkind, hvalid, Except.ok.injEq] at hexpected
    subst hexpected
    rfl

/-- the bytes of a well formed frame are read as that frame -/
theorem feed_bytes {frame : RawFrame} (h : frame.WellFormed) : feed accept fresh frame.bytes = ([frame], .ok fresh) := by
  obtain ⟨kind, body, hbytes, hvalid, hdecode⟩ := wellFormed_parts h
  have hpos : 0 < body.length := by
    have hkind := (validateHeader_eq_ok.mp hvalid).2.2
    omega
  -- the header takes five bytes, the body all the others
  have hheader : feed accept fresh (beBytes32 (body.length + 1) ++ [kind]) =
      ([], .ok (.body ⟨kind, body.length, hvalid⟩ [] hpos)) := by
    have hadvance : advance fresh (beBytes32 (body.length + 1) ++ [kind]) =
        .ok (.body ⟨kind, body.length, hvalid⟩ [] hpos, none) := by
      rw [fresh, advance, List.nil_append, advanceHeader_valid hvalid hpos]
      rfl
    rw [advance_slice (by simp) (by rfl), hadvance]
    rfl
  have hbody : feed accept (.body ⟨kind, body.length, hvalid⟩ [] hpos) body = ([frame], .ok fresh) := by
    rw [advance_slice (List.length_pos_iff.mp hpos) (by simp [room]), advance, advanceBody, List.nil_append,
      dif_neg (lt_irrefl _), hdecode]
    rfl
  have hsplit : beBytes32 (body.length + 1) ++ kind :: body = (beBytes32 (body.length + 1) ++ [kind]) ++ body := by simp
  rw [hbytes, hsplit, feed_append_ok hheader, hbody]
  rfl

theorem feed_frames {frames : List RawFrame} (h : ∀ frame ∈ frames, frame.WellFormed) :
    feed accept fresh (frames.map RawFrame.bytes).flatten = (frames, .ok fresh) := by
  induction frames with
  | nil => rfl
  | cons frame frames ih =>
    rw [List.map_cons, List.flatten_cons, feed_append_ok (feed_bytes (h frame List.mem_cons_self)),
      ih fun f hf => h f (List.mem_cons_of_mem _ hf)]
    rfl

/-- frames at the start of a stream are the first ones that are delivered -/
theorem leading_prefix {stream : List UInt8} {frames : List RawFrame} (h : Leading stream frames) :
    frames <+: (feed accept fresh stream).1 := by
  obtain ⟨hwell, rest, rfl⟩ := h
  rw [feed_append_ok (feed_frames hwell)]
  exact List.prefix_append _ _

end DecodeState

/-! ## The codec -/

/-- `encode_content` -/
def encodeContent (requestId : Nat) (body : List UInt8) : Except TransportError (List UInt8) := do
  ensure (¬ (requestId = 0 ∨ body = [] ∨ maxContentBodyBytes < body.length)) .malformedFrame
  encode contentKind (beBytes64 requestId ++ body)

/-- what one side sends: a control frame, or the body of an upload under a `u64` -/
inductive Sent where
  | control (frame : ControlFrame)
  | content (requestId : UInt64) (body : List UInt8)

namespace Sent

def encode : Sent → Except TransportError (List UInt8)
  | .control frame => encodeControl frame
  | .content requestId body => encodeContent requestId.toNat body

/-- what the other side is to receive -/
def frame : Sent → RawFrame
  | .control frame => .control frame.encode
  | .content requestId body => .content requestId.toNat body

/-- what is encoded is a well formed frame, byte for byte -/
theorem encode_eq_ok {sent : Sent} {bytes : List UInt8} (h : sent.encode = .ok bytes) :
    sent.frame.WellFormed ∧ bytes = sent.frame.bytes := by
  cases sent with
  | control frame =>
    simp only [encode, encodeControl, Transport.encode, seq_eq_ok, ensure_eq_ok, pure_eq_ok, not_or, not_lt] at h
    obtain ⟨⟨hne, hhigh⟩, -, -, rfl⟩ := h
    exact ⟨⟨isUtf8_utf8 _, List.length_pos_iff.mpr hne, hhigh⟩, rfl⟩
  | content requestId body =>
    simp only [encode, encodeContent, Transport.encode, seq_eq_ok, ensure_eq_ok, pure_eq_ok, not_or, not_lt] at h
    obtain ⟨⟨hid, hne, hhigh⟩, -, -, rfl⟩ := h
    refine ⟨⟨⟨by omega, requestId.toNat_lt⟩, List.length_pos_iff.mpr hne, hhigh⟩, ?_⟩
    rw [frame, RawFrame.bytes, List.length_append, show (beBytes64 requestId.toNat).length = 8 from rfl,
      show 8 + body.length + 1 = body.length + 9 by omega]

end Sent

open FrameDecoder DecodeState in
/-- **The frame codec.** Whatever frames were encoded and however their bytes are cut into chunks, every `push` succeeds, the
frames come out in order and `finish` succeeds. For any bytes at all, two ways of cutting them end alike: either every `push`
succeeds and the frames and the result of `finish` are the same, or both meet the same error; then what was delivered before it
is a first part of the frames at the start of the stream, and every later `push` fails. -/
theorem chunks_decode :
    (∀ (sents : List Sent) (encoded : List (List UInt8)),
      List.Forall₂ (fun sent bytes => sent.encode = .ok bytes) sents encoded → ∀ chunks : List (List UInt8),
      chunks.flatten = encoded.flatten → ∃ outs : List (List RawFrame), (pushes push new chunks).1 = outs.map .ok ∧
        outs.flatten = sents.map Sent.frame ∧ (pushes push new chunks).2.finish = .ok ()) ∧
    ∀ chunks chunks' : List (List UInt8), chunks.flatten = chunks'.flatten →
      (∃ outs outs' : List (List RawFrame), (pushes push new chunks).1 = outs.map .ok ∧
        (pushes push new chunks').1 = outs'.map .ok ∧
        outs.flatten = outs'.flatten ∧ (pushes push new chunks).2.finish = (pushes push new chunks').2.finish) ∨
      ∃ (e : TransportError) (outs outs' : List (List RawFrame)) (later later' : List (Except TransportError (List RawFrame)))
        (all : List RawFrame), (pushes push new chunks).1 = outs.map .ok ++ .error e :: later ∧
        (pushes push new chunks').1 = outs'.map .ok ++ .error e :: later' ∧
        Leading chunks.flatten all ∧ (∀ frames, Leading chunks.flatten frames → frames <+: all) ∧
        outs.flatten <+: all ∧ outs'.flatten <+: all ∧ (∀ r ∈ later ++ later', ∃ e, r = .error e) ∧
        ∀ more, ∀ r ∈ (pushes push (pushes push new chunks).2 more).1 ++ (pushes push (pushes push new chunks').2 more).1,
          ∃ e, r = .error e := by
  constructor
  · intro sents encoded hencoded chunks hchunks
    have hparts : (∀ frame ∈ sents.map Sent.frame, frame.WellFormed) ∧
        encoded = (sents.map Sent.frame).map RawFrame.bytes := by
      clear hchunks
      induction hencoded with
      | nil => simp
      | cons h _ ih =>
        obtain ⟨hwell, rfl⟩ := Sent.encode_eq_ok h
        refine ⟨?_, by rw [List.map_cons, List.map_cons, ← ih.2]⟩
        simp only [List.map_cons, List.mem_cons, forall_eq_or_imp]
        exact ⟨hwell, ih.1⟩
    have hfeed : feed accept fresh chunks.flatten = (sents.map Sent.frame, .ok fresh) := by
      rw [hchunks, hparts.2]
      exact feed_frames hparts.1
    obtain ⟨outs, houts, hpushes⟩ := pushes_ok reads hfeed
    refine ⟨outs, by rw [new, hpushes], houts, ?_⟩
    rw [new, hpushes]
    rfl
  · intro chunks chunks' hsame
    rcases hfeed : feed accept fresh chunks.flatten with ⟨all, e | state⟩
    · right
      obtain ⟨outs, later, d, hpre, hd, hlater, hpushes⟩ := pushes_error reads hfeed
      obtain ⟨outs', later', d', hpre', hd', hlater', hpushes'⟩ := pushes_error reads (hsame ▸ hfeed)
      have hall : (feed accept fresh chunks.flatten).1 = all := by rw [hfeed]
      refine ⟨e, outs, outs', later, later', all, by rw [new, hpushes], by rw [new, hpushes'], ?_, ?_, hpre, hpre', ?_, ?_⟩
      · rw [← hall]
        exact feed_leading fresh chunks.flatten
      · intro frames hframes
        rw [← hall]
        exact leading_prefix hframes
      · exact List.forall_mem_append.mpr ⟨hlater, hlater'⟩
      · intro more
        rw [new, hpushes, hpushes']
        exact List.forall_mem_append.mpr ⟨(pushes_failed reads hd more).2, (pushes_failed reads hd' more).2⟩
    · left
      obtain ⟨outs, houts, hpushes⟩ := pushes_ok reads hfeed
      obtain ⟨outs', houts', hpushes'⟩ := pushes_ok reads (hsame ▸ hfeed)
      refine ⟨outs, outs', by rw [new, hpushes], by rw [new, hpushes'], houts.trans houts'.symm, ?_⟩
      rw [new, hpushes, hpushes']

/-- a ping and an upload of one byte, byte by byte -/
theorem chunks_decode_ping : ∃ (first second : List UInt8) (outs : List (List RawFrame)), (Sent.control (.ping 7 7)).encode = .ok first ∧
    (Sent.content 9 [112]).encode = .ok second ∧
    (pushes FrameDecoder.push .new ((first ++ second).map fun byte => [byte])).1 = outs.map .ok ∧
    outs.flatten = [.control (ControlFrame.ping 7 7).encode, .content 9 [112]] := by
  obtain ⟨first, hfirst⟩ := (encodeControl_ok_iff (.ping 7 7)).mpr (by decide +kernel)
  have hchunks : ((first ++ (RawFrame.content 9 [112]).bytes).map fun byte => [byte]).flatten =
      [first, (RawFrame.content 9 [112]).bytes].flatten := by
    rw [← List.flatMap_def]
    simp
  obtain ⟨outs, hresults, houts, -⟩ := chunks_decode.1 [.control (.ping 7 7), .content 9 [112]]
    [first, (RawFrame.content 9 [112]).bytes] (.cons hfirst (.cons (by decide +kernel) .nil)) _ hchunks
  exact ⟨first, _, outs, hfirst, by decide +kernel, hresults, houts⟩

end Kaleido.Transport
