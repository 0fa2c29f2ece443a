/-
Frame boundaries before authentication (`kaleido-hostd`, `server.rs`, `FrameBoundaryTracker`): the handshake reads through the
decoder, and a second, smaller machine watches the same bytes to know whether a frame is under way.

The tracker counts a frame's length from the end of its four-byte prefix; the decoder reads a five-byte header and a body.
`tracked` is the tracker that goes with a state of the decoder, and `tracker_follows_decoder` says that the two agree, whatever
the chunks are, for as long as the decoder accepts them.
-/
import Kaleido.Hostd.Business
import Kaleido.Transport.Decoder

namespace Kaleido.Hostd

open Check Feed Transport
open Business (LanServerError)

variable {bytes : List UInt8} {b : UInt8} {state' state : DecodeState}

/-- `FrameBoundaryTracker`: the bytes of `prefix` that are filled, fewer than four between two rounds -/
structure FrameBoundaryTracker where
  filled : List UInt8 := []
  room : filled.length < 4 := by decide
  frameRemaining : Nat := 0

namespace FrameBoundaryTracker

/-- the bytes that a round takes -/
def take (t : FrameBoundaryTracker) : Nat := if 0 < t.frameRemaining then t.frameRemaining else 4 - t.filled.length

theorem take_pos (t : FrameBoundaryTracker) : 0 < t.take := by
  have hroom := t.room
  unfold take
  split_ifs <;> omega

/-- the prefix after a read -/
def fill (filled : List UInt8) : Except LanServerError FrameBoundaryTracker :=
  if room : filled.length < 4 then .ok { filled := filled, room := room }
  else if ofBeBytes filled = 0 ∨ maxFrameLength < ofBeBytes filled then .error .transport
  else .ok { frameRemaining := ofBeBytes filled }

/-- a round of the loop, on bytes that it takes whole -/
def advance (t : FrameBoundaryTracker) (slice : List UInt8) : Except LanServerError FrameBoundaryTracker :=
  if 0 < t.frameRemaining then .ok { t with frameRemaining := t.frameRemaining - slice.length } else fill (t.filled ++ slice)

/-- the loop of `push` -/
def pushLoop (t : FrameBoundaryTracker) (bytes : List UInt8) : Except LanServerError FrameBoundaryTracker :=
  if bytes = [] then .ok t else t.advance (bytes.take t.take) >>= fun t' => pushLoop t' (bytes.drop t.take)
termination_by bytes.length
decreasing_by
  have htake := t.take_pos
  have hbytes := List.length_pos_of_ne_nil (l := bytes) ‹_›
  rw [List.length_drop]
  omega

/-- a frame is under way -/
def midFrame (t : FrameBoundaryTracker) : Bool := t.filled ≠ [] || t.frameRemaining ≠ 0

/-- `push` -/
def push (t : FrameBoundaryTracker) (bytes : List UInt8) : Except LanServerError (Bool × FrameBoundaryTracker) := do
  let t' ← t.pushLoop bytes
  return (t'.midFrame, t')

/-! ## One byte at a time -/

@[simp] theorem pushLoop_nil (t : FrameBoundaryTracker) : t.pushLoop [] = .ok t := by
  rw [pushLoop, if_pos rfl]

theorem pushLoop_ne {t : FrameBoundaryTracker} (h : bytes ≠ []) :
    t.pushLoop bytes = t.advance (bytes.take t.take) >>= fun t' => pushLoop t' (bytes.drop t.take) := by
  rw [pushLoop, if_neg h]

theorem advance_nil (t : FrameBoundaryTracker) : t.advance [] = .ok t := by
  rcases t with ⟨filled, room, frameRemaining⟩
  rcases frameRemaining with _ | n
  · simp only [advance, lt_irrefl, if_false, List.append_nil, fill, dif_pos room]
  · rfl

/-- a round that takes more than one byte may as well take the first one alone -/
theorem advance_first {t : FrameBoundaryTracker} (h : 1 < t.take) (b : UInt8) :
    ∃ t', t.advance [b] = .ok t' ∧ t.take = t'.take + 1 ∧ ∀ slice, t.advance (b :: slice) = t'.advance slice := by
  unfold take at h
  by_cases hframe : 0 < t.frameRemaining
  · rw [if_pos hframe] at h
    have hleft : 0 < t.frameRemaining - 1 := by omega
    refine ⟨{ t with frameRemaining := t.frameRemaining - 1 }, if_pos hframe, ?_, ?_⟩
    · rw [take, take, if_pos hframe, if_pos hleft]
      exact (Nat.succ_pred_eq_of_pos hframe).symm
    · intro slice
      simp only [advance, if_pos hframe, if_pos hleft, List.length_cons, Nat.sub_sub, Nat.add_comm 1]
  · rw [if_neg hframe] at h
    have hshort : (t.filled ++ [b]).length < 4 := by simp only [List.length_append, List.length_singleton]; omega
    refine ⟨{ filled := t.filled ++ [b], room := hshort }, ?_, ?_, ?_⟩
    · rw [advance, if_neg hframe, fill, dif_pos hshort]
    · simp only [take, if_neg hframe, lt_irrefl, if_false, List.length_append, List.length_singleton]
      omega
    · intro slice
      rw [advance, advance, if_neg hframe, if_neg (lt_irrefl 0), List.append_assoc, List.singleton_append]

theorem pushLoop_cons (t : FrameBoundaryTracker) (b : UInt8) (rest : List UInt8) :
    t.pushLoop (b :: rest) = t.advance [b] >>= fun t' => pushLoop t' rest := by
  rw [pushLoop_ne (by simp)]
  by_cases hone : t.take = 1
  · rw [hone]
    rfl
  · have htake := t.take_pos
    obtain ⟨t', hfirst, hmore, hslice⟩ := advance_first (t := t) (by omega) b
    rw [hmore, List.take_succ_cons, List.drop_succ_cons, hslice, hfirst]
    by_cases hrest : rest = []
    · subst hrest
      rw [List.take_nil, List.drop_nil, advance_nil]
    · exact (pushLoop_ne hrest).symm

/-! ## The tracker of a decoder -/

/-- the tracker that has seen what the decoder has seen since the last whole frame -/
def tracked : DecodeState → FrameBoundaryTracker
  | .header bytes _ => if room : bytes.length < 4 then { filled := bytes, room := room } else { frameRemaining := ofBeBytes bytes }
  | .body start bytes _ => { frameRemaining := start.expected - bytes.length }

/-- a byte of a header that the decoder takes -/
theorem advance_header {room : bytes.length < headerBytes} (h : DecodeState.advanceHeader (bytes ++ [b]) = .ok state') :
    (tracked (.header bytes room)).advance [b] = .ok (tracked state') := by
  simp only [DecodeState.advanceHeader, seq_eq_ok, DecodeState.checkLength] at h
  obtain ⟨hcheck, h⟩ := h
  by_cases hfour : bytes.length < 4
  · have hroom : (bytes ++ [b]).length < headerBytes := by simp [headerBytes]; omega
    rw [dif_pos hroom, pure_eq_ok] at h
    rw [← h]
    simp only [tracked, dif_pos hfour, advance, lt_irrefl, if_false, fill]
    by_cases hshort : (bytes ++ [b]).length < 4
    · rw [dif_pos hshort, dif_pos hshort]
    · -- the fourth byte: both look at the length
      have hall : (bytes ++ [b]).take 4 = bytes ++ [b] := List.take_of_length_le (by simp; omega)
      rw [if_pos (not_lt.mp hshort), seq_eq_ok, ensure_eq_ok, ensure_eq_ok, hall] at hcheck
      rw [dif_neg hshort, dif_neg hshort, if_neg (by omega)]
  · have hfive : ¬ (bytes ++ [b]).length < headerBytes := by simp [headerBytes]; omega
    have hfirst : (bytes ++ [b]).take 4 = bytes := by
      rw [List.take_append_of_le_length (by omega), List.take_of_length_le (by simp only [headerBytes] at room; omega)]
    rw [dif_neg hfive] at h
    split at h
    · cases h
    · rename_i expected hvalid
      rw [pure_eq_ok] at h
      obtain ⟨hlength, -⟩ := validateHeader_eq_ok.mp hvalid
      rw [hfirst] at hlength
      rw [← h]
      simp [tracked, dif_neg hfour, advance, hlength]

/-- a byte that the decoder takes moves both alike -/
theorem advance_tracked {frame : Option RawFrame} (h : state.accept b = .ok (state', frame)) :
    (tracked state).advance [b] = .ok (tracked state') := by
  cases state with
  | header bytes room =>
    simp only [DecodeState.accept, DecodeState.advance, bind_eq_ok, pure_eq_ok, Prod.mk.injEq] at h
    obtain ⟨mid, hmid, rfl, -⟩ := h
    exact advance_header hmid
  | body start bytes room =>
    have hleft : 0 < start.expected - bytes.length := by omega
    simp only [DecodeState.accept, DecodeState.advance, DecodeState.advanceBody] at h
    have htracked : (tracked (.body start bytes room)).advance [b] =
        .ok { frameRemaining := start.expected - bytes.length - 1 } := if_pos hleft
    rw [htracked]
    split at h
    · simp only [Except.ok.injEq, Prod.mk.injEq] at h
      simp only [← h.1, tracked, List.length_append, List.length_singleton, Nat.sub_sub]
    · rename_i hfull
      simp only [bind_eq_ok, pure_eq_ok, Prod.mk.injEq] at h
      obtain ⟨-, -, rfl, -⟩ := h
      have hlast : start.expected - bytes.length - 1 = 0 := by
        simp only [List.length_append, List.length_singleton] at hfull
        omega
      simp only [hlast]
      rfl

/-- the length of the frame under way was looked at -/
def Checked (state : DecodeState) : Prop := ∀ bytes room, state = .header bytes room → DecodeState.checkLength bytes = .ok ()

theorem checked_accept {frame : Option RawFrame} (h : state.accept b = .ok (state', frame)) : Checked state' := by
  rintro bytes' room' rfl
  cases state with
  | header bytes room =>
    simp only [DecodeState.accept, DecodeState.advance, bind_eq_ok, pure_eq_ok, Prod.mk.injEq] at h
    obtain ⟨mid, hmid, rfl, -⟩ := h
    have hlength : (bytes ++ [b]).length ≤ headerBytes := by simp only [List.length_append, List.length_singleton]; omega
    have hsame : bytes' = bytes ++ [b] := DecodeState.pending_advanceHeader hlength hmid
    rw [hsame]
    exact (seq_eq_ok.mp hmid).1
  | body start bytes room =>
    simp only [DecodeState.accept, DecodeState.advance, DecodeState.advanceBody] at h
    split at h
    · cases h
    · simp only [bind_eq_ok, pure_eq_ok, Prod.mk.injEq, DecodeState.fresh, DecodeState.header.injEq] at h
      obtain ⟨-, -, rfl, -⟩ := h
      rfl

/-- the tracker is between frames exactly when the decoder could stop -/
theorem midFrame_tracked (h : Checked state) :
    (tracked state).midFrame = !(FrameDecoder.finish ⟨state, false⟩).isOk := by
  cases state with
  | header bytes room =>
    have hchecked := h bytes room rfl
    rcases bytes with _ | ⟨b, bytes⟩
    · rfl
    · simp only [tracked, FrameDecoder.finish, Except.isOk, Except.toBool, Bool.not_false]
      split_ifs with hfour
      · simp [midFrame]
      · have hall : (b :: bytes).take 4 = b :: bytes := List.take_of_length_le (by simp only [headerBytes] at room; omega)
        rw [DecodeState.checkLength, if_pos (not_lt.mp hfour), seq_eq_ok, ensure_eq_ok, hall] at hchecked
        simp [midFrame, hchecked.1]
  | body start bytes room =>
    have hleft : start.expected - bytes.length ≠ 0 := by omega
    simp [tracked, midFrame, FrameDecoder.finish, Except.isOk, Except.toBool, hleft]

/-- bytes that the decoder takes leave the tracker of its state -/
theorem pushLoop_tracked {frames : List RawFrame} (hchecked : Checked state)
    (h : feed DecodeState.accept state bytes = (frames, .ok state')) :
    (tracked state).pushLoop bytes = .ok (tracked state') ∧ Checked state' := by
  induction bytes generalizing state frames with
  | nil =>
    simp only [feed_nil, Prod.mk.injEq, Except.ok.injEq] at h
    rw [pushLoop_nil, ← h.2]
    exact ⟨rfl, hchecked⟩
  | cons b rest ih =>
    cases hb : state.accept b with
    | error e =>
      rw [feed_cons_error hb] at h
      cases h
    | ok r =>
      rw [feed_cons_ok hb, Prod.mk.injEq] at h
      rw [pushLoop_cons, advance_tracked hb]
      exact ih (checked_accept hb) (Prod.ext rfl h.2)

end FrameBoundaryTracker

/-- what is said after a chunk: by `push` of the decoder, by `finish` if the stream ended there, and by the tracker -/
structure Said where
  decoded : Except TransportError (List RawFrame)
  finished : Except TransportError Unit
  tracked : Except LanServerError Bool

/-- the decoder and the tracker over the same chunks, up to a refusal of the tracker -/
def watch (d : FrameDecoder) (t : FrameBoundaryTracker) : List (List UInt8) → List Said
  | [] => []
  | chunk :: rest =>
    ⟨(d.push chunk).1, (d.push chunk).2.finish, (t.push chunk).map Prod.fst⟩ ::
      match t.push chunk with
      | .ok (_, t') => watch (d.push chunk).2 t' rest
      | .error _ => []

/-- **The tracker follows the decoder.** For as long as the decoder accepts the chunks, the tracker answers each of them, and
says that a frame is under way exactly when `finish` would fail. -/
theorem tracker_follows_decoder (chunks : List (List UInt8)) :
    ∀ said ∈ (watch .new {} chunks).takeWhile (·.decoded.isOk), said.tracked = .ok (!said.finished.isOk) := by
  suffices h : ∀ state : DecodeState, FrameBoundaryTracker.Checked state →
      ∀ said ∈ (watch ⟨state, false⟩ (.tracked state) chunks).takeWhile (·.decoded.isOk),
        said.tracked = .ok (!said.finished.isOk) by
    refine h .fresh ?_
    rintro _ _ ⟨⟩
    rfl
  induction chunks with
  | nil => simp [watch]
  | cons chunk rest ih =>
    intro state hchecked said
    rcases hfeed : feed DecodeState.accept state chunk with ⟨frames, e | state'⟩
    · obtain ⟨d, -, hpush⟩ := FrameDecoder.reads.error hfeed
      rw [watch, hpush, List.takeWhile_cons_of_neg (by simp [Except.isOk, Except.toBool])]
      simp
    · obtain ⟨hloop, hchecked'⟩ := FrameBoundaryTracker.pushLoop_tracked hchecked hfeed
      have htracker : (FrameBoundaryTracker.tracked state).push chunk =
          .ok ((FrameBoundaryTracker.tracked state').midFrame, .tracked state') := by
        rw [FrameBoundaryTracker.push, hloop]
        rfl
      rw [watch, FrameDecoder.reads.ok hfeed, htracker, List.takeWhile_cons_of_pos (by rfl), List.mem_cons]
      intro hsaid
      rcases hsaid with rfl | hlater
      · exact congrArg Except.ok (FrameBoundaryTracker.midFrame_tracked hchecked')
      · exact ih state' hchecked' said hlater

/-- one byte of a header -/
theorem tracker_follows_header_byte :
    (FrameBoundaryTracker.push {} [0]).map Prod.fst = .ok (!(FrameDecoder.new.push [0]).2.finish.isOk) := by
  refine tracker_follows_decoder [[0]] ⟨(FrameDecoder.new.push [0]).1, _, _⟩ ?_
  rw [watch, List.takeWhile_cons_of_pos (by decide +kernel)]
  exact List.mem_cons_self

end Kaleido.Hostd
