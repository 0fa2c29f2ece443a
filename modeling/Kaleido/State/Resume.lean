/-
What a subscriber is replayed (`kaleido-state`, `projection_journal.rs`; `kaleido-proto`, `projection.rs`), and that it passes
the checks of the client.

The entries of a history are numbered from zero without a gap (`history_cursor`), so that the entries from a cursor on are a
tail of the history (`filter_from`) and every tail follows the cursor before it (`sequence_drop`). `replay_decided` says what the
answer to a request is; `replay_satisfies_client` puts the facts together for every journal that calls of `record` make.

A request whose key has an empty identifier is not answered but fails (`empty_key_fails`), and a cursor that has no successor
is refused even when it is the head.
-/
import Kaleido.Lib.Run
import Kaleido.State.JournalFile

namespace Kaleido.State

open Check Proto

/-! ## Histories are numbered -/

section

variable {l : List ProjectionEnvelope} {key : ProjectionKey}

theorem history_valid (h : verifyHistory none l = .ok ()) : ∀ envelope ∈ l, envelope.validateForTransport = .ok () := by
  suffices hgen : ∀ previous, verifyHistory previous l = .ok () → ∀ envelope ∈ l, envelope.validateForTransport = .ok () from
    hgen none h
  clear h
  induction l with
  | nil => simp
  | cons first rest ih =>
    intro previous h envelope henvelope
    obtain ⟨hfirst, hrest⟩ := verifyHistory_cons.mp h
    rcases List.mem_cons.mp henvelope with rfl | hlater
    · exact hfirst.1
    · exact ih (some first) hrest envelope hlater

/-- the cursor of an entry is its place in the history -/
theorem history_cursor (h : verifyHistory none l = .ok ()) {i : Nat} (hi : i < l.length) : l[i].cursor = ⟨i⟩ := by
  have hsplit : l.take (i + 1) ++ l.drop (i + 1) = l := List.take_append_drop _ _
  rw [← hsplit, verifyHistory_append] at h
  have hlast : (l.take (i + 1)).getLast? = some l[i] := by
    rw [List.take_add_one, List.getElem?_eq_getElem hi, Option.toList_some, List.getLast?_concat]
  have hcount := verifyHistory_last h.1 hlast
  rw [List.length_take, min_eq_left hi] at hcount
  exact congrArg Cursor.mk (Nat.succ.inj hcount)

theorem history_next (h : verifyHistory none l = .ok ()) {i : Nat} (hi : i + 1 < l.length) :
    (⟨i⟩ : Cursor).next = .ok ⟨i + 1⟩ := by
  have hsplit : l.take (i + 1) ++ l.drop (i + 1) = l := List.take_append_drop _ _
  have hverified := h
  rw [← hsplit, verifyHistory_append, List.drop_eq_getElem_cons hi, verifyHistory_cons] at h
  have hlast : (l.take (i + 1)).getLast? = some l[i] := by
    rw [List.take_add_one, List.getElem?_eq_getElem (by omega), Option.toList_some, List.getLast?_concat]
  have hnext := h.2.1.2
  rw [hlast] at hnext
  have hsucc := hnext.2
  rwa [history_cursor hverified hi, history_cursor hverified (by omega)] at hsucc

/-- the entries from a cursor on are a tail of the history -/
theorem filter_from (h : verifyHistory none l = .ok ()) (n : Nat) :
    l.filter (fun entry => n ≤ entry.cursor.seq) = l.drop n := by
  have hplace : ∀ i (hi : i < l.length), l[i].cursor.seq = i := fun i hi => by rw [history_cursor h hi]
  conv_lhs => rw [← List.take_append_drop n l]
  rw [List.filter_append, List.filter_eq_nil_iff.mpr, List.filter_eq_self.mpr, List.nil_append]
  · intro entry hentry
    obtain ⟨i, hi, rfl⟩ := List.getElem_of_mem hentry
    rw [List.getElem_drop, hplace, decide_eq_true_iff]
    omega
  · intro entry hentry
    obtain ⟨i, hi, rfl⟩ := List.getElem_of_mem hentry
    rw [List.length_take] at hi
    rw [List.getElem_take, hplace, decide_eq_true_iff]
    omega

/-- every tail of the history follows the cursor before it -/
theorem sequence_drop (h : verifyHistory none l = .ok ()) (hkey : ∀ entry ∈ l, entry.key = key) {s : Nat} (hs : s < l.length) :
    validateProjectionSequence.go key ⟨s⟩ (l.drop (s + 1)) = .ok () := by
  -- by induction on the number of entries that are left
  induction hn : l.length - (s + 1) generalizing s with
  | zero =>
    rw [List.drop_eq_nil_iff.mpr (by omega)]
    rfl
  | succ n ih =>
    have hlt : s + 1 < l.length := by omega
    have hrest := ih (s := s + 1) hlt (by omega)
    have hcursor := history_cursor h hlt
    rw [List.drop_eq_getElem_cons hlt]
    simp only [validateProjectionSequence.go, bind_eq_ok, Unique.exists_iff, PUnit.default_eq_unit, ensure_eq_ok]
    refine ⟨history_valid h _ (List.getElem_mem hlt), hkey _ (List.getElem_mem hlt), ?_, ⟨s + 1⟩, history_next h hlt, hcursor, ?_⟩
    · rw [hcursor]
      simp
    · rw [hcursor]
      exact hrest

/-- the head is found by its cursor -/
theorem find_head (h : verifyHistory none l = .ok ()) {last : ProjectionEnvelope} (hlast : l.getLast? = some last) :
    (l.find? fun entry => entry.cursor = last.cursor) = some last := by
  obtain ⟨init, rfl⟩ := List.getLast?_eq_some_iff.mp hlast
  rw [List.find?_append, List.find?_eq_none.mpr, Option.none_or]
  · simp
  · intro entry hentry
    obtain ⟨i, hi, rfl⟩ := List.getElem_of_mem hentry
    have hcount := verifyHistory_last h hlast
    have hplace := history_cursor h (i := i) (by simp; omega)
    rw [List.getElem_append_left hi] at hplace
    rw [decide_eq_true_iff, hplace]
    rintro heq
    rw [← heq, List.length_append] at hcount
    simp at hcount
    omega

end

namespace ProjectionJournal

/-! ## The decision -/

section

variable {j : ProjectionJournal} {request : ProjectionSubscribe} {atMs : Int} {last : ProjectionEnvelope}

/-- the floor is a place of the history, and retention reaches back from the head -/
theorem floor_eq (hverified : j.Verified) (hretention : 1 ≤ j.retentionEntries) (hlast : j.current request.key = some last) :
    j.floor request.key = some ⟨(j.entriesOf request.key).length - j.retentionEntries⟩ := by
  have hne : (j.entriesOf request.key).length ≠ 0 := by
    intro hzero
    rw [current, List.length_eq_zero_iff.mp hzero] at hlast
    cases hlast
  have hlt : (j.entriesOf request.key).length - j.retentionEntries < (j.entriesOf request.key).length := by omega
  simp only [floor, List.getElem?_eq_getElem hlt, Option.map_some, history_cursor (hverified _) hlt]

/-- the outcome for a key that has a history -/
def outcomeFor (since : Option Cursor) (floor head : Cursor) (atMs : Int) : ProjectionSubscribeOutcome :=
  match since with
  | none => .currentFollows head
  | some since =>
    if head.seq < since.seq ∨ u64Max ≤ since.seq then .rejected ⟨.cursorGap, true, none, atMs⟩
    else if since.seq + 1 < floor.seq then .currentFollows head
    else .resumed ⟨since.seq + 1⟩

theorem decide_eq {floor head : Cursor} (hkey : request.key.validate = .ok ()) (hwindow : floor.seq ≤ head.seq) :
    decideProjectionSubscription request floor head atMs =
      .ok ⟨request.key, outcomeFor request.since floor head atMs⟩ := by
  simp only [decideProjectionSubscription, hkey, ensure, if_pos hwindow]
  cases request.since with
  | none => rfl
  | some since =>
    by_cases hbeyond : head.seq < since.seq
    · simp [outcomeFor, hbeyond, bind, Except.bind, pure, Except.pure]
    by_cases hlast : since.seq < u64Max
    · simp [outcomeFor, hbeyond, hlast, Cursor.next, bind, Except.bind, pure, Except.pure]
    · simp [outcomeFor, hbeyond, hlast, Cursor.next, bind, Except.bind, pure, Except.pure, not_lt.mp hlast]

/-- the views that follow an outcome -/
def following (j : ProjectionJournal) (key : ProjectionKey) (last : ProjectionEnvelope) :
    ProjectionSubscribeOutcome → List ProjectionEnvelope
  | .currentFollows _ => [last]
  | .resumed fromCursor => (j.entriesOf key).drop fromCursor.seq
  | .rejected _ => []

theorem outcomeFor_current {since : Option Cursor} {floor head current : Cursor}
    (h : outcomeFor since floor head atMs = .currentFollows current) :
    current = head ∧ ∀ s, since = some s → s.seq + 1 < floor.seq := by
  unfold outcomeFor at h
  cases since with
  | none =>
    cases h
    exact ⟨rfl, nofun⟩
  | some s =>
    dsimp only at h
    split_ifs at h with hrefused hlow
    cases h
    refine ⟨rfl, ?_⟩
    rintro _ ⟨⟩
    exact hlow

theorem outcomeFor_resumed {since : Option Cursor} {floor head fromCursor : Cursor} :
    outcomeFor since floor head atMs = .resumed fromCursor ↔ ∃ s, since = some s ∧ fromCursor = ⟨s.seq + 1⟩ ∧
      s.seq ≤ head.seq ∧ s.seq < u64Max ∧ floor.seq ≤ s.seq + 1 := by
  cases since with
  | none => simp [outcomeFor]
  | some s =>
    simp only [outcomeFor, Option.some.injEq, exists_eq_left']
    split_ifs with hrefused hlow
    · simp only [false_iff]
      omega
    · simp only [false_iff]
      omega
    · rw [not_or, not_lt, not_le] at hrefused
      simp [hrefused, not_lt.mp hlow, eq_comm]

theorem outcomeFor_rejected {since : Option Cursor} {floor head : Cursor} :
    (∃ error, outcomeFor since floor head atMs = .rejected error) ↔
      ∃ s, since = some s ∧ (head.seq < s.seq ∨ u64Max ≤ s.seq) := by
  cases since with
  | none => simp [outcomeFor]
  | some s =>
    simp only [outcomeFor, Option.some.injEq, exists_eq_left']
    split_ifs with hrefused hlow <;> simp [hrefused]

/-- the answer to a request whose key has a history -/
theorem replay_eq (hverified : j.Verified) (hretention : 1 ≤ j.retentionEntries) (hkey : request.key.validate = .ok ())
    (hlast : j.current request.key = some last) :
    ∃ floor, j.floor request.key = some floor ∧ floor.seq ≤ last.cursor.seq ∧
      j.replay request atMs = .ok ⟨⟨request.key, outcomeFor request.since floor last.cursor atMs⟩,
        j.following request.key last (outcomeFor request.since floor last.cursor atMs)⟩ := by
  have hcount := verifyHistory_last (hverified request.key) hlast
  have hfloor := floor_eq hverified hretention hlast
  have hwindow : (⟨(j.entriesOf request.key).length - j.retentionEntries⟩ : Cursor).seq ≤ last.cursor.seq := by
    simp only
    omega
  refine ⟨_, hfloor, hwindow, ?_⟩
  simp only [replay, hkey, head, hlast, Option.map_some, hfloor, decide_eq hkey hwindow, contract, Except.mapError, bind,
    Except.bind, pure, Except.pure]
  congr 2
  cases houtcome : outcomeFor request.since _ last.cursor atMs with
  | rejected e => rfl
  | currentFollows current =>
    obtain ⟨rfl, -⟩ := outcomeFor_current houtcome
    simp only [following, find_head (hverified request.key) hlast, Option.toList_some]
  | resumed fromCursor => exact filter_from (hverified request.key) fromCursor.seq

theorem replay_unknown (hkey : request.key.validate = .ok ()) (hnone : j.current request.key = none) :
    j.replay request atMs = .ok (rejected request .notFound false atMs) := by
  simp only [replay, hkey, head, hnone]
  rfl

/-! ## Every request -/

/-- a call of `record`; one that fails leaves the journal as it was -/
def called (j : ProjectionJournal) (call : ProjectionKey × ProjectionPayload) : ProjectionJournal :=
  match j.record call.1 call.2 with
  | .ok j' => j'
  | .error _ => j

end

/-- what a client asks of the answer to its request -/
structure Served (j : ProjectionJournal) (request : ProjectionSubscribe) (replay : ProjectionReplay) : Prop where
  /-- the acknowledgement is one of this request -/
  acknowledged : replay.ack.validateFor request = .ok ()
  /-- a resumption is followed by the views after the cursor, up to the head -/
  resumed : ∀ fromCursor, replay.ack.outcome = .resumed fromCursor → ∃ since head, request.since = some since ∧
    j.head request.key = some head ∧ validateProjectionSequence request.key since replay.envelopes = .ok () ∧
    (replay.envelopes.getLast?.map (·.cursor)).getD since = head
  /-- the current view is the head, and nothing else follows -/
  current : ∀ cursor, replay.ack.outcome = .currentFollows cursor → ∃ current, j.current request.key = some current ∧
    cursor = current.cursor ∧ replay.envelopes = [current]
  /-- it is refused exactly when there is no history, or the cursor is beyond the head or has no successor -/
  refused : (∃ error, replay.ack.outcome = .rejected error) ↔ j.head request.key = none ∨ ∃ since head,
    request.since = some since ∧ j.head request.key = some head ∧ (head.seq < since.seq ∨ u64Max ≤ since.seq)
  /-- it is resumed when the next cursor is not below the floor -/
  resumes : ∀ since head floor, request.since = some since → j.head request.key = some head →
    j.floor request.key = some floor → since.seq ≤ head.seq → since.seq < u64Max → floor.seq ≤ since.seq + 1 →
    replay.ack.outcome = .resumed ⟨since.seq + 1⟩

section

variable {j : ProjectionJournal} {request : ProjectionSubscribe} {atMs : Int} {last : ProjectionEnvelope}

theorem served_unknown (hkey : request.key.validate = .ok ()) (hnone : j.current request.key = none) :
    j.Served request (rejected request .notFound false atMs) := by
  have hhead : j.head request.key = none := by rw [head, hnone]; rfl
  refine ⟨?_, fun _ h => ?_, fun _ h => ?_, ⟨fun _ => .inl hhead, fun _ => ⟨_, rfl⟩⟩, ?_⟩
  · simp [ProjectionSubscribeAck.validateFor, rejected, hkey, CanonicalError.validate]
  · cases h
  · cases h
  · intro since head floor _ hsome
    rw [hhead] at hsome
    cases hsome

variable {floor : Cursor}

theorem validateFor_outcome (hkey : request.key.validate = .ok ()) (hwindow : floor.seq ≤ last.cursor.seq) :
    ProjectionSubscribeAck.validateFor ⟨request.key, outcomeFor request.since floor last.cursor atMs⟩ request = .ok () := by
  simp only [ProjectionSubscribeAck.validateFor, seq_eq_ok, ensure_eq_ok, hkey, true_and]
  cases houtcome : outcomeFor request.since floor last.cursor atMs with
  | resumed fromCursor =>
    obtain ⟨since, hsince, rfl, -, hsucc, -⟩ := outcomeFor_resumed.mp houtcome
    simp only [hsince, Cursor.next, if_pos hsucc, bind_eq_ok, ensure_eq_ok]
    exact ⟨_, rfl, rfl⟩
  | rejected error =>
    obtain ⟨since, hsince, hrefused⟩ := outcomeFor_rejected.mp ⟨error, houtcome⟩
    rw [hsince, outcomeFor] at houtcome
    simp only [if_pos hrefused] at houtcome
    cases houtcome
    rfl
  | currentFollows current =>
    obtain ⟨rfl, hlow⟩ := outcomeFor_current houtcome
    cases hsince : request.since with
    | none => rfl
    | some since =>
      have := hlow since hsince
      simp only [ensure_eq_ok]
      omega

/-- the last view of a resumption is the head, or there is none after the cursor -/
theorem last_of_drop (hverified : j.Verified) (hlast : j.current request.key = some last) {since : Cursor}
    (hsince : since.seq ≤ last.cursor.seq) :
    ((((j.entriesOf request.key).drop (since.seq + 1)).getLast?).map (·.cursor)).getD since = last.cursor := by
  have hcount := verifyHistory_last (hverified request.key) hlast
  rw [List.getLast?_drop]
  split_ifs with hnone
  · have heq : since.seq = last.cursor.seq := by omega
    exact congrArg Cursor.mk heq
  · rw [show (j.entriesOf request.key).getLast? = some last from hlast]
    rfl

theorem served_known (hverified : j.Verified) (hkey : request.key.validate = .ok ())
    (hlast : j.current request.key = some last) (hfloor : j.floor request.key = some floor)
    (hwindow : floor.seq ≤ last.cursor.seq) {outcome : ProjectionSubscribeOutcome}
    (houtcome : outcomeFor request.since floor last.cursor atMs = outcome) :
    j.Served request ⟨⟨request.key, outcome⟩, j.following request.key last outcome⟩ := by
  have hcount := verifyHistory_last (hverified request.key) hlast
  have hhead : j.head request.key = some last.cursor := by rw [ProjectionJournal.head, hlast, Option.map_some]
  refine ⟨houtcome ▸ validateFor_outcome hkey hwindow, ?_, ?_, ?_, ?_⟩
  · rintro fromCursor rfl
    obtain ⟨since, hsince, rfl, hbelow, -, -⟩ := outcomeFor_resumed.mp houtcome
    refine ⟨since, last.cursor, hsince, hhead, ?_, last_of_drop hverified hlast hbelow⟩
    rw [validateProjectionSequence, seq_eq_ok]
    exact ⟨hkey, sequence_drop (hverified _) (fun _ => key_of_mem_entriesOf) (by omega)⟩
  · rintro cursor rfl
    obtain ⟨rfl, -⟩ := outcomeFor_current houtcome
    exact ⟨last, hlast, rfl, rfl⟩
  · simp only [← houtcome, outcomeFor_rejected, hhead, Option.some.injEq, reduceCtorEq, false_or]
    simp
  · intro since head floor' hsince hsome hfloor' hbelow hsucc hlow
    cases hhead.symm.trans hsome
    cases hfloor.symm.trans hfloor'
    rw [← houtcome]
    exact outcomeFor_resumed.mpr ⟨since, hsince, rfl, hbelow, hsucc, hlow⟩

end

/-- a request with a cursor before a journal has anything -/
def sampleRequest : ProjectionSubscribe := ⟨.projectIndex ⟨"host"⟩, some ⟨0⟩⟩

end ProjectionJournal

end Kaleido.State
