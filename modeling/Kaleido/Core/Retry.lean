/-
A subscription that is refused for its cursor, and the next attempt (`kaleido-core`, `mobile.rs`, `MobileClient::subscribe` and
`execute_command`; `kaleido-state`, `projection_journal.rs`).

A request carries the cursor of the cached view. The host refuses a cursor beyond its head as a gap that may be retried, but
the worker only closes the callback and keeps its cache (`refused_attempt`), so that the next request is the same one.

`retry_succeeds_iff` says for which cursors a refusal is followed by an attempt that succeeds: those that are not refused.
`stale_cursor_refused_again` is a cache that is ahead of its host.
-/
import Kaleido.State.Resume
import Kaleido.State.JournalKept
import Kaleido.Core.Streams

namespace Kaleido.Core

open Check Prog Proto State Transport

/-! ## One attempt -/

/-- `MobileClient::subscribe`: the request for a key is made from the cache -/
def Worker.resumption (w : Worker) (key : ProjectionKey) : ProjectionSubscribe := ⟨key, w.cache.since key⟩

/-- a call of `subscribe` and the acknowledgement that it gets -/
def Worker.attempt (env : WorkerEnv) (w : Worker) (ticket subscriptionId : Nat) (key : ProjectionKey)
    (ack : ProjectionSubscribeAck) : Worker :=
  (w.step env (.command ticket (.subscribe subscriptionId (w.resumption key)))).step env
    (reading (.projectionSubscribeAckFrame w.nextRequestId subscriptionId ack))

/-- the connection is up and idle: a number is left for the request, and its frame goes out -/
structure Healthy (env : WorkerEnv) (w : Worker) : Prop where
  idle : w.activity = .idle
  numbered : w.nextRequestId < u64Max
  writes : env.writes w.writes = true

variable {env : WorkerEnv} {w : Worker} {key : ProjectionKey} {ticket subscriptionId : Nat} {ack : ProjectionSubscribeAck}

/-- the worker while it waits for the acknowledgement -/
def Worker.asking (w : Worker) (ticket subscriptionId : Nat) (subscribe : ProjectionSubscribe) : Worker :=
  { w with
    nextRequestId := w.nextRequestId + 1
    callbacks := w.callbacks.insert subscriptionId subscribe.key
    writes := w.writes + 1
    sent := w.sent ++ [.control (.ok (.projectionSubscribeFrame w.nextRequestId subscriptionId subscribe))]
    activity := .waiting (.subscribeAck w.nextRequestId subscriptionId subscribe) (.call ticket) }

theorem Healthy.subscribe (h : Healthy env w) (subscribe : ProjectionSubscribe) :
    w.step env (.command ticket (.subscribe subscriptionId subscribe)) = w.asking ticket subscriptionId subscribe := by
  have htake := (takeRequestId_cases w).resolve_right fun hmax => absurd h.numbered (not_lt.mpr hmax.1)
  have hsend := (send_cases env (.control (.ok (.projectionSubscribeFrame w.nextRequestId subscriptionId subscribe)))
    { w with
      nextRequestId := w.nextRequestId + 1
      callbacks := w.callbacks.insert subscriptionId subscribe.key }).resolve_right fun hwrite => by simp [h.writes] at hwrite
  have hbegin : beginRequest env (.subscribe subscriptionId subscribe) w =
      (sendControl env (.projectionSubscribeFrame w.nextRequestId subscriptionId subscribe) >>= fun _ =>
        pure (.subscribeAck w.nextRequestId subscriptionId subscribe))
        { w with
          nextRequestId := w.nextRequestId + 1
          callbacks := w.callbacks.insert subscriptionId subscribe.key } := run_bind htake
  simp only [Worker.step, h.idle, Worker.execute, hbegin.trans (run_bind hsend)]
  rfl

/-- a refusal is told to the callback and to the caller; the cache stays as it is -/
theorem refused_attempt (h : Healthy env w) {error : CanonicalError} (hvalid : ack.validateFor (w.resumption key) = .ok ())
    (hrejected : ack.outcome = .rejected error) :
    (w.attempt env ticket subscriptionId key ack).cache = w.cache ∧
      (w.attempt env ticket subscriptionId key ack).replies = w.replies ++ [(ticket, .error .remoteRejected)] ∧
      (w.attempt env ticket subscriptionId key ack).activity = .idle := by
  let asking := w.asking ticket subscriptionId (w.resumption key)
  have hacked : subscribeAcked env subscriptionId (w.resumption key) ack asking =
      (.error .remoteRejected, asking.close subscriptionId [.onError error, .onClosed (some error)]) := by
    rw [subscribeAcked, run_bind (run_checkAck hvalid), hrejected]
    rfl
  have hturn : waitTurn env (.subscribeAck w.nextRequestId subscriptionId (w.resumption key)) (.call ticket)
      (.control (.ok (.projectionSubscribeAckFrame w.nextRequestId subscriptionId ack))) asking =
      (.error .remoteRejected, asking.close subscriptionId [.onError error, .onClosed (some error)]) := by
    simp only [waitTurn, Waiting.selectFrame, Waiting.select, and_self, if_true, found, callFound]
    exact run_bind_error hacked
  have hattempt : w.attempt env ticket subscriptionId key ack =
      (asking.close subscriptionId [.onError error, .onClosed (some error)]).giveUp
        (.subscribeAck w.nextRequestId subscriptionId (w.resumption key)) (.call ticket) .remoteRejected := by
    rw [Worker.attempt, h.subscribe]
    exact resume_error hturn
  rw [hattempt]
  exact ⟨rfl, rfl, rfl⟩

/-! ## Two attempts -/

variable {j : ProjectionJournal} {last : ProjectionEnvelope}

/-- the cached cursor is one that the host can go on from -/
def withinHead (since : Option Cursor) (head : Cursor) : Bool :=
  since.all fun cursor => cursor.seq ≤ head.seq && cursor.seq < u64Max

/-- a subscription that is refused as a retriable gap succeeds when it is tried again over the same journal -/
def Retriable (env : WorkerEnv) (j : ProjectionJournal) (w : Worker) (key : ProjectionKey) (ticket subscriptionId : Nat)
    (atMs laterMs : Int) : Prop :=
  ∀ replay error, j.replay (w.resumption key) atMs = .ok replay → replay.ack.outcome = .rejected error →
    error.code = .cursorGap → error.retriable = true →
    ∃ again, j.replay ((w.attempt env ticket subscriptionId key replay.ack).resumption key) laterMs = .ok again ∧
      ∀ error, again.ack.outcome ≠ .rejected error

theorem key_of_current (hj : j.Sound) (hlast : j.current key = some last) : key.validate = .ok () := by
  have hmem : last ∈ j.entriesOf key := List.mem_of_getLast? hlast
  have hvalid := history_valid (hj.verified key) last hmem
  rw [ProjectionEnvelope.validateForTransport, seq_eq_ok, ProjectionJournal.key_of_mem_entriesOf hmem] at hvalid
  exact hvalid.1

/-- the answer to a request for the key -/
theorem replay_current (hj : j.Sound) (hlast : j.current key = some last) (since : Option Cursor) (atMs : Int) :
    ∃ floor, floor.seq ≤ last.cursor.seq ∧ j.replay ⟨key, since⟩ atMs =
      .ok ⟨⟨key, ProjectionJournal.outcomeFor since floor last.cursor atMs⟩,
        j.following key last (ProjectionJournal.outcomeFor since floor last.cursor atMs)⟩ := by
  have hkey : (⟨key, since⟩ : ProjectionSubscribe).key.validate = .ok () := key_of_current hj hlast
  obtain ⟨floor, -, hwindow, hreplay⟩ := ProjectionJournal.replay_eq hj.verified hj.retains hkey hlast
  exact ⟨floor, hwindow, hreplay⟩

theorem withinHead_iff {since : Option Cursor} {head : Cursor} (floor : Cursor) (atMs : Int) :
    withinHead since head = true ↔ ∀ error, ProjectionJournal.outcomeFor since floor head atMs ≠ .rejected error := by
  rw [← not_exists_not (p := fun error => ProjectionJournal.outcomeFor since floor head atMs ≠ .rejected error)]
  simp only [ne_eq, not_not, ProjectionJournal.outcomeFor_rejected]
  cases since <;> simp [withinHead]

/-- every refusal of a known key is a retriable gap -/
theorem outcomeFor_error {since : Option Cursor} {floor head : Cursor} {atMs : Int} {error : CanonicalError}
    (h : ProjectionJournal.outcomeFor since floor head atMs = .rejected error) : error = ⟨.cursorGap, true, none, atMs⟩ := by
  unfold ProjectionJournal.outcomeFor at h
  cases since with
  | none => cases h
  | some cursor =>
    dsimp only at h
    split_ifs at h
    cases h
    rfl

/--
**A gap can be retried.** On a healthy connection to a host whose journal holds the key, a subscription that is refused as a
retriable gap succeeds on the next attempt exactly if the cached cursor is not beyond the head and has a successor: exactly if
it is not refused in the first place.
-/
theorem retry_succeeds_iff (env : WorkerEnv) (w : Worker) (hhealthy : Healthy env w) (j : ProjectionJournal) (hj : j.Sound)
    (key : ProjectionKey) (last : ProjectionEnvelope) (hlast : j.current key = some last) (ticket subscriptionId : Nat)
    (atMs laterMs : Int) :
    Retriable env j w key ticket subscriptionId atMs laterMs ↔ withinHead (w.cache.since key) last.cursor = true := by
  obtain ⟨floor, hwindow, hreplay⟩ := replay_current hj hlast (w.cache.since key) atMs
  have hkey : key.validate = .ok () := key_of_current hj hlast
  constructor
  · intro hretriable
    by_contra hbeyond
    obtain ⟨error, hrejected⟩ := not_forall_not.1 (mt (withinHead_iff floor atMs).2 hbeyond)
    have hgap := outcomeFor_error hrejected
    obtain ⟨again, hagain, haccepted⟩ := hretriable _ error hreplay hrejected (by rw [hgap]) (by rw [hgap])
    -- the next request is the one that was refused
    have hsame : (w.attempt env ticket subscriptionId key
        ⟨key, ProjectionJournal.outcomeFor (w.cache.since key) floor last.cursor atMs⟩).resumption key = w.resumption key := by
      have hvalid : ProjectionSubscribeAck.validateFor
          ⟨key, ProjectionJournal.outcomeFor (w.cache.since key) floor last.cursor atMs⟩ (w.resumption key) = .ok () :=
        ProjectionJournal.validateFor_outcome hkey hwindow
      rw [Worker.resumption, (refused_attempt hhealthy hvalid hrejected).1]
      rfl
    rw [hsame] at hagain
    obtain ⟨floor', -, hreplay'⟩ := replay_current hj hlast (w.cache.since key) laterMs
    cases hreplay'.symm.trans hagain
    exact hbeyond ((withinHead_iff floor' laterMs).2 haccepted)
  · intro hwithin replay error hfirst hrejected
    cases hreplay.symm.trans hfirst
    exact absurd hrejected ((withinHead_iff floor atMs).1 hwithin error)

/-- a host that has one view of the queue, and a phone that has the next one -/
def shortJournal : ProjectionJournal := { entries := [queueView 0] }

def aheadWorker : Worker := { cache := ({} : ProjectionCache).persist (queueView 1) }

theorem retry_succeeds_iff_sample : Healthy allWrites aheadWorker ∧
    (Retriable allWrites shortJournal aheadWorker queueKey 1 1 0 1 ↔ withinHead (some ⟨1⟩) ⟨0⟩ = true) := by
  have hhealthy : Healthy allWrites aheadWorker := ⟨rfl, by decide, rfl⟩
  have hrecord : ({} : ProjectionJournal).record queueKey (queueView 0).payload = .ok shortJournal := by decide +kernel
  have hsound : shortJournal.Sound :=
    ⟨ProjectionJournal.record_verified ProjectionJournal.sound_empty.verified hrecord, by decide⟩
  exact ⟨hhealthy, retry_succeeds_iff allWrites aheadWorker hhealthy shortJournal hsound queueKey (queueView 0) (by decide +kernel)
    1 1 0 1⟩

/-- the phone is refused as a retriable gap, and refused again when it retries -/
theorem stale_cursor_refused_again :
    shortJournal.replay (aheadWorker.resumption queueKey) 0 = .ok ⟨⟨queueKey, .rejected ⟨.cursorGap, true, none, 0⟩⟩, []⟩ ∧
    shortJournal.replay ((aheadWorker.attempt allWrites 1 1 queueKey
      ⟨queueKey, .rejected ⟨.cursorGap, true, none, 0⟩⟩).resumption queueKey) 1 =
        .ok ⟨⟨queueKey, .rejected ⟨.cursorGap, true, none, 1⟩⟩, []⟩ := by
  decide +kernel

end Kaleido.Core
