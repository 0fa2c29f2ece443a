/-
What one step of the worker can do (`kaleido-core`, `mobile.rs`).

`Outcome` lists the cases of `Worker.step`, each with the state it leaves: a turn of `resubscribe_all` (`Loop`), a frame that
came unasked and was taken (`Taken`) or refused (`Refused`), an answer that was waited for, a wait that was given up, a command.
`step_outcome` says that there is no other; what holds of whole runs is proved from it.
-/
import Kaleido.Core.Worker

namespace Kaleido.Core

open Prog Proto State Transport

variable {subscriptionId requestId : Nat} {ack : ProjectionSubscribeAck} {subscribe : ProjectionSubscribe}
  {waiting : Waiting} {origin : Origin} {program : WorkerM Activity} {w' : Worker}

/-- a control frame that is read -/
def reading (frame : ControlFrame) : Input := .frame (.control (.ok frame))

/-- the worker reads from its connection -/
def Activity.reads : Activity → Bool
  | .idle | .waiting .. => true
  | .offline | .resubscribed | .stopped => false

/-- the view that a callback is told of, and whether it was promised -/
def Told.view : Nat × Told → Option (Nat × ProjectionEnvelope × Bool)
  | (subscriptionId, .onProjection envelope promised) => some (subscriptionId, envelope, promised)
  | _ => none

/-- the views that the callbacks were shown -/
def Worker.shown (w : Worker) : List (Nat × ProjectionEnvelope × Bool) := w.told.filterMap Told.view

/-- a callback is told of a view -/
def Worker.show (w : Worker) (subscriptionId : Nat) (envelope : ProjectionEnvelope) (cache : ProjectionCache) : Worker :=
  { w with
    cache := cache
    currentSnapshots := w.currentSnapshots.erase subscriptionId
    told := w.told ++ [(subscriptionId, .onProjection envelope w.currentSnapshots[subscriptionId]?.isSome)] }

/-- a request goes out under the next number -/
def Worker.ask (w : Worker) (writes : Nat) (frames : List Frame) (waiting : Waiting) (origin : Origin) : Worker :=
  { w with
    nextRequestId := w.nextRequestId + 1
    writes := writes
    sent := w.sent ++ frames
    activity := .waiting waiting origin }

def Worker.answer (w : Worker) (ticket : Nat) (answer : Answer) : Worker :=
  { w with replies := w.replies ++ [(ticket, .ok answer)], activity := .idle }

/-- a turn of `resubscribe_all`: nothing is left to ask for, the next subscription is asked for, or the connection goes -/
inductive Loop (w : Worker) (rest : List Nat) : Worker → Prop
  | finished (hnone : ∀ subscriptionId ∈ rest, w.callbacks[subscriptionId]? = none) :
      Loop w rest { w with activity := .resubscribed }
  | asked {subscriptionId : Nat} {later : List Nat} {key : ProjectionKey} (writes : Nat)
      (hsuffix : subscriptionId :: later <:+ rest) (hkey : w.callbacks[subscriptionId]? = some key) :
      Loop w rest (w.ask writes
        [.control (.ok (.projectionSubscribeFrame w.nextRequestId subscriptionId ⟨key, w.cache.since key⟩))]
        (.subscribeAck w.nextRequestId subscriptionId ⟨key, w.cache.since key⟩) (.reconnect later))
  | failed {next : Nat} (writes : Nat) (hnext : w.nextRequestId ≤ next) :
      Loop w rest { w with nextRequestId := next, writes := writes, activity := .offline }

/-- a frame that came unasked and was taken -/
inductive Taken (w : Worker) : Frame → Worker → Prop
  | view {subscriptionId : Nat} {envelope : ProjectionEnvelope} {cache : ProjectionCache}
      (hkey : w.callbacks[subscriptionId]? = some envelope.key)
      (hoffer : w.offer subscriptionId envelope = .ok (.applied, cache)) :
      Taken w (.control (.ok (.projectionEnvelopeFrame subscriptionId envelope))) (w.show subscriptionId envelope cache)
  | closed {subscriptionId : Nat} {error : CanonicalError}
      (hgap : error.code = .cursorGap ∧ error.retriable ∧ error.detailRef = none)
      (hactive : w.callbacks.contains subscriptionId) :
      Taken w (.control (.ok (.projectionSubscriptionClosed subscriptionId error)))
        (w.close subscriptionId [.onError error, .onClosed (some error)])
  | ping (requestId nonce writes : Nat) :
      Taken w (.control (.ok (.ping requestId nonce)))
        { w with writes := writes, sent := w.sent ++ [.control (.ok (.pong requestId nonce))] }

/-- a frame that came unasked and was refused: only a view can leave a trace, and what a host sends in its place is refused
for a reason -/
structure Refused (env : WorkerEnv) (w : Worker) (frame : Frame) (w' : Worker) : Prop where
  sent : w'.sent = w.sent
  numbers : w'.nextRequestId = w.nextRequestId
  activity : w'.activity = w.activity
  replies : w'.replies = w.replies
  shown : w'.shown = w.shown
  callbacks : ∀ subscriptionId : Nat,
    w'.callbacks[subscriptionId]? = none ∨ w'.callbacks[subscriptionId]? = w.callbacks[subscriptionId]?
  same : (∀ subscriptionId envelope, frame ≠ .control (.ok (.projectionEnvelopeFrame subscriptionId envelope))) →
    w'.cache = w.cache ∧ w'.callbacks = w.callbacks ∧ w'.currentSnapshots = w.currentSnapshots
  view : ∀ subscriptionId envelope, frame = .control (.ok (.projectionEnvelopeFrame subscriptionId envelope)) →
    w.callbacks[subscriptionId]? = some envelope.key → ∀ cache, w.offer subscriptionId envelope ≠ .ok (.applied, cache)
  closed : ∀ subscriptionId error, frame = .control (.ok (.projectionSubscriptionClosed subscriptionId error)) →
    error.code = .cursorGap ∧ error.retriable ∧ error.detailRef = none → ¬ w.callbacks.contains subscriptionId
  ping : ∀ requestId nonce, frame = .control (.ok (.ping requestId nonce)) → Trouble env w

/-- a call that asked for a subscription has failed -/
structure Withdrawn (subscriptionId ticket : Nat) (w w' : Worker) : Prop where
  cache : w'.cache = w.cache
  sent : w'.sent = w.sent
  shown : w'.shown = w.shown
  numbers : w.nextRequestId ≤ w'.nextRequestId
  callbacks : ∀ other : Nat, w'.callbacks[other]? = if subscriptionId = other then none else w.callbacks[other]?
  snapshots : ∀ other : Nat, w'.currentSnapshots[other]? = if subscriptionId = other then none else w.currentSnapshots[other]?
  activity : w'.activity = .idle
  replies : ∃ error, w'.replies = w.replies ++ [(ticket, .error error)]

/-- the frames of a request that is no subscription, and the wait for its answer -/
inductive RequestOf (requestId : Nat) : WorkerCommand → List Frame → Waiting → Prop
  | unsubscribe (subscriptionId : Nat) :
      RequestOf requestId (.unsubscribe subscriptionId) [.control (.ok (.unsubscribeRequest requestId subscriptionId))]
        (.unsubscribeAck requestId subscriptionId)
  | submitCommand (request : DeviceCommandRequest) :
      RequestOf requestId (.submitCommand request) [.control (.ok (.deviceCommandFrame requestId request))]
        (.deviceCommandAck requestId)
  | writeContent (request : ContentWriteRequest) (bytes : List UInt8) :
      RequestOf requestId (.writeContent request bytes)
        [.control (.ok (.contentWriteHeader requestId request)), .content requestId bytes] (.contentWriteResult requestId)
  | readContent (request : ContentReadRequest) :
      RequestOf requestId (.readContent request) [.control (.ok (.contentReadFrame requestId request))]
        (.contentReadResult requestId)

/-- the cases of a step -/
inductive Outcome (env : WorkerEnv) (w : Worker) : Input → Worker → Prop
  | ignored {input : Input} (h : ∀ frame, input = .frame frame → w.activity.reads = false) : Outcome env w input w
  | connected {w' : Worker} (h : w.activity = .offline) (hloop : Loop { w with sent := [] } w.callbacks.keys w') :
      Outcome env w .connected w'
  | published (current : Bool) (h : w.activity = .resubscribed) :
      Outcome env w (.published current) { w with activity := if current then .idle else .offline }
  | taken {frame : Frame} {w' : Worker}
      (h : w.activity = .idle ∨ ∃ waiting origin, w.activity = .waiting waiting origin ∧ waiting.selectFrame frame = none)
      (htaken : Taken w frame w') : Outcome env w (.frame frame) w'
  | dropped {frame : Frame} {w' : Worker} (h : w.activity = .idle) (hrefused : Refused env w frame w') :
      Outcome env w (.frame frame) w'.disconnect
  | refused {frame : Frame} {w' : Worker} {waiting : Waiting} {origin : Origin} (error : MobileClientError)
      (h : w.activity = .waiting waiting origin) (hselect : waiting.selectFrame frame = none) (hrefused : Refused env w frame w') :
      Outcome env w (.frame frame) (w'.giveUp waiting origin error)
  | acked {requestId subscriptionId : Nat} {subscribe : ProjectionSubscribe} {origin : Origin} {ack : ProjectionSubscribeAck}
      (writes : Nat) (h : w.activity = .waiting (.subscribeAck requestId subscriptionId subscribe) origin)
      (hvalid : ack.validateFor subscribe = .ok ()) (haccepted : ∀ error, ack.outcome ≠ .rejected error) :
      Outcome env w (reading (.projectionSubscribeAckFrame requestId subscriptionId ack))
        ((w.promise subscriptionId ack.outcome).ask writes [.control (.ok (.ping w.nextRequestId w.nextRequestId))]
          (.barrier w.nextRequestId subscriptionId subscribe ack.outcome) origin)
  | ackRejected {requestId subscriptionId : Nat} {subscribe : ProjectionSubscribe} {rest : List Nat}
      {ack : ProjectionSubscribeAck} {error : CanonicalError} {w' : Worker}
      (h : w.activity = .waiting (.subscribeAck requestId subscriptionId subscribe) (.reconnect rest))
      (hrejected : ack.outcome = .rejected error)
      (hloop : Loop (w.close subscriptionId [.onError error, .onClosed (some error)]) rest w') :
      Outcome env w (reading (.projectionSubscribeAckFrame requestId subscriptionId ack)) w'
  | ackFailed {requestId subscriptionId ticket : Nat} {subscribe : ProjectionSubscribe} {ack : ProjectionSubscribeAck}
      {w' : Worker} (h : w.activity = .waiting (.subscribeAck requestId subscriptionId subscribe) (.call ticket))
      (hcause : (∃ error, ack.outcome = .rejected error) ∨ ack.validateFor subscribe ≠ .ok () ∨ Trouble env w)
      (hwithdrawn : Withdrawn subscriptionId ticket w w') :
      Outcome env w (reading (.projectionSubscribeAckFrame requestId subscriptionId ack)) w'
  | ackLost {requestId subscriptionId : Nat} {subscribe : ProjectionSubscribe} {rest : List Nat}
      {ack : ProjectionSubscribeAck} {next : Nat} {snapshots : OrdMap Nat Cursor} (writes : Nat)
      (h : w.activity = .waiting (.subscribeAck requestId subscriptionId subscribe) (.reconnect rest))
      (hnext : w.nextRequestId ≤ next)
      (hsnapshots : snapshots = w.currentSnapshots ∨
        ack.validateFor subscribe = .ok () ∧ snapshots = (w.promise subscriptionId ack.outcome).currentSnapshots) :
      Outcome env w (reading (.projectionSubscribeAckFrame requestId subscriptionId ack))
        { w with nextRequestId := next, writes := writes, currentSnapshots := snapshots, activity := .offline }
  | synced {requestId subscriptionId ticket : Nat} {subscribe : ProjectionSubscribe} {outcome : ProjectionSubscribeOutcome}
      {cursor : Cursor} (h : w.activity = .waiting (.barrier requestId subscriptionId subscribe outcome) (.call ticket))
      (hsince : w.cache.since subscribe.key = some cursor)
      (hvalid : validateSynchronizedCursor outcome subscribe.since cursor = .ok ()) :
      Outcome env w (reading (.pong requestId requestId)) (w.answer ticket .done)
  | resynced {requestId subscriptionId : Nat} {subscribe : ProjectionSubscribe} {outcome : ProjectionSubscribeOutcome}
      {rest : List Nat} {cursor : Cursor} {w' : Worker}
      (h : w.activity = .waiting (.barrier requestId subscriptionId subscribe outcome) (.reconnect rest))
      (hsince : w.cache.since subscribe.key = some cursor)
      (hvalid : validateSynchronizedCursor outcome subscribe.since cursor = .ok ()) (hloop : Loop w rest w') :
      Outcome env w (reading (.pong requestId requestId)) w'
  | unsynced {requestId subscriptionId : Nat} {subscribe : ProjectionSubscribe} {outcome : ProjectionSubscribeOutcome}
      {origin : Origin} (error : MobileClientError)
      (h : w.activity = .waiting (.barrier requestId subscriptionId subscribe outcome) origin)
      (hinvalid : ∀ cursor, w.cache.since subscribe.key = some cursor →
        validateSynchronizedCursor outcome subscribe.since cursor ≠ .ok ()) :
      Outcome env w (reading (.pong requestId requestId))
        (w.giveUp (.barrier requestId subscriptionId subscribe outcome) origin error)
  | unsubscribed {requestId subscriptionId ticket : Nat}
      (h : w.activity = .waiting (.unsubscribeAck requestId subscriptionId) (.call ticket)) :
      Outcome env w (reading (.unsubscribeAck requestId subscriptionId))
        ((w.close subscriptionId [.onClosed none]).answer ticket .done)
  | answered {waiting : Waiting} {ticket : Nat} {frame : ControlFrame} {answer : Answer}
      (h : w.activity = .waiting waiting (.call ticket)) (hselect : waiting.select frame = some (.answer answer))
      (hplain : waiting = .deviceCommandAck waiting.requestId ∨ waiting = .contentWriteResult waiting.requestId ∨
        waiting = .contentReadResult waiting.requestId) : Outcome env w (reading frame) (w.answer ticket answer)
  | misplaced {waiting : Waiting} {rest : List Nat} {frame : ControlFrame} {value : Found} (error : MobileClientError)
      (h : w.activity = .waiting waiting (.reconnect rest)) (hselect : waiting.select frame = some value)
      (hother : (∀ requestId subscriptionId subscribe, waiting ≠ .subscribeAck requestId subscriptionId subscribe) ∧
        ∀ requestId subscriptionId subscribe outcome, waiting ≠ .barrier requestId subscriptionId subscribe outcome) :
      Outcome env w (reading frame) (w.giveUp waiting (.reconnect rest) error)
  | gaveUp {waiting : Waiting} {origin : Origin} {input : Input} (h : w.activity = .waiting waiting origin)
      (hinput : input = .readFailed ∨ input = .deadline) : Outcome env w input (w.giveUp waiting origin .workerStopped)
  | disconnected {input : Input} (h : w.activity = .idle) (hinput : input = .readFailed ∨ input = .networkChanged) :
      Outcome env w input w.disconnect
  | stopped (h : w.activity = .idle ∨ w.activity = .offline) : Outcome env w .shutdown w.stop
  | offlineCommand {ticket : Nat} {command : WorkerCommand} (h : w.activity = .offline) :
      Outcome env w (.command ticket command) (w.handleDisconnectedCommand ticket command)
  | subscribes {ticket subscriptionId : Nat} {subscribe : ProjectionSubscribe} (writes : Nat) (h : w.activity = .idle) :
      Outcome env w (.command ticket (.subscribe subscriptionId subscribe))
        (Worker.ask { w with callbacks := w.callbacks.insert subscriptionId subscribe.key } writes
          [.control (.ok (.projectionSubscribeFrame w.nextRequestId subscriptionId subscribe))]
          (.subscribeAck w.nextRequestId subscriptionId subscribe) (.call ticket))
  | subscribeFailed {ticket subscriptionId : Nat} {subscribe : ProjectionSubscribe} {w' : Worker} (h : w.activity = .idle)
      (htrouble : Trouble env w) (hwithdrawn : Withdrawn subscriptionId ticket w w') :
      Outcome env w (.command ticket (.subscribe subscriptionId subscribe)) w'
  | exhausted {ticket subscriptionId : Nat} {subscribe : ProjectionSubscribe} (h : w.activity = .idle) :
      Outcome env w (.command ticket (.subscribe subscriptionId subscribe))
        { w.stop with replies := w.replies ++ [(ticket, .error .workerStopped)] }
  | requests {ticket : Nat} {command : WorkerCommand} {frames : List Frame} {waiting : Waiting} (writes : Nat)
      (h : w.activity = .idle) (hrequest : RequestOf w.nextRequestId command frames waiting) :
      Outcome env w (.command ticket command) (w.ask writes frames waiting (.call ticket))
  | requestFailed {ticket : Nat} {command : WorkerCommand} {frames sent later : List Frame} {waiting : Waiting} {next : Nat}
      (writes : Nat) (error : MobileClientError) (h : w.activity = .idle)
      (hrequest : RequestOf w.nextRequestId command frames waiting) (hnext : w.nextRequestId ≤ next)
      (hsent : frames = sent ++ later) (hlater : later ≠ [])
      (hcause : ∀ subscriptionId, command = .unsubscribe subscriptionId → Trouble env w) :
      Outcome env w (.command ticket command)
        (Worker.refuse { w with nextRequestId := next, writes := writes, sent := w.sent ++ sent } ticket error)

theorem giveUp_activity (w : Worker) (waiting : Waiting) (origin : Origin) (error : MobileClientError) :
    (w.giveUp waiting origin error).activity = .idle ∨ (w.giveUp waiting origin error).activity = .offline := by
  unfold Worker.giveUp
  split
  · exact .inr rfl
  · split <;> exact .inl rfl

/-! ## Nothing else happens -/

section

variable {env : WorkerEnv} {w : Worker}

theorem close_shown (subscriptionId : Nat) {told : List Told} (h : (told.map (subscriptionId, ·)).filterMap Told.view = []) :
    (w.close subscriptionId told).shown = w.shown := by
  unfold Worker.close Worker.shown
  dsimp only
  split_ifs
  · rw [List.filterMap_append, h, List.append_nil]
  · rfl

theorem close_callbacks (subscriptionId : Nat) (told : List Told) (other : Nat) :
    (w.close subscriptionId told).callbacks[other]? = none ∨
      (w.close subscriptionId told).callbacks[other]? = w.callbacks[other]? := by
  have hget : (w.close subscriptionId told).callbacks[other]? = _ := OrdMap.get_erase _ _ _
  rw [hget]
  split_ifs
  · exact .inl rfl
  · exact .inr rfl

/-- `apply_projection` shows the view or refuses it -/
theorem applyProjection_cases (env : WorkerEnv) (subscriptionId : Nat) (envelope : ProjectionEnvelope) (w : Worker) :
    (∃ cache, w.callbacks[subscriptionId]? = some envelope.key ∧ w.offer subscriptionId envelope = .ok (.applied, cache) ∧
      applyProjection env subscriptionId envelope w = (.ok (), w.show subscriptionId envelope cache)) ∨
    ∃ error w', applyProjection env subscriptionId envelope w = (.error error, w') ∧
      Refused env w (.control (.ok (.projectionEnvelopeFrame subscriptionId envelope))) w' := by
  have hrefused : ∀ w' : Worker, w'.sent = w.sent → w'.nextRequestId = w.nextRequestId → w'.activity = w.activity →
      w'.replies = w.replies → w'.shown = w.shown →
      (∀ other : Nat, w'.callbacks[other]? = none ∨ w'.callbacks[other]? = w.callbacks[other]?) →
      (w.callbacks[subscriptionId]? = some envelope.key → ∀ cache, w.offer subscriptionId envelope ≠ .ok (.applied, cache)) →
      Refused env w (.control (.ok (.projectionEnvelopeFrame subscriptionId envelope))) w' := by
    intro w' hsent hnumbers hactivity hreplies hshown hcallbacks hview
    refine ⟨hsent, hnumbers, hactivity, hreplies, hshown, hcallbacks, fun h => absurd rfl (h _ _), ?_, ?_, ?_⟩
    · rintro _ _ ⟨⟩
      exact hview
    · rintro _ _ ⟨⟩
    · rintro _ _ ⟨⟩
  by_cases hkey : w.callbacks[subscriptionId]? = some envelope.key
  · cases hoffer : w.offer subscriptionId envelope with
    | error e =>
      refine .inr ⟨.contract, { w with currentSnapshots := w.currentSnapshots.erase subscriptionId }, ?_, ?_⟩
      · simp only [applyProjection, bind, Prog.read, Prog.require, if_pos hkey, Prog.modify, Prog.liftExcept]
        simp only [pure, hoffer, Except.mapError]
      · exact hrefused _ rfl rfl rfl rfl rfl (fun _ => .inr rfl) fun _ cache h => by rw [hoffer] at h; cases h
    | ok offered =>
      obtain ⟨_ | _, cache⟩ := offered
      · refine .inl ⟨cache, hkey, rfl, ?_⟩
        simp only [applyProjection, bind, Prog.read, Prog.require, if_pos hkey, Prog.modify, Prog.liftExcept]
        simp only [pure, hoffer, Except.mapError]
        rfl
      · -- a view of another version: the key is dropped from the cache, and its subscription is closed
        let gap : CanonicalError := ⟨.cursorGap, true, none, env.clock w.told.length⟩
        refine .inr ⟨.contract, Worker.close { w with
          cache := cache
          currentSnapshots := w.currentSnapshots.erase subscriptionId } subscriptionId [.onError gap, .onClosed (some gap)],
          ?_, ?_⟩
        · simp only [applyProjection, bind, Prog.read, Prog.require, if_pos hkey, Prog.modify, Prog.liftExcept]
          simp only [pure, hoffer, Except.mapError]
          rfl
        · refine hrefused _ rfl rfl rfl rfl (close_shown _ rfl) (fun other => ?_) fun _ cache h => ?_
          · exact close_callbacks _ _ other
          · rw [hoffer] at h
            cases h
  · refine .inr ⟨.contract, w, ?_, hrefused w rfl rfl rfl rfl rfl (fun _ => .inr rfl) fun h => absurd h hkey⟩
    simp only [applyProjection, bind, Prog.read, Prog.require, if_neg hkey, Prog.fail]

/-- `handle_unsolicited` takes a frame or refuses it -/
theorem handleUnsolicited_cases (env : WorkerEnv) (frame : Frame) (w : Worker) :
    (∃ w', handleUnsolicited env frame w = (.ok (), w') ∧ Taken w frame w') ∨
      ∃ error w', handleUnsolicited env frame w = (.error error, w') ∧ Refused env w frame w' := by
  -- a refusal that leaves everything but the count of writes
  have hrefused : ∀ writes, (∀ id envelope, frame ≠ .control (.ok (.projectionEnvelopeFrame id envelope))) →
      (∀ id error, frame = .control (.ok (.projectionSubscriptionClosed id error)) →
        error.code = .cursorGap ∧ error.retriable ∧ error.detailRef = none → ¬ w.callbacks.contains id) →
      (∀ requestId nonce, frame = .control (.ok (.ping requestId nonce)) → Trouble env w) →
      Refused env w frame { w with writes := writes } := fun writes hview hclosed hping =>
    ⟨rfl, rfl, rfl, rfl, rfl, fun _ => .inr rfl, fun _ => ⟨rfl, rfl, rfl⟩, fun id e h => absurd h (hview id e), hclosed, hping⟩
  unfold handleUnsolicited
  split
  · exact .inr ⟨_, _, rfl, hrefused w.writes (by rintro _ _ ⟨⟩) (by rintro _ _ ⟨⟩) (by rintro _ _ ⟨⟩)⟩
  · exact .inr ⟨_, _, rfl, hrefused w.writes (by rintro _ _ ⟨⟩) (by rintro _ _ ⟨⟩) (by rintro _ _ ⟨⟩)⟩
  · rename_i subscriptionId envelope
    rcases applyProjection_cases env subscriptionId envelope w with ⟨cache, hkey, hoffer, hrun⟩ | hrefused
    · exact .inl ⟨_, hrun, .view hkey hoffer⟩
    · exact .inr hrefused
  · rename_i subscriptionId error
    by_cases hgap : error.code = .cursorGap ∧ error.retriable ∧ error.detailRef = none
    · by_cases hactive : w.callbacks.contains subscriptionId
      · refine .inl ⟨_, ?_, .closed hgap hactive⟩
        rw [run_bind (run_require hgap w)]
        exact run_bind (run_require hactive w)
      · refine .inr ⟨.contract, _, ?_, hrefused w.writes (by rintro _ _ ⟨⟩) ?_ (by rintro _ _ ⟨⟩)⟩
        · rw [run_bind (run_require hgap w)]
          simp only [bind, Prog.read, Prog.require, if_neg hactive, Prog.fail]
        · rintro _ _ ⟨⟩ _
          exact hactive
    · refine .inr ⟨.contract, _, ?_, hrefused w.writes (by rintro _ _ ⟨⟩) ?_ (by rintro _ _ ⟨⟩)⟩
      · simp only [bind, Prog.require, if_neg hgap, Prog.fail]
      · rintro _ _ ⟨⟩ h
        exact absurd h hgap
  · rename_i requestId nonce
    rcases send_cases env (.control (.ok (.pong requestId nonce))) w with hsend | ⟨hwrite, hsend⟩
    · exact .inl ⟨_, hsend, .ping requestId nonce _⟩
    · refine .inr ⟨_, _, hsend, hrefused _ (by rintro _ _ ⟨⟩) (by rintro _ _ ⟨⟩) ?_⟩
      rintro _ _ ⟨⟩
      exact .inr (.inl hwrite)
  · exact .inr ⟨_, _, rfl, hrefused w.writes (by rintro _ _ ⟨⟩) (by rintro _ _ ⟨⟩) (by rintro _ _ ⟨⟩)⟩
  · rename_i frame hview hclosed hping _
    refine .inr ⟨_, _, rfl, hrefused w.writes ?_ ?_ ?_⟩
    · rintro id envelope ⟨⟩
      exact hview id envelope rfl
    · rintro id error ⟨⟩
      exact absurd rfl (hclosed id error)
    · rintro requestId nonce ⟨⟩
      exact absurd rfl (hping requestId nonce)

/-- a state from which the failure of a subscription is reported: it differs in the subscription's own entries only -/
theorem withdrawn_of {w₁ : Worker} (ticket : Nat) (error : MobileClientError) (hcache : w₁.cache = w.cache)
    (hsent : w₁.sent = w.sent) (hshown : w₁.shown = w.shown) (hnumbers : w.nextRequestId ≤ w₁.nextRequestId)
    (hreplies : w₁.replies = w.replies)
    (hcallbacks : ∀ other : Nat, subscriptionId ≠ other → w₁.callbacks[other]? = w.callbacks[other]?)
    (hsnapshots : ∀ other : Nat, subscriptionId ≠ other → w₁.currentSnapshots[other]? = w.currentSnapshots[other]?) :
    Withdrawn subscriptionId ticket w ((w₁.withdraw subscriptionId).refuse ticket error) where
  cache := hcache
  sent := hsent
  shown := hshown
  numbers := hnumbers
  callbacks other := by
    refine (OrdMap.get_erase w₁.callbacks subscriptionId other).trans ?_
    split_ifs with h
    · rfl
    · exact hcallbacks other h
  snapshots other := by
    refine (OrdMap.get_erase w₁.currentSnapshots subscriptionId other).trans ?_
    split_ifs with h
    · rfl
    · exact hsnapshots other h
  activity := rfl
  replies := ⟨error, by rw [← hreplies]; rfl⟩

theorem promise_snapshots (subscriptionId : Nat) (outcome : ProjectionSubscribeOutcome) {other : Nat}
    (h : subscriptionId ≠ other) :
    (w.promise subscriptionId outcome).currentSnapshots[other]? = w.currentSnapshots[other]? := by
  cases outcome with
  | currentFollows cursor =>
    refine (OrdMap.get_insert w.currentSnapshots subscriptionId other cursor).trans ?_
    rw [if_neg h]
  | resumed _ | rejected _ => rfl

/-- a promise changes nothing but the table of promises -/
theorem promise_eq (subscriptionId : Nat) (outcome : ProjectionSubscribeOutcome) :
    w.promise subscriptionId outcome =
      { w with currentSnapshots := (w.promise subscriptionId outcome).currentSnapshots } := by
  cases outcome <;> rfl

/-- an acknowledgement that is accepted is followed by the barrier -/
theorem sendBarrier_cases (env : WorkerEnv) (subscriptionId : Nat) (subscribe : ProjectionSubscribe) (outcome : ProjectionSubscribeOutcome)
    (w : Worker) :
    (∃ writes, sendBarrier env subscriptionId subscribe outcome w =
      (.ok (.barrier w.nextRequestId subscriptionId subscribe outcome),
        { w with
          nextRequestId := w.nextRequestId + 1
          writes := writes
          sent := w.sent ++ [.control (.ok (.ping w.nextRequestId w.nextRequestId))] })) ∨
    ∃ error next writes, w.nextRequestId ≤ next ∧ Trouble env w ∧
      sendBarrier env subscriptionId subscribe outcome w = (.error error, { w with nextRequestId := next, writes := writes }) :=
  request_cases env (fun requestId => .ping requestId requestId) (.barrier · subscriptionId subscribe outcome) w

theorem run_checkAck (h : ack.validateFor subscribe = .ok ()) :
    checkAck ack subscribe w = (.ok (), w) := by
  rw [checkAck, h]
  rfl

theorem run_checkAck_error (h : ack.validateFor subscribe ≠ .ok ()) : checkAck ack subscribe w = (.error .contract, w) := by
  rw [checkAck]
  cases hvalid : ack.validateFor subscribe with
  | ok u => exact absurd hvalid h
  | error violation => rfl

theorem resume_ok {activity : Activity} (h : program w = (.ok activity, w')) :
    w.resume waiting origin program = { w' with activity := activity } := by
  rw [Worker.resume, h]

theorem resume_error {error : MobileClientError} (h : program w = (.error error, w')) :
    w.resume waiting origin program = w'.giveUp waiting origin error := by
  rw [Worker.resume, h]

theorem resume_map {α : Type} {program : WorkerM α} {f : α → Activity} {a : α} (h : program w = (.ok a, w')) :
    w.resume waiting origin (program >>= fun a => pure (f a)) = { w' with activity := f a } := by
  rw [Worker.resume, run_bind h]
  rfl

/-- an acknowledgement that is not a rejection: the promise and the barrier -/
theorem run_promise (env : WorkerEnv) (hvalid : ack.validateFor subscribe = .ok ())
    (haccepted : ∀ error, ack.outcome ≠ .rejected error) (subscriptionId : Nat) :
    subscribeAcked env subscriptionId subscribe ack w =
        sendBarrier env subscriptionId subscribe ack.outcome (w.promise subscriptionId ack.outcome) ∧
      resubscribeAcked env subscriptionId subscribe ack w =
        (some <$> sendBarrier env subscriptionId subscribe ack.outcome) (w.promise subscriptionId ack.outcome) := by
  rw [subscribeAcked, resubscribeAcked, run_bind (run_checkAck hvalid), run_bind (run_checkAck hvalid)]
  cases houtcome : ack.outcome with
  | rejected error => exact absurd houtcome (haccepted error)
  | resumed _ | currentFollows _ => exact ⟨rfl, rfl⟩

theorem promise_next (subscriptionId : Nat) (outcome : ProjectionSubscribeOutcome) :
    (w.promise subscriptionId outcome).nextRequestId = w.nextRequestId ∧
      (w.promise subscriptionId outcome).writes = w.writes := by
  cases outcome <;> exact ⟨rfl, rfl⟩

/-- the case of an accepted acknowledgement, with its state spelled out -/
theorem acked_outcome (writes : Nat) (h : w.activity = .waiting (.subscribeAck requestId subscriptionId subscribe) origin)
    (hvalid : ack.validateFor subscribe = .ok ()) (haccepted : ∀ error, ack.outcome ≠ .rejected error) :
    Outcome env w (reading (.projectionSubscribeAckFrame requestId subscriptionId ack))
      { w.promise subscriptionId ack.outcome with
        nextRequestId := w.nextRequestId + 1
        writes := writes
        sent := (w.promise subscriptionId ack.outcome).sent ++ [.control (.ok (.ping w.nextRequestId w.nextRequestId))]
        activity := .waiting (.barrier w.nextRequestId subscriptionId subscribe ack.outcome) origin } := by
  have hacked : Outcome env w _ _ := .acked writes h hvalid haccepted
  unfold Worker.ask at hacked
  rw [(promise_next subscriptionId ack.outcome).1] at hacked
  exact hacked

/-- the acknowledgement of a call -/
theorem subscribeAcked_outcome {ticket : Nat}
    (h : w.activity = .waiting (.subscribeAck requestId subscriptionId subscribe) (.call ticket))
    (ack : ProjectionSubscribeAck) :
    Outcome env w (reading (.projectionSubscribeAckFrame requestId subscriptionId ack))
      (w.resume (.subscribeAck requestId subscriptionId subscribe) (.call ticket)
        (callFound env ticket (.subscribeAck requestId subscriptionId subscribe) (.ack ack))) := by
  have hcall : callFound env ticket (.subscribeAck requestId subscriptionId subscribe) (.ack ack) =
      subscribeAcked env subscriptionId subscribe ack >>= fun waiting => pure (.waiting waiting (.call ticket)) := rfl
  rw [hcall]
  by_cases hvalid : ack.validateFor subscribe = .ok ()
  · by_cases hrejected : ∃ error, ack.outcome = .rejected error
    · obtain ⟨error, houtcome⟩ := hrejected
      have hrun : subscribeAcked env subscriptionId subscribe ack w =
          (.error .remoteRejected, w.close subscriptionId [.onError error, .onClosed (some error)]) := by
        rw [subscribeAcked, run_bind (run_checkAck hvalid), houtcome]
        rfl
      rw [resume_error (run_bind_error hrun)]
      refine .ackFailed h (.inl ⟨error, houtcome⟩) ?_
      refine withdrawn_of ticket _ rfl rfl (close_shown _ rfl) le_rfl rfl (fun other hne => ?_) fun other hne => ?_
      · exact (OrdMap.get_erase w.callbacks subscriptionId other).trans (if_neg hne)
      · exact (OrdMap.get_erase w.currentSnapshots subscriptionId other).trans (if_neg hne)
    · have haccepted : ∀ error, ack.outcome ≠ .rejected error := fun error heq => hrejected ⟨error, heq⟩
      obtain ⟨hnext, -⟩ := promise_next (w := w) subscriptionId ack.outcome
      have hpromise := (run_promise env (w := w) hvalid haccepted subscriptionId).1
      rcases sendBarrier_cases env subscriptionId subscribe ack.outcome (w.promise subscriptionId ack.outcome) with
        ⟨writes, hrun⟩ | ⟨error, next, writes, hle, htrouble, hrun⟩
      · rw [hrun, hnext] at hpromise
        rw [resume_map hpromise]
        exact acked_outcome writes h hvalid haccepted
      · rw [hrun] at hpromise
        rw [resume_error (run_bind_error hpromise)]
        rw [Trouble, (promise_next subscriptionId _).1, (promise_next subscriptionId _).2] at htrouble
        refine .ackFailed h (.inr (.inr htrouble)) ?_
        rw [promise_eq]
        exact withdrawn_of ticket _ rfl rfl rfl (hnext ▸ hle) rfl (fun _ _ => rfl) fun other hne =>
          promise_snapshots subscriptionId ack.outcome hne
  · have hrun : subscribeAcked env subscriptionId subscribe ack w = (.error .contract, w) :=
      run_bind_error (run_checkAck_error hvalid)
    rw [resume_error (run_bind_error hrun)]
    refine .ackFailed h (.inr (.inl hvalid)) ?_
    exact withdrawn_of ticket _ rfl rfl rfl le_rfl rfl (fun _ _ => rfl) fun _ _ => rfl

theorem loop_resubscribe (env : WorkerEnv) (rest : List Nat) (w : Worker) :
    Loop w rest (match resubscribe env rest w with
      | (.ok activity, w') => { w' with activity := activity }
      | (.error _, w') => { w' with activity := .offline }) := by
  rcases resubscribe_cases env rest w with
    ⟨hnone, hrun⟩ | ⟨subscriptionId, later, key, hsuffix, hkey, ⟨writes, hrun⟩ | ⟨error, next, writes, hle, hrun⟩⟩
  · rw [hrun]
    exact .finished hnone
  · rw [hrun]
    exact .asked writes hsuffix hkey
  · rw [hrun]
    exact .failed writes hle

/-- a turn of `resubscribe_all` that goes on with its loop -/
theorem resume_loop {rest rest' : List Nat} {w₁ : Worker} (h : program w = resubscribe env rest w₁) :
    Loop w₁ rest (w.resume waiting (.reconnect rest') program) := by
  have hloop := loop_resubscribe env rest w₁
  rw [← h] at hloop
  rw [Worker.resume]
  rcases hrun : program w with ⟨error | activity, w'⟩ <;> rw [hrun] at hloop <;> exact hloop

/-- the acknowledgement of a subscription that is taken up again -/
theorem resubscribeAcked_outcome {rest : List Nat}
    (h : w.activity = .waiting (.subscribeAck requestId subscriptionId subscribe) (.reconnect rest))
    (ack : ProjectionSubscribeAck) :
    Outcome env w (reading (.projectionSubscribeAckFrame requestId subscriptionId ack))
      (w.resume (.subscribeAck requestId subscriptionId subscribe) (.reconnect rest)
        (resubscribeFound env rest (.subscribeAck requestId subscriptionId subscribe) (.ack ack))) := by
  unfold resubscribeFound
  dsimp only
  by_cases hvalid : ack.validateFor subscribe = .ok ()
  · by_cases hrejected : ∃ error, ack.outcome = .rejected error
    · obtain ⟨error, houtcome⟩ := hrejected
      have hrun : resubscribeAcked env subscriptionId subscribe ack w =
          (.ok none, w.close subscriptionId [.onError error, .onClosed (some error)]) := by
        rw [resubscribeAcked, run_bind (run_checkAck hvalid), houtcome]
        rfl
      exact .ackRejected h houtcome (resume_loop (run_bind hrun))
    · have haccepted : ∀ error, ack.outcome ≠ .rejected error := fun error heq => hrejected ⟨error, heq⟩
      obtain ⟨hnext, -⟩ := promise_next (w := w) subscriptionId ack.outcome
      have hpromise := (run_promise env (w := w) hvalid haccepted subscriptionId).2
      rcases sendBarrier_cases env subscriptionId subscribe ack.outcome (w.promise subscriptionId ack.outcome) with
        ⟨writes, hrun⟩ | ⟨error, next, writes, hle, -, hrun⟩
      · have hsome : resubscribeAcked env subscriptionId subscribe ack w = _ := hpromise.trans (run_bind hrun)
        rw [hnext] at hsome
        rw [Worker.resume, run_bind hsome]
        exact acked_outcome writes h hvalid haccepted
      · have hnone : resubscribeAcked env subscriptionId subscribe ack w = _ := hpromise.trans (run_bind_error hrun)
        rw [resume_error (run_bind_error hnone), promise_eq]
        exact .ackLost writes h (hnext ▸ hle) (.inr ⟨hvalid, rfl⟩)
  · have hrun : resubscribeAcked env subscriptionId subscribe ack w = (.error .contract, w) :=
      run_bind_error (run_checkAck_error hvalid)
    rw [resume_error (run_bind_error hrun)]
    exact .ackLost w.writes h le_rfl (.inl rfl)

theorem checkSynchronized_cases (subscribe : ProjectionSubscribe) (outcome : ProjectionSubscribeOutcome) (w : Worker) :
    (∃ cursor, w.cache.since subscribe.key = some cursor ∧
      validateSynchronizedCursor outcome subscribe.since cursor = .ok () ∧
      checkSynchronized subscribe outcome w = (.ok (), w)) ∨
    ∃ error, checkSynchronized subscribe outcome w = (.error error, w) ∧
      ∀ cursor, w.cache.since subscribe.key = some cursor →
        validateSynchronizedCursor outcome subscribe.since cursor ≠ .ok () := by
  unfold checkSynchronized
  rw [run_bind (p := Prog.read _) rfl]
  cases hsince : w.cache.since subscribe.key with
  | none => exact .inr ⟨_, rfl, by rintro _ ⟨⟩⟩
  | some cursor =>
    cases hvalid : validateSynchronizedCursor outcome subscribe.since cursor with
    | ok u => exact .inl ⟨cursor, rfl, hvalid, by simp only [hvalid]; rfl⟩
    | error error =>
      refine .inr ⟨error, by simp only [hvalid]; rfl, ?_⟩
      rintro _ ⟨⟩ hok
      rw [hvalid] at hok
      cases hok

/-- the answer to the ping behind an acknowledgement -/
theorem barrier_outcome {outcome : ProjectionSubscribeOutcome}
    (h : w.activity = .waiting (.barrier requestId subscriptionId subscribe outcome) origin) :
    Outcome env w (reading (.pong requestId requestId))
      (w.resume (.barrier requestId subscriptionId subscribe outcome) origin
        (found env (.barrier requestId subscriptionId subscribe outcome) origin (.answer .done))) := by
  rcases checkSynchronized_cases subscribe outcome w with ⟨cursor, hsince, hvalid, hrun⟩ | ⟨error, hrun, hinvalid⟩
  · cases origin with
    | call ticket =>
      have hfound : found env (.barrier requestId subscriptionId subscribe outcome) (.call ticket) (.answer .done) w =
          (.ok .idle, { w with replies := w.replies ++ [(ticket, .ok .done)] }) := (run_bind hrun).trans rfl
      rw [resume_ok hfound]
      exact .synced h hsince hvalid
    | reconnect rest => exact .resynced h hsince hvalid (resume_loop (run_bind hrun))
  · have hfound : found env (.barrier requestId subscriptionId subscribe outcome) origin (.answer .done) w =
        (.error error, w) := by
      cases origin <;> exact run_bind_error hrun
    rw [resume_error hfound]
    exact .unsynced error h hinvalid

/-- the frame that was waited for -/
theorem found_outcome (h : w.activity = .waiting waiting origin) {frame : ControlFrame} {value : Found}
    (hselect : waiting.select frame = some value) :
    Outcome env w (reading frame) (w.resume waiting origin (found env waiting origin value)) := by
  -- `resubscribe_all` waits for acknowledgements and barriers only
  have hmisplaced : ∀ rest, origin = .reconnect rest →
      (∀ requestId subscriptionId subscribe, waiting ≠ .subscribeAck requestId subscriptionId subscribe) →
      (∀ requestId subscriptionId subscribe outcome, waiting ≠ .barrier requestId subscriptionId subscribe outcome) →
      found env waiting origin value w = (.error .contract, w) →
      Outcome env w (reading frame) (w.resume waiting origin (found env waiting origin value)) := by
    rintro rest rfl hack hbarrier hrun
    rw [resume_error hrun]
    exact .misplaced _ h hselect ⟨hack, hbarrier⟩
  -- an answer that the caller only waits for
  have hplain : ∀ answer, value = .answer answer →
      (waiting = .deviceCommandAck waiting.requestId ∨ waiting = .contentWriteResult waiting.requestId ∨
        waiting = .contentReadResult waiting.requestId) →
      Outcome env w (reading frame) (w.resume waiting origin (found env waiting origin value)) := by
    rintro answer rfl hplain
    cases origin with
    | call ticket =>
      have hrun : found env waiting (.call ticket) (.answer answer) w =
          (.ok .idle, { w with replies := w.replies ++ [(ticket, .ok answer)] }) := by
        rcases hplain with heq | heq | heq <;> rw [heq] <;> rfl
      rw [resume_ok hrun]
      exact .answered h hselect hplain
    | reconnect rest =>
      rcases hplain with heq | heq | heq <;> rw [heq] at hmisplaced h hselect ⊢ <;>
        exact hmisplaced rest rfl (by rintro _ _ _ ⟨⟩) (by rintro _ _ _ _ ⟨⟩) rfl
  unfold Waiting.select at hselect
  split at hselect
  · rename_i requestId subscriptionId subscribe _ _ ack
    split_ifs at hselect with hmatch
    obtain ⟨rfl, rfl⟩ := hmatch
    obtain rfl := Option.some.inj hselect
    cases origin with
    | call ticket => exact subscribeAcked_outcome h ack
    | reconnect rest => exact resubscribeAcked_outcome h ack
  · split_ifs at hselect with hmatch
    obtain ⟨rfl, rfl⟩ := hmatch
    obtain rfl := Option.some.inj hselect
    exact barrier_outcome h
  · split_ifs at hselect with hmatch
    obtain ⟨rfl, rfl⟩ := hmatch
    obtain rfl := Option.some.inj hselect
    cases origin with
    | call ticket => exact .unsubscribed h
    | reconnect rest => exact hmisplaced rest rfl (by rintro _ _ _ ⟨⟩) (by rintro _ _ _ _ ⟨⟩) rfl
  · split_ifs at hselect
    obtain rfl := Option.some.inj hselect
    exact hplain _ rfl (.inl rfl)
  · split_ifs at hselect
    obtain rfl := Option.some.inj hselect
    exact hplain _ rfl (.inr (.inl rfl))
  · split_ifs at hselect
    obtain rfl := Option.some.inj hselect
    exact hplain _ rfl (.inr (.inr rfl))
  · cases hselect

/-- a turn of `wait_for` -/
theorem waitTurn_outcome (h : w.activity = .waiting waiting origin) (frame : Frame) :
    Outcome env w (.frame frame) (w.resume waiting origin (waitTurn env waiting origin frame)) := by
  unfold waitTurn
  cases hselect : waiting.selectFrame frame with
  | some value =>
    cases frame with
    | content requestId body => cases hselect
    | control decoded =>
      cases decoded with
      | error e => cases hselect
      | ok control => exact found_outcome h hselect
  | none =>
    dsimp only
    rcases handleUnsolicited_cases env frame w with ⟨w', hrun, htaken⟩ | ⟨error, w', hrun, hrefused⟩
    · rw [resume_map hrun]
      have hactivity : w'.activity = w.activity := by cases htaken <;> rfl
      rw [← h, ← hactivity]
      exact .taken (.inr ⟨waiting, origin, h, hselect⟩) htaken
    · rw [resume_error (run_bind_error hrun)]
      exact .refused error h hselect hrefused

/-- a subscription that the idle worker asks for -/
theorem execute_subscribe_outcome (h : w.activity = .idle) (ticket subscriptionId : Nat) (subscribe : ProjectionSubscribe) :
    Outcome env w (.command ticket (.subscribe subscriptionId subscribe))
      (w.execute env ticket (.subscribe subscriptionId subscribe)) := by
  rcases takeRequestId_cases w with htake | ⟨-, htake⟩
  · have hbegin : beginRequest env (.subscribe subscriptionId subscribe) w =
        (sendControl env (.projectionSubscribeFrame w.nextRequestId subscriptionId subscribe) >>= fun _ =>
          pure (.subscribeAck w.nextRequestId subscriptionId subscribe))
          { w with
            nextRequestId := w.nextRequestId + 1
            callbacks := w.callbacks.insert subscriptionId subscribe.key } := run_bind htake
    rcases send_cases env (.control (.ok (.projectionSubscribeFrame w.nextRequestId subscriptionId subscribe)))
      { w with
        nextRequestId := w.nextRequestId + 1
        callbacks := w.callbacks.insert subscriptionId subscribe.key } with hsend | ⟨hwrite, hsend⟩
    · rw [Worker.execute, hbegin.trans (run_bind hsend)]
      exact .subscribes (w.writes + 1) h
    · rw [Worker.execute, hbegin.trans (run_bind_error hsend)]
      refine .subscribeFailed h (.inr (.inl hwrite)) ?_
      refine withdrawn_of ticket _ rfl rfl rfl (Nat.le_succ _) rfl (fun other hne => ?_) fun _ _ => rfl
      exact (OrdMap.get_insert w.callbacks subscriptionId other _).trans (if_neg hne)
  · have hbegin : beginRequest env (.subscribe subscriptionId subscribe) w = (.error .identifierExhausted, w) :=
      run_bind_error htake
    rw [Worker.execute, hbegin]
    exact .exhausted h

/-- a request that fails before anything is sent -/
theorem unsent_outcome {command : WorkerCommand} {frames : List Frame} {ticket next : Nat} (writes : Nat)
    (error : MobileClientError) (h : w.activity = .idle) (hof : RequestOf w.nextRequestId command frames waiting)
    (hnext : w.nextRequestId ≤ next) (hcause : ∀ subscriptionId, command = .unsubscribe subscriptionId → Trouble env w)
    (hrun : beginRequest env command w = (.error error, { w with nextRequestId := next, writes := writes })) :
    Outcome env w (.command ticket command) (w.execute env ticket command) := by
  have hexecute : w.execute env ticket command =
      Worker.refuse { w with nextRequestId := next, writes := writes, sent := w.sent ++ [] } ticket error := by
    rw [Worker.execute, hrun, List.append_nil]
    cases hof <;> rfl
  rw [hexecute]
  exact .requestFailed writes error h hof hnext rfl (by cases hof <;> simp) hcause

/-- an upload: its header, then its bytes -/
theorem execute_write_outcome (h : w.activity = .idle) (ticket : Nat) (header : ContentWriteRequest) (bytes : List UInt8) :
    Outcome env w (.command ticket (.writeContent header bytes)) (w.execute env ticket (.writeContent header bytes)) := by
  have hof : RequestOf w.nextRequestId _ _ _ := .writeContent header bytes
  by_cases hvalid : header.valid
  · have hrequire : beginRequest env (.writeContent header bytes) w = (takeRequestId >>= fun requestId =>
        sendControl env (.contentWriteHeader requestId header) >>= fun _ => send env (.content requestId bytes) >>= fun _ =>
          pure (.contentWriteResult requestId)) w := run_bind (run_require hvalid w)
    rcases takeRequestId_cases w with htake | ⟨-, htake⟩
    · rw [run_bind htake] at hrequire
      rcases send_cases env (.control (.ok (.contentWriteHeader w.nextRequestId header)))
        { w with nextRequestId := w.nextRequestId + 1 } with hsend | ⟨-, hsend⟩
      · rw [sendControl, run_bind hsend] at hrequire
        rcases send_cases env (.content w.nextRequestId bytes)
          { w with
            nextRequestId := w.nextRequestId + 1
            writes := w.writes + 1
            sent := w.sent ++ [.control (.ok (.contentWriteHeader w.nextRequestId header))] } with hbody | ⟨-, hbody⟩
        · have hexecute : w.execute env ticket (.writeContent header bytes) = w.ask (w.writes + 2)
              [.control (.ok (.contentWriteHeader w.nextRequestId header)), .content w.nextRequestId bytes]
              (.contentWriteResult w.nextRequestId) (.call ticket) := by
            rw [Worker.ask, List.append_cons w.sent, Worker.execute, hrequire, run_bind hbody]
            rfl
          rw [hexecute]
          exact .requests _ h hof
        · rw [Worker.execute, hrequire, run_bind_error hbody]
          exact .requestFailed _ _ h hof (Nat.le_succ _) (List.singleton_append).symm (by simp) (by rintro _ ⟨⟩)
      · exact unsent_outcome _ _ h hof (Nat.le_succ _) (by rintro _ ⟨⟩) (hrequire.trans (run_bind_error hsend))
    · exact unsent_outcome _ _ h hof le_rfl (by rintro _ ⟨⟩) (hrequire.trans (run_bind_error htake))
  · have hrun : beginRequest env (.writeContent header bytes) w = (.error .contract, w) := by
      simp only [beginRequest, bind, Prog.require, if_neg hvalid, Prog.fail]
    exact unsent_outcome _ _ h hof le_rfl (by rintro _ ⟨⟩) hrun

/-- a command that the idle worker executes -/
theorem execute_outcome (h : w.activity = .idle) (ticket : Nat) (command : WorkerCommand) :
    Outcome env w (.command ticket command) (w.execute env ticket command) := by
  -- the requests of one frame
  have hrequest : ∀ {frame : Nat → ControlFrame} {waiting : Nat → Waiting},
      beginRequest env command w = request env frame waiting w →
      RequestOf w.nextRequestId command [.control (.ok (frame w.nextRequestId))] (waiting w.nextRequestId) →
      Outcome env w (.command ticket command) (w.execute env ticket command) := by
    intro frame waiting hrun hof
    rcases request_cases env frame waiting w with ⟨writes, hsent⟩ | ⟨error, next, writes, hle, htrouble, hfailed⟩
    · rw [Worker.execute, hrun, hsent]
      exact .requests writes h hof
    · exact unsent_outcome writes error h hof hle (fun _ _ => htrouble) (hrun.trans hfailed)
  cases command with
  | subscribe subscriptionId subscribe => exact execute_subscribe_outcome h ticket subscriptionId subscribe
  | unsubscribe subscriptionId => exact hrequest rfl (.unsubscribe _)
  | submitCommand request => exact hrequest rfl (.submitCommand _)
  | writeContent header bytes => exact execute_write_outcome h ticket header bytes
  | readContent range =>
    cases hvalid : range.validate with
    | ok u =>
      have hrun : beginRequest env (.readContent range) w = request env (.contentReadFrame · range) .contentReadResult w := by
        simp only [beginRequest, hvalid]
        rfl
      exact hrequest hrun (.readContent _)
    | error violation =>
      have hrun : beginRequest env (.readContent range) w = (.error .contract, w) := by
        simp only [beginRequest, hvalid]
        rfl
      exact unsent_outcome _ _ h (.readContent _) le_rfl (by rintro _ ⟨⟩) hrun

/-- **The cases of a step.** -/
theorem step_outcome (w : Worker) (input : Input) : Outcome env w input (w.step env input) := by
  unfold Worker.step
  split
  · rename_i hw
    exact .connected hw (loop_resubscribe _ _ _)
  · rename_i hw
    exact .offlineCommand hw
  · rename_i hw
    exact .stopped (.inr hw)
  · rename_i hw
    exact .published _ hw
  · rename_i hw
    exact waitTurn_outcome hw _
  · rename_i hw
    exact .gaveUp hw (.inl rfl)
  · rename_i hw
    exact .gaveUp hw (.inr rfl)
  · rename_i hw
    exact execute_outcome hw _ _
  · rename_i frame hw
    rcases handleUnsolicited_cases env frame w with ⟨w', hrun, htaken⟩ | ⟨error, w', hrun, hrefused⟩
    · rw [hrun]
      exact .taken (.inl hw) htaken
    · rw [hrun]
      exact .dropped hw hrefused
  · rename_i hw
    exact .disconnected hw (.inl rfl)
  · rename_i hw
    exact .disconnected hw (.inr rfl)
  · rename_i hw
    exact .stopped (.inl hw)
  · rename_i hwait _ _ _ hidle _ _ _
    refine .ignored ?_
    rintro frame rfl
    cases hactivity : w.activity with
    | offline | resubscribed | stopped => rfl
    | waiting waiting origin => exact absurd rfl (hwait _ _ _ hactivity)
    | idle => exact absurd rfl (hidle _ hactivity)

end

end Kaleido.Core
