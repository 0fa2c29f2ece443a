/-
The connection worker of a phone (`kaleido-core`, `mobile.rs`): one thread that owns the connection, the table of
subscriptions and the numbering of requests.

The thread blocks while it waits for an answer (`wait_for`), so where it stands is an `Activity`: what it waits for and for
whom. A `step` is what it does with one thing it meets: a command, a frame, the end of a read, a deadline, a change of the
network. What the operating system decides is `WorkerEnv`: which writes go through, and the clock.
-/
import Kaleido.Lib.Run
import Kaleido.Transport.Session
import Kaleido.Core.Cache

namespace Kaleido.Core

open Check Prog Proto State Transport

/-- `MobileClientError` -/
inductive MobileClientError where
  | storage | notPaired | notConnected | alreadyConnected | authentication | contract | remoteRejected
  | remoteUnavailable | workerStopped | identifierExhausted
  deriving DecidableEq

/-- the calls of a `ProjectionCallback`; a view tells whether it was the one that an acknowledgement promised -/
inductive Told where
  | onProjection (envelope : ProjectionEnvelope) (promised : Bool)
  | onError (error : CanonicalError)
  | onClosed (error : Option CanonicalError)
  deriving DecidableEq

/-- `WorkerCommand`, without the two that end a connection -/
inductive WorkerCommand where
  | subscribe (subscriptionId : Nat) (subscribe : ProjectionSubscribe)
  | unsubscribe (subscriptionId : Nat)
  | submitCommand (request : DeviceCommandRequest)
  | writeContent (request : ContentWriteRequest) (bytes : List UInt8)
  | readContent (request : ContentReadRequest)

/-- what a command is answered -/
inductive Answer where
  | done
  | acknowledged (ack : CommandAck)
  | written (response : ContentWriteResponse)
  | content (response : ContentReadResponse)
  deriving DecidableEq

/-- the frame that `wait_for` looks for -/
inductive Waiting where
  | subscribeAck (requestId subscriptionId : Nat) (subscribe : ProjectionSubscribe)
  /-- the answer to the ping behind an acknowledgement -/
  | barrier (requestId subscriptionId : Nat) (subscribe : ProjectionSubscribe) (outcome : ProjectionSubscribeOutcome)
  | unsubscribeAck (requestId subscriptionId : Nat)
  | deviceCommandAck (requestId : Nat)
  | contentWriteResult (requestId : Nat)
  | contentReadResult (requestId : Nat)
  deriving DecidableEq

/-- for whom the worker waits: the caller with this ticket, or `resubscribe_all` with these subscriptions to come -/
inductive Origin where
  | call (ticket : Nat)
  | reconnect (rest : List Nat)
  deriving DecidableEq

/-- where the thread stands -/
inductive Activity where
  /-- inside `reconnect_worker`, without a connection -/
  | offline
  | waiting (waiting : Waiting) (origin : Origin)
  /-- resubscribed, before the path is published -/
  | resubscribed
  | idle
  | stopped
  deriving DecidableEq

/-- what the worker holds; `sent` are the frames written to the present connection, `told` what the callbacks were told, and
`replies` what the callers were answered -/
structure Worker where
  cache : ProjectionCache := {}
  callbacks : OrdMap Nat ProjectionKey := ∅
  currentSnapshots : OrdMap Nat Cursor := ∅
  nextRequestId : Nat := 4
  activity : Activity := .idle
  writes : Nat := 0
  sent : List Frame := []
  told : List (Nat × Told) := []
  replies : List (Nat × Except MobileClientError Answer) := []

structure WorkerEnv where
  /-- whether a write goes through -/
  writes : Nat → Bool
  /-- the time of a call of a callback -/
  clock : Nat → Int

/-- every write goes through -/
def allWrites : WorkerEnv := ⟨fun _ => true, fun _ => 0⟩

abbrev WorkerM := Prog Worker MobileClientError

variable (env : WorkerEnv)

/-! ## Parts -/

/-- `take_request_id` -/
def takeRequestId : WorkerM Nat := do
  let current ← read (·.nextRequestId)
  require (current < u64Max) .identifierExhausted
  modify fun w => { w with nextRequestId := current + 1 }
  return current

/-- `send_control`, `send_content` -/
def send (frame : Frame) : WorkerM Unit := do
  let attempt ← read (·.writes)
  modify fun w => { w with writes := attempt + 1 }
  require (env.writes attempt) .workerStopped
  modify fun w => { w with sent := w.sent ++ [frame] }

def sendControl (frame : ControlFrame) : WorkerM Unit := send env (.control (.ok frame))

def tell (subscriptionId : Nat) (told : Told) : WorkerM Unit :=
  modify fun w => { w with told := w.told ++ [(subscriptionId, told)] }

/-- a subscription is taken out of both tables -/
def Worker.withdraw (w : Worker) (subscriptionId : Nat) : Worker :=
  { w with
    callbacks := w.callbacks.erase subscriptionId
    currentSnapshots := w.currentSnapshots.erase subscriptionId }

/-- a subscription is taken out, and its callback, if there is one, is told why -/
def Worker.close (w : Worker) (subscriptionId : Nat) (told : List Told) : Worker :=
  { w.withdraw subscriptionId with
    told := if w.callbacks.contains subscriptionId then w.told ++ told.map (subscriptionId, ·) else w.told }

def closeCallback (subscriptionId : Nat) (error : CanonicalError) : WorkerM Unit :=
  modify (·.close subscriptionId [.onError error, .onClosed (some error)])

/-- the cache at a view of a subscription: the view that was promised, or the next one -/
def Worker.offer (w : Worker) (subscriptionId : Nat) (envelope : ProjectionEnvelope) :
    Except CacheError (CacheApply × ProjectionCache) :=
  match w.currentSnapshots[subscriptionId]? with
  | some expectedCursor => w.cache.applyCurrent envelope expectedCursor
  | none => w.cache.apply envelope

/-- `apply_projection`: the promise of a snapshot is used up, whatever the cache makes of the view -/
def applyProjection (subscriptionId : Nat) (envelope : ProjectionEnvelope) : WorkerM Unit := do
  let expected ← read (·.callbacks[subscriptionId]?)
  require (expected = some envelope.key) .contract
  let snapshot ← read (·.currentSnapshots[subscriptionId]?)
  let offered ← read (·.offer subscriptionId envelope)
  modify fun w => { w with currentSnapshots := w.currentSnapshots.erase subscriptionId }
  let (outcome, cache) ← Prog.liftExcept (offered.mapError fun _ => .contract)
  modify fun w => { w with cache := cache }
  match outcome with
  | .applied => tell subscriptionId (.onProjection envelope snapshot.isSome)
  | .refreshRequired => do
    let calls ← read (·.told.length)
    closeCallback subscriptionId ⟨.cursorGap, true, none, env.clock calls⟩
    fail .contract

/-- `handle_unsolicited` -/
def handleUnsolicited : Frame → WorkerM Unit
  | .content .. | .control (.error _) => fail .contract
  | .control (.ok (.projectionEnvelopeFrame subscriptionId envelope)) => applyProjection env subscriptionId envelope
  | .control (.ok (.projectionSubscriptionClosed subscriptionId error)) => do
    require (error.code = .cursorGap ∧ error.retriable ∧ error.detailRef = none) .contract
    let callbacks ← read (·.callbacks)
    require (callbacks.contains subscriptionId) .contract
    closeCallback subscriptionId error
  | .control (.ok (.ping requestId nonce)) => sendControl env (.pong requestId nonce)
  | .control (.ok (.transportError ..)) => fail .remoteRejected
  | .control (.ok _) => fail .contract

/-! ## Waiting for an answer -/

/-- the number of the request whose answer is awaited -/
def Waiting.requestId : Waiting → Nat
  | .subscribeAck requestId .. | .barrier requestId .. | .unsubscribeAck requestId _ | .deviceCommandAck requestId
  | .contentWriteResult requestId | .contentReadResult requestId => requestId

/-- what `wait_for` found -/
inductive Found where
  | ack (ack : ProjectionSubscribeAck)
  | answer (answer : Answer)

/-- `select` of each `wait_for` -/
def Waiting.select : Waiting → ControlFrame → Option Found
  | .subscribeAck requestId subscriptionId _, .projectionSubscribeAckFrame found foundSubscription ack =>
    if found = requestId ∧ foundSubscription = subscriptionId then some (.ack ack) else none
  | .barrier requestId .., .pong found nonce => if found = requestId ∧ nonce = requestId then some (.answer .done) else none
  | .unsubscribeAck requestId subscriptionId, .unsubscribeAck found foundSubscription =>
    if found = requestId ∧ foundSubscription = subscriptionId then some (.answer .done) else none
  | .deviceCommandAck requestId, .deviceCommandAck found ack =>
    if found = requestId then some (.answer (.acknowledged ack)) else none
  | .contentWriteResult requestId, .contentWriteResult found response =>
    if found = requestId then some (.answer (.written response)) else none
  | .contentReadResult requestId, .contentReadResult found response =>
    if found = requestId then some (.answer (.content response)) else none
  | _, _ => none

def reply (ticket : Nat) (result : Except MobileClientError Answer) : WorkerM Unit :=
  modify fun w => { w with replies := w.replies ++ [(ticket, result)] }

/-- a request of one frame and the wait for its answer -/
def request (frame : Nat → ControlFrame) (waiting : Nat → Waiting) : WorkerM Waiting := do
  let requestId ← takeRequestId
  sendControl env (frame requestId)
  return waiting requestId

/-- the ping behind an acknowledgement: the host answers it after the views that the acknowledgement announced -/
def sendBarrier (subscriptionId : Nat) (subscribe : ProjectionSubscribe) (outcome : ProjectionSubscribeOutcome) :
    WorkerM Waiting :=
  request env (fun requestId => .ping requestId requestId) (.barrier · subscriptionId subscribe outcome)

def checkAck (ack : ProjectionSubscribeAck) (subscribe : ProjectionSubscribe) : WorkerM Unit :=
  Prog.liftExcept ((ack.validateFor subscribe).mapError fun _ => .contract)

/-- the view that an acknowledgement promises -/
def Worker.promise (w : Worker) (subscriptionId : Nat) : ProjectionSubscribeOutcome → Worker
  | .currentFollows currentCursor =>
    { w with currentSnapshots := w.currentSnapshots.insert subscriptionId currentCursor }
  | .resumed _ | .rejected _ => w

/-- `execute_command`, a subscription: its acknowledgement -/
def subscribeAcked (subscriptionId : Nat) (subscribe : ProjectionSubscribe) (ack : ProjectionSubscribeAck) :
    WorkerM Waiting := do
  checkAck ack subscribe
  match ack.outcome with
  | .rejected error => do
    closeCallback subscriptionId error
    fail .remoteRejected
  | .resumed _ | .currentFollows _ => do
    modify (·.promise subscriptionId ack.outcome)
    sendBarrier env subscriptionId subscribe ack.outcome

/-- `resubscribe_all` at one acknowledgement; after a rejection the loop goes on -/
def resubscribeAcked (subscriptionId : Nat) (subscribe : ProjectionSubscribe) (ack : ProjectionSubscribeAck) :
    WorkerM (Option Waiting) := do
  checkAck ack subscribe
  match ack.outcome with
  | .rejected error => do
    closeCallback subscriptionId error
    return none
  | .resumed _ | .currentFollows _ => do
    modify (·.promise subscriptionId ack.outcome)
    some <$> sendBarrier env subscriptionId subscribe ack.outcome

/-- `validate_synchronized_cursor` -/
def validateSynchronizedCursor (outcome : ProjectionSubscribeOutcome) (since : Option Cursor) (synchronizedCursor : Cursor) :
    Except MobileClientError Unit :=
  match outcome with
  | .currentFollows currentCursor => ensure (currentCursor.seq ≤ synchronizedCursor.seq) .contract
  | .resumed _ => ensure (since.any fun cursor => cursor.seq ≤ synchronizedCursor.seq) .contract
  | .rejected _ => .error .contract

/-- after the barrier: the cache has caught up -/
def checkSynchronized (subscribe : ProjectionSubscribe) (outcome : ProjectionSubscribeOutcome) : WorkerM Unit := do
  let since ← read (·.cache.since subscribe.key)
  match since with
  | none => fail .contract
  | some synchronizedCursor => Prog.liftExcept (validateSynchronizedCursor outcome subscribe.since synchronizedCursor)

/-- `resubscribe_all` from one turn of its loop on: the next subscription that is still wanted -/
def resubscribe : List Nat → WorkerM Activity
  | [] => return .resubscribed
  | subscriptionId :: rest => do
    let key ← read (·.callbacks[subscriptionId]?)
    match key with
    | none => resubscribe rest
    | some key => do
      let since ← read (·.cache.since key)
      let waiting ← request env (.projectionSubscribeFrame · subscriptionId ⟨key, since⟩)
        (.subscribeAck · subscriptionId ⟨key, since⟩)
      return .waiting waiting (.reconnect rest)

/-- a call that was answered -/
def finish (ticket : Nat) (answer : Answer) : WorkerM Activity := do
  reply ticket (.ok answer)
  return .idle

/-- a subscription that was taken up again: the loop goes on -/
def resubscribeFound (rest : List Nat) : Waiting → Found → WorkerM Activity
  | .subscribeAck _ subscriptionId subscribe, .ack ack => do
    match ← resubscribeAcked env subscriptionId subscribe ack with
    | some waiting => return .waiting waiting (.reconnect rest)
    | none => resubscribe env rest
  | .barrier _ _ subscribe outcome, _ => do
    checkSynchronized subscribe outcome
    resubscribe env rest
  | _, _ => fail .contract

/-- a call whose frame was found -/
def callFound (ticket : Nat) : Waiting → Found → WorkerM Activity
  | .subscribeAck _ subscriptionId subscribe, .ack ack => do
    let waiting ← subscribeAcked env subscriptionId subscribe ack
    return .waiting waiting (.call ticket)
  | .barrier _ _ subscribe outcome, .answer answer => do
    checkSynchronized subscribe outcome
    finish ticket answer
  | .unsubscribeAck _ subscriptionId, .answer answer => do
    modify (·.close subscriptionId [.onClosed none])
    finish ticket answer
  | _, .answer answer => finish ticket answer
  | _, .ack _ => fail .contract

/-- what follows the frame that was waited for -/
def found (waiting : Waiting) (origin : Origin) (frame : Found) : WorkerM Activity :=
  match origin with
  | .reconnect rest => resubscribeFound env rest waiting frame
  | .call ticket => callFound env ticket waiting frame

/-- only a frame that can be decoded is looked at -/
def Waiting.selectFrame (waiting : Waiting) : Frame → Option Found
  | .control (.ok control) => waiting.select control
  | .control (.error _) | .content .. => none

/-- one turn of `wait_for` -/
def waitTurn (waiting : Waiting) (origin : Origin) (frame : Frame) : WorkerM Activity :=
  match waiting.selectFrame frame with
  | some value => found env waiting origin value
  | none => do
    handleUnsolicited env frame
    return .waiting waiting origin

/-- the caller is told that the request failed; the connection stays -/
def Worker.refuse (w : Worker) (ticket : Nat) (error : MobileClientError) : Worker :=
  { w with replies := w.replies ++ [(ticket, .error error)], activity := .idle }

/-- a wait that ended in an error: the call fails and a subscription is withdrawn, or `resubscribe_all` fails and the
connection goes -/
def Worker.giveUp (w : Worker) (waiting : Waiting) (origin : Origin) (error : MobileClientError) : Worker :=
  match origin with
  | .reconnect _ => { w with activity := .offline }
  | .call ticket => match waiting with
    | .subscribeAck _ subscriptionId _ | .barrier _ subscriptionId _ _ => (w.withdraw subscriptionId).refuse ticket error
    | _ => w.refuse ticket error

/-! ## Commands -/

/-- `execute_command` up to its wait -/
def beginRequest : WorkerCommand → WorkerM Waiting
  | .subscribe subscriptionId subscribe => do
    let requestId ← takeRequestId
    modify fun w => { w with callbacks := w.callbacks.insert subscriptionId subscribe.key }
    sendControl env (.projectionSubscribeFrame requestId subscriptionId subscribe)
    return .subscribeAck requestId subscriptionId subscribe
  | .unsubscribe subscriptionId => request env (.unsubscribeRequest · subscriptionId) (.unsubscribeAck · subscriptionId)
  | .submitCommand command => request env (.deviceCommandFrame · command) .deviceCommandAck
  | .writeContent header bytes => do
    require header.valid .contract
    let requestId ← takeRequestId
    sendControl env (.contentWriteHeader requestId header)
    send env (.content requestId bytes)
    return .contentWriteResult requestId
  | .readContent range => do
    Prog.liftExcept (range.validate.mapError fun _ => .contract)
    request env (.contentReadFrame · range) .contentReadResult

/-- the end of the thread: `close_callbacks` -/
def Worker.stop (w : Worker) : Worker :=
  { w with
    callbacks := ∅
    told := w.told ++ w.callbacks.keys.map fun subscriptionId => (subscriptionId, .onClosed none)
    activity := .stopped }

/-- `execute_command`: a subscription that finds no number for its request ends the thread, and its caller waits in vain -/
def Worker.execute (w : Worker) (ticket : Nat) (command : WorkerCommand) : Worker :=
  match beginRequest env command w with
  | (.ok waiting, w') => { w' with activity := .waiting waiting (.call ticket) }
  | (.error error, w') => match command with
    | .subscribe subscriptionId _ =>
      if error = .identifierExhausted then { w'.stop with replies := w'.replies ++ [(ticket, .error .workerStopped)] }
      else (w'.withdraw subscriptionId).refuse ticket error
    | _ => w'.refuse ticket error

/-- `handle_disconnected_command` -/
def Worker.handleDisconnectedCommand (w : Worker) (ticket : Nat) : WorkerCommand → Worker
  | .unsubscribe subscriptionId =>
    { w.close subscriptionId [.onClosed none] with replies := w.replies ++ [(ticket, .ok .done)] }
  | _ => { w with replies := w.replies ++ [(ticket, .error .notConnected)] }

/-! ## The loop -/

/-- what the thread meets -/
inductive Input where
  /-- `reconnect_worker` has a new authenticated connection -/
  | connected
  /-- the last look at the epoch, and whether the path was published -/
  | published (current : Bool)
  | command (ticket : Nat) (command : WorkerCommand)
  | frame (frame : Frame)
  | readFailed
  /-- the deadline of `wait_for` -/
  | deadline
  /-- another epoch -/
  | networkChanged
  | shutdown

/-- the connection is dropped by the loop -/
def Worker.disconnect (w : Worker) : Worker := { w with currentSnapshots := ∅, activity := .offline }

/-- the thread goes on at an activity, or the wait ends in an error -/
def Worker.resume (w : Worker) (waiting : Waiting) (origin : Origin) (program : WorkerM Activity) : Worker :=
  match program w with
  | (.ok activity, w') => { w' with activity := activity }
  | (.error error, w') => w'.giveUp waiting origin error

/-- `run_worker` and `reconnect_worker`, one thing at a time; what the thread does not look at now leaves it as it is -/
def Worker.step (w : Worker) (input : Input) : Worker :=
  match w.activity, input with
  | .offline, .connected =>
    match resubscribe env w.callbacks.keys { w with sent := [] } with
    | (.ok activity, w') => { w' with activity := activity }
    | (.error _, w') => { w' with activity := .offline }
  | .offline, .command ticket command => w.handleDisconnectedCommand ticket command
  | .offline, .shutdown => w.stop
  | .resubscribed, .published current => { w with activity := if current then .idle else .offline }
  | .waiting waiting origin, .frame frame => w.resume waiting origin (waitTurn env waiting origin frame)
  | .waiting waiting origin, .readFailed => w.giveUp waiting origin .workerStopped
  | .waiting waiting origin, .deadline => w.giveUp waiting origin .workerStopped
  | .idle, .command ticket command => w.execute env ticket command
  | .idle, .frame frame =>
    match handleUnsolicited env frame w with
    | (.ok _, w') => w'
    | (.error _, w') => w'.disconnect
  | .idle, .readFailed => w.disconnect
  | .idle, .networkChanged => w.disconnect
  | .idle, .shutdown => w.stop
  | _, _ => w

/-! ## What the parts do -/

section

/-- the numbers have run out, or one of the next two writes fails -/
def Trouble (env : WorkerEnv) (w : Worker) : Prop :=
  u64Max ≤ w.nextRequestId ∨ env.writes w.writes = false ∨ env.writes (w.writes + 1) = false

theorem takeRequestId_cases (w : Worker) :
    takeRequestId w = (.ok w.nextRequestId, { w with nextRequestId := w.nextRequestId + 1 }) ∨
      u64Max ≤ w.nextRequestId ∧ takeRequestId w = (.error .identifierExhausted, w) := by
  by_cases h : w.nextRequestId < u64Max
  · left
    simp only [takeRequestId, bind, Prog.read, Prog.require, if_pos h, Prog.modify]
    rfl
  · refine .inr ⟨not_lt.mp h, ?_⟩
    simp only [takeRequestId, bind, Prog.read, Prog.require, if_neg h, Prog.fail]

theorem send_cases (env : WorkerEnv) (frame : Frame) (w : Worker) :
    send env frame w = (.ok (), { w with writes := w.writes + 1, sent := w.sent ++ [frame] }) ∨
      env.writes w.writes = false ∧ send env frame w = (.error .workerStopped, { w with writes := w.writes + 1 }) := by
  by_cases h : env.writes w.writes
  · left
    simp only [send, bind, Prog.read, Prog.require, if_pos h, Prog.modify]
    rfl
  · refine .inr ⟨Bool.eq_false_iff.mpr h, ?_⟩
    simp only [send, bind, Prog.read, Prog.require, if_neg h, Prog.modify, Prog.fail]

/-- a request took the next number and went out, or it failed -/
theorem request_cases (env : WorkerEnv) (frame : Nat → ControlFrame) (waiting : Nat → Waiting) (w : Worker) :
    (∃ writes, request env frame waiting w = (.ok (waiting w.nextRequestId),
      { w with
        nextRequestId := w.nextRequestId + 1
        writes := writes
        sent := w.sent ++ [.control (.ok (frame w.nextRequestId))] })) ∨
    ∃ error next writes, w.nextRequestId ≤ next ∧ Trouble env w ∧
      request env frame waiting w = (.error error, { w with nextRequestId := next, writes := writes }) := by
  unfold request
  rcases takeRequestId_cases w with htake | ⟨hmax, htake⟩
  · rw [run_bind htake, sendControl]
    rcases send_cases env (.control (.ok (frame w.nextRequestId))) { w with nextRequestId := w.nextRequestId + 1 } with
      hsend | ⟨hwrite, hsend⟩
    · rw [run_bind hsend]
      exact .inl ⟨_, rfl⟩
    · rw [run_bind_error hsend]
      exact .inr ⟨_, _, _, Nat.le_succ _, .inr (.inl hwrite), rfl⟩
  · rw [run_bind_error htake]
    exact .inr ⟨_, _, _, le_rfl, .inl hmax, rfl⟩

/-- `resubscribe_all` asks for the first subscription that is still wanted -/
theorem resubscribe_cases (env : WorkerEnv) (rest : List Nat) (w : Worker) :
    (∀ subscriptionId ∈ rest, w.callbacks[subscriptionId]? = none) ∧ resubscribe env rest w = (.ok .resubscribed, w) ∨
    ∃ subscriptionId later key, subscriptionId :: later <:+ rest ∧ w.callbacks[subscriptionId]? = some key ∧
      ((∃ writes, resubscribe env rest w =
          (.ok (.waiting (.subscribeAck w.nextRequestId subscriptionId ⟨key, w.cache.since key⟩) (.reconnect later)),
          { w with
            nextRequestId := w.nextRequestId + 1
            writes := writes
            sent := w.sent ++
              [.control (.ok (.projectionSubscribeFrame w.nextRequestId subscriptionId ⟨key, w.cache.since key⟩))] })) ∨
        ∃ error next writes, w.nextRequestId ≤ next ∧
          resubscribe env rest w = (.error error, { w with nextRequestId := next, writes := writes })) := by
  induction rest with
  | nil => exact .inl ⟨nofun, rfl⟩
  | cons subscriptionId rest ih =>
    cases hkey : w.callbacks[subscriptionId]? with
    | none =>
      have hskip : resubscribe env (subscriptionId :: rest) w = resubscribe env rest w := by
        simp only [resubscribe, bind, Prog.read, hkey]
      rw [hskip]
      rcases ih with ⟨hnone, hrun⟩ | ⟨next, later, key, hsuffix, hnext, hrun⟩
      · exact .inl ⟨List.forall_mem_cons.mpr ⟨hkey, hnone⟩, hrun⟩
      · exact .inr ⟨next, later, key, hsuffix.trans (List.suffix_cons _ _), hnext, hrun⟩
    | some key =>
      refine .inr ⟨subscriptionId, rest, key, List.suffix_rfl, hkey, ?_⟩
      have hask : resubscribe env (subscriptionId :: rest) w =
          (request env (.projectionSubscribeFrame · subscriptionId ⟨key, w.cache.since key⟩)
            (.subscribeAck · subscriptionId ⟨key, w.cache.since key⟩) >>= fun waiting =>
              pure (.waiting waiting (.reconnect rest))) w := by
        simp only [resubscribe, bind, Prog.read, hkey]
      rw [hask]
      rcases request_cases env (.projectionSubscribeFrame · subscriptionId ⟨key, w.cache.since key⟩)
        (.subscribeAck · subscriptionId ⟨key, w.cache.since key⟩) w with ⟨writes, hsent⟩ | ⟨e, next, writes, hle, -, hfailed⟩
      · rw [run_bind hsent]
        exact .inl ⟨writes, rfl⟩
      · rw [run_bind_error hfailed]
        exact .inr ⟨e, next, writes, hle, rfl⟩

end

end Kaleido.Core
