/-
The business loop of one authenticated connection (`kaleido-hostd`, `server.rs`): one pass publishes what the subscriptions
have received, polls the session, reads from the socket and handles the frames that were read.

What the thread meets outside is `Surroundings`: the readings of the clock, the writes and the answers of the gateway, each
in the order the thread comes to them. What else a pass depends on (the flags, the mailboxes, what the socket returned) is
the `Pass` itself. A run of the loop is a run of `step` over a list of passes.

The expiry of a session is looked at by the poll of a pass and by `ensureBusinessFrame` for every control frame.
`gateway_calls_before_expiry` says when this is enough: the frames of one read must not be under way when the session
expires. `content_frame_after_expiry` is a run in which they are.
-/
import Kaleido.Hostd.Gateway
import Kaleido.Transport.Frame
import Kaleido.Transport.Session

namespace Kaleido.Hostd.Business

open Check Prog Proto State Transport

variable {session : ConnectionSession} {atMs expiry : Int} {c : Connection}

/-- `LanServerError` -/
inductive LanServerError where
  | socket | tls | transport | broker | workerStopped | remote
  deriving DecidableEq

structure Surroundings where
  /-- the readings of the clock -/
  clock : Nat → Int
  /-- what each write does; `none` goes through -/
  writes : Nat → ControlFrame → Option LanServerError
  hexDigest : List UInt8 → String
  subscribe : Nat → ProjectionSubscribe → Int → Except GatewayError (Nat × ProjectionReplay)
  writeContent : Nat → ContentWriteRequest → List UInt8 → Int → Except GatewayError ContentWriteResponse
  readContent : Nat → ContentReadRequest → Int → Except GatewayError ContentReadResponse
  admitCommand : Nat → DeviceCommandRequest → Int → Except GatewayError CommandAck

/-- the state of the thread; `sent` and `calls` record the frames written and the operations of the gateway with the time
they were given -/
structure Connection where
  session : ConnectionSession
  subscriptions : OrdMap Nat Nat := ∅
  contentHeaders : OrdMap Nat ContentWriteRequest := ∅
  lastRequestId : Nat
  lastSubscriptionId : Nat := 0
  nextServerRequestId : Nat := 1
  live : Bool := true
  readings : Nat := 0
  sent : List ControlFrame := []
  calls : List (GatewayCall × Int) := []

abbrev BusinessM := Prog Connection LanServerError

variable (env : Surroundings)

/-! ## The parts of a pass -/

/-- `now_ms` -/
def nowMs : BusinessM Int := fun c => (.ok (env.clock c.readings), { c with readings := c.readings + 1 })

/-- `write_control` -/
def writeControl (frame : ControlFrame) : BusinessM Unit := fun c =>
  match encodeControl frame with
  | .error _ => (.error .transport, c)
  | .ok _ => match env.writes c.sent.length frame with
    | some e => (.error e, c)
    | none => (.ok (), { c with sent := c.sent ++ [frame] })

/-- a write whose failure is ignored -/
def attempt (p : BusinessM Unit) : BusinessM Unit := fun c => (.ok (), (p c).2)

/-- an operation of the gateway, at the time of the call; `map_gateway` turns its errors into errors of the server -/
def callGateway {α : Type} (call : GatewayCall) (answer : Nat → Int → Except GatewayError α) : BusinessM α := do
  let atMs ← nowMs env
  let index ← read (·.calls.length)
  modify fun c => { c with calls := c.calls ++ [(call, atMs)] }
  match answer index atMs with
  | .ok a => pure a
  | .error .deviceRevoked => do
    attempt (writeControl env (.transportError none .deviceRevoked false))
    fail .transport
  | .error .broker => fail .broker

/-- a step of the session; its errors close the connection -/
def onSession (f : ConnectionSession → Except TransportError ConnectionSession) : BusinessM Unit := fun c =>
  match f c.session with
  | .error _ => (.error .transport, c)
  | .ok session => (.ok (), { c with session := session })

/-- a step of the session's correlation -/
def correlate (f : CorrelationState → Except TransportError CorrelationState) : BusinessM Unit :=
  onSession fun session => (f session.correlation).map fun correlation => { session with correlation := correlation }

/-- `business_transport_error`: a limit that is reached is reported before the connection closes -/
def correlateReporting (requestId : Nat) (f : CorrelationState → Except TransportError CorrelationState) :
    BusinessM Unit := do
  let session ← read (·.session)
  match f session.correlation with
  | .ok correlation => modify fun c => { c with session := { c.session with correlation := correlation } }
  | .error e => do
    if e = .rateLimited ∨ e = .tooManySubscriptions then
      attempt (writeControl env (.transportError (some requestId) .rateLimited true))
    fail .transport

/-- `begin_request` -/
def beginRequest (requestId : Nat) : BusinessM Unit := do
  let last ← read (·.lastRequestId)
  require (requestId ≠ 0 ∧ last < requestId) .transport
  modify fun c => { c with lastRequestId := requestId }
  correlateReporting env requestId (·.beginIncomingRequest requestId)

/-- `complete_request` -/
def completeRequest (requestId : Nat) : BusinessM Unit := correlate (·.completeIncomingRequest requestId)

/-- a subscription frame: the acknowledgement, the replay, and the mailbox that the loop drains from then on -/
def handleSubscribe (requestId subscriptionId : Nat) (subscribe : ProjectionSubscribe) : BusinessM Unit := do
  beginRequest env requestId
  let last ← read (·.lastSubscriptionId)
  require (subscriptionId ≠ 0 ∧ last < subscriptionId) .transport
  modify fun c => { c with lastSubscriptionId := subscriptionId }
  correlateReporting env requestId (·.openSubscription subscriptionId)
  let (token, replay) ← callGateway env (.subscribe subscribe) fun n => env.subscribe n subscribe
  writeControl env (.projectionSubscribeAckFrame requestId subscriptionId replay.ack)
  let _ ← forEach (fun envelope => writeControl env (.projectionEnvelopeFrame subscriptionId envelope)) replay.envelopes
  completeRequest requestId
  match replay.ack.outcome with
  | .rejected _ => correlate (·.closeSubscription subscriptionId)
  | .resumed _ | .currentFollows _ =>
    modify fun c => { c with subscriptions := c.subscriptions.insert subscriptionId token }

/-- the control frames a device may send -/
def handleControl : ControlFrame → BusinessM Unit
  | .projectionSubscribeFrame requestId subscriptionId subscribe => handleSubscribe env requestId subscriptionId subscribe
  | .unsubscribeRequest requestId subscriptionId => do
    beginRequest env requestId
    correlate (·.unsubscribe subscriptionId)
    modify fun c => { c with subscriptions := c.subscriptions.erase subscriptionId }
    writeControl env (.unsubscribeAck requestId subscriptionId)
    completeRequest requestId
  | .contentWriteHeader requestId request => do
    beginRequest env requestId
    correlate (·.expectContent requestId request)
    let headers ← read (·.contentHeaders)
    modify fun c => { c with contentHeaders := c.contentHeaders.insert requestId request }
    require (¬ headers.contains requestId) .transport
  | .contentReadFrame requestId request => do
    beginRequest env requestId
    let response ← callGateway env (.readContent request) fun n => env.readContent n request
    writeControl env (.contentReadResult requestId response)
    completeRequest requestId
  | .deviceCommandFrame requestId request => do
    beginRequest env requestId
    let ack ← callGateway env (.admitCommand request) fun n => env.admitCommand n request
    writeControl env (.deviceCommandAck requestId ack)
    completeRequest requestId
  | .ping requestId nonce => do
    beginRequest env requestId
    writeControl env (.pong requestId nonce)
    completeRequest requestId
  | .pong requestId nonce => correlate (·.acceptResponse (.pong requestId nonce))
  | _ => fail .transport

/-- the body of an upload, for the header that announced it -/
def handleContent (requestId : Nat) (body : List UInt8) : BusinessM Unit := do
  correlate (·.bindContent env.hexDigest requestId body)
  let headers ← read (·.contentHeaders)
  match headers[requestId]? with
  | none => fail .transport
  | some request => do
    modify fun c => { c with contentHeaders := c.contentHeaders.erase requestId }
    let response ← callGateway env (.writeContent request body) fun n => env.writeContent n request body
    completeRequest requestId
    writeControl env (.contentWriteResult requestId response)

/-- `handle_business_frame` -/
def handleBusinessFrame : Frame → BusinessM Unit
  | .content requestId body => handleContent env requestId body
  | .control (.error _) => fail .transport
  | .control (.ok frame) => do
    let atMs ← nowMs env
    onSession (·.ensureBusinessFrame frame atMs)
    handleControl env frame

/-- what a mailbox held is written, up to the event that closes it -/
def drainSubscription (subscriptionId : Nat) : List SubscriptionEvent → BusinessM Unit
  | [] => pure ()
  | .projection envelope :: rest => do
    writeControl env (.projectionEnvelopeFrame subscriptionId envelope)
    drainSubscription subscriptionId rest
  | .closed error :: _ => do
    correlate (·.closeSubscriptionForGap subscriptionId error)
    writeControl env (.projectionSubscriptionClosed subscriptionId error)
    modify fun c => { c with subscriptions := c.subscriptions.erase subscriptionId }

/-- `publish_subscription_events`; `drained` is what each mailbox held until it was found empty -/
def publishSubscriptionEvents (drained : Nat → List SubscriptionEvent) : BusinessM Unit := do
  let subscriptions ← read (·.subscriptions)
  let _ ← forEach (fun entry => drainSubscription env entry.1 (drained entry.2)) subscriptions.toList
  return ()

/-! ## The loop -/

/-- what a read of the socket returned -/
inductive Received where
  | closed
  | nothing
  | failed
  /-- the bytes are not frames -/
  | malformed
  | frames (frames : List Frame)

/-- what one pass of the loop meets: the flags, the mailboxes by the token of their subscription, and the read -/
structure Pass where
  refresh : Except LanServerError Unit
  shutdown : Bool
  revoked : Bool
  drained : Nat → List SubscriptionEvent
  received : Received
  /-- a frame has been incomplete for too long -/
  overdue : Bool

/-- the read of a pass and the frames it brings; whether the loop goes on -/
def receive (pass : Pass) : BusinessM Bool :=
  match pass.received with
  | .closed => pure false
  | .failed => fail .socket
  | .malformed => fail .transport
  | .nothing => do
    require (pass.overdue = false) .transport
    return true
  | .frames frames => do
    let _ ← forEach (handleBusinessFrame env) frames
    require (pass.overdue = false) .transport
    return true

/-- `ConnectionSession::poll` inside the loop -/
def pollSession (atMs : Int) : BusinessM (Option ConnectionAction) := fun c =>
  (.ok (c.session.poll atMs).1, { c with session := (c.session.poll atMs).2 })

/-- the ping that an idle session is sent -/
def sendPing : BusinessM Unit := do
  let requestId ← read (·.nextServerRequestId)
  require (requestId + 1 ≤ u64Max) .transport
  modify fun c => { c with nextServerRequestId := requestId + 1 }
  correlate (·.beginOutgoingRequest requestId (.pong requestId))
  writeControl env (.ping requestId requestId)

/-- one pass of `business_loop`; whether the loop goes on -/
def passOnce (pass : Pass) : BusinessM Bool := do
  liftExcept pass.refresh
  if pass.shutdown then return false
  if pass.revoked then
    writeControl env (.transportError none .deviceRevoked false)
    return false
  publishSubscriptionEvents env pass.drained
  let atMs ← nowMs env
  match ← pollSession atMs with
  | some .sendPing => do
    sendPing env
    receive env pass
  | some .closeSessionExpired => do
    writeControl env (.transportError none .authenticationFailed true)
    return false
  | some .closeTimeout => return false
  | none => receive env pass

/-- the thread after one more pass; a break closes the session, an error drops the connection -/
def step (c : Connection) (pass : Pass) : Connection :=
  if c.live then
    match passOnce env pass c with
    | (.ok true, c') => c'
    | (.ok false, c') => { c' with live := false, session := c'.session.close }
    | (.error _, c') => { c' with live := false }
  else c

/-! ## Readings of the clock and operations of the gateway -/

/-- a write adds its frame, or fails and changes nothing -/
theorem wp_writeControl {env : Surroundings} {frame : ControlFrame} {C : List ControlFrame → Prop}
    {Q : Unit → Connection → Prop} {E : LanServerError → Connection → Prop} (hlog : C (c.sent ++ [frame]))
    (hok : Q () { c with sent := c.sent ++ [frame] }) (herr : ∀ e, E e c) :
    wp Connection.sent C Q E (writeControl env frame) c := by
  unfold wp writeControl
  cases encodeControl frame with
  | error e => exact ⟨List.prefix_rfl, fun d h₁ h₂ h₃ => absurd (h₂.eq_of_length_le h₁.length_le) h₃, herr _⟩
  | ok bytes =>
    cases env.writes c.sent.length frame with
    | some e => exact ⟨List.prefix_rfl, fun d h₁ h₂ h₃ => absurd (h₂.eq_of_length_le h₁.length_le) h₃, herr _⟩
    | none =>
      refine ⟨List.prefix_append _ _, ?_, hok⟩
      intro d h₁ h₂ h₃
      rcases List.prefix_concat_iff.mp h₂ with rfl | h₂
      · exact hlog
      · exact absurd (h₂.eq_of_length_le h₁.length_le) h₃

/-- the session is authenticated until `expiry` -/
structure Until (expiry : Int) (session : ConnectionSession) : Prop where
  stage : session.stage = .authenticated
  expires : session.sessionExpiresAtMs = some expiry

/-- from `c` to `c'` the thread took at most `n` readings of the clock, gave every operation of the gateway one of them, and
kept the session's expiry -/
structure Progress (n : Nat) (c c' : Connection) : Prop where
  forward : c.readings ≤ c'.readings
  bounded : c'.readings ≤ c.readings + n
  timed : ∀ call ∈ c'.calls, call ∈ c.calls ∨ ∃ k, c.readings ≤ k ∧ k < c'.readings ∧ call.2 = env.clock k
  session : ∀ expiry, Until expiry c.session → Until expiry c'.session

namespace Progress

variable {env} {n m : Nat} {c c' c'' : Connection}

theorem refl (c : Connection) : Progress env n c c :=
  ⟨le_rfl, Nat.le_add_right _ _, fun _ h => .inl h, fun _ h => h⟩

theorem mono (h : Progress env n c c') (hle : n ≤ m) : Progress env m c c' :=
  { h with bounded := h.bounded.trans (Nat.add_le_add_left hle _) }

theorem trans (h : Progress env n c c') (h' : Progress env m c' c'') : Progress env (n + m) c c'' where
  forward := h.forward.trans h'.forward
  bounded := by
    have := h.bounded
    have := h'.bounded
    omega
  timed call hcall := by
    rcases h'.timed call hcall with hold | ⟨k, hlow, hhigh, htime⟩
    · rcases h.timed call hold with hold | ⟨k, hlow, hhigh, htime⟩
      · exact .inl hold
      · exact .inr ⟨k, hlow, hhigh.trans_le h'.forward, htime⟩
    · exact .inr ⟨k, h.forward.trans hlow, hhigh, htime⟩
  session expiry hc := h'.session expiry (h.session expiry hc)

/-- a change of what neither the clock, the calls nor the expiry depends on -/
theorem of_same (hreadings : c'.readings = c.readings) (hcalls : c'.calls = c.calls)
    (hsession : ∀ expiry, Until expiry c.session → Until expiry c'.session) : Progress env n c c' :=
  ⟨hreadings.ge, by omega, fun call h => .inl (hcalls ▸ h), hsession⟩

end Progress

/-- wherever it starts and however it ends, the program makes this progress -/
def Within (n : Nat) {α : Type} (p : BusinessM α) : Prop := ∀ c, Progress env n c (p c).2

namespace Within

variable {env} {n m : Nat} {α β : Type} {p : BusinessM α}

theorem mono (h : Within env n p) (hle : n ≤ m) : Within env m p := fun c => (h c).mono hle

theorem pure {a : α} : Within env n (pure a : BusinessM α) := fun c => .refl c

theorem fail {e : LanServerError} : Within env n (fail e : BusinessM α) := fun c => .refl c

theorem read {f : Connection → α} : Within env n (read f : BusinessM α) := fun c => .refl c

theorem require {c : Prop} [Decidable c] {e : LanServerError} : Within env n (require c e : BusinessM Unit) := by
  unfold Prog.require
  split_ifs
  · exact pure
  · exact fail

theorem modify {f : Connection → Connection} (hreadings : ∀ c, (f c).readings = c.readings)
    (hcalls : ∀ c, (f c).calls = c.calls) (hsession : ∀ c, (f c).session = c.session) :
    Within env n (modify f : BusinessM Unit) :=
  fun c => .of_same (hreadings c) (hcalls c) fun _ h => (hsession c).symm ▸ h

theorem bind {f : α → BusinessM β} (hp : Within env n p) (hf : ∀ a, Within env m (f a)) : Within env (n + m) (p >>= f) := by
  intro c
  have hc := hp c
  rcases hr : p c with ⟨e | a, c'⟩ <;> rw [hr] at hc
  · rw [run_bind_error hr]
    exact hc.mono (Nat.le_add_right _ _)
  · rw [run_bind hr]
    exact hc.trans (hf a c')

/-- sequencing after a program that reads no clock -/
theorem then_ {f : α → BusinessM β} (hp : Within env 0 p) (hf : ∀ a, Within env n (f a)) : Within env n (p >>= f) := by
  simpa using bind hp hf

theorem forEach {f : α → BusinessM β} {cost : α → Nat} (hf : ∀ a, Within env (cost a) (f a)) (l : List α) :
    Within env (l.map cost).sum (forEach f l) := by
  induction l with
  | nil => exact pure
  | cons a l ih => exact bind (hf a) fun _ => (bind ih fun _ => pure (n := 0))

/-- a loop that reads no clock -/
theorem forEach_ {f : α → BusinessM β} (hf : ∀ a, Within env 0 (f a)) (l : List α) : Within env 0 (Prog.forEach f l) := by
  simpa using forEach hf l

end Within

section

variable {env}

theorem nowMs_within : Within env 1 (nowMs env) := fun _ =>
  ⟨Nat.le_succ _, le_rfl, fun _ h => .inl h, fun _ h => h⟩

theorem writeControl_within (frame : ControlFrame) : Within env 0 (writeControl env frame) := fun c =>
  wp_final (C := fun _ => True) (wp_writeControl trivial (.of_same rfl rfl fun _ h => h) fun _ => .refl c)

theorem attempt_within {p : BusinessM Unit} (h : Within env 0 p) : Within env 0 (attempt p) := fun c => h c

/-- an operation of the gateway takes one reading and carries it -/
theorem callGateway_within {α : Type} (call : GatewayCall) (answer : Nat → Int → Except GatewayError α) :
    Within env 1 (callGateway env call answer) := by
  intro c
  have hcall : Progress env 1 c { c with readings := c.readings + 1, calls := c.calls ++ [(call, env.clock c.readings)] } := by
    refine ⟨Nat.le_succ _, le_rfl, fun entry hentry => ?_, fun _ h => h⟩
    rcases List.mem_append.mp hentry with hold | hnew
    · exact .inl hold
    · exact .inr ⟨c.readings, le_rfl, Nat.lt_succ_self _, by rw [List.mem_singleton.mp hnew]⟩
  have hafter : Within env 0 (match answer c.calls.length (env.clock c.readings) with
      | .ok a => (Pure.pure a : BusinessM α)
      | .error .deviceRevoked => do
        attempt (writeControl env (.transportError none .deviceRevoked false))
        Prog.fail .transport
      | .error .broker => Prog.fail .broker) := by
    split
    · exact .pure
    · exact .then_ (attempt_within (writeControl_within _)) fun _ => .fail
    · exact .fail
  exact hcall.trans (hafter _)

theorem onSession_within {f : ConnectionSession → Except TransportError ConnectionSession}
    (hf : ∀ session session' expiry, f session = .ok session' → Until expiry session → Until expiry session') :
    Within env 0 (onSession f) := by
  intro c
  unfold onSession
  split
  · exact .refl c
  · rename_i session' hsession
    exact .of_same rfl rfl fun expiry h => hf _ _ expiry hsession h

theorem correlate_within {f : CorrelationState → Except TransportError CorrelationState} : Within env 0 (correlate f) := by
  refine onSession_within fun session session' expiry hf hu => ?_
  cases hcase : f session.correlation with
  | error e => simp [hcase, Except.map] at hf
  | ok correlation =>
    simp only [hcase, Except.map, Except.ok.injEq] at hf
    exact hf ▸ ⟨hu.stage, hu.expires⟩

theorem correlateReporting_within (requestId : Nat) {f : CorrelationState → Except TransportError CorrelationState} :
    Within env 0 (correlateReporting env requestId f) := by
  refine .then_ .read fun session => ?_
  split
  · intro c
    exact .of_same rfl rfl fun _ h => ⟨h.stage, h.expires⟩
  · split_ifs
    · exact .then_ (attempt_within (writeControl_within _)) fun _ => .fail
    · exact .fail

theorem beginRequest_within (requestId : Nat) : Within env 0 (beginRequest env requestId) :=
  .then_ .read fun _ => .then_ .require fun _ =>
    .then_ (.modify (fun _ => rfl) (fun _ => rfl) fun _ => rfl) fun _ => correlateReporting_within requestId

theorem completeRequest_within (requestId : Nat) : Within env 0 (completeRequest requestId) := correlate_within

theorem handleSubscribe_within (requestId subscriptionId : Nat) (subscribe : ProjectionSubscribe) :
    Within env 1 (handleSubscribe env requestId subscriptionId subscribe) := by
  refine .then_ (beginRequest_within requestId) fun _ => .then_ .read fun _ => .then_ .require fun _ =>
    .then_ (.modify (fun _ => rfl) (fun _ => rfl) fun _ => rfl) fun _ =>
    .then_ (correlateReporting_within requestId) fun _ => .bind (m := 0) (callGateway_within _ _) fun ⟨token, replay⟩ => ?_
  refine .then_ (writeControl_within _) fun _ => .then_ (.forEach_ (fun _ => writeControl_within _) _) fun _ =>
    .then_ (completeRequest_within requestId) fun _ => ?_
  split
  · exact correlate_within
  · exact .modify (fun _ => rfl) (fun _ => rfl) fun _ => rfl
  · exact .modify (fun _ => rfl) (fun _ => rfl) fun _ => rfl

/-- how many readings the handling of a control frame takes after the one of `ensureBusinessFrame` -/
def controlReadings : ControlFrame → Nat
  | .projectionSubscribeFrame .. | .contentReadFrame .. | .deviceCommandFrame .. => 1
  | _ => 0

theorem handleControl_within (frame : ControlFrame) : Within env (controlReadings frame) (handleControl env frame) := by
  cases frame <;> try exact .fail
  case projectionSubscribeFrame requestId subscriptionId subscribe => exact handleSubscribe_within _ _ _
  case unsubscribeRequest requestId subscriptionId =>
    exact .then_ (beginRequest_within requestId) fun _ => .then_ correlate_within fun _ =>
      .then_ (.modify (fun _ => rfl) (fun _ => rfl) fun _ => rfl) fun _ => .then_ (writeControl_within _) fun _ =>
      completeRequest_within requestId
  case contentWriteHeader requestId request =>
    exact .then_ (beginRequest_within requestId) fun _ => .then_ correlate_within fun _ => .then_ .read fun _ =>
      .then_ (.modify (fun _ => rfl) (fun _ => rfl) fun _ => rfl) fun _ => .require
  case contentReadFrame requestId request =>
    exact .then_ (beginRequest_within requestId) fun _ => .bind (m := 0) (callGateway_within _ _) fun _ =>
      .then_ (writeControl_within _) fun _ => completeRequest_within requestId
  case deviceCommandFrame requestId request =>
    exact .then_ (beginRequest_within requestId) fun _ => .bind (m := 0) (callGateway_within _ _) fun _ =>
      .then_ (writeControl_within _) fun _ => completeRequest_within requestId
  case ping requestId nonce =>
    exact .then_ (beginRequest_within requestId) fun _ => .then_ (writeControl_within _) fun _ =>
      completeRequest_within requestId
  case pong requestId nonce => exact correlate_within

/-- how many readings the handling of a frame takes at most -/
def frameReadings : Frame → Nat
  | .content .. => 1
  | .control (.ok frame) => 1 + controlReadings frame
  | .control (.error _) => 0

theorem ensureBusinessFrame_until {session' : ConnectionSession} {frame : ControlFrame}
    (h : session.ensureBusinessFrame frame atMs = .ok session') (hu : Until expiry session) : Until expiry session' := by
  simp only [ConnectionSession.ensureBusinessFrame, seq_eq_ok, ensure_eq_ok, pure_eq_ok] at h
  exact h.2.2.2 ▸ ⟨hu.stage, hu.expires⟩

theorem handleBusinessFrame_within (frame : Frame) :
    Within env (frameReadings frame) (handleBusinessFrame env frame) := by
  match frame with
  | .control (.error _) => exact .fail
  | .control (.ok frame) =>
    exact .bind nowMs_within fun atMs => .then_ (onSession_within fun _ _ _ => ensureBusinessFrame_until) fun _ =>
      handleControl_within frame
  | .content requestId body =>
    refine .then_ correlate_within fun _ => .then_ .read fun headers => ?_
    split
    · exact .fail
    · exact .then_ (.modify (fun _ => rfl) (fun _ => rfl) fun _ => rfl) fun _ => .bind (m := 0) (callGateway_within _ _)
        fun _ => .then_ (completeRequest_within requestId) fun _ => writeControl_within _

theorem drainSubscription_within (subscriptionId : Nat) (events : List SubscriptionEvent) :
    Within env 0 (drainSubscription env subscriptionId events) := by
  induction events with
  | nil => exact .pure
  | cons event rest ih =>
    cases event with
    | projection envelope => exact .then_ (writeControl_within _) fun _ => ih
    | closed error =>
      exact .then_ correlate_within fun _ => .then_ (writeControl_within _) fun _ =>
        .modify (fun _ => rfl) (fun _ => rfl) fun _ => rfl

theorem publishSubscriptionEvents_within (drained : Nat → List SubscriptionEvent) :
    Within env 0 (publishSubscriptionEvents env drained) :=
  .then_ .read fun _ => .then_ (.forEach_ (fun _ => drainSubscription_within _ _) _) fun _ => .pure

theorem sendPing_within : Within env 0 (sendPing env) :=
  .then_ .read fun _ => .then_ .require fun _ => .then_ (.modify (fun _ => rfl) (fun _ => rfl) fun _ => rfl) fun _ =>
    .then_ correlate_within fun _ => writeControl_within _

/-- how many readings the frames of a pass take at most -/
def passReadings (pass : Pass) : Nat :=
  match pass.received with
  | .frames frames => (frames.map frameReadings).sum
  | _ => 0

theorem receive_within (pass : Pass) : Within env (passReadings pass) (receive env pass) := by
  unfold receive passReadings
  cases pass.received with
  | closed => exact .pure
  | failed | malformed => exact .fail
  | nothing => exact .then_ .require fun _ => .pure
  | frames frames =>
    exact .bind (m := 0) (.forEach handleBusinessFrame_within frames) fun _ => .then_ .require fun _ => .pure

/-! ## Expiry -/

/-- every operation of the gateway was given a time before `expiry` -/
def CallsBefore (expiry : Int) (c : Connection) : Prop := ∀ call ∈ c.calls, call.2 < expiry

/-- a pass that ends safely: no late operation, and the loop goes on only with the session it has -/
structure SafeEnd (expiry : Int) (r : Except LanServerError Bool × Connection) : Prop where
  calls : CallsBefore expiry r.2
  session : r.1 = .ok true → Until expiry r.2.session

theorem SafeEnd.bind {α : Type} {p : BusinessM α} {f : α → BusinessM Bool} (hp : CallsBefore expiry (p c).2)
    (hf : ∀ a c', p c = (.ok a, c') → SafeEnd expiry (f a c')) :
    SafeEnd expiry ((p >>= f) c) := by
  rcases hr : p c with ⟨e | a, c'⟩
  · rw [run_bind_error hr]
    rw [hr] at hp
    exact ⟨hp, nofun⟩
  · rw [run_bind hr]
    exact hf a c' hr

/-- a program that reads no clock calls no operation -/
theorem Progress.callsBefore {c' : Connection} (h : Progress env 0 c c') (hc : CallsBefore expiry c) :
    CallsBefore expiry c' := by
  intro call hcall
  rcases h.timed call hcall with hold | ⟨k, hlow, hhigh, -⟩
  · exact hc call hold
  · have := h.bounded
    omega

/-- the poll of an authenticated session -/
theorem poll_authenticated (h : session.stage = .authenticated) :
    session.poll atMs =
      if session.ioDeadline.any fun io => io.2 ≤ atMs then (some .closeTimeout, session.close)
      else if session.expired atMs then (some .closeSessionExpired, session.close)
      else if idleCloseAfterMs ≤ saturatingSub atMs session.lastValidFrameAtMs then (some .closeTimeout, session.close)
      else if idlePingAfterMs ≤ saturatingSub atMs session.lastValidFrameAtMs ∧ ¬ session.pingSent then
        (some .sendPing, { session with pingSent := true })
      else (none, session) := by
  rw [ConnectionSession.poll, h]

/-- an expired session is closed by its poll -/
theorem poll_expired (hu : Until expiry session) (h : expiry ≤ atMs) :
    (session.poll atMs).1 = some .closeTimeout ∨ (session.poll atMs).1 = some .closeSessionExpired := by
  have hexpired : session.expired atMs = true := by simp [ConnectionSession.expired, hu.expires, h]
  rw [poll_authenticated hu.stage, if_pos hexpired]
  split_ifs
  · exact .inl rfl
  · exact .inr rfl

/-- a poll that leaves the session open keeps its expiry -/
theorem poll_until (hu : Until expiry session) (h : (session.poll atMs).1 = some .sendPing ∨ (session.poll atMs).1 = none) :
    Until expiry (session.poll atMs).2 := by
  rw [poll_authenticated hu.stage] at h ⊢
  split_ifs at h ⊢
  · simp at h
  · simp at h
  · simp at h
  · exact ⟨hu.stage, hu.expires⟩
  · exact hu

/-- the frame that ends a connection calls no operation -/
theorem refused_safe {frame : ControlFrame} (hcalls : CallsBefore expiry c) :
    SafeEnd expiry ((do writeControl env frame; return false : BusinessM Bool) c) := by
  have hwrite : Within env 0 (do writeControl env frame; return false : BusinessM Bool) :=
    .then_ (writeControl_within _) fun _ => .pure
  refine ⟨(hwrite c).callsBefore hcalls, fun hgoes => ?_⟩
  rcases hr : writeControl env frame c with ⟨e | a, c'⟩
  · rw [run_bind_error hr] at hgoes
    cases hgoes
  · rw [run_bind hr] at hgoes
    cases hgoes

variable (env) in
/-- the frames of this pass are handled before the session expires, unless its poll already finds it expired -/
def Timely (expiry : Int) (c : Connection) (pass : Pass) : Prop :=
  expiry ≤ env.clock c.readings ∨ env.clock (c.readings + passReadings pass) < expiry

/-- what the thread does after its poll, when the last reading is before the expiry -/
theorem SafeEnd.of_within {n : Nat} {p : BusinessM Bool} (hp : Within env n p) (hu : Until expiry c.session)
    (hcalls : CallsBefore expiry c) (hlast : ∀ k < c.readings + n, env.clock k < expiry) : SafeEnd expiry (p c) := by
  have hprogress := hp c
  refine ⟨fun call hcall => ?_, fun _ => hprogress.session expiry hu⟩
  rcases hprogress.timed call hcall with hold | ⟨k, -, hhigh, htime⟩
  · exact hcalls call hold
  · exact htime ▸ hlast k (hhigh.trans_le hprogress.bounded)

theorem passOnce_safe {pass : Pass} (hclock : Monotone env.clock) (hu : Until expiry c.session)
    (hcalls : CallsBefore expiry c) (htimely : Timely env expiry c pass) :
    SafeEnd expiry (passOnce env pass c) := by
  refine .bind hcalls fun _ c₀ h₀ => ?_
  obtain rfl : c = c₀ := congrArg Prod.snd h₀
  split_ifs
  · exact ⟨hcalls, nofun⟩
  · exact refused_safe hcalls
  have hpublish : Progress env 0 c (publishSubscriptionEvents env pass.drained c).2 := publishSubscriptionEvents_within _ c
  refine .bind (hpublish.callsBefore hcalls) fun _ c₁ h₁ => ?_
  rw [h₁] at hpublish
  have hcalls₁ : CallsBefore expiry c₁ := hpublish.callsBefore hcalls
  have hreadings : c₁.readings = c.readings := le_antisymm hpublish.bounded hpublish.forward
  have hu₁ := hpublish.session expiry hu
  refine .bind hcalls₁ fun atMs c₂ h₂ => ?_
  obtain ⟨rfl, rfl⟩ : env.clock c₁.readings = atMs ∧ { c₁ with readings := c₁.readings + 1 } = c₂ := by
    simpa [nowMs] using h₂
  refine .bind hcalls₁ fun action c₃ h₃ => ?_
  obtain ⟨haction, rfl⟩ : (c₁.session.poll (env.clock c₁.readings)).1 = action ∧
      { c₁ with readings := c₁.readings + 1, session := (c₁.session.poll (env.clock c₁.readings)).2 } = c₃ := by
    simpa [pollSession] using h₃
  rcases htimely with hlate | hlast
  · -- the poll closes the session, and nothing is read
    rw [← hreadings] at hlate
    rcases poll_expired hu₁ hlate with h | h <;> obtain rfl := h.symm.trans haction
    · exact ⟨hcalls₁, nofun⟩
    · exact refused_safe hcalls₁
  · have hearly : ∀ k < c₁.readings + 1 + passReadings pass, env.clock k < expiry := fun k hk =>
      lt_of_le_of_lt (hclock (by omega)) hlast
    split
    · exact .of_within (.then_ sendPing_within fun _ => receive_within pass) (poll_until hu₁ (.inl haction)) hcalls₁ hearly
    · exact refused_safe hcalls₁
    · exact ⟨hcalls₁, nofun⟩
    · exact .of_within (receive_within pass) (poll_until hu₁ (.inr haction)) hcalls₁ hearly

/-- what holds between two passes -/
structure Inv (expiry : Int) (c : Connection) : Prop where
  session : c.live = true → Until expiry c.session
  calls : CallsBefore expiry c

theorem step_inv (hclock : Monotone env.clock) (c : Connection) (pass : Pass) (h : Inv expiry c)
    (htimely : Timely env expiry c pass) : Inv expiry (step env c pass) := by
  unfold step
  split_ifs with hlive
  · have hsafe := passOnce_safe hclock (h.session hlive) h.calls htimely
    generalize passOnce env pass c = r at hsafe
    obtain ⟨e | goes, c'⟩ := r
    · exact ⟨nofun, hsafe.calls⟩
    · cases goes with
      | false => exact ⟨nofun, hsafe.calls⟩
      | true => exact ⟨fun _ => hsafe.session rfl, hsafe.calls⟩
  · exact h

end

/-- the thread when the loop begins -/
def start (session : ConnectionSession) (lastRequestId : Nat) : Connection :=
  { session := session, lastRequestId := lastRequestId }

/-- **No operation of the gateway runs on an expired session**, in every run of the loop in which no session expires while
the frames of one read are being handled. -/
theorem gateway_calls_before_expiry (env : Surroundings) (hclock : Monotone env.clock) (accepted : ConnectionSession)
    (deviceId : DeviceId) (authenticatedAtMs expiry : Int) (session : ConnectionSession)
    (hauth : accepted.authenticate deviceId authenticatedAtMs = .ok (expiry, session)) (lastRequestId : Nat)
    (passes : List Pass) (hrun : Along (step env) (Timely env expiry) (start session lastRequestId) passes) :
    ∀ call ∈ (runFrom (step env) (start session lastRequestId) passes).calls, call.2 < expiry := by
  have huntil : Until expiry session := by
    simp only [ConnectionSession.authenticate, bind_eq_ok, pure_eq_ok, Prod.mk.injEq] at hauth
    obtain ⟨_, -, _, -, expiry', -, rfl, rfl⟩ := hauth
    exact ⟨rfl, rfl⟩
  have hinit : Inv expiry (start session lastRequestId) := ⟨fun _ => huntil, by simp [CallsBefore, start]⟩
  exact (run_inv (step_inv hclock) hinit hrun).calls

/-- a connection that has reached authentication -/
def sampleAccepted : ConnectionSession := ⟨.authentication, 30000, none, none, 0, false, none, {}⟩

/-- the session of the sample device, authenticated at 0 -/
def sampleSession : ConnectionSession :=
  { sampleAccepted with
    stage := .authenticated
    authenticatedDevice := some sampleDevice
    sessionExpiresAtMs := some 900000 }

theorem sampleSession_eq : sampleAccepted.authenticate sampleDevice 0 = .ok (900000, sampleSession) := rfl

/-- writes go through, and the gateway answers every call -/
def sampleSurroundings (clock : Nat → Int) : Surroundings where
  clock := clock
  writes := fun _ _ => none
  hexDigest := fun _ => "0000000000000000000000000000000000000000000000000000000000000000"
  subscribe := fun _ _ _ => .error .broker
  writeContent := fun _ _ _ atMs => .ok (rejectedWrite atMs)
  readContent := fun _ request _ => .ok (.unavailable request.contentId .notFound)
  admitCommand := fun _ _ _ => .error .broker

/-- a pass in which nothing but these frames happens -/
def quietPass (frames : List Frame) : Pass := ⟨.ok (), false, false, fun _ => [], .frames frames, false⟩

/-- an upload of one byte -/
def sampleUpload : ContentWriteRequest :=
  ⟨.plainText, 1, "sha256:0000000000000000000000000000000000000000000000000000000000000000"⟩

def sampleHeader : Frame := .control (.ok (.contentWriteHeader 1 sampleUpload))

theorem gateway_calls_before_expiry_upload :
    let calls := (runFrom (step (sampleSurroundings fun n => n)) (start sampleSession 0)
      [quietPass [sampleHeader, .content 1 [7]]]).calls
    (.writeContent sampleUpload [7], 2) ∈ calls ∧ (2 : Int) < 900000 := by
  intro calls
  have hcall : (.writeContent sampleUpload [7], 2) ∈ calls := by decide +kernel
  exact ⟨hcall, gateway_calls_before_expiry (sampleSurroundings fun n => n) (fun _ _ h => Int.ofNat_le.mpr h) sampleAccepted
    sampleDevice 0 900000 sampleSession sampleSession_eq 0 [quietPass [sampleHeader, .content 1 [7]]]
    ⟨.inr (by decide), trivial⟩ _ hcall⟩

/-- the clock stands at 10 for two readings and then at the expiry -/
def jumpingClock (n : Nat) : Int := if n < 2 then 10 else 900000

theorem jumpingClock_monotone : Monotone jumpingClock := by
  intro a b hab
  unfold jumpingClock
  split_ifs <;> omega

/-- A header is accepted before the session expires; the body that follows it in the same read is written after. -/
theorem content_frame_after_expiry : ¬ ∀ (env : Surroundings), Monotone env.clock → ∀ (accepted : ConnectionSession)
    (deviceId : DeviceId) (authenticatedAtMs expiry : Int) (session : ConnectionSession),
    accepted.authenticate deviceId authenticatedAtMs = .ok (expiry, session) → ∀ (lastRequestId : Nat) (passes : List Pass),
    ∀ call ∈ (runFrom (step env) (start session lastRequestId) passes).calls, call.2 < expiry := by
  intro hall
  have hcall : (.writeContent sampleUpload [7], 900000) ∈ (runFrom (step (sampleSurroundings jumpingClock))
      (start sampleSession 0) [quietPass [sampleHeader, .content 1 [7]]]).calls := by decide +kernel
  exact absurd (hall _ jumpingClock_monotone _ _ _ _ _ sampleSession_eq 0 _ _ hcall) (by decide)

end Kaleido.Hostd.Business
