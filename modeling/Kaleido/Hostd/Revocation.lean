/-
One connection and the revocation of its device (`kaleido-hostd`, `server.rs`): the challenge authentication, the business
loop, and the two steps of a revocation, in every interleaving.

The thread is cut where it meets what a revocation changes: the lookup of the device record, the look at the revoked set, the
operations of the gateway (which hold the registry's lock), and every frame that grants or pushes something. Between two
cuts it runs the programs of the business loop. A revocation commits to the registry and then inserts into the revoked set.

`quiet_revocation_sends_nothing` says when no grant and no push follows the commit: when the commit finds the thread
outside of three windows (lookup to `AuthAccepted`, passed check to the end of publishing, subscription to the end of its
replay), and the thread does not look at the revoked set between the commit and the insertion. `accepted_after_revocation`
is a run in which the commit falls into the first window.
-/
import Kaleido.Hostd.Business

namespace Kaleido.Hostd.Revocation

open Check Prog Proto State Transport Hostd.Business

variable {frame : ControlFrame} {e : LanServerError} {requestId : Nat}

/-! ## The thread -/

/-- `error_code` -/
def errorCode : TransportError → TransportErrorCode
  | .versionMismatch => .versionMismatch
  | .malformedFrame => .malformedFrame
  | .frameTooLarge => .frameTooLarge
  | .rateLimited => .rateLimited
  | .pairingInvalid => .pairingInvalid
  | .authenticationFailed => .authenticationFailed
  | .challengeExpired => .challengeExpired
  | .challengeReplayed => .challengeReplayed
  | .deviceRevoked => .deviceRevoked
  | .tooManyConnections => .tooManyConnections
  | .tooManySubscriptions => .rateLimited
  | .persistence | .invalidKeyMaterial | .insecurePermissions | .internal | .timeOverflow => .internal

/-- where the thread stands -/
inductive Point where
  /-- a challenge request is read next -/
  | arrived
  /-- the device record was looked up and copied -/
  | lookedUp (requestId : Nat) (device : Option Transport.DeviceRecord)
  /-- the challenge was sent -/
  | challenged (requestId : Nat) (device : Option Transport.DeviceRecord)
  /-- the proof was accepted, and the session is authenticated -/
  | proved (requestId : Nat) (expiresAtMs : Int)
  | top
  /-- the device was not in the revoked set; the subscriptions still to drain -/
  | publishing (subscriptions : List Nat)
  | reading
  | handling (frames : List Frame)
  /-- the gateway has subscribed; the frames still to send, and those still to handle -/
  | replaying (requestId subscriptionId token : Nat) (outcome : ProjectionSubscribeOutcome) (outgoing : List ControlFrame)
      (frames : List Frame)
  | ended

/-- what the thread does next, and what it meets there -/
inductive Move where
  | challengeRequest (requestId : Nat)
  | issue (issued : Except TransportError (List UInt8 × List UInt8 × Int))
  /-- the frame that was read, whether it proves possession of the key on record, and what the limiter says -/
  | proof (answer : Except LanServerError ControlFrame) (verified : Bool) (limited : Except TransportError Unit)
  | accept
  | check (refresh : Except LanServerError Unit) (shutdown : Bool)
  | drain (event : Option SubscriptionEvent)
  | poll
  | receive (received : Received)
  | frame
  | replay
  /-- the frames of the read are handled -/
  | again (overdue : Bool)

/-- the surroundings of a thread while the registry is as given: the gateway refuses a device that it does not admit -/
def gated (env : Surroundings) (registry : SecurityStore) (deviceId : DeviceId) : Surroundings :=
  match registry.deviceForAuth deviceId with
  | .ok _ => env
  | .error _ => { env with
      subscribe := fun _ _ _ => .error .deviceRevoked
      writeContent := fun _ _ _ _ => .error .deviceRevoked
      readContent := fun _ _ _ => .error .deviceRevoked
      admitCommand := fun _ _ _ => .error .deviceRevoked }

/-- the loop breaks: the session is closed -/
def stop : BusinessM Point := do
  modify fun c => { c with live := false, session := c.session.close }
  return .ended

section

variable (env : Surroundings) (connectionId : String) (deviceId : DeviceId) (registry : SecurityStore) (revoked : Bool)

/-- `require_monotonic_request` -/
def requireMonotonicRequest (requestId : Nat) : BusinessM Unit := do
  let last ← read (·.lastRequestId)
  require (requestId ≠ 0 ∧ last < requestId) .transport
  modify fun c => { c with lastRequestId := requestId }

/-- `authentication_failed` -/
def authenticationFailed (requestId : Nat) : BusinessM Point := do
  writeControl env (.transportError (some requestId) (errorCode .authenticationFailed) false)
  fail .transport

/-- the answer to a challenge -/
def acceptProof (requestId : Nat) (device : Option Transport.DeviceRecord) (answer : ControlFrame) (verified : Bool)
    (limited : Except TransportError Unit) : BusinessM Point :=
  match answer with
  | .challengeProof proofRequestId _ _ =>
    if proofRequestId ≠ requestId then authenticationFailed env requestId
    else if device.isNone ∨ verified = false then authenticationFailed env requestId
    else match limited with
      | .error e => do
        writeControl env (.transportError (some requestId) (errorCode e) true)
        fail .transport
      | .ok () => do
        let atMs ← nowMs env
        let session ← read (·.session)
        match session.authenticate deviceId atMs with
        | .error _ => fail .transport
        | .ok (expiresAtMs, session) => do
          modify fun c => { c with session := session }
          return .proved requestId expiresAtMs
  | _ => authenticationFailed env requestId

/-- what was read from a mailbox -/
def drainEvent (subscriptionId : Nat) (rest : List Nat) : Option SubscriptionEvent → BusinessM Point
  | none => return .publishing rest
  | some (.projection envelope) => do
    writeControl env (.projectionEnvelopeFrame subscriptionId envelope)
    return .publishing (subscriptionId :: rest)
  | some (.closed error) => do
    correlate (·.closeSubscriptionForGap subscriptionId error)
    writeControl env (.projectionSubscriptionClosed subscriptionId error)
    modify fun c => { c with subscriptions := c.subscriptions.erase subscriptionId }
    return .publishing rest

/-- the session's action after publishing -/
def pollStep : BusinessM Point := do
  let atMs ← nowMs env
  match ← pollSession atMs with
  | some .sendPing => do
    sendPing env
    return .reading
  | some .closeSessionExpired => do
    writeControl env (.transportError none .authenticationFailed true)
    stop
  | some .closeTimeout => stop
  | none => return .reading

/-- a subscription frame up to the operation of the gateway -/
def openSubscription (requestId subscriptionId : Nat) (subscribe : ProjectionSubscribe) :
    BusinessM (Nat × ProjectionReplay) := do
  beginRequest env requestId
  let last ← read (·.lastSubscriptionId)
  require (subscriptionId ≠ 0 ∧ last < subscriptionId) .transport
  modify fun c => { c with lastSubscriptionId := subscriptionId }
  correlateReporting env requestId (·.openSubscription subscriptionId)
  callGateway env (.subscribe subscribe) fun n => env.subscribe n subscribe

/-- what the replay of a subscription sends -/
def replayFrames (requestId subscriptionId : Nat) (replay : ProjectionReplay) : List ControlFrame :=
  .projectionSubscribeAckFrame requestId subscriptionId replay.ack ::
    replay.envelopes.map fun envelope => .projectionEnvelopeFrame subscriptionId envelope

/-- a subscription frame after its replay -/
def closeReplay (requestId subscriptionId token : Nat) (outcome : ProjectionSubscribeOutcome) : BusinessM Unit := do
  completeRequest requestId
  match outcome with
  | .rejected _ => correlate (·.closeSubscription subscriptionId)
  | .resumed _ | .currentFollows _ =>
    modify fun c => { c with subscriptions := c.subscriptions.insert subscriptionId token }

/-- a frame that was read; a subscription leaves its replay to be sent -/
def frameStep (frame : Frame) (frames : List Frame) : BusinessM Point :=
  match frame with
  | .control (.ok (.projectionSubscribeFrame requestId subscriptionId subscribe)) => do
    let atMs ← nowMs env
    onSession (·.ensureBusinessFrame (.projectionSubscribeFrame requestId subscriptionId subscribe) atMs)
    let (token, replay) ← openSubscription env requestId subscriptionId subscribe
    return .replaying requestId subscriptionId token replay.ack.outcome (replayFrames requestId subscriptionId replay) frames
  | frame => do
    handleBusinessFrame env frame
    return .handling frames

end

/-- one step of the thread -/
def advance (env : Surroundings) (connectionId : String) (deviceId : DeviceId) (registry : SecurityStore) (revoked : Bool) :
    Point → Move → BusinessM Point
  | .arrived, .challengeRequest requestId => do
    requireMonotonicRequest requestId
    return .lookedUp requestId (registry.deviceForAuth deviceId).toOption
  | .lookedUp requestId device, .issue issued => match issued with
    | .error _ => fail .transport
    | .ok (challengeId, nonce, expiresAtMs) => do
      writeControl env (.deviceChallenge requestId challengeId nonce expiresAtMs)
      return .challenged requestId device
  | .challenged requestId device, .proof answer verified limited => match answer with
    | .error e => fail e
    | .ok answer => acceptProof env deviceId requestId device answer verified limited
  | .proved requestId expiresAtMs, .accept => do
    writeControl env (.authAccepted requestId connectionId expiresAtMs)
    return .top
  | .top, .check refresh shutdown => do
    liftExcept refresh
    if shutdown then stop
    else if revoked then do
      writeControl env (.transportError none .deviceRevoked false)
      stop
    else do
      let subscriptions ← read (·.subscriptions)
      return .publishing (subscriptions.toList.map Prod.fst)
  | .publishing (subscriptionId :: rest), .drain event => drainEvent env subscriptionId rest event
  | .publishing [], .poll => pollStep env
  | .reading, .receive received => match received with
    | .closed => stop
    | .failed => fail .socket
    | .malformed => fail .transport
    | .nothing => return .handling []
    | .frames frames => return .handling frames
  | .handling (frame :: frames), .frame => frameStep (gated env registry deviceId) frame frames
  | .handling [], .again overdue => do
    require (overdue = false) .transport
    return .top
  | .replaying requestId subscriptionId token outcome (frame :: outgoing) frames, .replay => do
    writeControl env frame
    return .replaying requestId subscriptionId token outcome outgoing frames
  | .replaying requestId subscriptionId token outcome [] frames, .replay => do
    closeReplay requestId subscriptionId token outcome
    return .handling frames
  | point, _ => return point

/-! ## The system -/

structure System where
  registry : SecurityStore
  revoked : List DeviceId := []
  point : Point := .arrived
  connection : Connection

inductive Event where
  /-- `revoke_device_durable`, whose commit ends as given -/
  | commit (revokedAtMs : Int) (result : CommitResult)
  /-- `disconnect_revoked_device` -/
  | disconnect
  | thread (move : Move)

section

variable (env : Surroundings) (connectionId : String) (deviceId : DeviceId)

/-- one event; the revoked set follows the registry -/
def step (S : System) : Event → System
  | .commit revokedAtMs result => { S with registry := (S.registry.revokeAndThen deviceId revokedAtMs result).2 }
  | .disconnect => if S.registry.revoked deviceId then { S with revoked := deviceId :: S.revoked } else S
  | .thread move =>
    match advance env connectionId deviceId S.registry (deviceId ∈ S.revoked) S.point move S.connection with
    | (.ok point, c) => { S with point := point, connection := c }
    | (.error _, c) => { S with point := .ended, connection := { c with live := false } }

abbrev run (S : System) (events : List Event) : System := runFrom (step env connectionId deviceId) S events

/-- what the server sends in an event -/
def sentBy (S : System) (e : Event) : List ControlFrame :=
  (step env connectionId deviceId S e).connection.sent.drop S.connection.sent.length

end

/-- an accepted authentication or a pushed projection -/
def grants : ControlFrame → Bool
  | .authAccepted .. | .projectionEnvelopeFrame .. => true
  | _ => false

/-- the thread is in none of the windows in which it grants or pushes on what it has looked up before -/
def Point.Quiet : Point → Prop
  | .lookedUp _ device | .challenged _ device => device = none
  | .publishing subscriptions => subscriptions = []
  | .proved .. | .replaying .. => False
  | _ => True

/-- a commit finds the thread outside of the windows, and the thread does not look at the revoked set between the commit and
the insertion -/
def Orderly (deviceId : DeviceId) (S : System) : Event → Prop
  | .commit _ result => result = .committed → S.point.Quiet
  | .thread (.check _ _) => S.point = .top → S.registry.revoked deviceId = true → deviceId ∈ S.revoked
  | _ => True

/-! ## What the programs of the loop send -/

section

variable {env : Surroundings} {base : List ControlFrame} {α : Type}

/-- beyond `base`, nothing was granted or pushed -/
structure Silent (base sent : List ControlFrame) : Prop where
  extends_base : base <+: sent
  silent : ∀ frame ∈ sent.drop base.length, grants frame = false

theorem Silent.refl (base : List ControlFrame) : Silent base base := ⟨List.prefix_rfl, by simp⟩

theorem Silent.snoc {sent : List ControlFrame} (h : Silent base sent) (hframe : grants frame = false) :
    Silent base (sent ++ [frame]) := by
  refine ⟨h.extends_base.trans (List.prefix_append _ _), ?_⟩
  rw [List.drop_append_of_le_length h.extends_base.length_le]
  exact List.forall_mem_append.2 ⟨h.silent, List.forall_mem_singleton.2 hframe⟩

/-- the program grants and pushes nothing -/
def KeepsSilent (base : List ControlFrame) (p : BusinessM α) : Prop :=
  Keeps Connection.sent (fun _ => True) (fun c => Silent base c.sent) (fun c => Silent base c.sent) p

theorem KeepsSilent.of_sent_eq {p : BusinessM α} (h : ∀ c, (p c).2.sent = c.sent) : KeepsSilent base p :=
  Keeps.of_log_eq (fun _ h => h) h fun c hc => by rw [h c]; exact hc

theorem nowMs_silent : KeepsSilent base (nowMs env) := .of_sent_eq fun _ => rfl

theorem modify_silent {f : Connection → Connection} (h : ∀ c, (f c).sent = c.sent) :
    KeepsSilent base (modify f : BusinessM Unit) := .of_sent_eq h

theorem require_silent {c : Prop} [Decidable c] : KeepsSilent base (require c e : BusinessM Unit) :=
  Keeps.require fun _ h => h

theorem fail_silent : KeepsSilent base (fail e : BusinessM α) := Keeps.fail fun _ h => h

theorem writeControl_silent (hframe : grants frame = false) :
    KeepsSilent base (writeControl env frame) := fun _ hc => wp_writeControl trivial (hc.snoc hframe) fun _ => hc

theorem attempt_silent {p : BusinessM Unit} (h : KeepsSilent base p) : KeepsSilent base (attempt p) := by
  intro c hc
  exact ⟨(h c hc).1, fun _ _ _ _ => trivial, Keeps.final h hc⟩

theorem onSession_silent {f : ConnectionSession → Except TransportError ConnectionSession} :
    KeepsSilent base (onSession f) := by
  refine .of_sent_eq fun c => ?_
  unfold onSession
  split <;> rfl

theorem correlate_silent {f : CorrelationState → Except TransportError CorrelationState} :
    KeepsSilent base (correlate f) := onSession_silent

theorem pollSession_silent {atMs : Int} : KeepsSilent base (pollSession atMs) := .of_sent_eq fun _ => rfl

theorem correlateReporting_silent {f : CorrelationState → Except TransportError CorrelationState} :
    KeepsSilent base (correlateReporting env requestId f) := by
  refine Keeps.bind Keeps.read fun session => ?_
  split
  · exact modify_silent fun _ => rfl
  · split_ifs
    · exact Keeps.bind (attempt_silent (writeControl_silent rfl)) fun _ => fail_silent
    · exact fail_silent

theorem beginRequest_silent : KeepsSilent base (beginRequest env requestId) :=
  Keeps.bind Keeps.read fun _ => Keeps.bind require_silent fun _ =>
    Keeps.bind (modify_silent fun _ => rfl) fun _ => correlateReporting_silent

/-- the first part of an operation of the gateway: the reading of the clock, and the call -/
theorem callGateway_silent {call : GatewayCall} {answer : Nat → Int → Except GatewayError α} :
    KeepsSilent base (callGateway env call answer) := by
  refine Keeps.bind nowMs_silent fun atMs => Keeps.bind Keeps.read fun index =>
    Keeps.bind (modify_silent fun _ => rfl) fun _ => ?_
  split
  · exact Keeps.pure
  · exact Keeps.bind (attempt_silent (writeControl_silent rfl)) fun _ => fail_silent
  · exact fail_silent

/-- all frames but subscriptions are handled without a push -/
theorem handleControl_silent
    (h : ∀ requestId subscriptionId subscribe, frame ≠ .projectionSubscribeFrame requestId subscriptionId subscribe) :
    KeepsSilent base (handleControl env frame) := by
  cases frame <;> try exact fail_silent
  case projectionSubscribeFrame requestId subscriptionId subscribe => exact absurd rfl (h _ _ _)
  case unsubscribeRequest requestId subscriptionId =>
    exact Keeps.bind beginRequest_silent fun _ => Keeps.bind correlate_silent fun _ =>
      Keeps.bind (modify_silent fun _ => rfl) fun _ => Keeps.bind (writeControl_silent rfl) fun _ => correlate_silent
  case contentWriteHeader requestId request =>
    exact Keeps.bind beginRequest_silent fun _ => Keeps.bind correlate_silent fun _ => Keeps.bind Keeps.read fun _ =>
      Keeps.bind (modify_silent fun _ => rfl) fun _ => require_silent
  case contentReadFrame requestId request =>
    exact Keeps.bind beginRequest_silent fun _ => Keeps.bind callGateway_silent fun _ =>
      Keeps.bind (writeControl_silent rfl) fun _ => correlate_silent
  case deviceCommandFrame requestId request =>
    exact Keeps.bind beginRequest_silent fun _ => Keeps.bind callGateway_silent fun _ =>
      Keeps.bind (writeControl_silent rfl) fun _ => correlate_silent
  case ping requestId nonce =>
    exact Keeps.bind beginRequest_silent fun _ => Keeps.bind (writeControl_silent rfl) fun _ => correlate_silent
  case pong requestId nonce => exact correlate_silent

theorem handleContent_silent {body : List UInt8} : KeepsSilent base (handleContent env requestId body) := by
  refine Keeps.bind correlate_silent fun _ => Keeps.bind Keeps.read fun headers => ?_
  split
  · exact fail_silent
  · exact Keeps.bind (modify_silent fun _ => rfl) fun _ => Keeps.bind callGateway_silent fun _ =>
      Keeps.bind correlate_silent fun _ => writeControl_silent rfl

theorem handleBusinessFrame_silent {frame : Frame} (h : ∀ requestId subscriptionId subscribe,
      frame ≠ .control (.ok (.projectionSubscribeFrame requestId subscriptionId subscribe))) :
    KeepsSilent base (handleBusinessFrame env frame) := by
  match frame with
  | .content requestId body => exact handleContent_silent
  | .control (.error e) => exact fail_silent
  | .control (.ok control) =>
    refine Keeps.bind nowMs_silent fun _ => Keeps.bind onSession_silent fun _ => handleControl_silent ?_
    rintro requestId subscriptionId subscribe rfl
    exact h _ _ _ rfl

theorem sendPing_silent : KeepsSilent base (sendPing env) :=
  Keeps.bind Keeps.read fun _ => Keeps.bind require_silent fun _ => Keeps.bind (modify_silent fun _ => rfl) fun _ =>
    Keeps.bind correlate_silent fun _ => writeControl_silent rfl

/-! ## Steps outside of the windows -/

/-- the step grants and pushes nothing, and leads to a point outside of the windows -/
def Calm (base : List ControlFrame) (p : BusinessM Point) : Prop := ∀ c, Silent base c.sent →
  wp Connection.sent (fun _ => True) (fun point c => Silent base c.sent ∧ point.Quiet) (fun _ c => Silent base c.sent) p c

theorem Calm.pure {point : Point} (h : point.Quiet) : Calm base (Pure.pure point) := fun _ hc => wp_pure ⟨hc, h⟩

theorem Calm.fail : Calm base (Prog.fail e) := fun _ hc => wp_fail hc

theorem Calm.bind {p : BusinessM α} {f : α → BusinessM Point} (hp : KeepsSilent base p) (hf : ∀ a, Calm base (f a)) :
    Calm base (p >>= f) := fun c hc =>
  wp_seq (hp c hc) (fun a c' hc' => hf a c' hc') fun _ _ he => he

theorem stop_calm : Calm base stop := .bind (modify_silent fun _ => rfl) fun _ => .pure trivial

/-- the program does not return, and neither grants nor pushes -/
def Refuses (base : List ControlFrame) (p : BusinessM α) : Prop := ∀ c, Silent base c.sent →
  wp Connection.sent (fun _ => True) (fun _ _ => False) (fun _ c => Silent base c.sent) p c

theorem Refuses.bind {β : Type} {p : BusinessM α} {f : α → BusinessM β} (hp : KeepsSilent base p)
    (hf : ∀ a, Refuses base (f a)) : Refuses base (p >>= f) := fun c hc =>
  wp_seq (hp c hc) (fun a c' hc' => hf a c' hc') fun _ _ he => he

theorem Refuses.fail : Refuses base (Prog.fail e : BusinessM α) := fun _ hc => wp_fail hc

theorem Calm.of_refuses {p : BusinessM α} {f : α → BusinessM Point} (hp : Refuses base p) : Calm base (p >>= f) :=
  fun c hc => wp_seq (hp c hc) (fun _ _ h => h.elim) fun _ _ he => he

/-- the gateway refuses -/
theorem callGateway_refuses {call : GatewayCall} {answer : Nat → Int → Except GatewayError α}
    (h : ∀ index atMs, answer index atMs = .error .deviceRevoked) : Refuses base (callGateway env call answer) := by
  refine .bind nowMs_silent fun atMs => .bind Keeps.read fun index => .bind (modify_silent fun _ => rfl) fun _ => ?_
  rw [h]
  exact .bind (attempt_silent (writeControl_silent rfl)) fun _ => .fail

/-- a frame that is handled while the gateway refuses the device -/
theorem frameStep_calm {frame : Frame} {frames : List Frame}
    (h : ∀ index subscribe atMs, env.subscribe index subscribe atMs = .error .deviceRevoked) :
    Calm base (frameStep env frame frames) := by
  unfold frameStep
  split
  · refine .bind nowMs_silent fun _ => .bind onSession_silent fun _ => .of_refuses ?_
    exact .bind beginRequest_silent fun _ => .bind Keeps.read fun _ => .bind require_silent fun _ =>
      .bind (modify_silent fun _ => rfl) fun _ => .bind correlateReporting_silent fun _ =>
      callGateway_refuses fun index atMs => h index _ atMs
  · rename_i hframe
    exact .bind (handleBusinessFrame_silent hframe) fun _ => .pure trivial

theorem authenticationFailed_calm : Calm base (authenticationFailed env requestId) :=
  .bind (writeControl_silent rfl) fun _ => .fail

/-- without a device record no proof is accepted -/
theorem acceptProof_calm {deviceId : DeviceId} {answer : ControlFrame} {verified : Bool}
    {limited : Except TransportError Unit} : Calm base (acceptProof env deviceId requestId none answer verified limited) := by
  unfold acceptProof
  split
  · split_ifs with hid hdevice
    · exact authenticationFailed_calm
    · exact authenticationFailed_calm
    · exact absurd (.inl rfl) hdevice
  · exact authenticationFailed_calm

theorem pollStep_calm : Calm base (pollStep env) := by
  refine .bind nowMs_silent fun atMs => .bind pollSession_silent fun action => ?_
  split
  · exact .bind sendPing_silent fun _ => .pure trivial
  · exact .bind (writeControl_silent rfl) fun _ => stop_calm
  · exact stop_calm
  · exact .pure trivial

/-- **One step after the commit.** Outside of the windows, a step of the thread of a revoked device grants and pushes
nothing, and stays outside of them, if a look at the revoked set finds the device. -/
theorem advance_calm {connectionId : String} {deviceId : DeviceId} {registry : SecurityStore} {revoked : Bool}
    {point : Point} {move : Move} (hrevoked : registry.revoked deviceId = true) (hquiet : point.Quiet)
    (htop : ∀ refresh shutdown, move = .check refresh shutdown → point = .top → revoked = true) :
    Calm base (advance env connectionId deviceId registry revoked point move) := by
  unfold advance
  split
  · refine .bind (Keeps.bind Keeps.read fun _ => Keeps.bind require_silent fun _ => modify_silent fun _ => rfl)
      fun _ => .pure ?_
    rw [SecurityStore.deviceForAuth_revoked hrevoked]
    rfl
  · split
    · exact .fail
    · exact .bind (writeControl_silent rfl) fun _ => .pure hquiet
  · split
    · exact .fail
    · obtain rfl := hquiet
      exact acceptProof_calm
  · exact hquiet.elim
  · refine .bind (Keeps.liftExcept fun _ h => h) fun _ => ?_
    rw [htop _ _ rfl rfl]
    split
    · exact stop_calm
    · exact .bind (writeControl_silent rfl) fun _ => stop_calm
  · exact absurd hquiet (List.cons_ne_nil _ _)
  · exact pollStep_calm
  · split
    · exact stop_calm
    · exact .fail
    · exact .fail
    · exact .pure trivial
    · exact .pure trivial
  · refine frameStep_calm ?_
    intro index subscribe atMs
    simp only [gated, SecurityStore.deviceForAuth_revoked hrevoked]
  · exact .bind require_silent fun _ => .pure trivial
  · exact hquiet.elim
  · exact hquiet.elim
  · exact .pure hquiet

/-! ## Every interleaving -/

variable {connectionId : String} {deviceId : DeviceId} {S : System} {e : Event}

/-- after the commit the thread is outside of the windows -/
def QuietOnceRevoked (deviceId : DeviceId) (S : System) : Prop := S.registry.revoked deviceId = true → S.point.Quiet

/-- what a step after the commit sends, and where it leads -/
theorem step_revoked (h : S.registry.revoked deviceId = true) (hquiet : S.point.Quiet) (he : Orderly deviceId S e) :
    (step env connectionId deviceId S e).point.Quiet ∧
    ∀ frame ∈ sentBy env connectionId deviceId S e, grants frame = false := by
  cases e with
  | commit revokedAtMs result => exact ⟨hquiet, by simp [sentBy, step]⟩
  | disconnect =>
    simp only [sentBy, step, h, if_true]
    exact ⟨hquiet, by simp⟩
  | thread move =>
    have hcalm : Calm S.connection.sent
        (advance env connectionId deviceId S.registry (deviceId ∈ S.revoked) S.point move) :=
      advance_calm h hquiet (by
        rintro refresh shutdown rfl htop
        simpa using he htop h)
    have hpost := (hcalm S.connection (.refl _)).2.2
    simp only [sentBy, step]
    generalize advance env connectionId deviceId S.registry (deviceId ∈ S.revoked) S.point move S.connection = r at hpost ⊢
    obtain ⟨_ | point, c⟩ := r
    · exact ⟨trivial, hpost.silent⟩
    · exact ⟨hpost.2, hpost.1.silent⟩

theorem step_quietOnceRevoked (h : QuietOnceRevoked deviceId S) (he : Orderly deviceId S e) :
    QuietOnceRevoked deviceId (step env connectionId deviceId S e) := by
  intro hrevoked
  by_cases hbefore : S.registry.revoked deviceId = true
  · exact (step_revoked hbefore (h hbefore) he).1
  · -- the registry changes by a commit, which the thread awaits outside of the windows
    cases e with
    | commit revokedAtMs result =>
      cases result with
      | committed => exact he rfl
      | replacedOnly | failed =>
        refine absurd ?_ hbefore
        simpa [step, SecurityStore.revoked, SecurityStore.revokeAndThen_snapshot_failed] using hrevoked
    | disconnect =>
      simp only [step, hbefore] at hrevoked
      exact absurd hrevoked hbefore
    | thread move =>
      refine absurd ?_ hbefore
      simp only [step] at hrevoked
      split at hrevoked <;> exact hrevoked

end

/-- a connection before its challenge request, on a registry -/
def start (registry : SecurityStore) (connection : Connection) : System := { registry := registry, connection := connection }

/-- **Revocation and one connection.** In every interleaving of a connection's thread with the revocations of its device in
which each commit finds the thread outside of its windows and the thread does not look at the revoked set between a commit
and the insertion: after the commit the server sends neither `AuthAccepted` nor a projection. -/
theorem quiet_revocation_sends_nothing (env : Surroundings) (connectionId : String) (deviceId : DeviceId)
    (registry : SecurityStore) (connection : Connection) (events : List Event)
    (hrun : Along (step env connectionId deviceId) (Orderly deviceId) (start registry connection) events) :
    ∀ before e rest, events = before ++ e :: rest →
      (run env connectionId deviceId (start registry connection) before).registry.revoked deviceId = true →
      ∀ frame ∈ sentBy env connectionId deviceId (run env connectionId deviceId (start registry connection) before) e,
        grants frame = false := by
  rintro before e rest rfl hrevoked
  obtain ⟨hbefore, he, -⟩ := along_append.1 hrun
  have hquiet : QuietOnceRevoked deviceId (run env connectionId deviceId (start registry connection) before) :=
    run_inv (I := QuietOnceRevoked deviceId) (fun _ _ h he => step_quietOnceRevoked h he) (fun _ => trivial) hbefore
  exact (step_revoked hrevoked (hquiet hrevoked) he).2

/-! ## A phone that proves its key while it is revoked -/

/-- surroundings in which every write succeeds and the gateway is not asked -/
def calmSurroundings : Surroundings where
  clock n := n
  writes _ _ := none
  hexDigest := sampleDigest
  subscribe _ _ _ := .error .broker
  writeContent _ _ _ _ := .error .broker
  readContent _ _ _ := .error .broker
  admitCommand _ _ _ := .error .broker

/-- a connection that has said hello -/
def greeted : Connection where
  session := ⟨.authentication, 10000, none, none, 0, false, none, {}⟩
  lastRequestId := 2

/-- the device answers its challenge -/
def answered : List Event :=
  [.thread (.issue (.ok ([1], [2], 60000))), .thread (.proof (.ok (.challengeProof 3 [1] [3])) true (.ok ()))]

/-- the device is revoked after its record was looked up -/
def overtaken : List Event := .thread (.challengeRequest 3) :: .commit 5 .committed :: answered

/-- A device is told that it is authenticated although the registry has committed its revocation: the record was looked up
before, and nothing looks again. -/
theorem accepted_after_revocation : ¬ ∀ (env : Surroundings) (connectionId : String) (deviceId : DeviceId)
    (registry : SecurityStore) (connection : Connection) (before : List Event) (e : Event),
    (run env connectionId deviceId (start registry connection) before).registry.revoked deviceId = true →
    ∀ frame ∈ sentBy env connectionId deviceId (run env connectionId deviceId (start registry connection) before) e,
      grants frame = false := by
  intro h
  have hrun : let S := run calmSurroundings "con_a" sampleDevice (start Gateway.phones greeted) overtaken
      S.registry.revoked sampleDevice = true ∧
      ((sentBy calmSurroundings "con_a" sampleDevice S (.thread .accept)).any grants) = true := by
    decide +kernel
  obtain ⟨frame, hmem, hgrants⟩ := List.any_eq_true.1 hrun.2
  rw [h calmSurroundings "con_a" sampleDevice Gateway.phones greeted overtaken (.thread .accept) hrun.1 frame hmem] at hgrants
  cases hgrants

/-- the same revocation, before the record is looked up -/
def forestalled : List Event := .commit 5 .committed :: .thread (.challengeRequest 3) :: answered

theorem quiet_revocation_sends_nothing_phone :
    Along (step calmSurroundings "con_a" sampleDevice) (Orderly sampleDevice) (start Gateway.phones greeted)
      (forestalled ++ [.thread .accept]) ∧
    let S := run calmSurroundings "con_a" sampleDevice (start Gateway.phones greeted) forestalled
    S.registry.revoked sampleDevice = true ∧
    (sentBy calmSurroundings "con_a" sampleDevice S (.thread .accept)).all (fun frame => !grants frame) = true := by
  have hrun : Along (step calmSurroundings "con_a" sampleDevice) (Orderly sampleDevice) (start Gateway.phones greeted)
      (forestalled ++ [.thread .accept]) := ⟨fun _ => trivial, trivial, trivial, trivial, trivial, trivial⟩
  have hrevoked : (run calmSurroundings "con_a" sampleDevice (start Gateway.phones greeted) forestalled).registry.revoked
      sampleDevice = true := by decide +kernel
  refine ⟨hrun, hrevoked, List.all_eq_true.2 ?_⟩
  intro frame hframe
  rw [quiet_revocation_sends_nothing calmSurroundings "con_a" sampleDevice Gateway.phones greeted _ hrun forestalled
    (.thread .accept) [] rfl hrevoked frame hframe]
  rfl

end Kaleido.Hostd.Revocation
