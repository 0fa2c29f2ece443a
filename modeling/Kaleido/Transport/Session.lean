/-
The session of one connection (`kaleido-transport`, `limits.rs`, `control.rs`): its stage, its expiry, and the requests,
subscriptions and uploads that are under way.

Every operation returns the new state or an error. An error ends the connection, so the state it would leave behind is not
kept; the sets of identifiers are lists without repetitions.
-/
import Kaleido.Transport.Control

namespace Kaleido.Transport

open Check Proto State

def maxPendingRequests : Nat := 32
def maxActiveSubscriptions : Nat := 16
def idlePingAfterMs : Int := 30000
def idleCloseAfterMs : Int := 90000
def sessionLifetimeMs : Int := 900000

/-- `Frame`; the JSON of a control frame is read when the frame is handled -/
inductive Frame where
  | control (decoded : Except TransportError ControlFrame)
  | content (requestId : Nat) (body : List UInt8)

/-! ## Correlation -/

/-- `ExpectedResponse` -/
inductive ExpectedResponse where
  | projectionSubscribeAck (subscriptionId : Nat)
  | unsubscribeAck (subscriptionId : Nat)
  | contentWriteResult
  | contentReadResult
  | deviceCommandAck
  | pong (nonce : Nat)
  deriving DecidableEq

/-- `ExpectedContent` -/
structure ExpectedContent where
  byteLen : Nat
  digest : String
  deriving DecidableEq

/-- `CorrelationState` -/
structure CorrelationState where
  lastIncomingRequestId : Nat := 0
  lastOutgoingRequestId : Nat := 0
  incomingPending : List Nat := []
  outgoingPending : OrdMap Nat ExpectedResponse := ∅
  subscriptions : List Nat := []
  subscriptionTombstones : OrdMap Nat Bool := ∅
  awaitingContent : OrdMap Nat ExpectedContent := ∅

/-- `validate_subscription_gap` -/
def validateSubscriptionGap (error : CanonicalError) : Except TransportError Unit :=
  ensure (error.code = .cursorGap ∧ error.retriable ∧ error.detailRef = none) .malformedFrame

/-- `response_shape` -/
def responseShape : ControlFrame → Except TransportError (Nat × ExpectedResponse)
  | .projectionSubscribeAckFrame requestId subscriptionId _ => .ok (requestId, .projectionSubscribeAck subscriptionId)
  | .unsubscribeAck requestId subscriptionId => .ok (requestId, .unsubscribeAck subscriptionId)
  | .contentWriteResult requestId _ => .ok (requestId, .contentWriteResult)
  | .contentReadResult requestId _ => .ok (requestId, .contentReadResult)
  | .deviceCommandAck requestId _ => .ok (requestId, .deviceCommandAck)
  | .pong requestId nonce => .ok (requestId, .pong nonce)
  | _ => .error .malformedFrame

namespace CorrelationState

/-- `pending_count` -/
def pendingCount (c : CorrelationState) : Nat := c.incomingPending.length + c.outgoingPending.size

/-- `check_pending_limit` -/
def checkPendingLimit (c : CorrelationState) : Except TransportError Unit :=
  ensure (c.pendingCount < maxPendingRequests) .rateLimited

/-- `begin_incoming_request` -/
def beginIncomingRequest (c : CorrelationState) (requestId : Nat) : Except TransportError CorrelationState := do
  c.checkPendingLimit
  ensure (requestId ≠ 0 ∧ c.lastIncomingRequestId < requestId) .malformedFrame
  ensure (requestId ∉ c.incomingPending) .malformedFrame
  return { c with lastIncomingRequestId := requestId, incomingPending := requestId :: c.incomingPending }

/-- `complete_incoming_request` -/
def completeIncomingRequest (c : CorrelationState) (requestId : Nat) : Except TransportError CorrelationState := do
  ensure (requestId ≠ 0 ∧ requestId ∈ c.incomingPending) .malformedFrame
  return { c with
    incomingPending := c.incomingPending.erase requestId
    awaitingContent := c.awaitingContent.erase requestId }

/-- `begin_outgoing_request` -/
def beginOutgoingRequest (c : CorrelationState) (requestId : Nat) (expected : ExpectedResponse) :
    Except TransportError CorrelationState := do
  c.checkPendingLimit
  ensure (requestId ≠ 0 ∧ c.lastOutgoingRequestId < requestId) .malformedFrame
  ensure (¬ c.outgoingPending.contains requestId) .malformedFrame
  return { c with lastOutgoingRequestId := requestId, outgoingPending := c.outgoingPending.insert requestId expected }

/-- `accept_response` -/
def acceptResponse (c : CorrelationState) (frame : ControlFrame) : Except TransportError CorrelationState := do
  let (requestId, actual) ← responseShape frame
  ensure (c.outgoingPending[requestId]? = some actual) .malformedFrame
  return { c with outgoingPending := c.outgoingPending.erase requestId }

/-- `open_subscription` -/
def openSubscription (c : CorrelationState) (subscriptionId : Nat) : Except TransportError CorrelationState := do
  ensure (subscriptionId ≠ 0 ∧ subscriptionId ∉ c.subscriptions ∧ ¬ c.subscriptionTombstones.contains subscriptionId)
    .malformedFrame
  ensure (c.subscriptions.length < maxActiveSubscriptions) .tooManySubscriptions
  return { c with subscriptions := subscriptionId :: c.subscriptions }

/-- `close_subscription` -/
def closeSubscription (c : CorrelationState) (subscriptionId : Nat) : Except TransportError CorrelationState := do
  ensure (subscriptionId ≠ 0 ∧ subscriptionId ∈ c.subscriptions) .malformedFrame
  return { c with
    subscriptions := c.subscriptions.erase subscriptionId
    subscriptionTombstones := c.subscriptionTombstones.insert subscriptionId true }

/-- `close_subscription_for_gap` -/
def closeSubscriptionForGap (c : CorrelationState) (subscriptionId : Nat) (error : CanonicalError) :
    Except TransportError CorrelationState := do
  validateSubscriptionGap error
  ensure (subscriptionId ≠ 0 ∧ subscriptionId ∈ c.subscriptions ∧ ¬ c.subscriptionTombstones.contains subscriptionId)
    .malformedFrame
  return { c with
    subscriptions := c.subscriptions.erase subscriptionId
    subscriptionTombstones := c.subscriptionTombstones.insert subscriptionId false }

/-- `unsubscribe`: an active subscription, or one that a gap closed and that was not yet acknowledged -/
def unsubscribe (c : CorrelationState) (subscriptionId : Nat) : Except TransportError CorrelationState := do
  ensure (subscriptionId ≠ 0) .malformedFrame
  if subscriptionId ∈ c.subscriptions then
    return { c with
      subscriptions := c.subscriptions.erase subscriptionId
      subscriptionTombstones := c.subscriptionTombstones.insert subscriptionId true }
  ensure (c.subscriptionTombstones[subscriptionId]? = some false) .malformedFrame
  return { c with subscriptionTombstones := c.subscriptionTombstones.insert subscriptionId true }

/-- `expect_content` -/
def expectContent (c : CorrelationState) (requestId : Nat) (request : ContentWriteRequest) :
    Except TransportError CorrelationState := do
  ensure request.valid .malformedFrame
  ensure (requestId ∈ c.incomingPending ∧ ¬ c.awaitingContent.contains requestId) .malformedFrame
  return { c with awaitingContent := c.awaitingContent.insert requestId ⟨request.byteLen, request.digest⟩ }

/-- `bind_content`: the body that an upload announced -/
def bindContent (hexDigest : List UInt8 → String) (c : CorrelationState) (requestId : Nat) (body : List UInt8) :
    Except TransportError CorrelationState :=
  match c.awaitingContent[requestId]? with
  | none => .error .malformedFrame
  | some expected => do
    ensure (body.length = expected.byteLen ∧ "sha256:" ++ hexDigest body = expected.digest) .malformedFrame
    return { c with awaitingContent := c.awaitingContent.erase requestId }

/-- `cancel_all` -/
def cancelAll (c : CorrelationState) : CorrelationState :=
  { lastIncomingRequestId := c.lastIncomingRequestId, lastOutgoingRequestId := c.lastOutgoingRequestId }

end CorrelationState

/-! ## The session -/

/-- `ConnectionStage` -/
inductive ConnectionStage where
  | tlsHandshake | transportHello | uacpHello | authentication | authenticated | closed
  deriving DecidableEq

/-- `ConnectionAction` -/
inductive ConnectionAction where
  | sendPing | closeTimeout | closeSessionExpired
  deriving DecidableEq

/-- `IoOperation` -/
inductive IoOperation where
  | frameRead | frameWrite
  deriving DecidableEq

/-- `ConnectionSession` -/
structure ConnectionSession where
  stage : ConnectionStage
  stageDeadlineMs : Int
  authenticatedDevice : Option DeviceId
  sessionExpiresAtMs : Option Int
  lastValidFrameAtMs : Int
  pingSent : Bool
  ioDeadline : Option (IoOperation × Int)
  correlation : CorrelationState

/-- `add_time` -/
def addTime (nowMs deltaMs : Int) : Except TransportError Int :=
  if nowMs + deltaMs ≤ i64Max then .ok (nowMs + deltaMs) else .error .timeOverflow

/-- `i64::saturating_sub` -/
def saturatingSub (a b : Int) : Int := max (-i64Max - 1) (min (a - b) i64Max)

/-- `is_business_frame` -/
def isBusinessFrame : ControlFrame → Bool
  | .projectionSubscribeFrame .. | .projectionSubscribeAckFrame .. | .projectionEnvelopeFrame ..
  | .projectionSubscriptionClosed .. | .unsubscribeRequest .. | .unsubscribeAck .. | .contentWriteHeader ..
  | .contentWriteResult .. | .contentReadFrame .. | .contentReadResult .. | .deviceCommandFrame ..
  | .deviceCommandAck .. | .ping .. | .pong .. | .transportError .. => true
  | .transportHello .. | .transportHelloAck .. | .uacpHello .. | .uacpHelloAck .. | .pairRequest .. | .pairResponse ..
  | .challengeRequest .. | .deviceChallenge .. | .challengeProof .. | .authAccepted .. => false

namespace ConnectionSession

/-- `close` -/
def close (s : ConnectionSession) : ConnectionSession :=
  { s with
    stage := .closed
    authenticatedDevice := none
    sessionExpiresAtMs := none
    ioDeadline := none
    correlation := s.correlation.cancelAll }

/-- `authenticate`: the session and its expiry -/
def authenticate (s : ConnectionSession) (deviceId : DeviceId) (nowMs : Int) :
    Except TransportError (Int × ConnectionSession) := do
  ensure (s.stage = .authentication) .authenticationFailed
  ensure (¬ deviceId.isEmpty) .authenticationFailed
  let expiry ← addTime nowMs sessionLifetimeMs
  return (expiry, { s with
    stage := .authenticated
    authenticatedDevice := some deviceId
    sessionExpiresAtMs := some expiry
    lastValidFrameAtMs := nowMs
    pingSent := false })

/-- the session has expired -/
def expired (s : ConnectionSession) (nowMs : Int) : Bool := s.sessionExpiresAtMs.any fun expiry => expiry ≤ nowMs

/-- `ensure_business_frame` -/
def ensureBusinessFrame (s : ConnectionSession) (frame : ControlFrame) (nowMs : Int) :
    Except TransportError ConnectionSession := do
  ensure (s.stage = .authenticated) .authenticationFailed
  ensure (¬ s.expired nowMs) .authenticationFailed
  ensure (isBusinessFrame frame) .authenticationFailed
  return { s with lastValidFrameAtMs := nowMs, pingSent := false }

/-- `poll` -/
def poll (s : ConnectionSession) (nowMs : Int) : Option ConnectionAction × ConnectionSession :=
  if s.ioDeadline.any fun io => io.2 ≤ nowMs then (some .closeTimeout, s.close)
  else match s.stage with
    | .closed => (none, s)
    | .authenticated =>
      let idle := saturatingSub nowMs s.lastValidFrameAtMs
      if s.expired nowMs then (some .closeSessionExpired, s.close)
      else if idleCloseAfterMs ≤ idle then (some .closeTimeout, s.close)
      else if idlePingAfterMs ≤ idle ∧ ¬ s.pingSent then (some .sendPing, { s with pingSent := true })
      else (none, s)
    | .tlsHandshake | .transportHello | .uacpHello | .authentication =>
      if s.stageDeadlineMs ≤ nowMs then (some .closeTimeout, s.close) else (none, s)

end ConnectionSession

end Kaleido.Transport
