/-
Control frames (`kaleido-transport`, `control.rs`, `error.rs`): what the two sides of a connection say to each other, and
the JSON text of each frame.
-/
import Kaleido.State.ContentRead

namespace Kaleido.Transport

open Json (tagged)
open Proto State

/-- `TransportError` -/
inductive TransportError where
  | versionMismatch | malformedFrame | frameTooLarge | rateLimited | pairingInvalid | authenticationFailed
  | challengeExpired | challengeReplayed | deviceRevoked | tooManyConnections | tooManySubscriptions | persistence
  | invalidKeyMaterial | insecurePermissions | internal | timeOverflow
  deriving DecidableEq

/-- `TransportErrorCode` -/
inductive TransportErrorCode where
  | versionMismatch | malformedFrame | frameTooLarge | rateLimited | pairingInvalid | authenticationFailed
  | challengeExpired | challengeReplayed | deviceRevoked | tooManyConnections | tooManySubscriptions | internal
  deriving DecidableEq

structure PairRequest where
  requestId : Nat
  secret : List UInt8
  devicePublicKeySpki : List UInt8
  deviceLabel : String
  deriving DecidableEq

structure PairResponse where
  requestId : Nat
  deviceId : DeviceId
  hostId : HostId
  transportVersion : String
  protocolVersion : String
  connectionId : String
  sessionExpiresAtMs : Int
  deriving DecidableEq

inductive ControlFrame where
  | transportHello (requestId : Nat) (transportVersion : String) (maxFrameLength : Nat)
  | transportHelloAck (requestId : Nat) (transportVersion : String) (maxFrameLength : Nat)
  | uacpHello (requestId : Nat) (protocolVersion : String)
  | uacpHelloAck (requestId : Nat) (protocolVersion : String)
  | pairRequest (request : PairRequest)
  | pairResponse (response : PairResponse)
  | challengeRequest (requestId : Nat) (deviceId : DeviceId)
  | deviceChallenge (requestId : Nat) (challengeId nonce : List UInt8) (expiresAtMs : Int)
  | challengeProof (requestId : Nat) (challengeId signatureDer : List UInt8)
  | authAccepted (requestId : Nat) (connectionId : String) (expiresAtMs : Int)
  | projectionSubscribeFrame (requestId subscriptionId : Nat) (subscribe : ProjectionSubscribe)
  | projectionSubscribeAckFrame (requestId subscriptionId : Nat) (ack : ProjectionSubscribeAck)
  | projectionEnvelopeFrame (subscriptionId : Nat) (envelope : ProjectionEnvelope)
  | projectionSubscriptionClosed (subscriptionId : Nat) (error : CanonicalError)
  | unsubscribeRequest (requestId subscriptionId : Nat)
  | unsubscribeAck (requestId subscriptionId : Nat)
  | contentWriteHeader (requestId : Nat) (request : ContentWriteRequest)
  | contentWriteResult (requestId : Nat) (response : ContentWriteResponse)
  | contentReadFrame (requestId : Nat) (request : ContentReadRequest)
  | contentReadResult (requestId : Nat) (response : ContentReadResponse)
  | deviceCommandFrame (requestId : Nat) (request : DeviceCommandRequest)
  | deviceCommandAck (requestId : Nat) (ack : CommandAck)
  | ping (requestId nonce : Nat)
  | pong (requestId nonce : Nat)
  | transportError (requestId : Option Nat) (code : TransportErrorCode) (retriable : Bool)
  deriving DecidableEq

/-! ## JSON -/

instance : ToJson TransportErrorCode := ⟨fun
  | .versionMismatch => .str "version_mismatch"
  | .malformedFrame => .str "malformed_frame"
  | .frameTooLarge => .str "frame_too_large"
  | .rateLimited => .str "rate_limited"
  | .pairingInvalid => .str "pairing_invalid"
  | .authenticationFailed => .str "authentication_failed"
  | .challengeExpired => .str "challenge_expired"
  | .challengeReplayed => .str "challenge_replayed"
  | .deviceRevoked => .str "device_revoked"
  | .tooManyConnections => .str "too_many_connections"
  | .tooManySubscriptions => .str "too_many_subscriptions"
  | .internal => .str "internal"⟩

instance : ToJson DeviceCommandRequest := ⟨fun r =>
  .obj [("idempotency_key", toJson r.idempotencyKey), ("ttl_ms", toJson r.ttlMs), ("body", toJson r.body)]⟩

/-- the text of a frame; the two pairing records are flattened into it -/
instance : ToJson ControlFrame := ⟨fun
  | .transportHello requestId transportVersion maxFrameLength => tagged "transport_hello"
      [("request_id", toJson requestId), ("transport_version", toJson transportVersion),
        ("max_frame_length", toJson maxFrameLength)]
  | .transportHelloAck requestId transportVersion maxFrameLength => tagged "transport_hello_ack"
      [("request_id", toJson requestId), ("transport_version", toJson transportVersion),
        ("max_frame_length", toJson maxFrameLength)]
  | .uacpHello requestId protocolVersion => tagged "uacp_hello"
      [("request_id", toJson requestId), ("protocol_version", toJson protocolVersion)]
  | .uacpHelloAck requestId protocolVersion => tagged "uacp_hello_ack"
      [("request_id", toJson requestId), ("protocol_version", toJson protocolVersion)]
  | .pairRequest r => tagged "pair_request"
      [("request_id", toJson r.requestId), ("secret", toJson r.secret),
        ("device_public_key_spki", toJson r.devicePublicKeySpki), ("device_label", toJson r.deviceLabel)]
  | .pairResponse r => tagged "pair_response"
      [("request_id", toJson r.requestId), ("device_id", toJson r.deviceId), ("host_id", toJson r.hostId),
        ("transport_version", toJson r.transportVersion), ("protocol_version", toJson r.protocolVersion),
        ("connection_id", toJson r.connectionId), ("session_expires_at_ms", toJson r.sessionExpiresAtMs)]
  | .challengeRequest requestId deviceId => tagged "challenge_request"
      [("request_id", toJson requestId), ("device_id", toJson deviceId)]
  | .deviceChallenge requestId challengeId nonce expiresAtMs => tagged "device_challenge"
      [("request_id", toJson requestId), ("challenge_id", toJson challengeId), ("nonce", toJson nonce),
        ("expires_at_ms", toJson expiresAtMs)]
  | .challengeProof requestId challengeId signatureDer => tagged "challenge_proof"
      [("request_id", toJson requestId), ("challenge_id", toJson challengeId), ("signature_der", toJson signatureDer)]
  | .authAccepted requestId connectionId expiresAtMs => tagged "auth_accepted"
      [("request_id", toJson requestId), ("connection_id", toJson connectionId), ("expires_at_ms", toJson expiresAtMs)]
  | .projectionSubscribeFrame requestId subscriptionId subscribe => tagged "projection_subscribe_frame"
      [("request_id", toJson requestId), ("subscription_id", toJson subscriptionId), ("subscribe", toJson subscribe)]
  | .projectionSubscribeAckFrame requestId subscriptionId ack => tagged "projection_subscribe_ack_frame"
      [("request_id", toJson requestId), ("subscription_id", toJson subscriptionId), ("ack", toJson ack)]
  | .projectionEnvelopeFrame subscriptionId envelope => tagged "projection_envelope_frame"
      [("subscription_id", toJson subscriptionId), ("envelope", toJson envelope)]
  | .projectionSubscriptionClosed subscriptionId error => tagged "projection_subscription_closed"
      [("subscription_id", toJson subscriptionId), ("error", toJson error)]
  | .unsubscribeRequest requestId subscriptionId => tagged "unsubscribe_request"
      [("request_id", toJson requestId), ("subscription_id", toJson subscriptionId)]
  | .unsubscribeAck requestId subscriptionId => tagged "unsubscribe_ack"
      [("request_id", toJson requestId), ("subscription_id", toJson subscriptionId)]
  | .contentWriteHeader requestId request => tagged "content_write_header"
      [("request_id", toJson requestId), ("request", toJson request)]
  | .contentWriteResult requestId response => tagged "content_write_result"
      [("request_id", toJson requestId), ("response", toJson response)]
  | .contentReadFrame requestId request => tagged "content_read_frame"
      [("request_id", toJson requestId), ("request", toJson request)]
  | .contentReadResult requestId response => tagged "content_read_result"
      [("request_id", toJson requestId), ("response", toJson response)]
  | .deviceCommandFrame requestId request => tagged "device_command_frame"
      [("request_id", toJson requestId), ("request", toJson request)]
  | .deviceCommandAck requestId ack => tagged "device_command_ack"
      [("request_id", toJson requestId), ("ack", toJson ack)]
  | .ping requestId nonce => tagged "ping" [("request_id", toJson requestId), ("nonce", toJson nonce)]
  | .pong requestId nonce => tagged "pong" [("request_id", toJson requestId), ("nonce", toJson nonce)]
  | .transportError requestId code retriable => tagged "transport_error"
      [("request_id", toJson requestId), ("code", toJson code), ("retriable", toJson retriable)]⟩

/-- `ControlFrame::encode`: the UTF-8 bytes of the compact text -/
def ControlFrame.encode (frame : ControlFrame) : List UInt8 := utf8 (toJson frame).render

end Kaleido.Transport
