/-
The frames of the remote control protocol (`kaleido-transport`, `remote.rs`): rendezvous and push requests between a host or
a phone and the relay, the check every frame passes when it is written or read, and its text.

Identifiers and tokens travel as canonical base64 of a fixed number of bytes; an endpoint only has to be alphanumeric.
-/
import Kaleido.Lib.Base64
import Kaleido.Transport.Challenge

namespace Kaleido.Transport

open Check Proto State
open Json (tagged)

def remoteControlVersion : String := "0.1.0"
def maxRemoteControlFrameBytes : Nat := 4096
def operationClockSkewMs : Nat := 60000
def operationReplayWindowMs : Nat := 120000
def minPresenceTtlSeconds : Nat := 15
def maxPresenceTtlSeconds : Nat := 90
def randomIdBytes : Nat := 16
def tokenBytes : Nat := 32
def maxEndpointIdBytes : Nat := 128
def maxRelayUrlBytes : Nat := 512
def maxPushAddressBytes : Nat := 512

/-- `RemoteErrorCode`; the relay's own enumeration has the same variants, and `map_error` keeps the variant -/
inductive RemoteErrorCode where
  | versionMismatch | malformedFrame | authenticationFailed | routeUnavailable | expired | replay | rateLimited
  | limitExceeded | revoked | internal
  deriving DecidableEq

inductive PushProvider where
  | fcmFid | apnsToken
  deriving DecidableEq

structure WirePushAddress where
  provider : PushProvider
  opaqueAddress : String
  registeredAtMs : Int
  expiresAtMs : Int
  deriving DecidableEq

inductive RemoteControlFrame where
  | remoteHello (requestId : Nat) (remoteControlVersion : String) (maxFrameLength : Nat)
  | remoteHelloAck (requestId : Nat) (remoteControlVersion : String) (maxFrameLength : Nat)
  | registerRoute (requestId : Nat) (operationId : String) (issuedAtMs : Int) (routeId routeHint adminToken hostEndpointId
      relayUrl : String)
  | routeRegistered (requestId : Nat)
  | registerPresence (requestId : Nat) (operationId : String) (issuedAtMs : Int) (routeId adminToken hostEndpointId
      relayUrl : String) (ttlSeconds : Nat)
  | presenceRegistered (requestId : Nat) (expiresAtMs : Int)
  | registerDeviceGrant (requestId : Nat) (operationId : String) (issuedAtMs : Int) (routeId deviceSlotId accessToken
      adminToken : String)
  | deviceGrantRegistered (requestId : Nat)
  | resolveRoute (requestId : Nat) (operationId : String) (issuedAtMs : Int) (routeId deviceSlotId accessToken : String)
  | routeResolved (requestId : Nat) (hostEndpointId relayUrl : String) (expiresAtMs : Int)
  | replacePushAddress (requestId : Nat) (operationId : String) (issuedAtMs : Int) (routeId deviceSlotId
      accessToken : String) (address : WirePushAddress)
  | pushAddressReplaced (requestId : Nat) (expiresAtMs : Int)
  | deletePushAddress (requestId : Nat) (operationId : String) (issuedAtMs : Int) (routeId deviceSlotId
      accessToken : String)
  | pushAddressDeleted (requestId : Nat)
  | wakeDevice (requestId : Nat) (operationId : String) (issuedAtMs : Int) (routeId deviceSlotId adminToken
      wakeId : String)
  | wakeAccepted (requestId : Nat)
  | revokeDeviceGrant (requestId : Nat) (operationId : String) (issuedAtMs : Int) (routeId deviceSlotId
      adminToken : String)
  | deviceGrantRevoked (requestId : Nat)
  | remoteError (requestId : Option Nat) (code : RemoteErrorCode) (retriable : Bool)
  deriving DecidableEq

/-! ## The check of a frame -/

/-- `u8::is_ascii_control` -/
def isAsciiControl (c : Char) : Bool := c.toNat < 0x20 || c.toNat == 0x7f

/-- `u8::is_ascii_whitespace` -/
def isAsciiWhitespace (c : Char) : Bool := c == ' ' || c == '\t' || c == '\n' || c.toNat == 0x0c || c == '\r'

/-- `validate_canonical_base64` -/
def validateCanonicalBase64 (value : String) (expectedLen : Nat) : Except TransportError Unit :=
  match Base64.decode value.toList with
  | none => .error .malformedFrame
  | some decoded =>
    ensure (¬ (decoded.length ≠ expectedLen ∨ Base64.encode decoded ≠ value.toList)) .malformedFrame

/-- `validate_random_id` -/
def validateRandomId (value : String) : Except TransportError Unit := validateCanonicalBase64 value randomIdBytes

/-- `validate_token` -/
def validateToken (value : String) : Except TransportError Unit := validateCanonicalBase64 value tokenBytes

/-- `validate_endpoint_id` -/
def validateEndpointId (endpointId : String) : Except TransportError Unit :=
  ensure (¬ (endpointId = "" ∨ endpointId.utf8ByteSize > maxEndpointIdBytes ∨ ¬ endpointId.toList.all Char.isAlphanum))
    .malformedFrame

/-- `validate_relay_url` -/
def validateRelayUrl (relayUrl : String) : Except TransportError Unit :=
  ensure (¬ (relayUrl.utf8ByteSize > maxRelayUrlBytes ∨ ¬ (stripStart "https://".toList relayUrl.toList).isSome ∨
    relayUrl.toList.any fun c => isAsciiControl c || isAsciiWhitespace c || c == '@' || c == '#')) .malformedFrame

/-- `validate_operation` -/
def validateOperation (operationId : String) (issuedAtMs : Int) : Except TransportError Unit := do
  validateRandomId operationId
  ensure (0 ≤ issuedAtMs) .malformedFrame

/-- `validate_device_operation` -/
def validateDeviceOperation (operationId : String) (issuedAtMs : Int) (routeId deviceSlotId accessToken : String) :
    Except TransportError Unit := do
  validateOperation operationId issuedAtMs
  validateRandomId routeId
  validateRandomId deviceSlotId
  validateToken accessToken

/-- `PushAddress::validate` -/
def WirePushAddress.validate (a : WirePushAddress) : Except TransportError Unit :=
  ensure (¬ (a.opaqueAddress = "" ∨ a.opaqueAddress.utf8ByteSize > maxPushAddressBytes ∨
    (a.opaqueAddress.toList.any fun c => isAsciiControl c || isAsciiWhitespace c) ∨ a.registeredAtMs < 0 ∨
    a.expiresAtMs ≤ a.registeredAtMs)) .malformedFrame

namespace RemoteControlFrame

/-- `request_id` -/
def requestId : RemoteControlFrame → Option Nat
  | remoteHello requestId .. | remoteHelloAck requestId .. | registerRoute requestId .. | routeRegistered requestId
  | registerPresence requestId .. | presenceRegistered requestId .. | registerDeviceGrant requestId ..
  | deviceGrantRegistered requestId | resolveRoute requestId .. | routeResolved requestId ..
  | replacePushAddress requestId .. | pushAddressReplaced requestId .. | deletePushAddress requestId ..
  | pushAddressDeleted requestId | wakeDevice requestId .. | wakeAccepted requestId | revokeDeviceGrant requestId ..
  | deviceGrantRevoked requestId => some requestId
  | remoteError requestId .. => requestId

/-- the fields that `validate` checks after the request identifier -/
def validateFields : RemoteControlFrame → Except TransportError Unit
  | remoteHello _ version maxFrameLength | remoteHelloAck _ version maxFrameLength =>
    -- `remote_version_is_compatible` is the transport's rule, on the same text
    ensure (¬ (¬ transportVersionIsCompatible version ∨ maxFrameLength ≠ maxRemoteControlFrameBytes)) .versionMismatch
  | registerPresence _ operationId issuedAtMs routeId adminToken hostEndpointId relayUrl ttlSeconds => do
    validateOperation operationId issuedAtMs
    validateRandomId routeId
    validateToken adminToken
    validateEndpointId hostEndpointId
    validateRelayUrl relayUrl
    ensure (minPresenceTtlSeconds ≤ ttlSeconds ∧ ttlSeconds ≤ maxPresenceTtlSeconds) .malformedFrame
  | registerRoute _ operationId issuedAtMs routeId routeHint adminToken hostEndpointId relayUrl => do
    validateOperation operationId issuedAtMs
    validateRandomId routeId
    validateRandomId routeHint
    validateToken adminToken
    validateEndpointId hostEndpointId
    validateRelayUrl relayUrl
  | presenceRegistered _ expiresAtMs | pushAddressReplaced _ expiresAtMs => ensure (¬ expiresAtMs < 0) .malformedFrame
  | registerDeviceGrant _ operationId issuedAtMs routeId deviceSlotId accessToken adminToken => do
    validateOperation operationId issuedAtMs
    validateRandomId routeId
    validateRandomId deviceSlotId
    validateToken accessToken
    validateToken adminToken
  | resolveRoute _ operationId issuedAtMs routeId deviceSlotId accessToken
  | deletePushAddress _ operationId issuedAtMs routeId deviceSlotId accessToken =>
    validateDeviceOperation operationId issuedAtMs routeId deviceSlotId accessToken
  | routeResolved _ hostEndpointId relayUrl expiresAtMs => do
    validateEndpointId hostEndpointId
    validateRelayUrl relayUrl
    ensure (¬ expiresAtMs < 0) .malformedFrame
  | replacePushAddress _ operationId issuedAtMs routeId deviceSlotId accessToken address => do
    validateDeviceOperation operationId issuedAtMs routeId deviceSlotId accessToken
    address.validate
  | revokeDeviceGrant _ operationId issuedAtMs routeId deviceSlotId adminToken => do
    validateOperation operationId issuedAtMs
    validateRandomId routeId
    validateRandomId deviceSlotId
    validateToken adminToken
  | wakeDevice _ operationId issuedAtMs routeId deviceSlotId adminToken wakeId => do
    validateOperation operationId issuedAtMs
    validateRandomId routeId
    validateRandomId deviceSlotId
    validateToken adminToken
    validateRandomId wakeId
  | routeRegistered _ | deviceGrantRegistered _ | pushAddressDeleted _ | wakeAccepted _ | deviceGrantRevoked _
  | remoteError .. => .ok ()

/-- `validate` -/
def validate (frame : RemoteControlFrame) : Except TransportError Unit := do
  ensure (¬ frame.requestId = some 0) .malformedFrame
  frame.validateFields

end RemoteControlFrame

/-! ## The text of a frame -/

instance : ToJson RemoteErrorCode := ⟨fun
  | .versionMismatch => .str "version_mismatch"
  | .malformedFrame => .str "malformed_frame"
  | .authenticationFailed => .str "authentication_failed"
  | .routeUnavailable => .str "route_unavailable"
  | .expired => .str "expired"
  | .replay => .str "replay"
  | .rateLimited => .str "rate_limited"
  | .limitExceeded => .str "limit_exceeded"
  | .revoked => .str "revoked"
  | .internal => .str "internal"⟩

instance : ToJson PushProvider := ⟨fun
  | .fcmFid => .str "fcm_fid"
  | .apnsToken => .str "apns_token"⟩

instance : ToJson WirePushAddress := ⟨fun a => .obj
  [("provider", toJson a.provider), ("opaque_address", toJson a.opaqueAddress),
    ("registered_at_ms", toJson a.registeredAtMs), ("expires_at_ms", toJson a.expiresAtMs)]⟩

/-- the first fields of an operation -/
def operationJson (requestId : Nat) (operationId : String) (issuedAtMs : Int) : List (String × Json) :=
  [("request_id", toJson requestId), ("operation_id", toJson operationId), ("issued_at_ms", toJson issuedAtMs)]

instance : ToJson RemoteControlFrame := ⟨fun
  | .remoteHello requestId version maxFrameLength => tagged "remote_hello"
    [("request_id", toJson requestId), ("remote_control_version", toJson version), ("max_frame_length", toJson maxFrameLength)]
  | .remoteHelloAck requestId version maxFrameLength => tagged "remote_hello_ack"
    [("request_id", toJson requestId), ("remote_control_version", toJson version), ("max_frame_length", toJson maxFrameLength)]
  | .registerRoute requestId operationId issuedAtMs routeId routeHint adminToken hostEndpointId relayUrl =>
    tagged "register_route" (operationJson requestId operationId issuedAtMs ++
      [("route_id", toJson routeId), ("route_hint", toJson routeHint), ("admin_token", toJson adminToken),
        ("host_endpoint_id", toJson hostEndpointId), ("relay_url", toJson relayUrl)])
  | .routeRegistered requestId => tagged "route_registered" [("request_id", toJson requestId)]
  | .registerPresence requestId operationId issuedAtMs routeId adminToken hostEndpointId relayUrl ttlSeconds =>
    tagged "register_presence" (operationJson requestId operationId issuedAtMs ++
      [("route_id", toJson routeId), ("admin_token", toJson adminToken), ("host_endpoint_id", toJson hostEndpointId),
        ("relay_url", toJson relayUrl), ("ttl_seconds", toJson ttlSeconds)])
  | .presenceRegistered requestId expiresAtMs => tagged "presence_registered"
    [("request_id", toJson requestId), ("expires_at_ms", toJson expiresAtMs)]
  | .registerDeviceGrant requestId operationId issuedAtMs routeId deviceSlotId accessToken adminToken =>
    tagged "register_device_grant" (operationJson requestId operationId issuedAtMs ++
      [("route_id", toJson routeId), ("device_slot_id", toJson deviceSlotId), ("access_token", toJson accessToken),
        ("admin_token", toJson adminToken)])
  | .deviceGrantRegistered requestId => tagged "device_grant_registered" [("request_id", toJson requestId)]
  | .resolveRoute requestId operationId issuedAtMs routeId deviceSlotId accessToken => tagged "resolve_route"
    (operationJson requestId operationId issuedAtMs ++ [("route_id", toJson routeId),
      ("device_slot_id", toJson deviceSlotId), ("access_token", toJson accessToken)])
  | .routeResolved requestId hostEndpointId relayUrl expiresAtMs => tagged "route_resolved"
    [("request_id", toJson requestId), ("host_endpoint_id", toJson hostEndpointId), ("relay_url", toJson relayUrl),
      ("expires_at_ms", toJson expiresAtMs)]
  | .replacePushAddress requestId operationId issuedAtMs routeId deviceSlotId accessToken address =>
    tagged "replace_push_address" (operationJson requestId operationId issuedAtMs ++ [("route_id", toJson routeId),
      ("device_slot_id", toJson deviceSlotId), ("access_token", toJson accessToken), ("address", toJson address)])
  | .pushAddressReplaced requestId expiresAtMs => tagged "push_address_replaced"
    [("request_id", toJson requestId), ("expires_at_ms", toJson expiresAtMs)]
  | .deletePushAddress requestId operationId issuedAtMs routeId deviceSlotId accessToken => tagged "delete_push_address"
    (operationJson requestId operationId issuedAtMs ++ [("route_id", toJson routeId),
      ("device_slot_id", toJson deviceSlotId), ("access_token", toJson accessToken)])
  | .pushAddressDeleted requestId => tagged "push_address_deleted" [("request_id", toJson requestId)]
  | .wakeDevice requestId operationId issuedAtMs routeId deviceSlotId adminToken wakeId => tagged "wake_device"
    (operationJson requestId operationId issuedAtMs ++ [("route_id", toJson routeId),
      ("device_slot_id", toJson deviceSlotId), ("admin_token", toJson adminToken), ("wake_id", toJson wakeId)])
  | .wakeAccepted requestId => tagged "wake_accepted" [("request_id", toJson requestId)]
  | .revokeDeviceGrant requestId operationId issuedAtMs routeId deviceSlotId adminToken => tagged "revoke_device_grant"
    (operationJson requestId operationId issuedAtMs ++ [("route_id", toJson routeId),
      ("device_slot_id", toJson deviceSlotId), ("admin_token", toJson adminToken)])
  | .deviceGrantRevoked requestId => tagged "device_grant_revoked" [("request_id", toJson requestId)]
  | .remoteError requestId code retriable => tagged "remote_error"
    [("request_id", toJson requestId), ("code", toJson code), ("retriable", toJson retriable)]⟩

/-- `encode` -/
def RemoteControlFrame.encode (frame : RemoteControlFrame) : Except TransportError String := do
  frame.validate
  ensure (¬ (toJson frame).size > maxRemoteControlFrameBytes) .frameTooLarge
  return (toJson frame).render

/-! ## Identifiers -/

/-- `generate_remote_id`, from the bytes that the generator of the system gives -/
def generateRemoteId (bytes : Vector UInt8 16) : String := String.ofList (Base64.encode bytes.toList)

/-- `generate_remote_token` -/
def generateRemoteToken (bytes : Vector UInt8 32) : String := String.ofList (Base64.encode bytes.toList)

theorem validateCanonicalBase64_eq_ok {value : String} {expectedLen : Nat} :
    validateCanonicalBase64 value expectedLen = .ok () ↔
      ∃ bytes, bytes.length = expectedLen ∧ value = String.ofList (Base64.encode bytes) := by
  unfold validateCanonicalBase64
  constructor
  · intro h
    cases hdecoded : Base64.decode value.toList with
    | none =>
      rw [hdecoded] at h
      cases h
    | some decoded =>
      simp only [hdecoded, ensure_eq_ok, not_or, not_not] at h
      exact ⟨decoded, h.1, by rw [h.2, String.ofList_toList]⟩
  · rintro ⟨bytes, hlength, rfl⟩
    simp only [String.toList_ofList, Base64.decode_encode, ensure_eq_ok]
    simp [hlength]

/-- a generated identifier passes the check -/
theorem validateRandomId_generate (bytes : Vector UInt8 16) : validateRandomId (generateRemoteId bytes) = .ok () :=
  validateCanonicalBase64_eq_ok.mpr ⟨bytes.toList, bytes.length_toList, rfl⟩

theorem validateToken_generate (bytes : Vector UInt8 32) : validateToken (generateRemoteToken bytes) = .ok () :=
  validateCanonicalBase64_eq_ok.mpr ⟨bytes.toList, bytes.length_toList, rfl⟩

end Kaleido.Transport
