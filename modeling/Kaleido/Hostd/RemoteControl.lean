/-
The host's side of remote control (`kaleido-hostd`, `remote_control.rs`): the devices that have a slot at the relay, the
revocations that still have to reach it, and the file that keeps both.

`commit` writes the candidate state, checks it, and only then takes it over. An operation that talks to the relay is cut at the
exchange: what it does before the request (`beginGrant`, `beginRevoke`, `beginWake`), and what it makes of the response
(`finishGrant`, `finishRevoke`). The response is the relay's, or any error; a failed write leaves the file as it was.

What `serde_json` writes and reads is the JSON value, in the key order of its maps; `parseState` checks the length of its text.
-/
import Kaleido.Transport.Endpoint

namespace Kaleido.Hostd

open Check Proto Transport

def presenceTtlSeconds : Nat := 30
def maxRemoteDevices : Nat := 128
def maxWakeRequestsPerMinute : Nat := 4
def stateRevision : Int := 1
def wakeWindowMs : Int := 60000
def maxDeviceIdBytes : Nat := 256
def maxStateBytes : Nat := 1048576

inductive RemoteControlError where
  | configuration | storage | corruptState | serviceIdentity | unavailable | rejected | contract | unknownDevice | revoked
  | deviceLimit | wakeRateLimited | clock
  deriving DecidableEq

structure RemoteControlConfig where
  serviceEndpoint : String
  servicePublicKeyPin : String
  hostEndpointId : String
  relayUrl : String
  deriving DecidableEq

inductive DeviceStatus where
  | pendingGrant | registered | revokePending | revoked
  deriving DecidableEq

structure DeviceRecord where
  slotId : String
  accessToken : Option String
  status : DeviceStatus
  deriving DecidableEq

structure PendingRevoke where
  deviceId : String
  slotId : String
  operationId : String
  enqueuedAtMs : Int64
  deriving DecidableEq

structure DurableState where
  routeId : String
  routeHint : String
  adminToken : String
  serviceEndpoint : String
  servicePublicKeyPin : String
  hostEndpointId : String
  relayUrl : String
  devices : OrdMap String DeviceRecord := ∅
  revokeOutbox : List PendingRevoke := []

structure RevokeCompletion where
  deviceId : String
  deviceSlotId : String
  deriving DecidableEq

/-- what a revocation that is done is reported as -/
def PendingRevoke.completion (pending : PendingRevoke) : RevokeCompletion := ⟨pending.deviceId, pending.slotId⟩

/-! ## Checks -/

/-- `validate_host_endpoint_id` -/
def validateHostEndpointId (value : String) : Except RemoteControlError Unit :=
  ensure (¬ (value = "" ∨ value.utf8ByteSize > 128 ∨ ¬ value.toList.all Char.isAlphanum)) .configuration

/-- `validate_self_hosted_relay` -/
def validateSelfHostedRelay (value : String) : Except RemoteControlError Unit :=
  let lower := value.toList.map Char.toLower
  ensure (¬ (¬ (stripStart "https://".toList lower).isSome ∨ hasInfix "staging".toList lower ∨
    hasInfix "n0.computer".toList lower ∨ hasInfix "n0.iroh".toList lower ∨ hasInfix "iroh.link".toList lower ∨
    value.toList.any fun c => isAsciiWhitespace c || isAsciiControl c || c == '@' || c == '#')) .configuration

/-- `validate_device_id` -/
def validateDeviceId (value : String) : Except RemoteControlError Unit :=
  ensure (¬ (value = "" ∨ value.utf8ByteSize > maxDeviceIdBytes ∨
    value.toList.any fun c => isAsciiControl c || isAsciiWhitespace c)) .contract

/-- a check of a stored state -/
def corrupt {ε α : Type} : Except ε α → Except RemoteControlError Unit
  | .ok _ => .ok ()
  | .error _ => .error .corruptState

section

variable (env : AddressEnv)

/-- `validate_config` -/
def validateConfig (config : RemoteControlConfig) : Except RemoteControlError Unit := do
  (validateEndpoint env config.serviceEndpoint).mapError fun _ => .configuration
  (parseSpkiPin config.servicePublicKeyPin).mapError fun _ => .configuration
  validateHostEndpointId config.hostEndpointId
  validateSelfHostedRelay config.relayUrl

namespace DurableState

def config (state : DurableState) : RemoteControlConfig :=
  ⟨state.serviceEndpoint, state.servicePublicKeyPin, state.hostEndpointId, state.relayUrl⟩

def setDevice (state : DurableState) (deviceId : String) (record : DeviceRecord) : DurableState :=
  { state with devices := state.devices.insert deviceId record }

/-- the frame with which `validate_state` checks the route -/
def presenceFrame (state : DurableState) : RemoteControlFrame :=
  .registerPresence 2 state.routeHint 0 state.routeId state.adminToken state.hostEndpointId state.relayUrl presenceTtlSeconds

/-- the frame with which it checks a device -/
def grantFrame (state : DurableState) (slotId accessToken : String) : RemoteControlFrame :=
  .registerDeviceGrant 2 state.routeHint 0 state.routeId slotId accessToken state.adminToken

end DurableState

/-- the statuses of a device that has an access token -/
def DeviceStatus.active : DeviceStatus → Bool
  | .pendingGrant | .registered => true
  | .revokePending | .revoked => false

/-- the device of a revocation waits for it, under the same slot -/
def checkPending (devices : OrdMap String DeviceRecord) (pending : PendingRevoke) : Except RemoteControlError Unit :=
  match devices[pending.deviceId]? with
  | none => .error .corruptState
  | some record => ensure (record.status = .revokePending ∧ record.slotId = pending.slotId) .corruptState

/-- `validate_state` -/
def validateState (state : DurableState) : Except RemoteControlError Unit := do
  corrupt (validateRandomId state.routeId)
  corrupt (validateRandomId state.routeHint)
  corrupt (validateConfig env state.config)
  corrupt state.presenceFrame.encode
  ensure (state.devices.size ≤ maxRemoteDevices) .corruptState
  checkFresh (fun entry => entry.2.slotId) (fun _ => .corruptState)
    (fun entry => do
      corrupt (validateDeviceId entry.1)
      corrupt (validateRandomId entry.2.slotId))
    (fun entry => do
      ensure (entry.2.status.active = entry.2.accessToken.isSome) .corruptState
      checkSome (fun accessToken => corrupt (state.grantFrame entry.2.slotId accessToken).encode) entry.2.accessToken)
    [] state.devices.toList
  checkFresh PendingRevoke.deviceId (fun _ => .corruptState)
    (fun pending => do
      corrupt (validateDeviceId pending.deviceId)
      corrupt (validateRandomId pending.slotId)
      corrupt (validateRandomId pending.operationId)
      ensure (0 ≤ pending.enqueuedAtMs.toInt) .corruptState)
    (checkPending state.devices) [] state.revokeOutbox
  checkAll (fun entry => ensure ((entry.2.status = .revokePending) ↔ entry.1 ∈ state.revokeOutbox.map PendingRevoke.deviceId)
    .corruptState) state.devices.toList

end

/-! ## The file -/

/-- `DeviceStatus::as_str` -/
def DeviceStatus.asStr : DeviceStatus → String
  | .pendingGrant => "pending_grant"
  | .registered => "registered"
  | .revokePending => "revoke_pending"
  | .revoked => "revoked"

/-- `DeviceStatus::parse` -/
def DeviceStatus.parse (value : String) : Except RemoteControlError DeviceStatus :=
  if value = "pending_grant" then .ok .pendingGrant
  else if value = "registered" then .ok .registered
  else if value = "revoke_pending" then .ok .revokePending
  else if value = "revoked" then .ok .revoked
  else .error .corruptState

def deviceToValue (entry : String × DeviceRecord) : Json :=
  .obj [("access_token", toJson entry.2.accessToken), ("device_id", .str entry.1), ("slot_id", .str entry.2.slotId),
    ("status", .str entry.2.status.asStr)]

def pendingToValue (pending : PendingRevoke) : Json :=
  .obj [("device_id", .str pending.deviceId), ("enqueued_at_ms", .num pending.enqueuedAtMs.toInt),
    ("operation_id", .str pending.operationId), ("slot_id", .str pending.slotId)]

/-- `state_to_value` -/
def stateToValue (state : DurableState) : Json :=
  .obj [("admin_token", .str state.adminToken), ("devices", .arr (state.devices.toList.map deviceToValue)),
    ("host_endpoint_id", .str state.hostEndpointId), ("relay_url", .str state.relayUrl), ("revision", .num stateRevision),
    ("revoke_outbox", .arr (state.revokeOutbox.map pendingToValue)), ("route_hint", .str state.routeHint),
    ("route_id", .str state.routeId), ("service_endpoint", .str state.serviceEndpoint),
    ("service_public_key_pin", .str state.servicePublicKeyPin)]

/-- `exact_object` -/
def exactObject (value : Json) (fields : List String) : Except RemoteControlError (List (String × Json)) :=
  match value with
  | .obj object => do
    ensure (¬ (object.length ≠ fields.length ∨ fields.any fun field => (object.lookup field).isNone)) .corruptState
    return object
  | _ => .error .corruptState

/-- `string` and `string_ref` -/
def stringField (object : List (String × Json)) (field : String) : Except RemoteControlError String :=
  match object.lookup field with
  | some (.str value) => .ok value
  | _ => .error .corruptState

/-- `optional_string` -/
def optionalString (object : List (String × Json)) (field : String) : Except RemoteControlError (Option String) :=
  match object.lookup field with
  | some .null => .ok none
  | some (.str value) => .ok (some value)
  | _ => .error .corruptState

/-- `integer` -/
def integerField (object : List (String × Json)) (field : String) : Except RemoteControlError Int64 :=
  match object.lookup field with
  | some (.num n) => do
    ensure (-2 ^ 63 ≤ n ∧ n < 2 ^ 63) .corruptState
    return Int64.ofInt n
  | _ => .error .corruptState

def arrayField (object : List (String × Json)) (field : String) : Except RemoteControlError (List Json) :=
  match object.lookup field with
  | some (.arr items) => .ok items
  | _ => .error .corruptState

def parseDevice (value : Json) : Except RemoteControlError (String × DeviceRecord) := do
  let object ← exactObject value ["device_id", "slot_id", "access_token", "status"]
  let deviceId ← stringField object "device_id"
  let slotId ← stringField object "slot_id"
  let accessToken ← optionalString object "access_token"
  let status ← DeviceStatus.parse (← stringField object "status")
  return (deviceId, ⟨slotId, accessToken, status⟩)

/-- the loop over the devices; a device that is there twice is refused -/
def parseDevices (devices : OrdMap String DeviceRecord) : List Json → Except RemoteControlError (OrdMap String DeviceRecord)
  | [] => .ok devices
  | value :: rest => do
    let (deviceId, record) ← parseDevice value
    ensure (¬ devices.contains deviceId) .corruptState
    parseDevices (devices.insert deviceId record) rest

def parsePending (value : Json) : Except RemoteControlError PendingRevoke := do
  let object ← exactObject value ["device_id", "slot_id", "operation_id", "enqueued_at_ms"]
  let deviceId ← stringField object "device_id"
  let slotId ← stringField object "slot_id"
  let operationId ← stringField object "operation_id"
  let enqueuedAtMs ← integerField object "enqueued_at_ms"
  return ⟨deviceId, slotId, operationId, enqueuedAtMs⟩

def parsePendings : List Json → Except RemoteControlError (List PendingRevoke)
  | [] => .ok []
  | value :: rest => do
    let pending ← parsePending value
    let pendings ← parsePendings rest
    return pending :: pendings

/-- the fields of the root -/
def rootFields : List String :=
  ["revision", "route_id", "route_hint", "admin_token", "service_endpoint", "service_public_key_pin", "host_endpoint_id",
    "relay_url", "devices", "revoke_outbox"]

/-- `parse_state` -/
def parseState (env : AddressEnv) (value : Json) : Except RemoteControlError DurableState := do
  ensure (value.size ≤ maxStateBytes) .corruptState
  let root ← exactObject value rootFields
  let revision ← integerField root "revision"
  ensure (revision.toInt = stateRevision) .corruptState
  let devices ← parseDevices ∅ (← arrayField root "devices")
  let revokeOutbox ← parsePendings (← arrayField root "revoke_outbox")
  let routeId ← stringField root "route_id"
  let routeHint ← stringField root "route_hint"
  let adminToken ← stringField root "admin_token"
  let serviceEndpoint ← stringField root "service_endpoint"
  let servicePublicKeyPin ← stringField root "service_public_key_pin"
  let hostEndpointId ← stringField root "host_endpoint_id"
  let relayUrl ← stringField root "relay_url"
  let state : DurableState :=
    { routeId, routeHint, adminToken, serviceEndpoint, servicePublicKeyPin, hostEndpointId, relayUrl, devices, revokeOutbox }
  validateState env state
  return state

/-! ## The plane -/

structure RemoteControlPlane where
  file : Json
  state : DurableState
  wakeHistory : OrdMap String (List Int64) := ∅

abbrev PlaneM := Prog RemoteControlPlane RemoteControlError

/-- the random bytes of a new route -/
structure RouteDraw where
  routeId : Vector UInt8 16
  routeHint : Vector UInt8 16
  adminToken : Vector UInt8 32

/-- `DurableState::new` -/
def DurableState.new (config : RemoteControlConfig) (draw : RouteDraw) : DurableState :=
  { routeId := generateRemoteId draw.routeId, routeHint := generateRemoteId draw.routeHint,
    adminToken := generateRemoteToken draw.adminToken, serviceEndpoint := config.serviceEndpoint,
    servicePublicKeyPin := config.servicePublicKeyPin, hostEndpointId := config.hostEndpointId, relayUrl := config.relayUrl }

section

variable (env : AddressEnv)

/-- `open`, on a file that is there or not; a new state is written, and read back -/
def openPlane (config : RemoteControlConfig) (file : Option Json) (draw : RouteDraw) (stored : Bool) :
    Except RemoteControlError RemoteControlPlane := do
  validateConfig env config
  let file ← match file with
    | some file => pure file
    | none => do
      validateState env (DurableState.new config draw)
      ensure stored .storage
      pure (stateToValue (DurableState.new config draw))
  let state ← parseState env file
  ensure (state.config = config) .configuration
  return { file, state }

/-- `commit` -/
def commit (mutate : DurableState → Except RemoteControlError DurableState) (stored : Bool) : PlaneM Unit := fun plane =>
  match mutate plane.state with
  | .error e => (.error e, plane)
  | .ok candidate =>
    if stored then
      match validateState env candidate with
      | .error e => (.error e, { plane with file := stateToValue candidate })
      | .ok () => (.ok (), { plane with file := stateToValue candidate, state := candidate })
    else (.error .storage, plane)

/-- the device of an operation -/
def deviceRecord (deviceId : String) (state : DurableState) : Except RemoteControlError DeviceRecord :=
  match state.devices[deviceId]? with
  | none => .error .unknownDevice
  | some record => .ok record

def lookedUp {α : Type} (read : DurableState → Except RemoteControlError α) : PlaneM α := fun plane =>
  (read plane.state, plane)

/-- `active_credential` -/
def activeCredential (deviceId : String) (state : DurableState) : Except RemoteControlError (String × String) := do
  let record ← deviceRecord deviceId state
  ensure record.status.active .revoked
  match record.accessToken with
  | none => .error .corruptState
  | some token => return (record.slotId, token)

/-! ### Pairings -/

/-- the random bytes of a registration -/
structure GrantDraw where
  slot : Vector UInt8 16
  token : Vector UInt8 32
  operation : Vector UInt8 16

def insertDevice (deviceId : String) (draw : GrantDraw) (state : DurableState) : Except RemoteControlError DurableState :=
  .ok (state.setDevice deviceId ⟨generateRemoteId draw.slot, some (generateRemoteToken draw.token), .pendingGrant⟩)

/-- the request of a device that is not registered yet -/
def grantRequest (deviceId : String) (issuedAtMs : Int64) (operation : Vector UInt8 16) :
    PlaneM (Option (Nat → RemoteControlFrame)) := do
  let record ← lookedUp (deviceRecord deviceId)
  match record.status with
  | .revokePending | .revoked => Prog.fail .revoked
  | .registered => return none
  | .pendingGrant => do
    let (slotId, accessToken) ← lookedUp (activeCredential deviceId)
    let state ← Prog.read RemoteControlPlane.state
    return some fun requestId => .registerDeviceGrant requestId (generateRemoteId operation) issuedAtMs.toInt
      state.routeId slotId accessToken state.adminToken

/-- `register_device_and_issue_pairing` up to the exchange -/
def beginGrant (deviceId : String) (issuedAtMs expiresAtMs : Int64) (draw : GrantDraw) (stored : Bool) :
    PlaneM (Option (Nat → RemoteControlFrame)) := do
  Prog.liftExcept (validateDeviceId deviceId)
  Prog.require (¬ (issuedAtMs.toInt < 0 ∨ expiresAtMs.toInt ≤ issuedAtMs.toInt)) .clock
  let known ← Prog.read fun plane => plane.state.devices.contains deviceId
  if known then grantRequest deviceId issuedAtMs draw.operation else do
    let count ← Prog.read fun plane => plane.state.devices.size
    Prog.require (¬ count ≥ maxRemoteDevices) .deviceLimit
    commit env (insertDevice deviceId draw) stored
    grantRequest deviceId issuedAtMs draw.operation

def setRegistered (deviceId : String) (state : DurableState) : Except RemoteControlError DurableState := do
  let record ← deviceRecord deviceId state
  ensure (record.status = .pendingGrant) .contract
  return state.setDevice deviceId { record with status := .registered }

/-- what it makes of the response -/
def finishGrant (deviceId : String) (response : Except RemoteControlError RemoteControlFrame) (stored : Bool) :
    PlaneM Unit := do
  match ← Prog.liftExcept response with
  | .deviceGrantRegistered _ => commit env (setRegistered deviceId) stored
  | _ => Prog.fail .contract

/-- `pairing_uri` -/
def pairingUri (deviceId : String) (expiresAtMs : Int64) (state : DurableState) : Except RemoteControlError String := do
  let (deviceSlotId, accessToken) ← activeCredential deviceId state
  (encodeRemoteBootstrap env ⟨state.routeId, state.routeHint, deviceSlotId, accessToken, state.hostEndpointId,
    state.relayUrl, state.serviceEndpoint, state.servicePublicKeyPin, expiresAtMs.toInt⟩).mapError fun _ => .contract

/-- a connection: the identifier of its next request, if it is usable, and what comes back -/
structure Exchange where
  nextRequestId : Except RemoteControlError Nat
  respond : RemoteControlFrame → Except RemoteControlError RemoteControlFrame

/-- `exchange`, with the identifier it asks for first -/
def Exchange.ask (connection : Exchange) (request : Nat → RemoteControlFrame) : Except RemoteControlError RemoteControlFrame := do
  let requestId ← connection.nextRequestId
  connection.respond (request requestId)

/-- `register_device_and_issue_pairing`; each commit has its own write -/
def registerDeviceAndIssuePairing (connection : Exchange) (deviceId : String) (issuedAtMs expiresAtMs : Int64)
    (draw : GrantDraw) (storedDevice storedGrant : Bool) : PlaneM String := do
  match ← beginGrant env deviceId issuedAtMs expiresAtMs draw storedDevice with
  | none => pure ()
  | some request => finishGrant env deviceId (connection.ask request) storedGrant
  lookedUp (pairingUri env deviceId expiresAtMs)

/-! ### Revocations -/

def appendRevoke (deviceId : String) (enqueuedAtMs : Int64) (operation : Vector UInt8 16) (state : DurableState) :
    Except RemoteControlError DurableState := do
  let record ← deviceRecord deviceId state
  return { state.setDevice deviceId ⟨record.slotId, none, .revokePending⟩ with
    revokeOutbox := state.revokeOutbox ++ [⟨deviceId, record.slotId, generateRemoteId operation, enqueuedAtMs⟩] }

/-- `enqueue_revoke_after_local_registry` -/
def enqueueRevoke (deviceId : String) (enqueuedAtMs : Int64) (operation : Vector UInt8 16) (stored : Bool) :
    PlaneM Unit := do
  Prog.require (0 ≤ enqueuedAtMs.toInt) .clock
  let existing ← lookedUp (deviceRecord deviceId)
  if existing.status.active then commit env (appendRevoke deviceId enqueuedAtMs operation) stored else pure ()

/-- one device of `reconcile_local_revocations`, with its random bytes and its write -/
structure Reconciled where
  deviceId : String
  operation : Vector UInt8 16
  stored : Bool

/-- the loop of `reconcile_local_revocations` -/
def reconcileAll (reconciledAtMs : Int64) : List Reconciled → PlaneM Nat
  | [] => return 0
  | device :: rest => do
    let status ← Prog.read fun plane => plane.state.devices[device.deviceId]?.map DeviceRecord.status
    if status.any DeviceStatus.active then do
      enqueueRevoke env device.deviceId reconciledAtMs device.operation device.stored
      return (← reconcileAll reconciledAtMs rest) + 1
    else reconcileAll reconciledAtMs rest

/-- `reconcile_local_revocations` -/
def reconcileLocalRevocations (reconciledAtMs : Int64) (devices : List Reconciled) : PlaneM Nat := do
  Prog.require (0 ≤ reconciledAtMs.toInt) .clock
  reconcileAll env reconciledAtMs devices

/-- `flush_next_revoke` up to the exchange: the oldest revocation and its request -/
def beginRevoke (issuedAtMs : Int64) : PlaneM (Option (PendingRevoke × (Nat → RemoteControlFrame))) := do
  Prog.require (0 ≤ issuedAtMs.toInt) .clock
  let state ← Prog.read RemoteControlPlane.state
  match state.revokeOutbox with
  | [] => return none
  | pending :: _ => return some (pending, fun requestId => .revokeDeviceGrant requestId pending.operationId issuedAtMs.toInt
      state.routeId pending.slotId state.adminToken)

def completeRevoke (pending : PendingRevoke) (state : DurableState) : Except RemoteControlError DurableState :=
  match state.revokeOutbox with
  | [] => .error .contract
  | front :: rest => do
    ensure (¬ (front.deviceId ≠ pending.deviceId ∨ front.slotId ≠ pending.slotId ∨
      front.operationId ≠ pending.operationId)) .contract
    let record ← deviceRecord pending.deviceId state
    ensure (¬ (record.status ≠ .revokePending ∨ record.slotId ≠ pending.slotId)) .contract
    return { state.setDevice pending.deviceId { record with status := .revoked } with revokeOutbox := rest }

/-- what it makes of the response: a device that the relay has revoked already is done -/
def finishRevoke (pending : PendingRevoke) (response : Except RemoteControlError RemoteControlFrame) (stored : Bool) :
    PlaneM RevokeCompletion := do
  match response with
  | .ok (.deviceGrantRevoked _) | .error .revoked => pure ()
  | .ok _ => Prog.fail .contract
  | .error error => Prog.fail error
  commit env (completeRevoke pending) stored
  return pending.completion

/-- `flush_next_revoke` -/
def flushNextRevoke (connection : Exchange) (issuedAtMs : Int64) (stored : Bool) : PlaneM (Option RevokeCompletion) := do
  match ← beginRevoke issuedAtMs with
  | none => return none
  | some (pending, request) => do
    -- a connection that is not usable has no identifier, and that is no response
    let requestId ← Prog.liftExcept connection.nextRequestId
    return some (← finishRevoke env pending (connection.respond (request requestId)) stored)

/-! ### Wakes -/

/-- `wake_device` up to the exchange -/
def beginWake (deviceId : String) (issuedAtMs : Int64) (operation wake : Vector UInt8 16) :
    PlaneM (Nat → RemoteControlFrame) := do
  Prog.require (0 ≤ issuedAtMs.toInt) .clock
  let record ← lookedUp (deviceRecord deviceId)
  Prog.require (record.status = .registered) .revoked
  let history ← Prog.read fun plane => plane.wakeHistory[deviceId]?.getD []
  -- the entry is made even when the clock has gone back
  Prog.modify fun plane => { plane with wakeHistory := plane.wakeHistory.insert deviceId history }
  Prog.require (¬ history.any fun seenAt => issuedAtMs.toInt < seenAt.toInt) .clock
  let recent := history.filter fun seenAt => issuedAtMs.toInt - seenAt.toInt < wakeWindowMs
  Prog.modify fun plane => { plane with wakeHistory := plane.wakeHistory.insert deviceId recent }
  Prog.require (¬ recent.length ≥ maxWakeRequestsPerMinute) .wakeRateLimited
  Prog.modify fun plane => { plane with wakeHistory := plane.wakeHistory.insert deviceId (recent ++ [issuedAtMs]) }
  let state ← Prog.read RemoteControlPlane.state
  return fun requestId => .wakeDevice requestId (generateRemoteId operation) issuedAtMs.toInt state.routeId record.slotId
    state.adminToken (generateRemoteId wake)

/-- `wake_device` -/
def wakeDevice (connection : Exchange) (deviceId : String) (issuedAtMs : Int64) (operation wake : Vector UInt8 16) :
    PlaneM Unit := do
  let request ← beginWake deviceId issuedAtMs operation wake
  match ← Prog.liftExcept (connection.ask request) with
  | .wakeAccepted _ => pure ()
  | _ => Prog.fail .contract

end

end Kaleido.Hostd
