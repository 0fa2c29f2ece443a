/-
The relay's control service (`kaleido-relay`, `control.rs`): one frame at a time on each connection, any number of
connections at once.

`handle_inner` is cut where it touches what the connections share: it reads the clock, reads the registry to authorise the
request (`authorize`), enters the critical section of the replay cache (`accept`), and acts on the registry (`perform`).
`ControlService.handle` runs the four parts one after the other.
-/
import Kaleido.Relay.Registry

namespace Kaleido.Relay

open Check Proto State Transport

def replayCapacity : Nat := 4096

structure ControlConnection where
  helloComplete : Bool := false
  lastRequestId : Nat := 0
  deriving DecidableEq

structure WakeDispatch where
  routeId : RouteId
  slotId : DeviceSlotId
  address : PushAddress
  payload : PushPayload
  deriving DecidableEq

structure RevokedDevice where
  routeId : RouteId
  slotId : DeviceSlotId
  deriving DecidableEq

structure ControlOutcome where
  response : RemoteControlFrame
  wake : Option WakeDispatch
  revokedDevice : Option RevokedDevice
  closeConnection : Bool
  deriving DecidableEq

structure ReplayKey where
  credentialDigest : Digest
  operationId : OperationId
  deriving DecidableEq

/-- the replay cache; a key is only inserted when it is not there, so that no key is there twice -/
abbrev ReplayCache := List (ReplayKey × Nat)

/-- what an arm of `handle_inner` ends with -/
structure Handled where
  response : RemoteControlFrame
  wake : Option WakeDispatch := none
  revokedDevice : Option RevokedDevice := none
  deriving DecidableEq

/-- `is_connection_fatal` -/
def isConnectionFatal : RemoteErrorCode → Bool
  | .versionMismatch | .malformedFrame => true
  | _ => false

/-- `is_retriable` -/
def isRetriable : RemoteErrorCode → Bool
  | .routeUnavailable | .expired | .rateLimited | .internal => true
  | _ => false

/-- `map_device_auth_error` -/
def mapDeviceAuthError (error : RemoteError) : RemoteErrorCode :=
  if error.code = .internal then .internal else .routeUnavailable

/-- `map_admin_auth_error` -/
def mapAdminAuthError (error : RemoteError) : RemoteErrorCode :=
  if error.code = .internal then .internal else .authenticationFailed

/-- what `handle` makes of the result of `handle_inner` -/
def outcomeOf (frame : RemoteControlFrame) : Except RemoteErrorCode Handled → ControlOutcome
  | .ok handled => ⟨handled.response, handled.wake, handled.revokedDevice, false⟩
  | .error code => ⟨.remoteError frame.requestId code (isRetriable code), none, none, isConnectionFatal code⟩

/-! ## The parts of `handle_inner` -/

/-- `parse_route`, `parse_slot`, `parse_access`, `parse_admin` -/
def parseId {n : Nat} (value : String) : Except RemoteErrorCode (OpaqueId n) :=
  match OpaqueId.fromOpaque value with
  | none => .error .malformedFrame
  | some id => .ok id

/-- `convert_push` -/
def convertPush (address : WirePushAddress) : Except RemoteErrorCode PushAddress := do
  ensure (address.provider = .fcmFid) .malformedFrame
  ensure (0 ≤ address.registeredAtMs) .malformedFrame
  ensure (0 ≤ address.expiresAtMs) .malformedFrame
  match PushAddress.fcmFid address.opaqueAddress address.registeredAtMs.toNat address.expiresAtMs.toNat with
  | none => .error .malformedFrame
  | some address => return address

/-- `i64::try_from(...).map_err(|_| WireErrorCode::Internal)` -/
def toI64 (n : Nat) : Except RemoteErrorCode Int := do
  ensure ((n : Int) ≤ i64Max) .internal
  return n

/-- a frame that reaches an arm with an operation: its identifier, its time and its credential -/
def operationOf : RemoteControlFrame → Option (String × Int × String)
  | .registerRoute _ operationId issuedAtMs _ _ adminToken .. => some (operationId, issuedAtMs, adminToken)
  | .registerPresence _ operationId issuedAtMs _ adminToken .. => some (operationId, issuedAtMs, adminToken)
  | .registerDeviceGrant _ operationId issuedAtMs _ _ _ adminToken => some (operationId, issuedAtMs, adminToken)
  | .resolveRoute _ operationId issuedAtMs _ _ accessToken => some (operationId, issuedAtMs, accessToken)
  | .replacePushAddress _ operationId issuedAtMs _ _ accessToken _ => some (operationId, issuedAtMs, accessToken)
  | .deletePushAddress _ operationId issuedAtMs _ _ accessToken => some (operationId, issuedAtMs, accessToken)
  | .wakeDevice _ operationId issuedAtMs _ _ adminToken _ => some (operationId, issuedAtMs, adminToken)
  | .revokeDeviceGrant _ operationId issuedAtMs _ _ adminToken => some (operationId, issuedAtMs, adminToken)
  | _ => none

/-- the frame of `RevokeDeviceGrant`, whose arm takes a replay for a retry -/
def isRevoke : RemoteControlFrame → Bool
  | .revokeDeviceGrant .. => true
  | _ => false

/-- where the part before the clock leads -/
inductive Admission where
  | hello (response : RemoteControlFrame)
  | operation
  deriving DecidableEq

/-- the start of `handle_inner`: the request identifier and the hello -/
def admitFrame (connection : ControlConnection) (frame : RemoteControlFrame) :
    Except RemoteErrorCode Admission × ControlConnection :=
  match frame.requestId with
  | none => (.error .malformedFrame, connection)
  | some requestId =>
    if connection.lastRequestId + 1 > u64Max ∨ requestId ≠ connection.lastRequestId + 1 then
      (.error .malformedFrame, connection)
    else if connection.helloComplete then (.ok .operation, { connection with lastRequestId := requestId })
    else match frame with
      | .remoteHello _ version maxFrameLength =>
        if version ≠ remoteControlVersion ∨ maxFrameLength ≠ maxRemoteControlFrameBytes then
          (.error .versionMismatch, connection)
        else (.ok (.hello (.remoteHelloAck requestId remoteControlVersion maxFrameLength)), ⟨true, requestId⟩)
      | _ => (.error .versionMismatch, connection)

section

variable (env : RelayEnv)

/-- the arms up to `accept_operation`; the arm of `RegisterRoute` does nothing there -/
def authorize (state : RegistryState) : RemoteControlFrame → Except RemoteErrorCode Unit
  | .registerRoute .. => .ok ()
  | .registerPresence _ _ _ routeId adminToken .. | .registerDeviceGrant _ _ _ routeId _ _ adminToken => do
    let routeId ← parseId routeId
    let adminToken ← parseId adminToken
    (state.authorizeAdmin env routeId adminToken).mapError mapAdminAuthError
  | .resolveRoute _ _ _ routeId slotId accessToken | .replacePushAddress _ _ _ routeId slotId accessToken _
  | .deletePushAddress _ _ _ routeId slotId accessToken => do
    let routeId ← parseId routeId
    let slotId ← parseId slotId
    let accessToken ← parseId accessToken
    (state.authorizeDevice env routeId slotId accessToken).mapError mapDeviceAuthError
  | .wakeDevice _ _ _ routeId slotId adminToken _ | .revokeDeviceGrant _ _ _ routeId slotId adminToken => do
    let routeId ← parseId routeId
    let _ : DeviceSlotId ← parseId slotId
    let adminToken ← parseId adminToken
    (state.authorizeAdmin env routeId adminToken).mapError mapAdminAuthError
  | _ => .error .malformedFrame

/-- the entries that `retain` keeps -/
def retained (now : Nat) (replay : ReplayCache) : ReplayCache :=
  replay.filter fun entry => now - entry.2 ≤ operationReplayWindowMs

/-- the key of an operation -/
def replayKey (credential : String) (operationId : OperationId) : ReplayKey := ⟨env.sha256 (utf8 credential), operationId⟩

/-- the checks of `accept_operation` before its critical section -/
def freshOperation (operationId : String) (issuedAtMs : Int) (now : Nat) : Except RemoteErrorCode OperationId := do
  ensure (0 ≤ issuedAtMs) .expired
  ensure ((issuedAtMs - now).natAbs ≤ operationClockSkewMs) .expired
  parseId operationId

/-- whether the arm of a frame gets as far as the critical section of the replay cache -/
def reachesReplay (frame : RemoteControlFrame) (now : Nat) : Bool :=
  match operationOf frame with
  | none => false
  | some (operationId, issuedAtMs, _) => (freshOperation operationId issuedAtMs now).toBool

/-- `accept_operation` -/
def acceptOperation (operationId : String) (issuedAtMs : Int) (credential : String) (now : Nat) (replay : ReplayCache) :
    Except RemoteErrorCode Unit × ReplayCache :=
  match freshOperation operationId issuedAtMs now with
  | .error code => (.error code, replay)
  | .ok operationId =>
    let key := replayKey env credential operationId
    let replay := retained now replay
    if replay.any fun entry => entry.1 = key then (.error .replay, replay)
    else if replay.length ≥ replayCapacity then (.error .limitExceeded, replay)
    else (.ok (), (key, now) :: replay)

/-- the call of `accept_operation` in the arm of a frame; the result tells whether a revocation was a replay -/
def accept (frame : RemoteControlFrame) (now : Nat) (replay : ReplayCache) : Except RemoteErrorCode Bool × ReplayCache :=
  match operationOf frame with
  | none => (.error .malformedFrame, replay)
  | some (operationId, issuedAtMs, credential) =>
    match acceptOperation env operationId issuedAtMs credential now replay with
    | (.ok (), replay) => (.ok false, replay)
    | (.error code, replay) => if isRevoke frame ∧ code = .replay then (.ok true, replay) else (.error code, replay)

abbrev RegistryM := Prog Registry RemoteErrorCode

/-- a commit, with `map_error` -/
def committed (mutate : RegistryState → Except RemoteError RegistryState) (outcome : WriteOutcome) : RegistryM Unit :=
  fun registry =>
    match registry.commit mutate outcome with
    | (.ok (), registry) => (.ok (), registry)
    | (.error e, registry) => (.error e.code, registry)

/-- a read of the state, with `map_error` -/
def looked {α : Type} (read : RegistryState → Except RemoteError α) : RegistryM α := fun registry =>
  ((read registry.state).mapError RemoteError.code, registry)

/-- the commit of the arm of `RevokeDeviceGrant`: of a replayed revocation, `Revoked` is as good as success -/
def revoked (mutate : RegistryState → Except RemoteError RegistryState) (replayed : Bool) (outcome : WriteOutcome) :
    RegistryM Unit := fun registry =>
  match registry.commit mutate outcome with
  | (.ok (), registry) => (.ok (), registry)
  | (.error e, registry) => if replayed ∧ e.code = .revoked then (.ok (), registry) else (.error e.code, registry)

/-- the arms after `accept_operation`; `now` is the reading of `handle_inner`, `later` the one the registry takes itself -/
def perform (frame : RemoteControlFrame) (now later : Nat) (replayed : Bool) (outcome : WriteOutcome) : RegistryM Handled :=
  match frame with
  | .registerRoute requestId _ _ routeId routeHint adminToken hostEndpointId relayUrl => do
    let routeId ← Prog.liftExcept (parseId routeId)
    let routeHint ← Prog.liftExcept (parseId routeHint)
    let adminToken ← Prog.liftExcept (parseId adminToken)
    let hostEndpoint ← Prog.liftExcept (parseId hostEndpointId)
    committed (RegistryState.registerRoute env ⟨routeId, routeHint, adminToken, hostEndpoint, relayUrl⟩) outcome
    return { response := .routeRegistered requestId }
  | .registerPresence requestId _ _ routeId adminToken hostEndpointId relayUrl ttlSeconds => do
    let routeId ← Prog.liftExcept (parseId routeId)
    let adminToken ← Prog.liftExcept (parseId adminToken)
    let hostEndpoint ← Prog.liftExcept (parseId hostEndpointId)
    committed (RegistryState.registerPresence env ⟨routeId, adminToken, hostEndpoint, relayUrl, ttlSeconds⟩ later) outcome
    let expiresAtMs ← Prog.liftExcept (toI64 (min (now + ttlSeconds * 1000) u64Max))
    return { response := .presenceRegistered requestId expiresAtMs }
  | .registerDeviceGrant requestId _ _ routeId slotId accessToken adminToken => do
    let routeId ← Prog.liftExcept (parseId routeId)
    let adminToken ← Prog.liftExcept (parseId adminToken)
    let slotId ← Prog.liftExcept (parseId slotId)
    let accessToken ← Prog.liftExcept (parseId accessToken)
    committed (RegistryState.registerDeviceGrant env ⟨routeId, slotId, accessToken, adminToken⟩) outcome
    return { response := .deviceGrantRegistered requestId }
  | .resolveRoute requestId _ _ routeId slotId accessToken => do
    let routeId ← Prog.liftExcept (parseId routeId)
    let slotId ← Prog.liftExcept (parseId slotId)
    let accessToken ← Prog.liftExcept (parseId accessToken)
    let resolved ← looked (RegistryState.resolve env routeId slotId accessToken now)
    let expiresAtMs ← Prog.liftExcept (toI64 resolved.expiresAtMs)
    return { response := .routeResolved requestId resolved.hostEndpoint.text resolved.relayUrl expiresAtMs }
  | .replacePushAddress requestId _ _ routeId slotId accessToken address => do
    let routeId ← Prog.liftExcept (parseId routeId)
    let slotId ← Prog.liftExcept (parseId slotId)
    let accessToken ← Prog.liftExcept (parseId accessToken)
    let address ← Prog.liftExcept (convertPush address)
    committed (RegistryState.registerPush env routeId slotId accessToken address later) outcome
    let expiresAtMs ← Prog.liftExcept (toI64 address.expiresAtMs)
    return { response := .pushAddressReplaced requestId expiresAtMs }
  | .deletePushAddress requestId _ _ routeId slotId accessToken => do
    let routeId ← Prog.liftExcept (parseId routeId)
    let slotId ← Prog.liftExcept (parseId slotId)
    let accessToken ← Prog.liftExcept (parseId accessToken)
    committed (RegistryState.deletePush env routeId slotId accessToken) outcome
    return { response := .pushAddressDeleted requestId }
  | .wakeDevice requestId _ _ routeId slotId adminToken wakeId => do
    let routeId ← Prog.liftExcept (parseId routeId)
    let slotId ← Prog.liftExcept (parseId slotId)
    let adminToken ← Prog.liftExcept (parseId adminToken)
    match ← looked (RegistryState.pushAddress env routeId slotId adminToken) with
    | none => Prog.fail .routeUnavailable
    | some (address, routeHint) =>
      match PushPayload.wakeWithId routeHint wakeId with
      | none => Prog.fail .malformedFrame
      | some payload =>
        return { response := .wakeAccepted requestId, wake := some ⟨routeId, slotId, address, payload⟩ }
  | .revokeDeviceGrant requestId _ _ routeId slotId adminToken => do
    let routeId ← Prog.liftExcept (parseId routeId)
    let slotId ← Prog.liftExcept (parseId slotId)
    let adminToken ← Prog.liftExcept (parseId adminToken)
    revoked (RegistryState.revokeDevice env routeId adminToken slotId) replayed outcome
    return { response := .deviceGrantRevoked requestId, revokedDevice := some ⟨routeId, slotId⟩ }
  | _ => Prog.fail .malformedFrame

/-! ## One request at a time -/

structure ControlService where
  registry : Registry := {}
  replay : ReplayCache := []

/-- the readings of the clock and the write of one request -/
structure Attempt where
  now : Nat
  later : Nat
  outcome : WriteOutcome

/-- the arms of `handle_inner` -/
def handleOperation (frame : RemoteControlFrame) (attempt : Attempt) (service : ControlService) :
    Except RemoteErrorCode Handled × ControlService :=
  match authorize env service.registry.state frame with
  | .error code => (.error code, service)
  | .ok () =>
    match accept env frame attempt.now service.replay with
    | (.error code, replay) => (.error code, { service with replay })
    | (.ok replayed, replay) =>
      let (result, registry) := perform env frame attempt.now attempt.later replayed attempt.outcome service.registry
      (result, { registry, replay })

/-- `handle` -/
def ControlService.handle (service : ControlService) (connection : ControlConnection) (frame : RemoteControlFrame)
    (attempt : Attempt) : ControlOutcome × ControlConnection × ControlService :=
  match admitFrame connection frame with
  | (.error code, connection) => (outcomeOf frame (.error code), connection, service)
  | (.ok (.hello response), connection) => (outcomeOf frame (.ok { response }), connection, service)
  | (.ok .operation, connection) =>
    let (result, service) := handleOperation env frame attempt service
    (outcomeOf frame result, connection, service)

end

end Kaleido.Relay
