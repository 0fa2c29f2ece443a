/-
The relay's registry (`kaleido-relay`, `ids.rs`, `error.rs`, `push.rs`, `registry.rs`): routes of hosts, the grants of their
devices, the tombstones of revoked devices, and the push addresses.

A mutation changes a copy of the state; `commit` writes the copy and only then puts it in place of the state. The state on
disk leaves out the presence of hosts, so that a registry that is opened again has none. `validate_state` runs when a registry
is opened and nowhere else.
-/
import Kaleido.Transport.Pairing
import Kaleido.Transport.Remote

namespace Kaleido.Relay

open Check Proto Transport

/-! ## Identifiers -/

/-- a value of a fixed number of bytes -/
@[ext] structure OpaqueId (n : Nat) where
  bytes : List UInt8
  size : bytes.length = n
  deriving DecidableEq

namespace OpaqueId

variable {n : Nat}

instance : Ord (OpaqueId n) := ⟨fun a b => compare a.bytes b.bytes⟩

instance : Std.TransOrd (OpaqueId n) where
  eq_swap {a b} := show compare a.bytes b.bytes = (compare b.bytes a.bytes).swap from Std.OrientedCmp.eq_swap
  isLE_trans {a b c} h₁ h₂ :=
    show (compare a.bytes c.bytes).isLE from
      Std.TransCmp.isLE_trans (show (compare a.bytes b.bytes).isLE from h₁) h₂

instance : Std.LawfulEqOrd (OpaqueId n) where
  eq_of_compare {a b} h := OpaqueId.ext (Std.LawfulEqCmp.eq_of_compare (show compare a.bytes b.bytes = .eq from h))

/-- `from_opaque` -/
def fromOpaque (value : String) : Option (OpaqueId n) :=
  match Base64.decode value.toList with
  | none => none
  | some decoded => if h : decoded.length = n then some ⟨decoded, h⟩ else none

/-- the text of an identifier, `opaque` in the source -/
def text (i : OpaqueId n) : String := String.ofList (Base64.encode i.bytes)

theorem fromOpaque_eq_some {value : String} {i : OpaqueId n} :
    fromOpaque value = some i ↔ Base64.decode value.toList = some i.bytes := by
  unfold fromOpaque
  cases hdecoded : Base64.decode value.toList with
  | none => simp
  | some decoded =>
    by_cases hsize : decoded.length = n
    · simp [hsize, OpaqueId.ext_iff]
    · have hne : decoded ≠ i.bytes := fun h => hsize (h ▸ i.size)
      simp [hsize, hne]

/-- an accepted text is the text of what it stands for -/
theorem text_of_fromOpaque {value : String} {i : OpaqueId n} (h : fromOpaque value = some i) : i.text = value := by
  rw [fromOpaque_eq_some] at h
  rw [text, Base64.encode_decode h, String.ofList_toList]

end OpaqueId

abbrev RouteId := OpaqueId 16
abbrev DeviceSlotId := OpaqueId 16
abbrev OperationId := OpaqueId 16
abbrev AccessToken := OpaqueId 32
abbrev RouteAdminToken := OpaqueId 32
abbrev HostEndpointId := OpaqueId 32
abbrev Digest := OpaqueId 32

instance : Std.TransOrd RouteId := inferInstance

/-- `[0_u8; 32]` -/
def zeroDigest : Digest := ⟨List.replicate 32 0, List.length_replicate⟩

/-- SHA-256 -/
structure RelayEnv where
  sha256 : List UInt8 → Digest

/-! ## Errors -/

inductive RemoteError where
  | rejected (code : RemoteErrorCode)
  | unsafeStorage | storage | encoding
  deriving DecidableEq

def RemoteError.code : RemoteError → RemoteErrorCode
  | rejected code => code
  | unsafeStorage | storage | encoding => .internal

/-! ## Push addresses -/

structure PushAddress where
  provider : PushProvider
  opaqueAddress : String
  registeredAtMs : Nat
  expiresAtMs : Nat
  deriving DecidableEq

/-- `PushAddress::fcm_fid` -/
def PushAddress.fcmFid (opaqueAddress : String) (registeredAtMs expiresAtMs : Nat) : Option PushAddress :=
  if opaqueAddress = "" ∨ opaqueAddress.utf8ByteSize > 4096 ∨ opaqueAddress.toList.any isWhitespace ∨
      expiresAtMs ≤ registeredAtMs then none
  else some ⟨.fcmFid, opaqueAddress, registeredAtMs, expiresAtMs⟩

structure PushPayload where
  v : String
  kind : String
  route : String
  wake : String
  deriving DecidableEq

/-- `PushPayload::wake_with_id` -/
def PushPayload.wakeWithId (route : RouteId) (wake : String) : Option PushPayload :=
  if route.text.length ≠ 22 ∨ wake.length ≠ 22 then none else some ⟨"1", "wake", route.text, wake⟩

/-! ## The state -/

def minPresenceTtlSecs : Nat := 15
def maxPresenceTtlSecs : Nat := 90
def maxRoutes : Nat := 1024
def maxGrantsPerRoute : Nat := 128

structure GrantRecord where
  tokenDigest : Digest
  deriving DecidableEq

structure PresenceRecord where
  hostEndpoint : HostEndpointId
  relayUrl : String
  expiresAtMs : Nat
  deriving DecidableEq

structure RouteRecord where
  routeHint : RouteId
  hostEndpoint : HostEndpointId
  relayUrl : String
  adminDigest : Digest
  grants : OrdMap DeviceSlotId GrantRecord := ∅
  revoked : OrdMap DeviceSlotId Digest := ∅
  presence : Option PresenceRecord := none

structure RegistryState where
  routes : OrdMap RouteId RouteRecord := ∅
  pushes : OrdMap RouteId (OrdMap DeviceSlotId PushAddress) := ∅

structure RouteRegistration where
  routeId : RouteId
  routeHint : RouteId
  adminToken : RouteAdminToken
  hostEndpoint : HostEndpointId
  relayUrl : String

structure PresenceRegistration where
  routeId : RouteId
  adminToken : RouteAdminToken
  hostEndpoint : HostEndpointId
  relayUrl : String
  ttlSecs : Nat

structure DeviceGrantRegistration where
  routeId : RouteId
  slotId : DeviceSlotId
  accessToken : AccessToken
  adminToken : RouteAdminToken

structure ResolveResponse where
  hostEndpoint : HostEndpointId
  relayUrl : String
  expiresAtMs : Nat
  deriving DecidableEq

structure BearerIdentity where
  routeId : RouteId
  slotId : Option DeviceSlotId
  expectedHostEndpoint : Option HostEndpointId
  deriving DecidableEq

inductive BearerFailure where
  | invalid | revoked
  deriving DecidableEq

/-! ## Checks -/

/-- `validate_ttl` -/
def validateTtl (ttlSecs : Nat) : Except RemoteError Unit :=
  ensure (minPresenceTtlSecs ≤ ttlSecs ∧ ttlSecs ≤ maxPresenceTtlSecs) (.rejected .malformedFrame)

/-- `validate_relay_url` of the relay -/
def validateRelayUrl (value : String) : Except RemoteError Unit := do
  let lower := value.toList.map Char.toLower
  ensure (¬ (¬ (stripStart "https://".toList lower).isSome ∨ hasInfix "n0.computer".toList lower ∨
    hasInfix "staging".toList lower ∨ value.toList.any isWhitespace ∨ value.utf8ByteSize > 2048))
    (.rejected .malformedFrame)
  let authority := (stripStart "https://".toList value.toList).getD []
  ensure (¬ (authority = [] ∨ authority.head? = some '/')) (.rejected .malformedFrame)

/-- the address that `fcm_fid` makes of its own fields -/
def PushAddress.wellFormed (address : PushAddress) : Prop :=
  PushAddress.fcmFid address.opaqueAddress address.registeredAtMs address.expiresAtMs = some address

instance (address : PushAddress) : Decidable address.wellFormed := inferInstanceAs (Decidable (_ = _))

/-- the checks of `validate_state` on one route -/
def RouteRecord.validate (route : RouteRecord) : Except RemoteError Unit := do
  validateRelayUrl route.relayUrl
  ensure (¬ (route.grants.size + route.revoked.size > maxGrantsPerRoute ∨ route.adminDigest = zeroDigest))
    (.rejected .internal)
  checkAll (fun grant => ensure (grant.tokenDigest ≠ zeroDigest) (.rejected .internal)) route.grants.vals

/-- the checks of `validate_state` on the addresses of one route -/
def validatePushes (routes : OrdMap RouteId RouteRecord) (entry : RouteId × OrdMap DeviceSlotId PushAddress) :
    Except RemoteError Unit :=
  match routes[entry.1]? with
  | none => .error (.rejected .internal)
  | some route =>
    checkAll (fun push => ensure (¬ (¬ route.grants.contains push.1 ∨ route.revoked.contains push.1 ∨
      ¬ push.2.wellFormed)) (.rejected .internal)) entry.2.toList

/-- `validate_state` -/
def validateState (state : RegistryState) : Except RemoteError Unit := do
  ensure (state.routes.size ≤ maxRoutes) (.rejected .limitExceeded)
  checkAll RouteRecord.validate state.routes.vals
  checkAll (validatePushes state.routes) state.pushes.toList

namespace RegistryState

variable (env : RelayEnv)

/-- `admin_digest` and `token_digest` -/
def digestOf (token : OpaqueId 32) : Digest := env.sha256 token.bytes

def setRoute (state : RegistryState) (routeId : RouteId) (route : RouteRecord) : RegistryState :=
  { state with routes := state.routes.insert routeId route }

/-- `remove_push` -/
def removePush (state : RegistryState) (routeId : RouteId) (slotId : DeviceSlotId) : RegistryState :=
  match state.pushes[routeId]? with
  | none => state
  | some pushes =>
    { state with pushes := if (pushes.erase slotId).isEmpty then state.pushes.erase routeId
        else state.pushes.insert routeId (pushes.erase slotId) }

/-- the route of a mutation, which the administrator's token opens -/
def adminRoute (state : RegistryState) (routeId : RouteId) (adminToken : RouteAdminToken) :
    Except RemoteError RouteRecord :=
  match state.routes[routeId]? with
  | none => .error (.rejected .routeUnavailable)
  | some route => do
    ensure (route.adminDigest = digestOf env adminToken) (.rejected .authenticationFailed)
    return route

/-! ## Mutations -/

/-- `register_presence`; `nowMs` is the clock under the lock -/
def registerPresence (registration : PresenceRegistration) (nowMs : Nat) (state : RegistryState) :
    Except RemoteError RegistryState := do
  validateTtl registration.ttlSecs
  validateRelayUrl registration.relayUrl
  let route ← state.adminRoute env registration.routeId registration.adminToken
  ensure (¬ (route.hostEndpoint ≠ registration.hostEndpoint ∨ route.relayUrl ≠ registration.relayUrl))
    (.rejected .authenticationFailed)
  let presence : PresenceRecord :=
    ⟨registration.hostEndpoint, registration.relayUrl, min (nowMs + registration.ttlSecs * 1000) u64Max⟩
  return state.setRoute registration.routeId { route with presence := some presence }

/-- `register_route` -/
def registerRoute (registration : RouteRegistration) (state : RegistryState) : Except RemoteError RegistryState := do
  validateRelayUrl registration.relayUrl
  let presentedAdmin := digestOf env registration.adminToken
  match state.routes[registration.routeId]? with
  | some route => do
    ensure (¬ (route.adminDigest ≠ presentedAdmin ∨ route.routeHint ≠ registration.routeHint ∨
      route.hostEndpoint ≠ registration.hostEndpoint ∨ route.relayUrl ≠ registration.relayUrl))
      (.rejected .authenticationFailed)
    return state
  | none => do
    ensure (¬ state.routes.size ≥ maxRoutes) (.rejected .limitExceeded)
    let route : RouteRecord :=
      { routeHint := registration.routeHint, hostEndpoint := registration.hostEndpoint,
        relayUrl := registration.relayUrl, adminDigest := presentedAdmin }
    return state.setRoute registration.routeId route

/-- `register_device_grant` -/
def registerDeviceGrant (registration : DeviceGrantRegistration) (state : RegistryState) :
    Except RemoteError RegistryState := do
  let route ← state.adminRoute env registration.routeId registration.adminToken
  ensure (¬ route.revoked.contains registration.slotId) (.rejected .revoked)
  let presented := digestOf env registration.accessToken
  match route.grants[registration.slotId]? with
  | some existing => do
    ensure (existing.tokenDigest = presented) (.rejected .authenticationFailed)
    return state
  | none => do
    ensure (¬ route.grants.size + route.revoked.size ≥ maxGrantsPerRoute) (.rejected .limitExceeded)
    return state.setRoute registration.routeId
      { route with grants := route.grants.insert registration.slotId ⟨presented⟩ }

/-- `revoke_device`: the grant becomes a tombstone -/
def revokeDevice (routeId : RouteId) (adminToken : RouteAdminToken) (slotId : DeviceSlotId) (state : RegistryState) :
    Except RemoteError RegistryState := do
  let route ← state.adminRoute env routeId adminToken
  match route.grants[slotId]? with
  | none => .error (.rejected .revoked)
  | some grant =>
    let state := state.setRoute routeId
      { route with grants := route.grants.erase slotId, revoked := route.revoked.insert slotId grant.tokenDigest }
    return state.removePush routeId slotId

/-- the check of `register_push` and `delete_push`, which refuse a wrong token with different codes -/
def checkDevice (refusal : RemoteErrorCode) (routeId : RouteId) (slotId : DeviceSlotId) (accessToken : AccessToken)
    (state : RegistryState) : Except RemoteError Unit :=
  match state.routes[routeId]? with
  | none => .error (.rejected .routeUnavailable)
  | some route =>
    match route.grants[slotId]? with
    | none => .error (.rejected .routeUnavailable)
    | some grant => ensure (grant.tokenDigest = digestOf env accessToken) (.rejected refusal)

/-- `register_push`; `nowMs` is the clock before the lock -/
def registerPush (routeId : RouteId) (slotId : DeviceSlotId) (accessToken : AccessToken) (address : PushAddress)
    (nowMs : Nat) (state : RegistryState) : Except RemoteError RegistryState := do
  ensure (address.provider = .fcmFid) (.rejected .malformedFrame)
  ensure (¬ address.expiresAtMs ≤ nowMs) (.rejected .expired)
  state.checkDevice env .authenticationFailed routeId slotId accessToken
  return { state with pushes := state.pushes.insert routeId ((state.pushes[routeId]?.getD ∅).insert slotId address) }

/-- `delete_push` -/
def deletePush (routeId : RouteId) (slotId : DeviceSlotId) (accessToken : AccessToken) (state : RegistryState) :
    Except RemoteError RegistryState := do
  state.checkDevice env .routeUnavailable routeId slotId accessToken
  return state.removePush routeId slotId

/-- `delete_push_for_service` -/
def deletePushForService (routeId : RouteId) (slotId : DeviceSlotId) (state : RegistryState) :
    Except RemoteError RegistryState :=
  match state.routes[routeId]? with
  | none => .error (.rejected .routeUnavailable)
  | some route => do
    ensure (¬ (¬ route.grants.contains slotId ∨ route.revoked.contains slotId)) (.rejected .routeUnavailable)
    return state.removePush routeId slotId

/-! ## Reads -/

/-- `push_address` -/
def pushAddress (routeId : RouteId) (slotId : DeviceSlotId) (adminToken : RouteAdminToken) (state : RegistryState) :
    Except RemoteError (Option (PushAddress × RouteId)) :=
  match state.routes[routeId]? with
  | none => .error (.rejected .routeUnavailable)
  | some route => do
    ensure (¬ (route.adminDigest ≠ digestOf env adminToken ∨ ¬ route.grants.contains slotId ∨
      route.revoked.contains slotId)) (.rejected .routeUnavailable)
    return (state.pushes[routeId]?.bind (·[slotId]?)).map fun address => (address, route.routeHint)

/-- `resolve` -/
def resolve (routeId : RouteId) (slotId : DeviceSlotId) (accessToken : AccessToken) (atMs : Nat) (state : RegistryState) :
    Except RemoteError ResolveResponse :=
  match state.routes[routeId]? with
  | none => .error (.rejected .routeUnavailable)
  | some route => do
    ensure (¬ route.revoked.contains slotId) (.rejected .routeUnavailable)
    state.checkDevice env .routeUnavailable routeId slotId accessToken
    match route.presence.filter fun presence => presence.expiresAtMs ≥ atMs with
    | none => .error (.rejected .routeUnavailable)
    | some presence => return ⟨presence.hostEndpoint, presence.relayUrl, presence.expiresAtMs⟩

/-- who a digest stands for on one route -/
def bearerOf (digest : Digest) (routeId : RouteId) (route : RouteRecord) : Option BearerIdentity :=
  if route.adminDigest = digest then some ⟨routeId, none, some route.hostEndpoint⟩
  else (route.grants.toList.find? fun grant => grant.2.tokenDigest = digest).map fun grant => ⟨routeId, some grant.1, none⟩

/-- `authenticate_bearer` -/
def authenticateBearer (bearer : String) (state : RegistryState) : Except BearerFailure BearerIdentity :=
  match OpaqueId.fromOpaque bearer with
  | none => .error .invalid
  | some token =>
    let digest := digestOf env token
    match state.routes.toList.findSome? fun route => bearerOf digest route.1 route.2 with
    | some identity => .ok identity
    | none =>
      if state.routes.toList.any fun route => route.2.revoked.vals.any fun revoked => revoked = digest then .error .revoked
      else .error .invalid

/-- `authorize_admin` -/
def authorizeAdmin (routeId : RouteId) (adminToken : RouteAdminToken) (state : RegistryState) : Except RemoteError Unit := do
  let _ ← state.adminRoute env routeId adminToken

/-- `authorize_device` -/
def authorizeDevice (routeId : RouteId) (slotId : DeviceSlotId) (accessToken : AccessToken) (state : RegistryState) :
    Except RemoteError Unit :=
  match state.routes[routeId]? with
  | none => .error (.rejected .routeUnavailable)
  | some route => do
    ensure (¬ route.revoked.contains slotId) (.rejected .revoked)
    state.checkDevice env .authenticationFailed routeId slotId accessToken

/-- what `serde` writes of the state: no presence -/
def persisted (state : RegistryState) : RegistryState :=
  { state with routes := state.routes.map fun _ route => { route with presence := none } }

end RegistryState

/-! ## The store -/

/-- what becomes of a `write_state` -/
inductive WriteOutcome where
  | written
  /-- an error before the new file has taken the place of the old one -/
  | failed
  /-- the directory could not be synced after the new file had taken the place of the old one -/
  | unsynced
  deriving DecidableEq

/-- `Registry`: the state in memory and the state in the file -/
structure Registry where
  state : RegistryState := {}
  file : RegistryState := {}

namespace Registry

/-- `open` on a file -/
def openFile (file : RegistryState) : Except RemoteError Registry := do
  validateState file
  return ⟨file, file⟩

/-- `commit`: the mutation, then the file, then the state -/
def commit (mutate : RegistryState → Except RemoteError RegistryState) (outcome : WriteOutcome) (registry : Registry) :
    Except RemoteError Unit × Registry :=
  match mutate registry.state with
  | .error e => (.error e, registry)
  | .ok next =>
    match outcome with
    | .written => (.ok (), ⟨next, next.persisted⟩)
    | .failed => (.error .storage, registry)
    | .unsynced => (.error .storage, { registry with file := next.persisted })

end Registry

end Kaleido.Relay
