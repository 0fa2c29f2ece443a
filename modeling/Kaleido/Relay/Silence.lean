/-
What a phone learns from a refusal (`kaleido-relay`, `control.rs`).

The arms of `ResolveRoute`, `ReplacePushAddress` and `DeletePushAddress` authorise the device before they look at the
operation, and `map_device_auth_error` gives every refusal the same code. So a request whose token is not valid is answered
from its own fields alone (`authorize_refused`), and leaves the service as it was (`handle_refused`).

`device_failures_silent` is the statement about two services: none of their requests tells them apart.
-/
import Kaleido.Relay.Finality

namespace Kaleido.Relay

open Check Transport

/-- the texts of the route, the slot and the token of a request of a device -/
def deviceRequest : RemoteControlFrame → Option (String × String × String)
  | .resolveRoute _ _ _ routeId slotId accessToken | .replacePushAddress _ _ _ routeId slotId accessToken _
  | .deletePushAddress _ _ _ routeId slotId accessToken => some (routeId, slotId, accessToken)
  | _ => none

/-- the token opens the slot: it is that of the grant, and the slot is not revoked -/
def RegistryState.validToken (env : RelayEnv) (state : RegistryState) (credentials : String × String × String) : Bool :=
  match (OpaqueId.fromOpaque credentials.1 : Option RouteId), (OpaqueId.fromOpaque credentials.2.1 : Option DeviceSlotId),
    (OpaqueId.fromOpaque credentials.2.2 : Option AccessToken) with
  | some routeId, some slotId, some accessToken => (state.routes[routeId]?).any fun route =>
    !route.revoked.contains slotId &&
      (route.grants[slotId]?).any fun grant => grant.tokenDigest = RegistryState.digestOf env accessToken
  | _, _, _ => false

/-- the code of a refusal; it depends on the texts only -/
def refusalOf (credentials : String × String × String) : RemoteErrorCode :=
  if (OpaqueId.fromOpaque credentials.1 : Option RouteId).isSome ∧
      (OpaqueId.fromOpaque credentials.2.1 : Option DeviceSlotId).isSome ∧
      (OpaqueId.fromOpaque credentials.2.2 : Option AccessToken).isSome then .routeUnavailable
  else .malformedFrame

section

variable {env : RelayEnv} {state : RegistryState} {frame : RemoteControlFrame} {credentials : String × String × String}

/-- the authorisation of a device, with the codes that its arms give to a refusal -/
def authorizeCredentials (env : RelayEnv) (state : RegistryState) (credentials : String × String × String) :
    Except RemoteErrorCode Unit := do
  let routeId ← parseId credentials.1
  let slotId ← parseId credentials.2.1
  let accessToken ← parseId credentials.2.2
  (state.authorizeDevice env routeId slotId accessToken).mapError mapDeviceAuthError

theorem authorize_device (h : deviceRequest frame = some credentials) :
    authorize env state frame = authorizeCredentials env state credentials := by
  cases frame <;> cases h <;> rfl

theorem authorizeDevice_refused {routeId : RouteId} {slotId : DeviceSlotId} {accessToken : AccessToken}
    (h : ∀ route grant, state.routes[routeId]? = some route → route.revoked.contains slotId = false →
      route.grants[slotId]? = some grant → grant.tokenDigest ≠ RegistryState.digestOf env accessToken) :
    (state.authorizeDevice env routeId slotId accessToken).mapError mapDeviceAuthError = .error .routeUnavailable := by
  unfold RegistryState.authorizeDevice RegistryState.checkDevice
  cases hroute : state.routes[routeId]? with
  | none => rfl
  | some route =>
    by_cases hrevoked : route.revoked.contains slotId = true
    · simp [hrevoked, ensure, bind, Except.bind, Except.mapError, mapDeviceAuthError, RemoteError.code]
    · cases hgrant : route.grants[slotId]? with
      | none => simp [hrevoked, hgrant, ensure, bind, Except.bind, Except.mapError, mapDeviceAuthError, RemoteError.code]
      | some grant =>
        have hdigest := h route grant hroute (Bool.eq_false_iff.mpr hrevoked) hgrant
        simp [hrevoked, hgrant, hdigest, ensure, bind, Except.bind, Except.mapError, mapDeviceAuthError, RemoteError.code]

theorem parseId_none {n : Nat} {value : String} (h : (OpaqueId.fromOpaque value : Option (OpaqueId n)) = none) :
    (parseId value : Except RemoteErrorCode (OpaqueId n)) = .error .malformedFrame := by
  rw [parseId, h]

/-- a request whose token is not valid is refused with a code of its own fields -/
theorem authorize_refused (hframe : deviceRequest frame = some credentials) (hinvalid : state.validToken env credentials = false) :
    authorize env state frame = .error (refusalOf credentials) := by
  rw [authorize_device hframe, authorizeCredentials, refusalOf]
  cases hroute : (OpaqueId.fromOpaque credentials.1 : Option RouteId) with
  | none => simp [parseId_none hroute, bind, Except.bind]
  | some routeId =>
    cases hslot : (OpaqueId.fromOpaque credentials.2.1 : Option DeviceSlotId) with
    | none => simp [parseId_eq_ok.mpr hroute, parseId_none hslot, bind, Except.bind]
    | some slotId =>
      cases htoken : (OpaqueId.fromOpaque credentials.2.2 : Option AccessToken) with
      | none => simp [parseId_eq_ok.mpr hroute, parseId_eq_ok.mpr hslot, parseId_none htoken, bind, Except.bind]
      | some accessToken =>
        have hrefused : (state.authorizeDevice env routeId slotId accessToken).mapError mapDeviceAuthError =
            .error .routeUnavailable := by
          refine authorizeDevice_refused fun route grant hlookup hrevoked hgrant hdigest => ?_
          simp [RegistryState.validToken, hroute, hslot, htoken, hlookup, hrevoked, hgrant, hdigest] at hinvalid
        simp [parseId_eq_ok.mpr hroute, parseId_eq_ok.mpr hslot, parseId_eq_ok.mpr htoken, hrefused, bind, Except.bind]

end

/-! ## Requests -/

/-- what a refused request is answered, and what it leaves of the connection -/
def refused (connection : ControlConnection) (frame : RemoteControlFrame) (code : RemoteErrorCode) :
    ControlOutcome × ControlConnection :=
  match admitFrame connection frame with
  | (.error early, connection) => (outcomeOf frame (.error early), connection)
  | (.ok (.hello response), connection) => (outcomeOf frame (.ok { response }), connection)
  | (.ok .operation, connection) => (outcomeOf frame (.error code), connection)

/-- the service is left as it was -/
theorem handle_refused {env : RelayEnv} {service : ControlService} {connection : ControlConnection} {attempt : Attempt}
    {frame : RemoteControlFrame} {credentials : String × String × String} (hframe : deviceRequest frame = some credentials)
    (hinvalid : service.registry.state.validToken env credentials = false) :
    service.handle env connection frame attempt = ((refused connection frame (refusalOf credentials)).1,
      (refused connection frame (refusalOf credentials)).2, service) := by
  unfold ControlService.handle refused
  cases admitFrame connection frame with
  | mk admission connection =>
    cases admission with
    | error code => rfl
    | ok admission =>
      cases admission with
      | hello response => rfl
      | operation => simp only [handleOperation, authorize_refused hframe hinvalid]

/-- the requests of a connection, one after the other -/
def ControlService.handleAll (env : RelayEnv) (service : ControlService) (connection : ControlConnection) :
    List (RemoteControlFrame × Attempt) → List ControlOutcome × ControlConnection × ControlService
  | [] => ([], connection, service)
  | (frame, attempt) :: requests =>
    let (outcome, connection, service) := service.handle env connection frame attempt
    let (outcomes, connection, service) := service.handleAll env connection requests
    (outcome :: outcomes, connection, service)

/-- the requests of a device with a token that is not valid -/
def Refusable (env : RelayEnv) (state : RegistryState) (frame : RemoteControlFrame) : Prop :=
  ∃ credentials, deviceRequest frame = some credentials ∧ state.validToken env credentials = false

/-- **Refusals reveal nothing.** Two services, whatever their states, that are sent the same requests of a device, whose tokens
are valid in neither, give the same answers and the same decisions to close, leave their connections in the same state, and
stay as they were; the clocks and the storage of the two may differ. -/
theorem device_failures_silent (env : RelayEnv) (service service' : ControlService) (connection : ControlConnection)
    (requests : List (RemoteControlFrame × Attempt × Attempt))
    (hinvalid : ∀ request ∈ requests, Refusable env service.registry.state request.1 ∧
      Refusable env service'.registry.state request.1) :
    ∃ outcomes left,
      service.handleAll env connection (requests.map fun request => (request.1, request.2.1)) = (outcomes, left, service) ∧
      service'.handleAll env connection (requests.map fun request => (request.1, request.2.2)) = (outcomes, left, service') := by
  induction requests generalizing connection with
  | nil => exact ⟨[], connection, rfl, rfl⟩
  | cons request requests ih =>
    obtain ⟨⟨credentials, hframe, hfirst⟩, credentials', hframe', hsecond⟩ := hinvalid request List.mem_cons_self
    cases hframe.symm.trans hframe'
    obtain ⟨outcomes, left, hrun, hrun'⟩ := ih (refused connection request.1 (refusalOf credentials)).2
      fun later hlater => hinvalid later (List.mem_cons_of_mem _ hlater)
    refine ⟨(refused connection request.1 (refusalOf credentials)).1 :: outcomes, left, ?_, ?_⟩
    · simp only [List.map_cons, ControlService.handleAll, handle_refused hframe hfirst, hrun]
    · simp only [List.map_cons, ControlService.handleAll, handle_refused hframe hsecond, hrun']

/-- a resolve with a wrong token, sent twice -/
def probe : RemoteControlFrame := .resolveRoute 2 "FAAAAAAAAAAAAAAAAAAAAA" 100000 sampleId sampleId sampleToken

def probes : List (RemoteControlFrame × Attempt × Attempt) :=
  [(probe, ⟨100000, 100000, .written⟩, ⟨170000, 170000, .failed⟩), (probe, ⟨100001, 100001, .written⟩, ⟨170001, 170001, .failed⟩)]

/-- a service that has never heard of the slot, and one that has granted it -/
theorem device_failures_silent_probes :
    ∃ outcomes left,
      ({} : ControlService).handleAll sampleRelayEnv ⟨true, 1⟩ (probes.map fun request => (request.1, request.2.1)) =
        (outcomes, left, {}) ∧
      (runFrom (System.step sampleRelayEnv) {} granting).service.handleAll sampleRelayEnv ⟨true, 1⟩
        (probes.map fun request => (request.1, request.2.2)) =
        (outcomes, left, (runFrom (System.step sampleRelayEnv) {} granting).service) := by
  refine device_failures_silent sampleRelayEnv {} (runFrom (System.step sampleRelayEnv) {} granting).service ⟨true, 1⟩ probes ?_
  intro request hrequest
  have hprobe : request.1 = probe := by
    simp only [probes, List.mem_cons, List.not_mem_nil, or_false] at hrequest
    rcases hrequest with rfl | rfl <;> rfl
  rw [hprobe]
  exact ⟨⟨_, rfl, by decide +kernel⟩, ⟨_, rfl, by decide +kernel⟩⟩

end Kaleido.Relay
