/-
The endpoint of a host, from its registration to the phone (`kaleido-hostd`, `remote_control.rs`; `kaleido-relay`, `ids.rs`
and `registry.rs`; `kaleido-core`, `mobile.rs`).

The host and the transport take an endpoint identifier to be any alphanumeric text of at most 128 bytes. The relay decodes it
as 32 bytes in Base64 and writes it out again for the phone, which compares it with the text in its pairing.

`Confirms` is what the answers of the relay say of a route: they all say the same, in every run and across restarts
(`System.Confirming`, `live_confirming`), because the endpoint and the address of a route never change and a presence repeats
them (`RegistryState.Present`). So what the relay accepts comes back as it was; what it accepts is `endpoint_ids_agree`, and
the identifiers that hosts really have are refused (`hex_endpoint_refused`).
-/
import Kaleido.Relay.Finality
import Kaleido.Hostd.RemoteControl
import Kaleido.Core.Worker

namespace Kaleido.Relay

open Check Proto Transport

variable {routeId : RouteId} {mutate : RegistryState → Except RemoteError RegistryState} {outcome : WriteOutcome}
  {state next : RegistryState} {frame : RemoteControlFrame} {s : System} {a : Answered}

/-! ## Presence -/

/-- the presence of a host repeats the endpoint and the address of its route -/
def RegistryState.Present (state : RegistryState) : Prop :=
  ∀ (routeId : RouteId) route presence, state.routes[routeId]? = some route → route.presence = some presence →
    presence.hostEndpoint = route.hostEndpoint ∧ presence.relayUrl = route.relayUrl

section

variable {env : RelayEnv} {state next : RegistryState}

theorem RegistryState.Present.setRoute {routeId : RouteId} {route : RouteRecord} (h : state.Present)
    (hroute : ∀ presence, route.presence = some presence →
      presence.hostEndpoint = route.hostEndpoint ∧ presence.relayUrl = route.relayUrl) :
    (state.setRoute routeId route).Present := by
  intro other found presence hfound hpresence
  rw [get_setRoute] at hfound
  split_ifs at hfound with hsame
  · cases hfound
    exact hroute presence hpresence
  · exact h other found presence hfound hpresence

theorem RegistryState.Present.of_routes (h : state.Present) (hroutes : next.routes = state.routes) : next.Present := by
  intro routeId route presence hroute
  rw [hroutes] at hroute
  exact h routeId route presence hroute

/-- the file has no presence -/
theorem present_persisted : state.persisted.Present := by
  intro routeId route presence hroute hpresence
  rw [get_persisted, Option.map_eq_some_iff] at hroute
  obtain ⟨old, -, rfl⟩ := hroute
  cases hpresence

theorem persisted_follows : state.Follows state.persisted := by
  intro routeId route hroute
  exact ⟨{ route with presence := none }, by rw [get_persisted, hroute]; rfl, .of_slots rfl rfl rfl rfl rfl⟩

theorem Mutation.present (hmutation : Mutation env mutate) (hnext : mutate state = .ok next) (h : state.Present) :
    next.Present := by
  cases hmutation with
  | registerRoute registration =>
    simp only [RegistryState.registerRoute, bind_eq_ok] at hnext
    obtain ⟨_, -, hnext⟩ := hnext
    cases hroute : state.routes[registration.routeId]? with
    | some route =>
      simp only [hroute, seq_eq_ok, pure_eq_ok] at hnext
      exact hnext.2 ▸ h
    | none =>
      simp only [hroute, seq_eq_ok, pure_eq_ok] at hnext
      rw [← hnext.2]
      exact h.setRoute nofun
  | registerPresence registration nowMs =>
    simp only [RegistryState.registerPresence, bind_eq_ok, pure_eq_ok] at hnext
    obtain ⟨_, -, _, -, route, -, _, hsame, rfl⟩ := hnext
    rw [ensure_eq_ok, not_or, not_not, not_not] at hsame
    refine h.setRoute ?_
    rintro presence ⟨⟩
    exact ⟨hsame.1.symm, hsame.2.symm⟩
  | registerDeviceGrant =>
    obtain ⟨route, hroute, -, rfl | ⟨-, -, rfl⟩⟩ := registerDeviceGrant_eq_ok hnext
    · exact h
    · exact h.setRoute fun presence => h _ route presence hroute
  | revokeDevice =>
    obtain ⟨route, grant, hroute, -, -, rfl⟩ := revokeDevice_eq_ok hnext
    refine RegistryState.Present.of_routes ?_ routes_removePush
    exact h.setRoute fun presence => h _ route presence hroute
  | registerPush =>
    simp only [RegistryState.registerPush, seq_eq_ok, pure_eq_ok] at hnext
    obtain ⟨-, -, -, rfl⟩ := hnext
    exact h.of_routes rfl
  | deletePush =>
    simp only [RegistryState.deletePush, seq_eq_ok, pure_eq_ok] at hnext
    obtain ⟨-, rfl⟩ := hnext
    exact h.of_routes routes_removePush
  | deletePushForService routeId slotId =>
    rw [deletePushForService_eq_ok hnext]
    exact h.of_routes routes_removePush

/-- the state and the file agree on what becomes of a route, also after a write that failed too late -/
structure Registry.Steady (registry : Registry) : Prop where
  state : registry.state.Present
  file : registry.file.Present
  ahead : registry.state.Follows registry.file

theorem Registry.Steady.commit {registry : Registry} (hmutation : Mutation env mutate) (h : registry.Steady) :
    (registry.commit mutate outcome).2.Steady := by
  unfold Registry.commit
  cases hnext : mutate registry.state with
  | error e => exact h
  | ok next =>
    cases outcome with
    | written => exact ⟨hmutation.present hnext h.state, present_persisted, persisted_follows⟩
    | failed => exact h
    | unsynced => exact ⟨h.state, present_persisted, (hmutation.follows hnext).trans persisted_follows⟩

end

/-! ## What the answers confirm -/

/-- an answer that names the endpoint of a route -/
structure Confirmation where
  requestId : Nat
  route : String
  endpoint : String
  url : String
  expiresAtMs : Option Int

variable {c : Confirmation}

def confirmation : RemoteControlFrame → RemoteControlFrame → Option Confirmation
  | .registerRoute _ _ _ route _ _ endpoint url, .routeRegistered requestId => some ⟨requestId, route, endpoint, url, none⟩
  | .resolveRoute _ _ _ route _ _, .routeResolved requestId endpoint url expiresAtMs =>
    some ⟨requestId, route, endpoint, url, some expiresAtMs⟩
  | _, _ => none

/-- the registry has the route, with this endpoint and this address -/
structure RegistryState.Confirms (state : RegistryState) (frame : RemoteControlFrame) (c : Confirmation) : Prop where
  requestId : frame.requestId = some c.requestId
  route : ∃ (routeId : RouteId) (route : RouteRecord), OpaqueId.fromOpaque c.route = some routeId ∧
    state.routes[routeId]? = some route ∧
    route.hostEndpoint.text = c.endpoint ∧ route.relayUrl = c.url
  expiry : ∀ expiresAtMs ∈ c.expiresAtMs, 0 ≤ expiresAtMs

theorem RegistryState.Confirms.follows (h : state.Confirms frame c) (hfollows : state.Follows next) :
    next.Confirms frame c := by
  obtain ⟨routeId, route, hid, hroute, hendpoint, hurl⟩ := h.route
  obtain ⟨route', hroute', hkept⟩ := hfollows routeId route hroute
  refine ⟨h.requestId, ⟨routeId, route', hid, hroute', ?_, hkept.url.trans hurl⟩, h.expiry⟩
  rw [hkept.endpoint, hendpoint]

section

variable {env : RelayEnv} {registry : Registry}

theorem registerRoute_confirms {registration : RouteRegistration} (hnext : state.registerRoute env registration = .ok next) :
    ∃ route, next.routes[registration.routeId]? = some route ∧ route.hostEndpoint = registration.hostEndpoint ∧
      route.relayUrl = registration.relayUrl := by
  simp only [RegistryState.registerRoute, bind_eq_ok] at hnext
  obtain ⟨_, -, hnext⟩ := hnext
  cases hroute : state.routes[registration.routeId]? with
  | some route =>
    simp only [hroute, seq_eq_ok, pure_eq_ok, ensure_eq_ok, not_or, not_not] at hnext
    obtain ⟨⟨-, -, hendpoint, hurl⟩, rfl⟩ := hnext
    exact ⟨route, hroute, hendpoint, hurl⟩
  | none =>
    simp only [hroute, seq_eq_ok, pure_eq_ok] at hnext
    rw [← hnext.2, get_setRoute, if_pos rfl]
    exact ⟨_, rfl, rfl, rfl⟩

theorem resolve_confirms {slotId : DeviceSlotId} {accessToken : AccessToken} {atMs : Nat} {resolved : ResolveResponse}
    (hpresent : state.Present) (h : state.resolve env routeId slotId accessToken atMs = .ok resolved) :
    ∃ route, state.routes[routeId]? = some route ∧ route.hostEndpoint = resolved.hostEndpoint ∧
      route.relayUrl = resolved.relayUrl := by
  unfold RegistryState.resolve at h
  cases hroute : state.routes[routeId]? with
  | none =>
    rw [hroute] at h
    cases h
  | some route =>
    simp only [hroute, seq_eq_ok] at h
    obtain ⟨-, -, h⟩ := h
    cases hpresence : route.presence.filter fun presence => presence.expiresAtMs ≥ atMs with
    | none =>
      rw [hpresence] at h
      cases h
    | some presence =>
      rw [hpresence] at h
      cases h
      obtain ⟨hendpoint, hurl⟩ := hpresent routeId route presence hroute (Option.filter_eq_some_iff.mp hpresence).1
      exact ⟨route, rfl, hendpoint.symm, hurl.symm⟩

theorem toI64_eq_ok {n : Nat} {i : Int} : toI64 n = .ok i ↔ (n : Int) ≤ State.i64Max ∧ (n : Int) = i := by
  simp only [toI64, seq_eq_ok, ensure_eq_ok, pure_eq_ok]

theorem perform_confirms {now later : Nat} {replayed : Bool} (hpresent : registry.state.Present) :
    Returns (fun handled registry' => ∀ c, confirmation frame handled.response = some c → registry'.state.Confirms frame c)
      (perform env frame now later replayed outcome) registry := by
  cases frame with
  | registerRoute requestId operationId issuedAtMs route hint admin endpoint url =>
    refine .lift_bind fun routeId hrouteId => .lift_bind fun _ _ => .lift_bind fun _ _ => .lift_bind fun hostEndpoint hhost =>
      .committed_bind fun next hnext => .pure ?_
    rintro c ⟨⟩
    obtain ⟨record, hrecord, hendpoint, hurl⟩ := registerRoute_confirms hnext
    refine ⟨rfl, ⟨routeId, record, parseId_eq_ok.mp hrouteId, hrecord, ?_, hurl⟩, nofun⟩
    rw [hendpoint]
    exact OpaqueId.text_of_fromOpaque (parseId_eq_ok.mp hhost)
  | resolveRoute requestId operationId issuedAtMs route slot token =>
    refine .lift_bind fun routeId hrouteId => .lift_bind fun _ _ => .lift_bind fun _ _ =>
      .looked_bind fun resolved hresolved => .lift_bind fun expiresAtMs hexpires => .pure ?_
    rintro c ⟨⟩
    obtain ⟨record, hrecord, hendpoint, hurl⟩ := resolve_confirms hpresent hresolved
    refine ⟨rfl, ⟨routeId, record, parseId_eq_ok.mp hrouteId, hrecord, by rw [hendpoint], hurl⟩, ?_⟩
    rintro _ ⟨⟩
    obtain ⟨-, rfl⟩ := toI64_eq_ok.mp hexpires
    exact Int.natCast_nonneg _
  | _ => exact fun handled registry' _ c hc => by cases hc

theorem Reply.confirms {s' : System} (hreply : Reply env s s' a) (hpresent : s.registry.state.Present) :
    ∀ c, confirmation a.frame a.outcome.response = some c → s'.registry.state.Confirms a.frame c := by
  intro c hc
  cases hreply with
  | refused outcome =>
    rw [outcome] at hc
    cases hframe : a.frame <;> rw [hframe] at hc <;> cases hc
  | hello frame wake =>
    rw [frame] at hc
    cases hc
  | @performed now later replayed write result ran outcome =>
    cases result with
    | error code =>
      rw [outcome] at hc
      cases hframe : a.frame <;> rw [hframe] at hc <;> cases hc
    | ok handled =>
      rw [outcome] at hc
      exact perform_confirms hpresent _ _ ran c hc

end

/-! ## Runs, across restarts -/

/-- a step of the service, or its restart on the file -/
inductive Event where
  | input (input : Input)
  | reopen

namespace System

/-- a restart keeps the file; the record of the answers goes on -/
def live (env : RelayEnv) (s : System) : Event → System
  | .input input => s.step env input
  | .reopen =>
    match Registry.openFile s.registry.file with
    | .ok registry => { registry, answers := s.answers }
    | .error _ => s

structure Confirming (s : System) : Prop where
  steady : s.registry.Steady
  answers : ∀ a ∈ s.answers, ∀ c, confirmation a.frame a.outcome.response = some c → s.registry.state.Confirms a.frame c

variable {env : RelayEnv} {s : System}

theorem Confirming.step (h : s.Confirming) (input : Input) : (s.step env input).Confirming := by
  have hsteady : (s.step env input).registry.Steady := by
    rcases step_commits env s input with hsame | ⟨mutate, outcome, hmutation, -, hcommit⟩
    · rw [hsame]
      exact h.steady
    · rw [hcommit]
      exact h.steady.commit hmutation
  refine ⟨hsteady, fun a ha c hc => ?_⟩
  have hold : a ∈ s.answers → (s.step env input).registry.state.Confirms a.frame c :=
    fun ha => (h.answers a ha c hc).follows (step_follows env s input)
  rcases step_replies env s input with hsame | ⟨added, hadded, hreply⟩
  · rw [hsame] at ha
    exact hold ha
  · rw [hadded, List.mem_append, List.mem_singleton] at ha
    rcases ha with ha | rfl
    · exact hold ha
    · exact hreply.confirms h.steady.state c hc

theorem Confirming.live (h : s.Confirming) (event : Event) : (s.live env event).Confirming := by
  cases event with
  | input input => exact h.step input
  | reopen =>
    unfold System.live
    cases hopen : Registry.openFile s.registry.file with
    | error e => exact h
    | ok registry =>
      simp only [Registry.openFile, seq_eq_ok, pure_eq_ok] at hopen
      obtain ⟨-, rfl⟩ := hopen
      exact ⟨⟨h.steady.file, h.steady.file, .refl⟩, fun a ha c hc => (h.answers a ha c hc).follows h.steady.ahead⟩

variable (env) in
theorem live_confirming (events : List Event) : (runFrom (live env) {} events).Confirming := by
  have hempty : ({} : RegistryState).Present := by
    intro routeId route presence hroute
    simp at hroute
  have hstart : Confirming {} := ⟨⟨hempty, hempty, .refl⟩, fun a ha => absurd ha List.not_mem_nil⟩
  exact run_inv_all (fun s event h => h.live event) hstart events

end System

/-! ## Which identifiers the relay takes -/

/-- the last characters of a text that stands for 32 bytes: the two low bits are zero -/
def lastOf32 : List Char := "AEIMQUYcgkosw048".toList

set_option maxRecDepth 4096 in
theorem digit_mem_lastOf32 : ∀ n < 64, Base64.digit n ∈ lastOf32 ↔ n % 4 = 0 := by decide

set_option maxRecDepth 4096 in
theorem alphabet_of_ascii : ∀ n < 128, (Char.ofNat n).isAlphanum = true → Char.ofNat n ∈ Base64.alphabet := by decide

theorem alphabet_of_isAlphanum {c : Char} (h : c.isAlphanum = true) : c ∈ Base64.alphabet := by
  have hlt : c.toNat < 128 := by
    simp only [Char.isAlphanum, Char.isAlpha, Char.isUpper, Char.isLower, Char.isDigit, Bool.or_eq_true,
      Bool.and_eq_true, decide_eq_true_eq, UInt32.le_iff_toNat_le] at h
    simp only [Char.toNat]
    grind
  have hmem := alphabet_of_ascii c.toNat hlt
  rw [Char.ofNat_toNat] at hmem
  exact hmem h

/-- of a text with 43 characters, the last leaves no bit over -/
theorem endsCanonically_43 {text : List Char} (hlength : text.length = 43) (halphabet : ∀ c ∈ text, c ∈ Base64.alphabet) :
    Base64.endsCanonically text = true ↔ ∃ c ∈ lastOf32, text.getLast? = some c := by
  cases hlast : text.getLast? with
  | none =>
    rw [List.getLast?_eq_none_iff] at hlast
    rw [hlast] at hlength
    cases hlength
  | some c =>
    obtain ⟨n, hn⟩ := Base64.exists_value_iff.mpr (halphabet c (List.mem_of_getLast? hlast))
    obtain ⟨hlt, rfl⟩ := Base64.digit_value hn
    have hends : Base64.endsCanonically text = decide (n % 4 = 0) := by
      rw [Base64.endsCanonically, hlength, hlast, Option.bind_some, hn]
      rfl
    rw [hends, decide_eq_true_iff, ← digit_mem_lastOf32 n hlt]
    simp

/-- an alphanumeric text stands for 32 bytes when it has 43 characters and the last leaves no bit over -/
theorem fromOpaque_iff {text : String} (h : text.toList.all Char.isAlphanum = true) :
    (∃ id : HostEndpointId, OpaqueId.fromOpaque text = some id) ↔
      text.toList.length = 43 ∧ ∃ c ∈ lastOf32, text.toList.getLast? = some c := by
  have halphabet : ∀ c ∈ text.toList, c ∈ Base64.alphabet := fun c hc => alphabet_of_isAlphanum (List.all_eq_true.mp h c hc)
  constructor
  · rintro ⟨id, hid⟩
    have hdecode := OpaqueId.fromOpaque_eq_some.mp hid
    have hlength : text.toList.length = 43 := by
      have hbytes := Base64.length_of_decode hdecode
      rw [id.size] at hbytes
      omega
    have hends := (Base64.decode_isSome_iff.mp (by rw [hdecode]; rfl)).2
    exact ⟨hlength, (endsCanonically_43 hlength halphabet).mp hends⟩
  · rintro ⟨hlength, hlast⟩
    have hsome := Base64.decode_isSome_iff.mpr ⟨halphabet, (endsCanonically_43 hlength halphabet).mpr hlast⟩
    obtain ⟨bytes, hdecode⟩ := Option.isSome_iff_exists.mp hsome
    have hbytes := Base64.length_of_decode hdecode
    rw [hlength] at hbytes
    exact ⟨⟨bytes, hbytes⟩, OpaqueId.fromOpaque_eq_some.mpr hdecode⟩

end Kaleido.Relay

namespace Kaleido.Core

open Check Hostd Relay Transport

/-! ## The phone -/

/-- `RemoteAccess`, as far as the endpoint goes -/
structure RemoteAccess where
  hostEndpointId : String
  relayUrl : String

structure ResolvedRemoteRoute where
  hostEndpointId : String
  relayUrl : String

/-- `validate_resolved_route` -/
def validateResolvedRoute (remote : RemoteAccess) (response : RemoteControlFrame) (nowMs : Int) :
    Except MobileClientError ResolvedRemoteRoute :=
  match response with
  | .routeResolved _ hostEndpointId relayUrl expiresAtMs => do
    ensure (¬ (expiresAtMs ≤ nowMs ∨ hostEndpointId ≠ remote.hostEndpointId ∨ relayUrl ≠ remote.relayUrl)) .authentication
    return ⟨hostEndpointId, relayUrl⟩
  | _ => .error .authentication

/-- host, relay and phone agree on an endpoint: the relay accepts it, and whenever a registration with it is answered, a phone
that resolves the route is answered with the same endpoint, in a frame that is valid, and takes the answer while it lasts -/
structure Agreed (endpointId : String) : Prop where
  accepted : ∃ id : HostEndpointId, OpaqueId.fromOpaque endpointId = some id
  resolved : ∀ (env : RelayEnv) (events : List Event) (registration resolution : Answered) requestId operationId issuedAtMs route
    hint admin url requestId' operationId' issuedAtMs' slot token endpoint' url' expiresAtMs,
    registration ∈ (runFrom (System.live env) {} events).answers →
    resolution ∈ (runFrom (System.live env) {} events).answers →
    registration.frame = .registerRoute requestId operationId issuedAtMs route hint admin endpointId url →
    registration.frame.validate = .ok () →
    registration.outcome.response = .routeRegistered requestId →
    resolution.frame = .resolveRoute requestId' operationId' issuedAtMs' route slot token →
    resolution.frame.validate = .ok () →
    resolution.outcome.response = .routeResolved requestId' endpoint' url' expiresAtMs →
    endpoint' = endpointId ∧ resolution.outcome.response.validate = .ok () ∧
      ∀ nowMs < expiresAtMs,
        validateResolvedRoute ⟨endpointId, url⟩ resolution.outcome.response nowMs = .ok ⟨endpointId, url⟩

/-- two answers about one route name the same endpoint and the same address -/
theorem confirmations_agree {s : System} {a b : Answered} {c d : Confirmation} (h : s.Confirming) (ha : a ∈ s.answers)
    (hb : b ∈ s.answers) (hc : confirmation a.frame a.outcome.response = some c)
    (hd : confirmation b.frame b.outcome.response = some d) (hroute : c.route = d.route) :
    c.endpoint = d.endpoint ∧ c.url = d.url := by
  obtain ⟨routeId, route, hid, hfound, hendpoint, hurl⟩ := (h.answers a ha c hc).route
  obtain ⟨routeId', route', hid', hfound', hendpoint', hurl'⟩ := (h.answers b hb d hd).route
  rw [hroute, hid'] at hid
  cases hid
  cases hfound.symm.trans hfound'
  exact ⟨hendpoint.symm.trans hendpoint', hurl.symm.trans hurl'⟩

/-- the endpoints that a host may have and the relay accepts are those of 32 bytes -/
def Canonical (endpointId : String) : Prop :=
  endpointId.toList.length = 43 ∧ ∃ c ∈ lastOf32, endpointId.toList.getLast? = some c

/-- **Host, relay and phone agree on an endpoint exactly when it is the text of 32 bytes.** The two validators that it passes
first allow any alphanumeric text. -/
theorem endpoint_ids_agree (endpointId : String) (hhost : validateHostEndpointId endpointId = .ok ())
    (htransport : validateEndpointId endpointId = .ok ()) : Agreed endpointId ↔ Canonical endpointId := by
  have halnum : endpointId.toList.all Char.isAlphanum = true := by
    simp only [validateHostEndpointId, ensure_eq_ok, not_or, not_not] at hhost
    exact hhost.2.2
  constructor
  · intro h
    exact (fromOpaque_iff halnum).mp h.accepted
  intro hcanonical
  refine ⟨(fromOpaque_iff halnum).mpr hcanonical, ?_⟩
  intro env events registration resolution requestId operationId issuedAtMs route hint admin url requestId' operationId'
    issuedAtMs' slot token endpoint' url' expiresAtMs hregistration hresolution hregister hregisterValid hregistered hresolve
    hresolveValid hresolved
  have hconfirming := System.live_confirming env events
  have hc : confirmation registration.frame registration.outcome.response = some ⟨requestId, route, endpointId, url, none⟩ := by
    rw [hregister, hregistered]
    rfl
  have hd : confirmation resolution.frame resolution.outcome.response =
      some ⟨requestId', route, endpoint', url', some expiresAtMs⟩ := by
    rw [hresolve, hresolved]
    rfl
  obtain ⟨rfl, rfl⟩ := confirmations_agree hconfirming hregistration hresolution hc hd rfl
  have hexpiry := (hconfirming.answers resolution hresolution _ hd).expiry expiresAtMs rfl
  refine ⟨rfl, ?_, fun nowMs hnow => ?_⟩
  · -- the number is that of the request, the address that of the registration
    rw [hregister] at hregisterValid
    rw [hresolve] at hresolveValid
    simp only [RemoteControlFrame.validate, RemoteControlFrame.validateFields, seq_eq_ok] at hregisterValid hresolveValid
    rw [hresolved]
    simp only [RemoteControlFrame.validate, RemoteControlFrame.validateFields, seq_eq_ok, ensure_eq_ok]
    exact ⟨ensure_eq_ok.mp hresolveValid.1, htransport, hregisterValid.2.2.2.2.2.2, by omega⟩
  · rw [hresolved]
    simp only [validateResolvedRoute, seq_eq_ok, ensure_eq_ok, pure_eq_ok, ne_eq, not_true_eq_false, or_false, not_le,
      and_true]
    exact hnow

/-- an endpoint of 32 bytes, as the relay writes it -/
def canonicalEndpoint : String := String.ofList (List.replicate 43 'A')

theorem endpoint_ids_agree_canonical : Agreed canonicalEndpoint :=
  (endpoint_ids_agree canonicalEndpoint (by decide +kernel) (by decide +kernel)).mpr
    ⟨by decide +kernel, 'A', by decide +kernel, by decide +kernel⟩

/-- an endpoint as a host has it: 32 bytes in lower-case hexadecimal -/
def hexEndpoint : String := "d75a980182b10ab7d54bfed3c964073a0ee172f3daa62325af021a68f707511a"

/-- both validators accept it, and the relay does not -/
theorem hex_endpoint_refused : validateHostEndpointId hexEndpoint = .ok () ∧ validateEndpointId hexEndpoint = .ok () ∧
    (OpaqueId.fromOpaque hexEndpoint : Option HostEndpointId) = none ∧ ¬ Agreed hexEndpoint := by
  have hnone : (OpaqueId.fromOpaque hexEndpoint : Option HostEndpointId) = none := by decide +kernel
  refine ⟨by decide +kernel, by decide +kernel, hnone, fun h => ?_⟩
  obtain ⟨id, hid⟩ := h.accepted
  rw [hnone] at hid
  cases hid

end Kaleido.Core
