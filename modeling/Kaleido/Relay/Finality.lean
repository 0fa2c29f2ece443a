/-
Revocation at the relay (`kaleido-relay`, `registry.rs` and `control.rs`), over every run of the control service.

`Follows` is what the registry's mutations do to a route: its administrator, its endpoint and its address stay, a revoked slot
stays revoked and gets no grant, and a granted slot stays granted or is revoked. `step_follows` says it of a step; the rest is
what a retired slot can no longer do.

`revocation_final` is the result. It holds of every interleaving: a request that was authorised before the revocation and acts
after it is refused as well, because each action checks the grant again under the lock of the registry.
-/
import Kaleido.Relay.Integrity

namespace Kaleido.Relay

open Check Transport

variable {slotId : DeviceSlotId} {routeId : RouteId} {adminToken : RouteAdminToken}
  {mutate : RegistryState → Except RemoteError RegistryState} {outcome : WriteOutcome} {registry : Registry}
  {state next : RegistryState} {admin operationId route slot : String} {replayed : Bool} {accessToken : AccessToken}
  {frame : RemoteControlFrame} {now later requestId seen : Nat} {issuedAtMs : Int} {id : OperationId} {s s' : System}
  {env : RelayEnv} {a : Answered} {digest : Digest} {reached : Registry} {code : RemoteErrorCode}
  {connection connection' : ControlConnection}

/-! ## What becomes of a route -/

/-- a slot that was revoked and has no grant -/
def RouteRecord.retired (route : RouteRecord) (slotId : DeviceSlotId) : Prop :=
  route.revoked.contains slotId = true ∧ route.grants.contains slotId = false

structure RouteRecord.Follows (route route' : RouteRecord) : Prop where
  admin : route'.adminDigest = route.adminDigest
  endpoint : route'.hostEndpoint = route.hostEndpoint
  url : route'.relayUrl = route.relayUrl
  retired : ∀ slotId, route.retired slotId → route'.retired slotId
  granted : ∀ slotId : DeviceSlotId, route.grants.contains slotId = true →
    route'.grants.contains slotId = true ∨ route'.retired slotId

namespace RouteRecord.Follows

variable {route route' route'' : RouteRecord}

theorem refl : Follows route route := ⟨rfl, rfl, rfl, fun _ h => h, fun _ h => .inl h⟩

theorem trans (h : Follows route route') (h' : Follows route' route'') : Follows route route'' where
  admin := h'.admin.trans h.admin
  endpoint := h'.endpoint.trans h.endpoint
  url := h'.url.trans h.url
  retired slotId hretired := h'.retired slotId (h.retired slotId hretired)
  granted slotId hgranted := by
    rcases h.granted slotId hgranted with hgranted | hretired
    · exact h'.granted slotId hgranted
    · exact .inr (h'.retired slotId hretired)

/-- the slots are left alone -/
theorem of_slots (hadmin : route'.adminDigest = route.adminDigest) (hendpoint : route'.hostEndpoint = route.hostEndpoint)
    (hurl : route'.relayUrl = route.relayUrl) (hgrants : route'.grants = route.grants) (hrevoked : route'.revoked = route.revoked) :
    Follows route route' where
  admin := hadmin
  endpoint := hendpoint
  url := hurl
  retired slotId h := by
    rw [RouteRecord.retired, hgrants, hrevoked]
    exact h
  granted slotId h := by
    rw [hgrants]
    exact .inl h

/-- a grant for a slot that is not revoked -/
theorem of_grant {grant : GrantRecord} (h : ¬ route.revoked.contains slotId = true) :
    Follows route { route with grants := route.grants.insert slotId grant } where
  admin := rfl
  endpoint := rfl
  url := rfl
  retired other hretired := by
    have hne : slotId ≠ other := fun heq => h (heq ▸ hretired.1)
    refine ⟨hretired.1, ?_⟩
    simp [Std.ExtTreeMap.contains_insert, hne, hretired.2]
  granted other hgranted := by
    left
    simp [Std.ExtTreeMap.contains_insert, hgranted]

/-- a grant that becomes a tombstone -/
theorem of_revocation :
    Follows route { route with grants := route.grants.erase slotId, revoked := route.revoked.insert slotId digest } where
  admin := rfl
  endpoint := rfl
  url := rfl
  retired other hretired := by
    simp [RouteRecord.retired, Std.ExtTreeMap.contains_insert, Std.ExtTreeMap.contains_erase, hretired.1, hretired.2]
  granted other hgranted := by
    by_cases hsame : slotId = other
    · right
      simp [RouteRecord.retired, Std.ExtTreeMap.contains_insert, Std.ExtTreeMap.contains_erase, hsame]
    · left
      simp [Std.ExtTreeMap.contains_erase, hgranted, hsame]

end RouteRecord.Follows

/-- every route is still there, and followed -/
def RegistryState.Follows (state next : RegistryState) : Prop :=
  ∀ (routeId : RouteId) route, state.routes[routeId]? = some route →
    ∃ route', next.routes[routeId]? = some route' ∧ route.Follows route'

namespace RegistryState.Follows

variable {last : RegistryState}

theorem refl : Follows state state := fun _ route hroute => ⟨route, hroute, .refl⟩

theorem trans (h : Follows state next) (h' : Follows next last) : Follows state last := by
  intro routeId route hroute
  obtain ⟨route', hroute', hfollows⟩ := h routeId route hroute
  obtain ⟨route'', hroute'', hfollows'⟩ := h' routeId route' hroute'
  exact ⟨route'', hroute'', hfollows.trans hfollows'⟩

theorem of_routes (h : next.routes = state.routes) : Follows state next := by
  intro routeId route hroute
  rw [h]
  exact ⟨route, hroute, .refl⟩

/-- a route takes the place of one that it follows, or of none -/
theorem setRoute {route : RouteRecord} (h : ∀ old, state.routes[routeId]? = some old → old.Follows route) :
    Follows state (state.setRoute routeId route) := by
  intro other old hold
  rw [get_setRoute]
  split_ifs with hsame
  · subst hsame
    exact ⟨route, rfl, h old hold⟩
  · exact ⟨old, hold, .refl⟩

end RegistryState.Follows

theorem registerRoute_follows {registration : RouteRegistration} (hnext : state.registerRoute env registration = .ok next) :
    state.Follows next := by
  simp only [RegistryState.registerRoute, bind_eq_ok] at hnext
  obtain ⟨_, -, hnext⟩ := hnext
  cases hroute : state.routes[registration.routeId]? with
  | some route =>
    simp only [hroute, seq_eq_ok, pure_eq_ok] at hnext
    exact hnext.2 ▸ .refl
  | none =>
    simp only [hroute, seq_eq_ok, pure_eq_ok] at hnext
    rw [← hnext.2]
    exact .setRoute (by simp [hroute])

theorem registerPresence_follows {registration : PresenceRegistration} {nowMs : Nat}
    (hnext : state.registerPresence env registration nowMs = .ok next) : state.Follows next := by
  simp only [RegistryState.registerPresence, bind_eq_ok, pure_eq_ok, adminRoute_eq_ok] at hnext
  obtain ⟨_, -, _, -, route, ⟨hroute, -⟩, _, -, rfl⟩ := hnext
  refine .setRoute fun old hold => ?_
  cases hroute.symm.trans hold
  exact .of_slots rfl rfl rfl rfl rfl

theorem registerDeviceGrant_follows {registration : DeviceGrantRegistration}
    (hnext : state.registerDeviceGrant env registration = .ok next) : state.Follows next := by
  obtain ⟨route, hroute, hrevoked, rfl | ⟨-, -, rfl⟩⟩ := registerDeviceGrant_eq_ok hnext
  · exact .refl
  refine .setRoute fun old hold => ?_
  cases hroute.symm.trans hold
  exact .of_grant hrevoked

theorem revokeDevice_follows (hnext : state.revokeDevice env routeId adminToken slotId = .ok next) : state.Follows next := by
  obtain ⟨route, grant, hroute, -, hgrant, rfl⟩ := revokeDevice_eq_ok hnext
  refine .trans (.setRoute fun old hold => ?_) (.of_routes routes_removePush)
  cases hroute.symm.trans hold
  exact .of_revocation

/-- what a mutation does to the routes -/
theorem Mutation.follows (h : Mutation env mutate) (hnext : mutate state = .ok next) : state.Follows next := by
  cases h with
  | registerRoute => exact registerRoute_follows hnext
  | registerPresence => exact registerPresence_follows hnext
  | registerDeviceGrant => exact registerDeviceGrant_follows hnext
  | revokeDevice => exact revokeDevice_follows hnext
  | registerPush =>
    simp only [RegistryState.registerPush, seq_eq_ok, pure_eq_ok] at hnext
    obtain ⟨-, -, -, rfl⟩ := hnext
    exact .of_routes rfl
  | deletePush =>
    simp only [RegistryState.deletePush, seq_eq_ok, pure_eq_ok] at hnext
    obtain ⟨-, rfl⟩ := hnext
    exact .of_routes routes_removePush
  | deletePushForService routeId slotId =>
    rw [deletePushForService_eq_ok hnext]
    exact .of_routes routes_removePush

theorem commit_follows (hmutation : Mutation env mutate) : registry.state.Follows (registry.commit mutate outcome).2.state := by
  unfold Registry.commit
  cases hnext : mutate registry.state with
  | error e => exact .refl
  | ok next =>
    cases outcome with
    | written => exact hmutation.follows hnext
    | failed | unsynced => exact .refl

namespace System

theorem step_follows (env : RelayEnv) (s : System) (input : Input) : s.registry.state.Follows (s.step env input).registry.state := by
  rcases step_commits env s input with hsame | ⟨mutate, outcome, hmutation, -, hcommit⟩
  · rw [hsame]
    exact .refl
  · rw [hcommit]
    exact commit_follows hmutation

end System

/-! ## What a retired slot can no longer do -/

def RegistryState.retired (state : RegistryState) (routeId : RouteId) (slotId : DeviceSlotId) : Prop :=
  ∃ route, state.routes[routeId]? = some route ∧ route.retired slotId

/-- a retired slot of a route, with the digest of its administrator's token -/
def RegistryState.tombstone (state : RegistryState) (routeId : RouteId) (slotId : DeviceSlotId) (admin : Digest) : Prop :=
  ∃ route, state.routes[routeId]? = some route ∧ route.retired slotId ∧ route.adminDigest = admin

theorem RegistryState.tombstone.retired (h : state.tombstone routeId slotId digest) :
    state.retired routeId slotId := by
  obtain ⟨route, hroute, hretired, -⟩ := h
  exact ⟨route, hroute, hretired⟩

/-- the texts of the route and the slot of a request that needs a grant, or makes one -/
def pairOf : RemoteControlFrame → Option (String × String)
  | .resolveRoute _ _ _ routeId slotId _ | .replacePushAddress _ _ _ routeId slotId _ _
  | .deletePushAddress _ _ _ routeId slotId _ | .wakeDevice _ _ _ routeId slotId _ _
  | .registerDeviceGrant _ _ _ routeId slotId _ _ => some (routeId, slotId)
  | _ => none

/-- the request is for this slot of this route -/
def concerns (routeId : RouteId) (slotId : DeviceSlotId) (frame : RemoteControlFrame) : Prop :=
  ∃ pair, pairOf frame = some pair ∧ OpaqueId.fromOpaque pair.1 = some routeId ∧ OpaqueId.fromOpaque pair.2 = some slotId

theorem parseId_eq_ok {n : Nat} {value : String} {i : OpaqueId n} :
    (parseId value : Except RemoteErrorCode (OpaqueId n)) = .ok i ↔ OpaqueId.fromOpaque value = some i := by
  unfold parseId
  cases (OpaqueId.fromOpaque value : Option (OpaqueId n)) <;> simp

theorem commit_eq_ok {u : Unit} (h : registry.commit mutate outcome = (.ok u, reached)) :
    ∃ next, mutate registry.state = .ok next ∧ reached = ⟨next, next.persisted⟩ := by
  unfold Registry.commit at h
  cases hnext : mutate registry.state with
  | error e =>
    rw [hnext] at h
    cases h
  | ok next =>
    rw [hnext] at h
    cases outcome <;> cases h
    exact ⟨next, rfl, rfl⟩

/-- a failure of the storage is not taken for a revocation -/
theorem commit_refused {e : RemoteError} (h : registry.commit mutate outcome = (.error e, reached))
    (hcode : e.code = .revoked) : mutate registry.state = .error (.rejected .revoked) ∧ reached = registry := by
  unfold Registry.commit at h
  cases hnext : mutate registry.state with
  | error e' =>
    rw [hnext] at h
    cases h
    cases e with
    | rejected code =>
      cases hcode
      exact ⟨rfl, rfl⟩
    | _ => cases hcode
  | ok next =>
    rw [hnext] at h
    cases outcome <;> cases h <;> cases hcode

/-- what a program that returns a value comes to -/
def Returns {α : Type} (Q : α → Registry → Prop) (p : RegistryM α) (registry : Registry) : Prop :=
  ∀ a registry', p registry = (.ok a, registry') → Q a registry'

namespace Returns

variable {α β : Type} {Q : β → Registry → Prop}

theorem fail : Returns Q (Prog.fail code) registry := by
  intro a registry' h
  cases h

theorem pure {b : β} (h : Q b registry) : Returns Q (pure b) registry := by
  intro a registry' heq
  cases heq
  exact h

theorem lift_bind {x : Except RemoteErrorCode α} {f : α → RegistryM β} (h : ∀ a, x = .ok a → Returns Q (f a) registry) :
    Returns Q (Prog.liftExcept x >>= f) registry := by
  intro b registry' heq
  obtain ⟨a, middle, hx, hf⟩ := Prog.run_bind_eq_ok.mp heq
  cases hx
  exact h a rfl b registry' hf

/-- a text that is an identifier is parsed as that one -/
theorem parsed_bind {n : Nat} {value : String} {i : OpaqueId n} {f : OpaqueId n → RegistryM β}
    (hvalue : OpaqueId.fromOpaque value = some i) (h : Returns Q (f i) registry) :
    Returns Q (Prog.liftExcept (parseId value) >>= f) registry :=
  lift_bind fun j hj => by
    rw [parseId_eq_ok, hvalue] at hj
    cases hj
    exact h

theorem looked_bind {read : RegistryState → Except RemoteError α} {f : α → RegistryM β}
    (h : ∀ a, read registry.state = .ok a → Returns Q (f a) registry) : Returns Q (looked read >>= f) registry := by
  intro b registry' heq
  obtain ⟨a, middle, hread, hf⟩ := Prog.run_bind_eq_ok.mp heq
  cases hstate : read registry.state with
  | error e =>
    rw [looked, hstate] at hread
    cases hread
  | ok found =>
    rw [looked, hstate] at hread
    cases hread
    exact h a hstate b registry' hf

/-- a commit that returns has written the next state, unless it is a retry of a revocation that found the slot without a grant -/
theorem revoked_bind {f : Unit → RegistryM β}
    (h : ∀ next, mutate registry.state = .ok next → Returns Q (f ()) ⟨next, next.persisted⟩)
    (hretry : replayed = true → mutate registry.state = .error (.rejected .revoked) → Returns Q (f ()) registry) :
    Returns Q (revoked mutate replayed outcome >>= f) registry := by
  intro b registry' heq
  obtain ⟨_, middle, hrevoked, hf⟩ := Prog.run_bind_eq_ok.mp heq
  unfold revoked at hrevoked
  rcases hcommit : registry.commit mutate outcome with ⟨e | _, reached⟩
  · simp only [hcommit] at hrevoked
    split_ifs at hrevoked with hcode
    · cases hrevoked
      obtain ⟨hrefused, rfl⟩ := commit_refused hcommit hcode.2
      exact hretry hcode.1 hrefused b registry' hf
    · cases hrevoked
  · rw [hcommit] at hrevoked
    cases hrevoked
    obtain ⟨next, hnext, rfl⟩ := commit_eq_ok hcommit
    exact h next hnext b registry' hf

theorem committed_bind {f : Unit → RegistryM β}
    (h : ∀ next, mutate registry.state = .ok next → Returns Q (f ()) ⟨next, next.persisted⟩) :
    Returns Q (committed mutate outcome >>= f) registry := by
  rw [committed_eq_revoked]
  exact revoked_bind h nofun

end Returns

theorem checkDevice_retired {refusal : RemoteErrorCode} (h : state.retired routeId slotId) :
    state.checkDevice env refusal routeId slotId accessToken ≠ .ok () := by
  intro hok
  obtain ⟨route, hroute, -, hnone⟩ := h
  obtain ⟨found, grant, hfound, hgrant, -⟩ := checkDevice_eq_ok.mp hok
  cases hroute.symm.trans hfound
  rw [Std.ExtTreeMap.contains_eq_isSome_getElem?, hgrant] at hnone
  cases hnone

theorem pushAddress_retired {found : Option (PushAddress × RouteId)} (h : state.retired routeId slotId) :
    state.pushAddress env routeId slotId adminToken ≠ .ok found := by
  intro hok
  obtain ⟨route, hroute, hrevoked, -⟩ := h
  simp only [RegistryState.pushAddress, hroute, seq_eq_ok, ensure_eq_ok] at hok
  exact hok.1 (.inr (.inr hrevoked))

theorem resolve_retired {atMs : Nat} {found : ResolveResponse} (h : state.retired routeId slotId) :
    state.resolve env routeId slotId accessToken atMs ≠ .ok found := by
  intro hok
  obtain ⟨route, hroute, hrevoked, -⟩ := h
  simp only [RegistryState.resolve, hroute, seq_eq_ok, ensure_eq_ok] at hok
  exact hok.1 hrevoked

theorem registerDeviceGrant_retired (h : state.retired routeId slotId) :
    state.registerDeviceGrant env ⟨routeId, slotId, accessToken, adminToken⟩ ≠ .ok next := by
  intro hok
  obtain ⟨route, hroute, hrevoked, -⟩ := h
  obtain ⟨found, hfound, hnot, -⟩ := registerDeviceGrant_eq_ok hok
  cases hroute.symm.trans hfound
  exact hnot hrevoked

/-- no request for a retired slot returns -/
theorem perform_retired (h : registry.state.retired routeId slotId) (hconcerns : concerns routeId slotId frame) :
    Returns (fun _ _ => False) (perform env frame now later replayed outcome) registry := by
  obtain ⟨pair, hpair, hroute, hslot⟩ := hconcerns
  cases frame with
  | registerDeviceGrant =>
    cases hpair
    refine .parsed_bind hroute (.lift_bind fun _ _ => .parsed_bind hslot (.lift_bind fun _ _ => .committed_bind fun next hnext => ?_))
    exact absurd hnext (registerDeviceGrant_retired h)
  | resolveRoute =>
    cases hpair
    refine .parsed_bind hroute (.parsed_bind hslot (.lift_bind fun _ _ => .looked_bind fun resolved hresolved => ?_))
    exact absurd hresolved (resolve_retired h)
  | replacePushAddress =>
    cases hpair
    refine .parsed_bind hroute (.parsed_bind hslot (.lift_bind fun _ _ => .lift_bind fun _ _ => .committed_bind fun next hnext => ?_))
    simp only [RegistryState.registerPush, seq_eq_ok] at hnext
    exact absurd hnext.2.2.1 (checkDevice_retired h)
  | deletePushAddress =>
    cases hpair
    refine .parsed_bind hroute (.parsed_bind hslot (.lift_bind fun _ _ => .committed_bind fun next hnext => ?_))
    simp only [RegistryState.deletePush, seq_eq_ok] at hnext
    exact absurd hnext.1 (checkDevice_retired h)
  | wakeDevice =>
    cases hpair
    refine .parsed_bind hroute (.parsed_bind hslot (.lift_bind fun _ _ => .looked_bind fun address haddress => ?_))
    exact absurd haddress (pushAddress_retired h)
  | _ => cases hpair

/-- a wake is for the slot that its request names -/
theorem perform_wake :
    Returns (fun handled _ => ∀ dispatch, handled.wake = some dispatch → concerns dispatch.routeId dispatch.slotId frame)
      (perform env frame now later replayed outcome) registry := by
  cases frame with
  | registerRoute | registerDeviceGrant =>
    exact .lift_bind fun _ _ => .lift_bind fun _ _ => .lift_bind fun _ _ => .lift_bind fun _ _ =>
      .committed_bind fun _ _ => .pure (by simp)
  | registerPresence =>
    exact .lift_bind fun _ _ => .lift_bind fun _ _ => .lift_bind fun _ _ =>
      .committed_bind fun _ _ => .lift_bind fun _ _ => .pure (by simp)
  | resolveRoute =>
    exact .lift_bind fun _ _ => .lift_bind fun _ _ => .lift_bind fun _ _ =>
      .looked_bind fun _ _ => .lift_bind fun _ _ => .pure (by simp)
  | replacePushAddress =>
    exact .lift_bind fun _ _ => .lift_bind fun _ _ => .lift_bind fun _ _ => .lift_bind fun _ _ =>
      .committed_bind fun _ _ => .lift_bind fun _ _ => .pure (by simp)
  | deletePushAddress =>
    exact .lift_bind fun _ _ => .lift_bind fun _ _ => .lift_bind fun _ _ => .committed_bind fun _ _ => .pure (by simp)
  | wakeDevice requestId operationId issuedAtMs route slot adminToken wakeId =>
    refine .lift_bind fun routeId hroute => .lift_bind fun slotId hslot => .lift_bind fun _ _ => .looked_bind fun found _ => ?_
    cases found with
    | none => exact .fail
    | some found =>
      simp only
      cases PushPayload.wakeWithId found.2 wakeId with
      | none => exact .fail
      | some payload =>
        refine .pure ?_
        rintro dispatch ⟨⟩
        exact ⟨(route, slot), rfl, parseId_eq_ok.mp hroute, parseId_eq_ok.mp hslot⟩
  | revokeDeviceGrant =>
    exact .lift_bind fun _ _ => .lift_bind fun _ _ => .lift_bind fun _ _ =>
      .revoked_bind (fun _ _ => .pure (by simp)) fun _ _ => .pure (by simp)
  | _ => exact .fail

/-- a revocation leaves a tombstone -/
theorem revokeDevice_tombstone (h : state.revokeDevice env routeId adminToken slotId = .ok next) :
    next.tombstone routeId slotId (RegistryState.digestOf env adminToken) := by
  obtain ⟨route, grant, hroute, hadmin, hgrant, rfl⟩ := revokeDevice_eq_ok h
  refine ⟨{ route with grants := route.grants.erase slotId, revoked := route.revoked.insert slotId grant.tokenDigest },
    by rw [routes_removePush, get_setRoute, if_pos rfl], ?_, hadmin⟩
  simp [RouteRecord.retired, Std.ExtTreeMap.contains_insert, Std.ExtTreeMap.contains_erase]

/-- a revocation that finds no grant -/
theorem revokeDevice_revoked :
    state.revokeDevice env routeId adminToken slotId = .error (.rejected .revoked) ↔
      ∃ route, state.routes[routeId]? = some route ∧ route.adminDigest = RegistryState.digestOf env adminToken ∧
        route.grants.contains slotId = false := by
  unfold RegistryState.revokeDevice RegistryState.adminRoute
  cases hroute : state.routes[routeId]? with
  | none => simp [bind, Except.bind]
  | some route =>
    by_cases hadmin : route.adminDigest = RegistryState.digestOf env adminToken
    · have hcontains : route.grants.contains slotId = (route.grants[slotId]?).isSome :=
        Std.ExtTreeMap.contains_eq_isSome_getElem?
      cases hgrant : route.grants[slotId]? with
      | none | some _ =>
        simp [hadmin, hgrant, hcontains, ensure, bind, Except.bind, pure, Except.pure]
    · simp [hadmin, ensure, bind, Except.bind]

variable (hroute : OpaqueId.fromOpaque route = some routeId) (hslot : OpaqueId.fromOpaque slot = some slotId)

include hroute hslot in
/-- a slot that had a grant and is acknowledged as revoked is retired -/
theorem perform_revoke (hknown : registry.state.granted routeId slotId ∨ registry.state.retired routeId slotId) :
    Returns (fun _ registry' => ∃ adminToken, OpaqueId.fromOpaque admin = some adminToken ∧
        registry'.state.tombstone routeId slotId (RegistryState.digestOf env adminToken))
      (perform env (.revokeDeviceGrant requestId operationId issuedAtMs route slot admin) now later replayed outcome)
      registry := by
  refine .parsed_bind hroute (.parsed_bind hslot (.lift_bind fun adminToken hadmin => ?_))
  refine .revoked_bind (fun next hnext => .pure ⟨adminToken, parseId_eq_ok.mp hadmin, revokeDevice_tombstone hnext⟩)
    fun _ hrefused => .pure ⟨adminToken, parseId_eq_ok.mp hadmin, ?_⟩
  obtain ⟨found, hfound, hdigest, hnone⟩ := revokeDevice_revoked.mp hrefused
  rcases hknown with ⟨old, hold, hgranted⟩ | ⟨old, hold, hretired⟩
  · cases hold.symm.trans hfound
    rw [hgranted] at hnone
    cases hnone
  · cases hold.symm.trans hfound
    exact ⟨_, hfound, hretired, hdigest⟩

/-- nobody is authenticated as a retired slot -/
theorem authenticateBearer_retired {bearer : String} {identity : BearerIdentity} (h : state.retired routeId slotId)
    (hok : state.authenticateBearer env bearer = .ok identity) :
    ¬ (identity.routeId = routeId ∧ identity.slotId = some slotId) := by
  unfold RegistryState.authenticateBearer at hok
  cases htoken : (OpaqueId.fromOpaque bearer : Option (OpaqueId 32)) with
  | none =>
    rw [htoken] at hok
    cases hok
  | some token =>
    simp only [htoken] at hok
    cases hfound : state.routes.toList.findSome? fun route =>
        RegistryState.bearerOf (RegistryState.digestOf env token) route.1 route.2 with
    | none =>
      simp only [hfound] at hok
      split_ifs at hok
    | some found =>
      simp only [hfound, Except.ok.injEq] at hok
      subst hok
      obtain ⟨⟨foundId, route⟩, hmem, hbearer⟩ := List.exists_of_findSome?_eq_some hfound
      have hlookup : state.routes[foundId]? = some route := Std.ExtTreeMap.mem_toList_iff_getElem?_eq_some.mp hmem
      rintro ⟨rfl, hslot⟩
      obtain ⟨retiredRoute, hroute, -, hnone⟩ := h
      unfold RegistryState.bearerOf at hbearer
      split_ifs at hbearer with hadmin
      · cases hbearer
        cases hslot
      · obtain ⟨⟨grantSlot, grant⟩, hgrant, rfl⟩ := Option.map_eq_some_iff.mp hbearer
        cases hslot
        cases hlookup.symm.trans hroute
        have hthere : route.grants[grantSlot]? = some grant :=
          Std.ExtTreeMap.mem_toList_iff_getElem?_eq_some.mp (List.mem_of_find?_eq_some hgrant)
        rw [Std.ExtTreeMap.contains_eq_isSome_getElem?, hthere] at hnone
        cases hnone

/-! ## Answers -/

/-- how a step answers a request: it refuses it, it acknowledges a hello, or it acts on the registry -/
inductive Reply (env : RelayEnv) (s s' : System) (a : Answered) : Prop where
  | refused {code : RemoteErrorCode} (outcome : a.outcome = outcomeOf a.frame (.error code))
  | hello {requestId maxFrameLength : Nat} {version : String} (frame : a.frame = .remoteHello requestId version maxFrameLength)
      (wake : a.outcome.wake = none)
  | performed {now later : Nat} {replayed : Bool} {write : WriteOutcome} {result : Except RemoteErrorCode Handled}
      (ran : perform env a.frame now later replayed write s.registry = (result, s'.registry))
      (outcome : a.outcome = outcomeOf a.frame result)

theorem admit_hello {response : RemoteControlFrame} (h : admitFrame connection frame = (.ok (.hello response), connection')) :
    ∃ requestId version maxFrameLength, frame = .remoteHello requestId version maxFrameLength := by
  unfold admitFrame at h
  cases hid : frame.requestId with
  | none =>
    rw [hid] at h
    cases h
  | some requestId =>
    simp only [hid] at h
    split_ifs at h
    · cases h
    · cases h
    · cases frame with
      | remoteHello requestId version maxFrameLength => exact ⟨requestId, version, maxFrameLength, rfl⟩
      | _ => cases h

namespace System

theorem receive_replies {connection : Nat} :
    (s.receive connection frame).answers = s.answers ∨
      ∃ a, (s.receive connection frame).answers = s.answers ++ [a] ∧ Reply env s (s.receive connection frame) a := by
  cases hadmitted : admitFrame (s.link connection).connection frame with
  | mk admission state =>
    cases admission with
    | error code =>
      refine .inr ⟨⟨connection, frame, outcomeOf frame (.error code)⟩, ?_, .refused rfl⟩
      simp only [receive, hadmitted]
      rfl
    | ok admission =>
      cases admission with
      | hello response =>
        obtain ⟨requestId, version, maxFrameLength, hframe⟩ := admit_hello hadmitted
        refine .inr ⟨⟨connection, frame, outcomeOf frame (.ok { response })⟩, ?_, .hello hframe rfl⟩
        simp only [receive, hadmitted]
        rfl
      | operation =>
        left
        simp only [receive, hadmitted]
        rfl

/-- a step answers no request, or one -/
theorem step_replies (env : RelayEnv) (s : System) (input : Input) : (s.step env input).answers = s.answers ∨
    ∃ a, (s.step env input).answers = s.answers ++ [a] ∧ Reply env s (s.step env input) a := by
  have htook := step_took env s input
  generalize s.step env input = s' at htook
  cases htook with
  | none | readClock | deletePush => exact .inl rfl
  | receive => exact receive_replies
  | @authorize connection now frame _ =>
    unfold authorizeStep
    cases authorize env s.registry.state frame with
    | error code => exact .inr ⟨_, rfl, .refused rfl⟩
    | ok _ => exact .inl rfl
  | @accept connection now frame _ =>
    unfold acceptStep
    cases accept env frame now s.replay with
    | mk verdict replay =>
      cases verdict with
      | error code => exact .inr ⟨_, rfl, .refused rfl⟩
      | ok replayed => cases replayed <;> exact .inl rfl
  | perform => exact .inr ⟨_, rfl, .performed rfl rfl⟩

end System

/-- the answer gives nothing to a slot: a request for it fails, and it is not woken -/
def Answered.withholds (a : Answered) (routeId : RouteId) (slotId : DeviceSlotId) : Prop :=
  (concerns routeId slotId a.frame → ∃ requestId code retriable, a.outcome.response = .remoteError requestId code retriable) ∧
    ∀ dispatch, a.outcome.wake = some dispatch → ¬ (dispatch.routeId = routeId ∧ dispatch.slotId = slotId)

theorem withholds_of_error (h : a.outcome = outcomeOf a.frame (.error code)) :
    a.withholds routeId slotId := by
  rw [Answered.withholds, h]
  exact ⟨fun _ => ⟨_, _, _, rfl⟩, fun dispatch hwake => by cases hwake⟩

theorem Reply.withholds (hreply : Reply env s s' a) (h : s.registry.state.retired routeId slotId) :
    a.withholds routeId slotId := by
  cases hreply with
  | refused outcome => exact withholds_of_error outcome
  | hello frame wake =>
    refine ⟨?_, fun dispatch hwake => ?_⟩
    · rintro ⟨pair, hpair, -⟩
      rw [frame] at hpair
      cases hpair
    · rw [wake] at hwake
      cases hwake
  | @performed now later replayed write result ran outcome =>
    cases result with
    | error code => exact withholds_of_error outcome
    | ok handled =>
      refine ⟨fun hconcerns => absurd ran (perform_retired h hconcerns _ _), fun dispatch hwake => ?_⟩
      rw [outcome] at hwake
      rintro ⟨rfl, rfl⟩
      exact perform_retired h (perform_wake _ _ ran dispatch hwake) _ _ ran

variable (hframe : a.frame = .revokeDeviceGrant requestId operationId issuedAtMs route slot admin)
  (hresponse : a.outcome.response = .deviceGrantRevoked requestId)

include hroute hslot hframe hresponse in
/-- an acknowledged revocation leaves a tombstone -/
theorem Reply.retires (hreply : Reply env s s' a)
    (hknown : s.registry.state.granted routeId slotId ∨ s.registry.state.retired routeId slotId) :
    ∃ adminToken, OpaqueId.fromOpaque admin = some adminToken ∧
      s'.registry.state.tombstone routeId slotId (RegistryState.digestOf env adminToken) := by
  cases hreply with
  | refused outcome =>
    rw [outcome] at hresponse
    cases hresponse
  | hello frame wake =>
    rw [hframe] at frame
    cases frame
  | @performed now later replayed write result ran outcome =>
    cases result with
    | error code =>
      rw [outcome] at hresponse
      cases hresponse
    | ok handled =>
      rw [hframe] at ran
      exact perform_revoke hroute hslot hknown _ _ ran

/-! ## Retries -/

theorem tombstone_follows (h : state.tombstone routeId slotId digest) (hfollows : state.Follows next) :
    next.tombstone routeId slotId digest := by
  obtain ⟨route, hroute, hretired, hadmin⟩ := h
  obtain ⟨route', hroute', hroutes⟩ := hfollows routeId route hroute
  exact ⟨route', hroute', hroutes.retired slotId hretired, hroutes.admin.trans hadmin⟩

/-- a granted slot stays granted or is retired -/
theorem known_follows (h : state.granted routeId slotId ∨ state.retired routeId slotId) (hfollows : state.Follows next) :
    next.granted routeId slotId ∨ next.retired routeId slotId := by
  rcases h with ⟨route, hroute, hgranted⟩ | ⟨route, hroute, hretired⟩
  · obtain ⟨route', hroute', hroutes⟩ := hfollows routeId route hroute
    rcases hroutes.granted slotId hgranted with hgranted' | hretired'
    · exact .inl ⟨route', hroute', hgranted'⟩
    · exact .inr ⟨route', hroute', hretired'⟩
  · obtain ⟨route', hroute', hroutes⟩ := hfollows routeId route hroute
    exact .inr ⟨route', hroute', hroutes.retired slotId hretired⟩

variable (hadmin : OpaqueId.fromOpaque admin = some adminToken)

include hroute hslot hadmin in
/-- a retry is still authorised -/
theorem authorize_retry (h : state.tombstone routeId slotId (RegistryState.digestOf env adminToken)) :
    authorize env state (.revokeDeviceGrant requestId operationId issuedAtMs route slot admin) = .ok () := by
  obtain ⟨found, hfound, -, hdigest⟩ := h
  have hauthorized : state.authorizeAdmin env routeId adminToken = .ok () := by
    rw [RegistryState.authorizeAdmin, adminRoute_eq_ok.mpr ⟨hfound, hdigest⟩]
    rfl
  simp only [authorize, bind_eq_ok, parseId_eq_ok, mapError_eq_ok]
  exact ⟨routeId, hroute, slotId, hslot, adminToken, hadmin, hauthorized⟩

include hroute hslot hadmin in
/-- a retry that was found in the cache is acknowledged, whatever the storage would do -/
theorem perform_retry (h : registry.state.tombstone routeId slotId (RegistryState.digestOf env adminToken)) :
    (perform env (.revokeDeviceGrant requestId operationId issuedAtMs route slot admin) now later true outcome registry).1 =
      .ok { response := .deviceGrantRevoked requestId, revokedDevice := some ⟨routeId, slotId⟩ } := by
  obtain ⟨found, hfound, hretired, hdigest⟩ := h
  have hrefused : registry.state.revokeDevice env routeId adminToken slotId = .error (.rejected .revoked) :=
    revokeDevice_revoked.mpr ⟨found, hfound, hdigest, hretired.2⟩
  have hrevoked : revoked (RegistryState.revokeDevice env routeId adminToken slotId) true outcome registry =
      (.ok (), registry) := by simp [revoked, Registry.commit, hrefused, RemoteError.code]
  simp only [perform]
  rw [Prog.run_bind (Prog.run_liftExcept (parseId_eq_ok.mpr hroute) registry),
    Prog.run_bind (Prog.run_liftExcept (parseId_eq_ok.mpr hslot) registry),
    Prog.run_bind (Prog.run_liftExcept (parseId_eq_ok.mpr hadmin) registry), Prog.run_bind hrevoked]
  rfl

/-- two readings at which one time of issue is fresh are within the window -/
theorem window_of_fresh (hnow : freshOperation operationId issuedAtMs now = .ok id)
    (hseen : (freshOperation operationId issuedAtMs seen).toBool = true) :
    now - seen ≤ operationReplayWindowMs := by
  cases hfresh : freshOperation operationId issuedAtMs seen with
  | error code =>
    rw [hfresh] at hseen
    cases hseen
  | ok id' =>
    obtain ⟨-, hnow, -⟩ := freshOperation_eq_ok.mp hnow
    obtain ⟨-, hthen, -⟩ := freshOperation_eq_ok.mp hfresh
    simp only [operationClockSkewMs, operationReplayWindowMs] at *
    omega

/-- a revocation whose operation is in the cache is taken for a retry -/
theorem accept_retry {replay : ReplayCache} (hfresh : freshOperation operationId issuedAtMs now = .ok id)
    (hseen : (replayKey env admin id, seen) ∈ replay) (hwindow : now - seen ≤ operationReplayWindowMs) :
    accept env (.revokeDeviceGrant requestId operationId issuedAtMs route slot admin) now replay =
      (.ok true, retained now replay) := by
  have hretained : (replayKey env admin id, seen) ∈ retained now replay := by
    simp only [retained, List.mem_filter, decide_eq_true_eq]
    exact ⟨hseen, hwindow⟩
  have hany : ((retained now replay).any fun entry => entry.1 = replayKey env admin id) = true :=
    List.any_eq_true.mpr ⟨_, hretained, by simp⟩
  simp only [accept, operationOf, acceptOperation, hfresh, hany, if_true, isRevoke, and_self]

/-! ## Runs -/

namespace System

/-- what a run adds to the answers -/
def answersSince (s s' : System) : List Answered := s'.answers.drop s.answers.length

/-- a run keeps the answers there were; an answer since then was there before the step, or is its reply -/
theorem answersSince_step (env : RelayEnv) (s s' : System) (input : Input) (h : s.answers <+: s'.answers) :
    s.answers <+: (s'.step env input).answers ∧ ∀ a ∈ s.answersSince (s'.step env input),
      a ∈ s.answersSince s' ∨ Reply env s' (s'.step env input) a := by
  rcases step_replies env s' input with hsame | ⟨added, hadded, hreply⟩
  · rw [answersSince, hsame]
    exact ⟨h, fun _ hmem => .inl hmem⟩
  · rw [answersSince, hadded, List.drop_append_of_le_length h.length_le]
    refine ⟨h.trans (List.prefix_append _ _), fun a hmem => ?_⟩
    rcases List.mem_append.mp hmem with hbefore | hmem
    · exact .inl hbefore
    · exact .inr (List.mem_singleton.mp hmem ▸ hreply)

/-- since `s`, a slot that was granted is granted or retired, and retired if this answer was given -/
structure Revoking (env : RelayEnv) (routeId : RouteId) (slotId : DeviceSlotId) (admin : String) (a : Answered)
    (s s' : System) : Prop where
  answers : s.answers <+: s'.answers
  known : s'.registry.state.granted routeId slotId ∨ s'.registry.state.retired routeId slotId
  tombstone : a ∈ s.answersSince s' → ∃ adminToken, OpaqueId.fromOpaque admin = some adminToken ∧
    s'.registry.state.tombstone routeId slotId (RegistryState.digestOf env adminToken)

include hroute hslot hframe hresponse in
theorem Revoking.step (h : Revoking env routeId slotId admin a s s') (input : Input) :
    Revoking env routeId slotId admin a s (s'.step env input) := by
  obtain ⟨hanswers, hsince⟩ := answersSince_step env s s' input h.answers
  have hfollows := step_follows env s' input
  refine ⟨hanswers, known_follows h.known hfollows, fun hmem => ?_⟩
  rcases hsince a hmem with hbefore | hreply
  · obtain ⟨adminToken, hadmin, hstone⟩ := h.tombstone hbefore
    exact ⟨adminToken, hadmin, tombstone_follows hstone hfollows⟩
  · exact hreply.retires hroute hslot hframe hresponse h.known

include hroute hslot hframe hresponse in
theorem run_revoking (hgranted : s.registry.state.granted routeId slotId) (inputs : List Input) :
    Revoking env routeId slotId admin a s (runFrom (step env) s inputs) :=
  run_inv_all (I := Revoking env routeId slotId admin a s) (fun _ input h => h.step hroute hslot hframe hresponse input)
    ⟨List.prefix_rfl, .inl hgranted, by simp [answersSince]⟩ inputs

/-- since `s`, a retired slot was given nothing -/
structure Withholding (routeId : RouteId) (slotId : DeviceSlotId) (admin : Digest) (s s' : System) : Prop where
  answers : s.answers <+: s'.answers
  tombstone : s'.registry.state.tombstone routeId slotId admin
  withholds : ∀ a ∈ s.answersSince s', a.withholds routeId slotId

theorem Withholding.step (h : Withholding routeId slotId digest s s') (input : Input) :
    Withholding routeId slotId digest s (s'.step env input) := by
  obtain ⟨hanswers, hsince⟩ := answersSince_step env s s' input h.answers
  refine ⟨hanswers, tombstone_follows h.tombstone (step_follows env s' input), fun a hmem => ?_⟩
  rcases hsince a hmem with hbefore | hreply
  · exact h.withholds a hbefore
  · exact hreply.withholds h.tombstone.retired

theorem run_withholds (h : s.registry.state.tombstone routeId slotId digest) (inputs : List Input) :
    Withholding routeId slotId digest s (runFrom (step env) s inputs) :=
  run_inv_all (I := Withholding routeId slotId digest s) (fun _ input h => h.step input)
    ⟨List.prefix_rfl, h, by simp [answersSince]⟩ inputs

end System

/-- **Revocation is final.** Once the revocation of a granted slot was acknowledged, no later request for the slot succeeds,
the slot is not woken, and nobody is authenticated as the slot. A retry of the revocation whose time of issue is fresh is
acknowledged again as long as the operation is in the replay cache: as long as its entry is within the window, or was made at
a reading at which the time of issue of the retry is fresh too. A request that was found there is acknowledged whatever
happens before it acts. -/
theorem revocation_final (env : RelayEnv) (before during after : List Input) (routeId : RouteId) (slotId : DeviceSlotId)
    (requestId : Nat) (operationId route slot admin : String) (issuedAtMs : Int)
    (hroute : OpaqueId.fromOpaque route = some routeId) (hslot : OpaqueId.fromOpaque slot = some slotId)
    (hgranted : (runFrom (System.step env) {} before).registry.state.granted routeId slotId)
    (hacknowledged : ∃ a ∈ (runFrom (System.step env) {} before).answersSince
        (runFrom (System.step env) {} (before ++ during)),
      a.frame = .revokeDeviceGrant requestId operationId issuedAtMs route slot admin ∧
      a.outcome.response = .deviceGrantRevoked requestId) :
    let revoked := runFrom (System.step env) {} (before ++ during)
    let s := runFrom (System.step env) revoked after
    (∀ a ∈ revoked.answersSince s, a.withholds routeId slotId) ∧
    (∀ bearer identity, s.registry.state.authenticateBearer env bearer = .ok identity →
      ¬ (identity.routeId = routeId ∧ identity.slotId = some slotId)) ∧
    ∀ retryId issuedAgainMs,
      let retry : RemoteControlFrame := .revokeDeviceGrant retryId operationId issuedAgainMs route slot admin
      (∀ attempt id seen connection connection', freshOperation operationId issuedAgainMs attempt.now = .ok id →
        (replayKey env admin id, seen) ∈ s.replay →
        (attempt.now - seen ≤ operationReplayWindowMs ∨ (freshOperation operationId issuedAgainMs seen).toBool = true) →
        admitFrame connection retry = (.ok .operation, connection') →
        (s.service.handle env connection retry attempt).1 =
          ⟨.deviceGrantRevoked retryId, none, some ⟨routeId, slotId⟩, false⟩) ∧
      ∀ now later outcome, outcomeOf retry (perform env retry now later true outcome s.registry).1 =
        ⟨.deviceGrantRevoked retryId, none, some ⟨routeId, slotId⟩, false⟩ := by
  intro revoked s
  obtain ⟨a, ha, hframe, hresponse⟩ := hacknowledged
  rw [runFrom_append] at ha
  obtain ⟨adminToken, hadmin, hstone⟩ := (System.run_revoking hroute hslot hframe hresponse hgranted during).tombstone ha
  rw [← runFrom_append] at hstone
  have hafter : System.Withholding routeId slotId (RegistryState.digestOf env adminToken) revoked s :=
    System.run_withholds hstone after
  refine ⟨hafter.withholds, fun bearer identity => authenticateBearer_retired hafter.tombstone.retired, ?_⟩
  intro retryId issuedAgainMs retry
  refine ⟨fun attempt id seen connection connection' hfresh hseen hwindow hadmitted => ?_, fun now later outcome => ?_⟩
  · have hwithin : attempt.now - seen ≤ operationReplayWindowMs := hwindow.elim (fun h => h) (window_of_fresh hfresh)
    simp only [retry] at hadmitted ⊢
    simp only [ControlService.handle, hadmitted, handleOperation, System.service, outcomeOf,
      authorize_retry hroute hslot hadmin hafter.tombstone, accept_retry hfresh hseen hwithin,
      perform_retry hroute hslot hadmin hafter.tombstone]
  · rw [perform_retry hroute hslot hadmin hafter.tombstone]
    rfl

/-! ## A revoked phone -/

/-- the route of `captured`, and a slot of it -/
def sampleRoute : RouteId := ⟨List.replicate 16 0, List.length_replicate⟩

def sampleSlot : DeviceSlotId := ⟨List.replicate 16 0, List.length_replicate⟩

def sampleId : String := "AAAAAAAAAAAAAAAAAAAAAA"

def sampleToken : String := "AAAAAAAAAAAAAAAAAAAAAAAAAAAAAAAAAAAAAAAAAAA"

/-- a route is registered, and a slot of it granted -/
def granting : List Input :=
  .receive 1 hello :: System.requestSteps 1 captured ⟨100000, 100000, .written⟩ ++
    System.requestSteps 1 (.registerDeviceGrant 3 "DAAAAAAAAAAAAAAAAAAAAA" 100000 sampleId sampleId
      "EAAAAAAAAAAAAAAAAAAAAAAAAAAAAAAAAAAAAAAAAAA" sampleToken) ⟨100000, 100000, .written⟩

def revoking : List Input :=
  System.requestSteps 1 (.revokeDeviceGrant 4 "EAAAAAAAAAAAAAAAAAAAAA" 100000 sampleId sampleId sampleToken)
    ⟨100001, 100001, .written⟩

/-- the phone still asks for its route -/
def asking : List Input :=
  .receive 2 hello :: System.requestSteps 2 (.resolveRoute 2 "FAAAAAAAAAAAAAAAAAAAAA" 100000 sampleId sampleId
    "EAAAAAAAAAAAAAAAAAAAAAAAAAAAAAAAAAAAAAAAAAA") ⟨100002, 100002, .written⟩

theorem granted_iff :
    state.granted routeId slotId ↔ ((state.routes[routeId]?).any fun route => route.grants.contains slotId) = true := by
  rw [RegistryState.granted]
  cases state.routes[routeId]? <;> simp

theorem granted_granting : (runFrom (System.step sampleRelayEnv) {} granting).registry.state.granted sampleRoute sampleSlot :=
  granted_iff.mpr (by decide +kernel)

theorem revocation_final_asking :
    (runFrom (System.step sampleRelayEnv) {} granting).registry.state.granted sampleRoute sampleSlot ∧
    ∀ a ∈ (runFrom (System.step sampleRelayEnv) {} (granting ++ revoking)).answersSince
        (runFrom (System.step sampleRelayEnv) (runFrom (System.step sampleRelayEnv) {} (granting ++ revoking)) asking),
      a.withholds sampleRoute sampleSlot :=
  ⟨granted_granting, (revocation_final sampleRelayEnv granting revoking asking sampleRoute sampleSlot 4
    "EAAAAAAAAAAAAAAAAAAAAA" sampleId sampleId sampleToken 100000 (by decide +kernel) (by decide +kernel) granted_granting
    (by decide +kernel)).1⟩

end Kaleido.Relay
