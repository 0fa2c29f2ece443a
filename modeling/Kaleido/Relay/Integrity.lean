/-
The integrity of the relay's registry (`kaleido-relay`, `registry.rs`), over every run of the control service.

`validate_state` runs when a registry is opened; after that, each mutation has to keep what it checks. `Sound` is what they
keep: the checks of `validate_state`, and that no slot is both granted and revoked, which `validate_state` does not ask of a
slot without a push address. A `Mutation` is any change that `commit` is called with; `perform_commits` says that the requests
of a connection commit nothing else.

`registry_integrity` is the result. The file follows the state as long as no write fails after the new file has taken the
place of the old one: `unsynced_file_ahead` is a run in which one does, and the registry that is opened from the file has the
route that its client was refused.
-/
import Kaleido.Relay.Replay

namespace Kaleido.Relay

open Check Transport

variable {routeId : RouteId} {adminToken : RouteAdminToken} {slotId : DeviceSlotId}
  {mutate : RegistryState → Except RemoteError RegistryState}

/-! ## Sound states -/

structure RouteRecord.Sound (route : RouteRecord) : Prop where
  url : validateRelayUrl route.relayUrl = .ok ()
  room : route.grants.size + route.revoked.size ≤ maxGrantsPerRoute
  admin : route.adminDigest ≠ zeroDigest
  tokens : ∀ (slotId : DeviceSlotId) grant, route.grants[slotId]? = some grant → grant.tokenDigest ≠ zeroDigest
  apart : ∀ slotId : DeviceSlotId, route.grants.contains slotId = true → route.revoked.contains slotId = false

namespace RegistryState

/-- the push address of a slot -/
def pushAt (state : RegistryState) (routeId : RouteId) (slotId : DeviceSlotId) : Option PushAddress :=
  state.pushes[routeId]?.bind (·[slotId]?)

/-- the slot has a grant -/
def granted (state : RegistryState) (routeId : RouteId) (slotId : DeviceSlotId) : Prop :=
  ∃ route, state.routes[routeId]? = some route ∧ route.grants.contains slotId = true

structure Sound (state : RegistryState) : Prop where
  count : state.routes.size ≤ maxRoutes
  routes : ∀ (routeId : RouteId) route, state.routes[routeId]? = some route → route.Sound
  pushRoutes : ∀ (routeId : RouteId) pushes, state.pushes[routeId]? = some pushes → (state.routes[routeId]?).isSome
  pushes : ∀ routeId slotId address, state.pushAt routeId slotId = some address →
    state.granted routeId slotId ∧ address.wellFormed

end RegistryState

section

variable {state next : RegistryState} {route : RouteRecord}

theorem RouteRecord.Sound.validate (h : route.Sound) : route.validate = .ok () := by
  rw [RouteRecord.validate, seq_eq_ok, seq_eq_ok, ensure_eq_ok, checkAll_eq_ok]
  refine ⟨h.url, ?_, ?_⟩
  · rintro (hroom | hadmin)
    · exact absurd h.room (by omega)
    · exact h.admin hadmin
  · intro grant hgrant
    obtain ⟨slotId, hslot⟩ := OrdMap.mem_vals.mp hgrant
    exact ensure_eq_ok.mpr (h.tokens slotId grant hslot)

/-- a sound state passes the check of `open` -/
theorem RegistryState.Sound.validate (h : state.Sound) : validateState state = .ok () := by
  rw [validateState, seq_eq_ok, seq_eq_ok, ensure_eq_ok, checkAll_eq_ok, checkAll_eq_ok]
  refine ⟨h.count, ?_, ?_⟩
  · intro route hroute
    obtain ⟨routeId, hlookup⟩ := OrdMap.mem_vals.mp hroute
    exact (h.routes routeId route hlookup).validate
  · rintro ⟨routeId, pushes⟩ hpushes
    have hlookup : state.pushes[routeId]? = some pushes := Std.ExtTreeMap.mem_toList_iff_getElem?_eq_some.mp hpushes
    obtain ⟨route, hroute⟩ := Option.isSome_iff_exists.mp (h.pushRoutes routeId pushes hlookup)
    simp only [validatePushes, hroute, checkAll_eq_ok, ensure_eq_ok]
    rintro ⟨slotId, address⟩ hpush
    have hat : state.pushAt routeId slotId = some address := by
      rw [RegistryState.pushAt, hlookup]
      exact Std.ExtTreeMap.mem_toList_iff_getElem?_eq_some.mp hpush
    obtain ⟨⟨route', hroute', hgranted⟩, hformed⟩ := h.pushes routeId slotId address hat
    cases hroute.symm.trans hroute'
    have hapart := (h.routes routeId route hroute).apart slotId hgranted
    rintro (hnot | hrevoked | hbad)
    · exact hnot hgranted
    · rw [hapart] at hrevoked
      cases hrevoked
    · exact hbad hformed

/-! ## Mutations keep a state sound -/

theorem get_setRoute (other : RouteId) :
    (state.setRoute routeId route).routes[other]? = if routeId = other then some route else state.routes[other]? := by
  rw [RegistryState.setRoute, OrdMap.get_insert]

/-- the slots of a route whose last address goes are dropped with it -/
theorem get_removePush (other : RouteId) : (state.removePush routeId slotId).pushes[other]? =
    if routeId = other then (state.pushes[routeId]?.map (·.erase slotId)).filter (!·.isEmpty) else state.pushes[other]? := by
  unfold RegistryState.removePush
  cases hpushes : state.pushes[routeId]? with
  | none =>
    split_ifs with hroute
    · exact hroute ▸ hpushes
    · rfl
  | some pushes => cases hempty : (pushes.erase slotId).isEmpty <;> simp [hempty, Option.filter, OrdMap.get_insert, OrdMap.get_erase]

theorem pushAt_removePush (other : RouteId) (slot : DeviceSlotId) :
    (state.removePush routeId slotId).pushAt other slot =
      if routeId = other ∧ slotId = slot then none else state.pushAt other slot := by
  rw [RegistryState.pushAt, RegistryState.pushAt, get_removePush]
  by_cases hroute : routeId = other
  · subst hroute
    cases hpushes : state.pushes[routeId]? with
    | none => simp
    | some pushes =>
      have hrest : (Option.filter (!·.isEmpty) (some (pushes.erase slotId))).bind (·[slot]?) = (pushes.erase slotId)[slot]? := by
        cases hempty : (pushes.erase slotId).isEmpty
        · simp [hempty, Option.filter]
        · simp [Std.ExtTreeMap.isEmpty_iff.mp hempty, Option.filter]
      rw [if_pos rfl, Option.map_some, hrest, OrdMap.get_erase]
      simp
  · simp [hroute]

theorem pushes_removePush {other : RouteId} {pushes : OrdMap DeviceSlotId PushAddress}
    (h : (state.removePush routeId slotId).pushes[other]? = some pushes) : (state.pushes[other]?).isSome := by
  rw [get_removePush] at h
  split_ifs at h with hroute
  · subst hroute
    obtain ⟨old, hold, -⟩ := Option.map_eq_some_iff.mp (Option.filter_eq_some_iff.mp h).1
    rw [hold]
    rfl
  · rw [h]
    rfl

theorem routes_removePush : (state.removePush routeId slotId).routes = state.routes := by
  unfold RegistryState.removePush
  cases state.pushes[routeId]? <;> rfl

theorem RegistryState.Sound.removePush (h : state.Sound) : (state.removePush routeId slotId).Sound where
  count := by
    rw [routes_removePush]
    exact h.count
  routes := by
    rw [routes_removePush]
    exact h.routes
  pushRoutes other pushes hpushes := by
    obtain ⟨old, hold⟩ := Option.isSome_iff_exists.mp (pushes_removePush hpushes)
    rw [routes_removePush]
    exact h.pushRoutes other old hold
  pushes other slot address haddress := by
    rw [pushAt_removePush] at haddress
    split_ifs at haddress with hremoved
    rw [RegistryState.granted, routes_removePush]
    exact h.pushes other slot address haddress

/-- a route is put in the place of one that granted no more, or of none -/
theorem RegistryState.Sound.setRoute (h : state.Sound) (hroute : route.Sound)
    (hcount : (state.routes[routeId]?).isSome ∨ state.routes.size < maxRoutes)
    (hgrants : ∀ old, state.routes[routeId]? = some old → ∀ slot : DeviceSlotId,
      old.grants.contains slot = true → state.pushAt routeId slot ≠ none → route.grants.contains slot = true) :
    (state.setRoute routeId route).Sound where
  count := by
    rw [RegistryState.setRoute, Std.ExtTreeMap.size_insert]
    split_ifs with hthere
    · exact h.count
    · rw [Std.ExtTreeMap.contains_eq_isSome_getElem?] at hthere
      have := hcount.resolve_left hthere
      omega
  routes other found hfound := by
    rw [get_setRoute] at hfound
    split_ifs at hfound with hsame
    · cases hfound
      exact hroute
    · exact h.routes other found hfound
  pushRoutes other pushes hpushes := by
    rw [get_setRoute]
    split_ifs with hsame
    · rfl
    · exact h.pushRoutes other pushes hpushes
  pushes other slot address haddress := by
    obtain ⟨⟨old, hold, hgranted⟩, hformed⟩ := h.pushes other slot address haddress
    refine ⟨?_, hformed⟩
    by_cases hsame : routeId = other
    · subst hsame
      have hat : state.pushAt routeId slot ≠ none := fun hnone => by
        rw [show state.pushAt routeId slot = some address from haddress] at hnone
        cases hnone
      exact ⟨route, by rw [get_setRoute, if_pos rfl], hgrants old hold slot hgranted hat⟩
    · exact ⟨old, by rw [get_setRoute, if_neg hsame]; exact hold, hgranted⟩

theorem setRoute_removePush :
    (state.setRoute routeId route).removePush routeId slotId = (state.removePush routeId slotId).setRoute routeId route := by
  unfold RegistryState.removePush RegistryState.setRoute
  cases state.pushes[routeId]? <;> rfl

end

/-- what `commit` is called with: by a request, or to drop an address that the push service no longer knows -/
inductive Mutation (env : RelayEnv) : (RegistryState → Except RemoteError RegistryState) → Prop where
  | registerRoute (registration : RouteRegistration) : Mutation env (RegistryState.registerRoute env registration)
  | registerPresence (registration : PresenceRegistration) (nowMs : Nat) :
      Mutation env (RegistryState.registerPresence env registration nowMs)
  | registerDeviceGrant (registration : DeviceGrantRegistration) :
      Mutation env (RegistryState.registerDeviceGrant env registration)
  | revokeDevice (routeId : RouteId) (adminToken : RouteAdminToken) (slotId : DeviceSlotId) :
      Mutation env (RegistryState.revokeDevice env routeId adminToken slotId)
  | registerPush (routeId : RouteId) (slotId : DeviceSlotId) (accessToken : AccessToken) {address : PushAddress} (nowMs : Nat)
      (formed : address.wellFormed) : Mutation env (RegistryState.registerPush env routeId slotId accessToken address nowMs)
  | deletePush (routeId : RouteId) (slotId : DeviceSlotId) (accessToken : AccessToken) :
      Mutation env (RegistryState.deletePush env routeId slotId accessToken)
  | deletePushForService (routeId : RouteId) (slotId : DeviceSlotId) :
      Mutation env (RegistryState.deletePushForService routeId slotId)

section

variable {env : RelayEnv} {state next : RegistryState}

theorem adminRoute_eq_ok {route : RouteRecord} :
    state.adminRoute env routeId adminToken = .ok route ↔
      state.routes[routeId]? = some route ∧ route.adminDigest = RegistryState.digestOf env adminToken := by
  unfold RegistryState.adminRoute
  cases state.routes[routeId]? with
  | none => simp
  | some found =>
    simp only [seq_eq_ok, ensure_eq_ok, pure_eq_ok, Option.some.injEq]
    constructor
    · rintro ⟨hdigest, rfl⟩
      exact ⟨rfl, hdigest⟩
    · rintro ⟨rfl, hdigest⟩
      exact ⟨hdigest, rfl⟩

theorem checkDevice_eq_ok {refusal : RemoteErrorCode} {accessToken : AccessToken} :
    state.checkDevice env refusal routeId slotId accessToken = .ok () ↔
      ∃ route grant, state.routes[routeId]? = some route ∧ route.grants[slotId]? = some grant ∧
        grant.tokenDigest = RegistryState.digestOf env accessToken := by
  unfold RegistryState.checkDevice
  cases state.routes[routeId]? with
  | none => simp
  | some route =>
    cases hgrant : route.grants[slotId]? with
    | none | some grant => simp [hgrant]

/-- what a revocation comes to -/
theorem revokeDevice_eq_ok (h : state.revokeDevice env routeId adminToken slotId = .ok next) :
    ∃ route grant, state.routes[routeId]? = some route ∧ route.adminDigest = RegistryState.digestOf env adminToken ∧
      route.grants[slotId]? = some grant ∧ next = (state.setRoute routeId { route with
        grants := route.grants.erase slotId
        revoked := route.revoked.insert slotId grant.tokenDigest }).removePush routeId slotId := by
  simp only [RegistryState.revokeDevice, bind_eq_ok, adminRoute_eq_ok] at h
  obtain ⟨route, ⟨hroute, hadmin⟩, h⟩ := h
  cases hgrant : route.grants[slotId]? with
  | none =>
    rw [hgrant] at h
    cases h
  | some grant =>
    simp only [hgrant, pure_eq_ok] at h
    exact ⟨route, grant, hroute, hadmin, hgrant, h.symm⟩

/-- what the registration of a grant comes to: the grant was there, or there is room for it -/
theorem registerDeviceGrant_eq_ok {registration : DeviceGrantRegistration}
    (h : state.registerDeviceGrant env registration = .ok next) :
    ∃ route, state.routes[registration.routeId]? = some route ∧ ¬ route.revoked.contains registration.slotId = true ∧
      (next = state ∨ route.grants[registration.slotId]? = none ∧
        route.grants.size + route.revoked.size < maxGrantsPerRoute ∧
        next = state.setRoute registration.routeId { route with
          grants := route.grants.insert registration.slotId ⟨RegistryState.digestOf env registration.accessToken⟩ }) := by
  simp only [RegistryState.registerDeviceGrant, bind_eq_ok, adminRoute_eq_ok] at h
  obtain ⟨route, ⟨hroute, -⟩, _, hrevoked, h⟩ := h
  refine ⟨route, hroute, ensure_eq_ok.mp hrevoked, ?_⟩
  cases hgrant : route.grants[registration.slotId]? with
  | some existing =>
    simp only [hgrant, seq_eq_ok, pure_eq_ok] at h
    exact .inl h.2.symm
  | none =>
    simp only [hgrant, seq_eq_ok, ensure_eq_ok, pure_eq_ok] at h
    exact .inr ⟨rfl, by omega, h.2.symm⟩

theorem deletePushForService_eq_ok (h : state.deletePushForService routeId slotId = .ok next) :
    next = state.removePush routeId slotId := by
  unfold RegistryState.deletePushForService at h
  cases hroute : state.routes[routeId]? with
  | none =>
    rw [hroute] at h
    cases h
  | some route =>
    simp only [hroute, seq_eq_ok, pure_eq_ok] at h
    exact h.2.symm

/-- the digests of tokens are never zero -/
def NonzeroDigests (env : RelayEnv) : Prop := ∀ bytes, env.sha256 bytes ≠ zeroDigest

theorem registerRoute_sound (hdigests : NonzeroDigests env) {registration : RouteRegistration} (h : state.Sound)
    (hnext : state.registerRoute env registration = .ok next) : next.Sound := by
  simp only [RegistryState.registerRoute, bind_eq_ok] at hnext
  obtain ⟨_, hurl, hnext⟩ := hnext
  cases hroute : state.routes[registration.routeId]? with
  | some route =>
    simp only [hroute, seq_eq_ok, pure_eq_ok] at hnext
    exact hnext.2 ▸ h
  | none =>
    simp only [hroute, seq_eq_ok, ensure_eq_ok, pure_eq_ok] at hnext
    obtain ⟨hroom, rfl⟩ := hnext
    refine h.setRoute ?_ (.inr (by omega)) (by simp [hroute])
    exact ⟨hurl, by simp [maxGrantsPerRoute], hdigests _, by simp, by simp⟩

theorem registerPresence_sound {registration : PresenceRegistration} {nowMs : Nat} (h : state.Sound)
    (hnext : state.registerPresence env registration nowMs = .ok next) : next.Sound := by
  simp only [RegistryState.registerPresence, bind_eq_ok, pure_eq_ok, adminRoute_eq_ok] at hnext
  obtain ⟨_, -, _, -, route, ⟨hroute, -⟩, _, -, rfl⟩ := hnext
  have hsound := h.routes _ route hroute
  refine h.setRoute ?_ (.inl (by rw [hroute]; rfl)) ?_
  · exact ⟨hsound.url, hsound.room, hsound.admin, hsound.tokens, hsound.apart⟩
  · intro old hold slot hslot _
    cases hroute.symm.trans hold
    exact hslot

theorem registerDeviceGrant_sound (hdigests : NonzeroDigests env) {registration : DeviceGrantRegistration} (h : state.Sound)
    (hnext : state.registerDeviceGrant env registration = .ok next) : next.Sound := by
  obtain ⟨route, hroute, hrevoked, rfl | ⟨hgrant, hroom, rfl⟩⟩ := registerDeviceGrant_eq_ok hnext
  · exact h
  have hsound := h.routes _ route hroute
  refine h.setRoute ⟨hsound.url, ?_, hsound.admin, ?_, ?_⟩ (.inl (by rw [hroute]; rfl)) ?_
  · have hnew : route.grants.contains registration.slotId = false := by
      rw [Std.ExtTreeMap.contains_eq_isSome_getElem?, hgrant]
      rfl
    rw [Std.ExtTreeMap.size_insert, hnew]
    simp only [Bool.false_eq_true, if_false]
    omega
  · exact OrdMap.forall_insert hsound.tokens (hdigests _)
  · intro slot hslot
    simp only [Std.ExtTreeMap.contains_insert, Bool.or_eq_true, beq_iff_eq, Std.compare_eq_iff_eq] at hslot
    rcases hslot with rfl | hslot
    · exact Bool.eq_false_iff.mpr hrevoked
    · exact hsound.apart slot hslot
  · intro old hold slot hslot _
    cases hroute.symm.trans hold
    simp [Std.ExtTreeMap.contains_insert, hslot]

theorem revokeDevice_sound (h : state.Sound) (hnext : state.revokeDevice env routeId adminToken slotId = .ok next) :
    next.Sound := by
  obtain ⟨route, grant, hroute, -, hgrant, rfl⟩ := revokeDevice_eq_ok hnext
  have hsound := h.routes _ route hroute
  rw [setRoute_removePush]
  have hthere : route.grants.contains slotId = true := OrdMap.contains_iff.mpr ⟨grant, hgrant⟩
  refine h.removePush.setRoute ⟨hsound.url, ?_, hsound.admin, ?_, ?_⟩ (.inl (by rw [routes_removePush, hroute]; rfl)) ?_
  · -- the tombstone takes the room of the grant
    have hsize : (route.revoked.insert slotId grant.tokenDigest).size ≤ route.revoked.size + 1 :=
      Std.ExtTreeMap.size_insert_le
    have hpos : route.grants.size ≠ 0 := fun hzero => by
      rw [Std.ExtTreeMap.eq_empty_iff_size_eq_zero.mpr hzero] at hthere
      simp at hthere
    rw [Std.ExtTreeMap.size_erase, hthere]
    simp only [if_true]
    have hroom := hsound.room
    omega
  · intro slot other hslot
    simp only [OrdMap.get_erase] at hslot
    split_ifs at hslot with hsame
    exact hsound.tokens slot other hslot
  · intro slot hslot
    simp only [Std.ExtTreeMap.contains_erase, Bool.and_eq_true, bne_iff_ne, ne_eq, Std.compare_eq_iff_eq] at hslot
    simp [Std.ExtTreeMap.contains_insert, hslot.1, hsound.apart slot hslot.2]
  · intro old hold slot hslot hpush
    rw [routes_removePush] at hold
    cases hroute.symm.trans hold
    rw [pushAt_removePush] at hpush
    have hother : ¬ slotId = slot := fun hsame => hpush (if_pos ⟨rfl, hsame⟩)
    simp [Std.ExtTreeMap.contains_erase, hother, hslot]

theorem registerPush_sound {accessToken : AccessToken} {address : PushAddress} {nowMs : Nat} (hformed : address.wellFormed)
    (h : state.Sound) (hnext : state.registerPush env routeId slotId accessToken address nowMs = .ok next) : next.Sound := by
  simp only [RegistryState.registerPush, seq_eq_ok, pure_eq_ok, checkDevice_eq_ok] at hnext
  obtain ⟨-, -, ⟨route, grant, hroute, hgrant, -⟩, rfl⟩ := hnext
  have hgranted : state.granted routeId slotId := ⟨route, hroute, OrdMap.contains_iff.mpr ⟨grant, hgrant⟩⟩
  refine ⟨h.count, h.routes, ?_, ?_⟩
  · intro other pushes hpushes
    rw [OrdMap.get_insert] at hpushes
    split_ifs at hpushes with hsame
    · rw [← hsame, hroute]
      rfl
    · exact h.pushRoutes other pushes hpushes
  · intro other slot found hfound
    have hbefore : state.pushAt other slot = some found → state.granted other slot ∧ found.wellFormed :=
      h.pushes other slot found
    simp only [RegistryState.pushAt, OrdMap.get_insert] at hfound
    split_ifs at hfound with hsame
    · subst hsame
      simp only [Option.bind_some, OrdMap.get_insert] at hfound
      split_ifs at hfound with hslot
      · cases hfound
        exact hslot ▸ ⟨hgranted, hformed⟩
      · refine hbefore ?_
        rw [RegistryState.pushAt]
        cases hpushes : state.pushes[routeId]? with
        | none => simp [hpushes] at hfound
        | some pushes => simpa [hpushes] using hfound
    · exact hbefore hfound

/-- every mutation keeps a state sound -/
theorem Mutation.sound (hdigests : NonzeroDigests env) (hmutation : Mutation env mutate) (h : state.Sound)
    (hnext : mutate state = .ok next) : next.Sound := by
  cases hmutation with
  | registerRoute registration => exact registerRoute_sound hdigests h hnext
  | registerPresence registration nowMs => exact registerPresence_sound h hnext
  | registerDeviceGrant registration => exact registerDeviceGrant_sound hdigests h hnext
  | revokeDevice routeId adminToken slotId => exact revokeDevice_sound h hnext
  | registerPush routeId slotId accessToken nowMs formed => exact registerPush_sound formed h hnext
  | deletePush routeId slotId accessToken =>
    simp only [RegistryState.deletePush, seq_eq_ok, pure_eq_ok] at hnext
    exact hnext.2 ▸ h.removePush
  | deletePushForService routeId slotId =>
    rw [deletePushForService_eq_ok hnext]
    exact h.removePush

end

/-! ## Commits -/

section

variable {env : RelayEnv} {state : RegistryState} {registry : Registry}

theorem RegistryState.Sound.empty : ({} : RegistryState).Sound := by
  refine ⟨by decide +kernel, by simp, by simp, ?_⟩
  intro routeId slotId address h
  simp [RegistryState.pushAt] at h

theorem get_persisted (routeId : RouteId) :
    state.persisted.routes[routeId]? = (state.routes[routeId]?).map fun route => { route with presence := none } :=
  OrdMap.get_map _ _ _

theorem persisted_empty : ({} : RegistryState).persisted = {} := by
  have hroutes : ({} : RegistryState).persisted.routes = ∅ := by
    refine OrdMap.ext_get fun routeId => ?_
    rw [get_persisted]
    simp
  exact congrArg (fun routes => ({ routes, pushes := ∅ } : RegistryState)) hroutes

/-- the state without presence is as sound -/
theorem RegistryState.Sound.persisted (h : state.Sound) : state.persisted.Sound where
  count := by
    rw [RegistryState.persisted, Std.ExtTreeMap.size_map]
    exact h.count
  routes routeId route hroute := by
    rw [get_persisted, Option.map_eq_some_iff] at hroute
    obtain ⟨found, hfound, rfl⟩ := hroute
    have hsound := h.routes routeId found hfound
    exact ⟨hsound.url, hsound.room, hsound.admin, hsound.tokens, hsound.apart⟩
  pushRoutes routeId pushes hpushes := by
    rw [get_persisted, Option.isSome_map]
    exact h.pushRoutes routeId pushes hpushes
  pushes routeId slotId address haddress := by
    obtain ⟨⟨route, hroute, hgranted⟩, hformed⟩ := h.pushes routeId slotId address haddress
    exact ⟨⟨{ route with presence := none }, by rw [get_persisted, hroute]; rfl, hgranted⟩, hformed⟩

/-- what holds of a registry whatever its writes do -/
structure Registry.Sound (registry : Registry) : Prop where
  state : registry.state.Sound
  file : registry.file.Sound

/-- a commit that fails leaves the state alone -/
theorem commit_error {outcome : WriteOutcome} {e : RemoteError} (h : (registry.commit mutate outcome).1 = .error e) :
    (registry.commit mutate outcome).2.state = registry.state := by
  unfold Registry.commit at h ⊢
  cases hnext : mutate registry.state with
  | error e => rfl
  | ok next =>
    cases outcome with
    | written =>
      rw [hnext] at h
      cases h
    | failed | unsynced => rfl

theorem Registry.Sound.commit (hdigests : NonzeroDigests env) (hmutation : Mutation env mutate) {outcome : WriteOutcome}
    (h : registry.Sound) :
    (registry.commit mutate outcome).2.Sound := by
  unfold Registry.commit
  cases hnext : mutate registry.state with
  | error e => exact h
  | ok next =>
    have hsound : next.Sound := hmutation.sound hdigests h.state hnext
    cases outcome with
    | written => exact ⟨hsound, hsound.persisted⟩
    | failed => exact h
    | unsynced => exact ⟨h.state, hsound.persisted⟩

/-- the file follows the state unless a write fails too late -/
theorem commit_synced {outcome : WriteOutcome} (houtcome : outcome ≠ .unsynced)
    (h : registry.file = registry.state.persisted) :
    (registry.commit mutate outcome).2.file = (registry.commit mutate outcome).2.state.persisted := by
  unfold Registry.commit
  cases mutate registry.state with
  | error e => exact h
  | ok next =>
    cases outcome with
    | written => rfl
    | failed => exact h
    | unsynced => exact absurd rfl houtcome

/-- an opened file is the state of the registry -/
theorem openFile_sound (h : state.Sound) : Registry.openFile state = .ok ⟨state, state⟩ := by
  rw [Registry.openFile, seq_eq_ok]
  exact ⟨h.validate, rfl⟩

/-! ## Requests commit only mutations -/

/-- a program leaves the registry alone, or is one commit of a mutation -/
def Commits (env : RelayEnv) (outcome : WriteOutcome) {α : Type} (p : RegistryM α) : Prop :=
  ∀ registry, (p registry).2 = registry ∨
    ∃ mutate, Mutation env mutate ∧ (p registry).2 = (registry.commit mutate outcome).2

/-- the commit of any other arm is that of a revocation which is no retry -/
theorem committed_eq_revoked {outcome : WriteOutcome} : committed mutate outcome = revoked mutate false outcome := by
  funext registry
  unfold committed revoked
  rcases registry.commit mutate outcome with ⟨_ | _, _⟩ <;> simp

namespace Commits

variable {outcome : WriteOutcome} {α β : Type}

theorem fail {code : RemoteErrorCode} : Commits env outcome (Prog.fail code : RegistryM α) := fun _ => .inl rfl

theorem pure {a : α} : Commits env outcome (pure a : RegistryM α) := fun _ => .inl rfl

/-- a check or a conversion first -/
theorem lift_bind {x : Except RemoteErrorCode α} {f : α → RegistryM β} (h : ∀ a, x = .ok a → Commits env outcome (f a)) :
    Commits env outcome (Prog.liftExcept x >>= f) := by
  intro registry
  cases hx : x with
  | error code => exact .inl rfl
  | ok a => exact h a hx registry

/-- a read first -/
theorem looked_bind {read : RegistryState → Except RemoteError α} {f : α → RegistryM β}
    (h : ∀ a, Commits env outcome (f a)) : Commits env outcome (looked read >>= f) := by
  intro registry
  cases hread : read registry.state with
  | error e =>
    have hrun : looked read registry = (.error e.code, registry) := by rw [looked, hread]; rfl
    rw [Prog.run_bind_error hrun]
    exact .inl rfl
  | ok a =>
    have hrun : looked read registry = (.ok a, registry) := by rw [looked, hread]; rfl
    rw [Prog.run_bind hrun]
    exact h a registry

/-- a commit, and then nothing that touches the registry -/
theorem revoked_bind (hmutation : Mutation env mutate) {replayed : Bool} {f : Unit → RegistryM β}
    (h : ∀ u registry, (f u registry).2 = registry) :
    Commits env outcome (revoked mutate replayed outcome >>= f) := by
  intro registry
  refine .inr ⟨mutate, hmutation, ?_⟩
  rw [Prog.run_bind_snd h, revoked]
  rcases registry.commit mutate outcome with ⟨e | _, registry⟩
  · simp only
    split_ifs <;> rfl
  · rfl

theorem committed_bind (hmutation : Mutation env mutate) {f : Unit → RegistryM β}
    (h : ∀ u registry, (f u registry).2 = registry) :
    Commits env outcome (committed mutate outcome >>= f) := by
  rw [committed_eq_revoked]
  exact revoked_bind hmutation h

end Commits

/-- a conversion at the end leaves the registry alone -/
theorem lift_pure_snd {α β : Type} {x : Except RemoteErrorCode α} {f : α → β} (registry : Registry) :
    ((Prog.liftExcept x >>= fun a => pure (f a) : RegistryM β) registry).2 = registry :=
  Prog.run_bind_snd (fun _ _ => rfl) registry

theorem convertPush_formed {wire : WirePushAddress} {address : PushAddress} (h : convertPush wire = .ok address) :
    address.wellFormed := by
  simp only [convertPush, bind_eq_ok] at h
  obtain ⟨_, -, _, -, _, -, h⟩ := h
  cases hmade : PushAddress.fcmFid wire.opaqueAddress wire.registeredAtMs.toNat wire.expiresAtMs.toNat with
  | none => simp [hmade] at h
  | some made =>
    simp only [hmade, pure_eq_ok] at h
    subst h
    have hmade' := hmade
    unfold PushAddress.fcmFid at hmade'
    split_ifs at hmade'
    cases hmade'
    exact hmade

/-- **A request commits mutations only.** -/
theorem perform_commits (frame : RemoteControlFrame) (now later : Nat) (replayed : Bool) (outcome : WriteOutcome) :
    Commits env outcome (perform env frame now later replayed outcome) := by
  cases frame with
  | registerRoute =>
    refine .lift_bind fun routeId _ => .lift_bind fun routeHint _ => .lift_bind fun adminToken _ =>
      .lift_bind fun hostEndpoint _ => .committed_bind (.registerRoute _) fun _ _ => rfl
  | registerPresence =>
    exact .lift_bind fun routeId _ => .lift_bind fun adminToken _ => .lift_bind fun hostEndpoint _ =>
      .committed_bind (.registerPresence _ later) fun _ => lift_pure_snd
  | registerDeviceGrant =>
    exact .lift_bind fun routeId _ => .lift_bind fun adminToken _ => .lift_bind fun slotId _ =>
      .lift_bind fun accessToken _ => .committed_bind (.registerDeviceGrant _) fun _ _ => rfl
  | resolveRoute =>
    exact .lift_bind fun routeId _ => .lift_bind fun slotId _ => .lift_bind fun accessToken _ =>
      .looked_bind fun resolved => .lift_bind fun expiresAtMs _ => .pure
  | replacePushAddress =>
    exact .lift_bind fun routeId _ => .lift_bind fun slotId _ => .lift_bind fun accessToken _ =>
      .lift_bind fun address haddress =>
        .committed_bind (.registerPush routeId slotId accessToken later (convertPush_formed haddress)) fun _ => lift_pure_snd
  | deletePushAddress =>
    exact .lift_bind fun routeId _ => .lift_bind fun slotId _ => .lift_bind fun accessToken _ =>
      .committed_bind (.deletePush routeId slotId accessToken) fun _ _ => rfl
  | wakeDevice requestId operationId issuedAtMs routeId slotId adminToken wakeId =>
    refine .lift_bind fun routeId _ => .lift_bind fun slotId _ => .lift_bind fun adminToken _ =>
      .looked_bind fun found => ?_
    cases found with
    | none => exact .fail
    | some found =>
      simp only
      cases PushPayload.wakeWithId found.2 wakeId with
      | none => exact .fail
      | some payload => exact .pure
  | revokeDeviceGrant =>
    exact .lift_bind fun routeId _ => .lift_bind fun slotId _ => .lift_bind fun adminToken _ =>
      .revoked_bind (.revokeDevice routeId adminToken slotId) fun _ _ => rfl
  | _ => exact .fail

/-! ## Runs -/

/-- the write that a step comes with -/
def Input.outcome : Input → Option WriteOutcome
  | .perform _ _ outcome | .deletePush _ outcome => some outcome
  | _ => none

namespace System

/-- a step leaves the registry alone, or is one commit of a mutation -/
theorem step_commits (env : RelayEnv) (s : System) (input : Input) :
    (s.step env input).registry = s.registry ∨ ∃ mutate outcome, Mutation env mutate ∧ input.outcome = some outcome ∧
      (s.step env input).registry = (s.registry.commit mutate outcome).2 := by
  have htook := step_took env s input
  generalize s.step env input = s' at htook
  cases htook with
  | none | readClock => exact .inl rfl
  | receive => exact .inl receive_registry
  | authorize => exact .inl authorizeStep_registry
  | accept => exact .inl acceptStep_registry
  | @perform connection now later frame replayed outcome _ =>
    rcases perform_commits frame now later replayed outcome s.registry with hsame | ⟨mutate, hmutation, hcommit⟩
    · exact .inl hsame
    · exact .inr ⟨mutate, outcome, hmutation, rfl, hcommit⟩
  | @deletePush dispatch outcome => exact .inr ⟨_, outcome, .deletePushForService _ _, rfl, rfl⟩

/-- every run keeps the state and the file sound -/
theorem run_sound (hdigests : NonzeroDigests env) (inputs : List Input) :
    (runFrom (step env) {} inputs).registry.Sound := by
  have hstart : ({} : System).registry.Sound := ⟨RegistryState.Sound.empty, RegistryState.Sound.empty⟩
  refine run_inv_all (I := fun s : System => s.registry.Sound) (fun s input h => ?_) hstart inputs
  rcases step_commits env s input with hsame | ⟨mutate, outcome, hmutation, -, hcommit⟩
  · rw [hsame]
    exact h
  · rw [hcommit]
    exact h.commit hdigests hmutation

/-- without a write that fails too late, the file is the state without presence -/
theorem run_synced (inputs : List Input) (hsynced : ∀ input ∈ inputs, input.outcome ≠ some .unsynced) :
    (runFrom (step env) {} inputs).registry.file = (runFrom (step env) {} inputs).registry.state.persisted := by
  have hstart : ({} : System).registry.file = ({} : System).registry.state.persisted := persisted_empty.symm
  refine run_inv (P := fun _ input => input.outcome ≠ some .unsynced)
    (I := fun s : System => s.registry.file = s.registry.state.persisted) (fun s input h hinput => ?_) hstart
    (along_of_forall fun _ input hinput => hsynced input hinput)
  rcases step_commits env s input with hsame | ⟨mutate, outcome, hmutation, houtcome, hcommit⟩
  · rw [hsame]
    exact h
  · rw [hcommit]
    refine commit_synced (fun hunsynced => hinput ?_) h
    rw [houtcome, hunsynced]

end System

end

/-- **The registry keeps its integrity in every run.** Whatever the frames, the dropped addresses and the failures of the
storage are, the state passes the check of `open`, no slot is both granted and revoked, every push address is that of a granted
slot, the slots of a route stay within the limit, a commit that fails leaves the state alone, and the file can be opened. As
long as no write fails after the new file has taken the place of the old one, the opened registry has the current state,
without presence. -/
theorem registry_integrity (env : RelayEnv) (hdigests : NonzeroDigests env) (inputs : List Input) :
    let registry := (runFrom (System.step env) {} inputs).registry
    validateState registry.state = .ok () ∧
    (∀ (routeId : RouteId) route, registry.state.routes[routeId]? = some route →
      (∀ slotId : DeviceSlotId, ¬ (route.grants.contains slotId = true ∧ route.revoked.contains slotId = true)) ∧
      route.grants.size + route.revoked.size ≤ maxGrantsPerRoute) ∧
    (∀ routeId slotId address, registry.state.pushAt routeId slotId = some address →
      registry.state.granted routeId slotId) ∧
    (∀ mutate outcome e, (registry.commit mutate outcome).1 = .error e →
      (registry.commit mutate outcome).2.state = registry.state) ∧
    (∃ opened, Registry.openFile registry.file = .ok opened) ∧
    ((∀ input ∈ inputs, input.outcome ≠ some .unsynced) →
      Registry.openFile registry.file = .ok ⟨registry.state.persisted, registry.state.persisted⟩) := by
  intro registry
  have hsound : registry.Sound := System.run_sound hdigests inputs
  refine ⟨hsound.state.validate, fun routeId route hroute => ?_, fun routeId slotId address haddress => ?_,
    fun mutate outcome e => commit_error, ⟨_, openFile_sound hsound.file⟩, fun hsynced => ?_⟩
  · have hroute := hsound.state.routes routeId route hroute
    refine ⟨?_, hroute.room⟩
    rintro slotId ⟨hgranted, hrevoked⟩
    rw [hroute.apart slotId hgranted] at hrevoked
    cases hrevoked
  · exact (hsound.state.pushes routeId slotId address haddress).1
  · rw [show registry.file = registry.state.persisted from System.run_synced inputs hsynced]
    exact openFile_sound hsound.state.persisted

/-! ## A write that fails too late -/

theorem nonzero_sampleRelayEnv : NonzeroDigests sampleRelayEnv := by
  intro bytes hzero
  have hbytes : sampleBytes bytes = List.replicate 32 0 := congrArg OpaqueId.bytes hzero
  cases (List.cons.inj hbytes).1

/-- the registration of a route, with a write -/
def registering (outcome : WriteOutcome) : List Input :=
  [.receive 1 hello, .receive 1 captured, .readClock 1 40000, .authorize 1, .accept 1, .perform 1 40000 outcome]

theorem registry_integrity_registering :
    Registry.openFile (runFrom (System.step sampleRelayEnv) {} (registering .written)).registry.file =
      .ok ⟨(runFrom (System.step sampleRelayEnv) {} (registering .written)).registry.state.persisted,
        (runFrom (System.step sampleRelayEnv) {} (registering .written)).registry.state.persisted⟩ :=
  (registry_integrity sampleRelayEnv nonzero_sampleRelayEnv (registering .written)).2.2.2.2.2 (by decide)

/-- the parent directory cannot be synced: the route is refused, and there again when the registry is opened -/
theorem unsynced_file_ahead : ¬ ∀ inputs : List Input,
    Registry.openFile (runFrom (System.step sampleRelayEnv) {} inputs).registry.file =
      .ok ⟨(runFrom (System.step sampleRelayEnv) {} inputs).registry.state.persisted,
        (runFrom (System.step sampleRelayEnv) {} inputs).registry.state.persisted⟩ := by
  intro h
  have hopened := h (registering .unsynced)
  rw [Registry.openFile, seq_eq_ok, pure_eq_ok] at hopened
  have hsize := congrArg (fun registry : Registry => registry.file.routes.size) hopened.2
  exact absurd hsize (by decide +kernel)

end Kaleido.Relay
