/-
Durability of remote control (`kaleido-hostd`, `remote_control.rs`): every run of its operations, with any responses of the
relay and any failed writes.

`Held` says that the state is valid and that the file is read back as the state. A commit keeps it as long as its mutation
keeps the state valid (`commits_grow`), although the candidate is written before it is checked. Each mutation writes one device
and changes the outbox at one end (`Valid.update`).

`control_plane_durable` is the result. The identifiers of new slots are assumed fresh: the random bytes of a slot are not those
of a slot the host has given out.
-/
import Kaleido.Lib.Moves
import Kaleido.Hostd.RemoteState

namespace Kaleido.Hostd

open Check Transport Prog

variable {draw : GrantDraw} {next : DurableState} {operation : Vector UInt8 16} {pending : PendingRevoke}
  {rest : List PendingRevoke} {plane : RemoteControlPlane}
  {mutate : DurableState → Except RemoteControlError DurableState} {issuedAtMs : Int64}

variable {enqueuedAtMs expiresAtMs reconciledAtMs : Int64} {status : DeviceStatus} {connection : Exchange}

/-! ## Mutations keep a state valid -/

section

variable {env : AddressEnv} {state : DurableState} {deviceId : String} {record : DeviceRecord} {outbox : List PendingRevoke}

/-- one device is written, and the outbox replaced -/
def DurableState.update (state : DurableState) (deviceId : String) (record : DeviceRecord) (outbox : List PendingRevoke) :
    DurableState :=
  { state.setDevice deviceId record with revokeOutbox := outbox }

theorem get_update (other : String) : (state.update deviceId record outbox).devices[other]? =
    if deviceId = other then some record else state.devices[other]? := by
  rw [DurableState.update, DurableState.setDevice, OrdMap.get_insert]

/-- what a written device and a replaced outbox have to meet -/
structure Writable (state : DurableState) (deviceId : String) (record : DeviceRecord) (outbox : List PendingRevoke) : Prop where
  identifier : validateDeviceId deviceId = .ok ()
  room : (state.devices[deviceId]?).isSome ∨ state.devices.size < maxRemoteDevices
  slotId : validateRandomId record.slotId = .ok ()
  slots : ∀ (other : String) record', deviceId ≠ other → state.devices[other]? = some record' →
    record.slotId ≠ record'.slotId
  token : record.status.active = record.accessToken.isSome
  tokens : ∀ token, record.accessToken = some token → validateToken token = .ok ()
  nodup : (outbox.map PendingRevoke.deviceId).Nodup
  pending : ∀ pending ∈ outbox, (pending.deviceId ≠ deviceId ∧ pending ∈ state.revokeOutbox) ∨
    (pending.deviceId = deviceId ∧ record.status = .revokePending ∧ record.slotId = pending.slotId ∧
      validateRandomId pending.operationId = .ok () ∧ 0 ≤ pending.enqueuedAtMs.toInt)
  listed : record.status = .revokePending → deviceId ∈ outbox.map PendingRevoke.deviceId
  kept : ∀ pending ∈ state.revokeOutbox, pending.deviceId ≠ deviceId → pending ∈ outbox

theorem DurableState.Valid.update (h : state.Valid env) (hwritable : Writable state deviceId record outbox) :
    (state.update deviceId record outbox).Valid env where
  routeId := h.routeId
  routeHint := h.routeHint
  adminToken := h.adminToken
  config := h.config
  presence := h.presence
  count := by
    show (state.devices.insert deviceId record).size ≤ maxRemoteDevices
    rw [Std.ExtTreeMap.size_insert]
    split_ifs with hthere
    · exact h.count
    · rw [Std.ExtTreeMap.contains_eq_isSome_getElem?] at hthere
      have := hwritable.room.resolve_left hthere
      omega
  deviceId := OrdMap.forall_insert h.deviceId hwritable.identifier
  slotId := OrdMap.forall_insert h.slotId hwritable.slotId
  slots first second found found' hfirst hsecond hslot := by
    rw [get_update] at hfirst hsecond
    split_ifs at hfirst hsecond with hsame hsame' hsame'
    · exact hsame.symm.trans hsame'
    · cases hfirst
      exact absurd hslot (hwritable.slots second found' hsame' hsecond)
    · cases hsecond
      exact absurd hslot.symm (hwritable.slots first found hsame hfirst)
    · exact h.slots first second found found' hfirst hsecond hslot
  token := OrdMap.forall_insert h.token hwritable.token
  tokens other found token hfound htoken := by
    rcases OrdMap.of_get_insert hfound with ⟨-, rfl⟩ | ⟨-, hfound⟩
    · exact hwritable.tokens token htoken
    · exact h.tokens other found token hfound htoken
  pending pending hpending := by
    rw [get_update]
    rcases hwritable.pending pending hpending with ⟨hother, hold⟩ | ⟨rfl, hstatus, hslot, hoperation, henqueued⟩
    · rw [if_neg hother.symm]
      exact h.pending pending hold
    · rw [if_pos rfl]
      exact ⟨hoperation, henqueued, record, rfl, hstatus, hslot⟩
  outbox := hwritable.nodup
  listed other found hfound hstatus := by
    rcases OrdMap.of_get_insert hfound with ⟨rfl, rfl⟩ | ⟨hsame, hfound⟩
    · exact hwritable.listed hstatus
    · obtain ⟨pending, hpending, rfl⟩ := List.mem_map.mp (h.listed other found hfound hstatus)
      exact List.mem_map_of_mem (hwritable.kept pending hpending (Ne.symm hsame))

/-- a device without a pending revocation is not in the outbox -/
theorem DurableState.Valid.not_listed (h : state.Valid env)
    (hnot : ∀ record, state.devices[deviceId]? = some record → record.status ≠ .revokePending) :
    ∀ pending ∈ state.revokeOutbox, pending.deviceId ≠ deviceId := by
  rintro pending hpending rfl
  obtain ⟨-, -, record, hrecord, hstatus, -⟩ := h.pending pending hpending
  exact hnot record hrecord hstatus

/-- a device is written that has no revocation pending, before or after -/
theorem DurableState.Valid.setDevice (h : state.Valid env) (hidentifier : validateDeviceId deviceId = .ok ())
    (hroom : (state.devices[deviceId]?).isSome ∨ state.devices.size < maxRemoteDevices)
    (hslotId : validateRandomId record.slotId = .ok ())
    (hslots : ∀ (other : String) record', deviceId ≠ other → state.devices[other]? = some record' →
      record.slotId ≠ record'.slotId)
    (htoken : record.status.active = record.accessToken.isSome)
    (htokens : ∀ token, record.accessToken = some token → validateToken token = .ok ())
    (hbefore : ∀ record, state.devices[deviceId]? = some record → record.status ≠ .revokePending)
    (hafter : record.status ≠ .revokePending) : (state.setDevice deviceId record).Valid env := by
  have hnot := h.not_listed hbefore
  have hwritable : Writable state deviceId record state.revokeOutbox :=
    ⟨hidentifier, hroom, hslotId, hslots, htoken, htokens, h.outbox,
      fun pending hpending => .inl ⟨hnot pending hpending, hpending⟩, fun hstatus => absurd hstatus hafter,
      fun pending hpending _ => hpending⟩
  exact h.update hwritable

theorem insertDevice_valid (h : state.Valid env) (hidentifier : validateDeviceId deviceId = .ok ())
    (hnew : state.devices[deviceId]? = none) (hroom : state.devices.size < maxRemoteDevices)
    (hfresh : ∀ (other : String) record, state.devices[other]? = some record → generateRemoteId draw.slot ≠ record.slotId) :
    (state.setDevice deviceId ⟨generateRemoteId draw.slot, some (generateRemoteToken draw.token), .pendingGrant⟩).Valid env := by
  refine h.setDevice hidentifier (.inr hroom) (validateRandomId_generate _) (fun other record _ => hfresh other record) rfl ?_
    (by simp [hnew]) (by simp)
  rintro token ⟨⟩
  exact validateToken_generate _

theorem deviceRecord_eq_ok : deviceRecord deviceId state = .ok record ↔ state.devices[deviceId]? = some record := by
  unfold deviceRecord
  cases state.devices[deviceId]? <;> simp

theorem setRegistered_valid (h : state.Valid env) (hnext : setRegistered deviceId state = .ok next) :
    ∃ record, state.devices[deviceId]? = some record ∧ record.status = .pendingGrant ∧
      next = state.setDevice deviceId { record with status := .registered } ∧ next.Valid env := by
  simp only [setRegistered, bind_eq_ok, deviceRecord_eq_ok, pure_eq_ok] at hnext
  obtain ⟨record, hrecord, _, hstatus, rfl⟩ := hnext
  rw [ensure_eq_ok] at hstatus
  refine ⟨record, hrecord, hstatus, rfl, ?_⟩
  have htoken := h.token deviceId record hrecord
  rw [hstatus] at htoken
  refine h.setDevice (h.deviceId _ _ hrecord) (.inl (by rw [hrecord]; rfl)) (h.slotId _ record hrecord) ?_ htoken
    (fun token => h.tokens deviceId record token hrecord) ?_ (by simp)
  · exact fun other record' hne hother hslot => hne (h.slots _ _ _ _ hrecord hother hslot)
  · intro found hfound
    cases hrecord.symm.trans hfound
    simp [hstatus]

theorem appendRevoke_valid (h : state.Valid env) (hrecord : state.devices[deviceId]? = some record)
    (hactive : record.status.active = true) (henqueued : 0 ≤ enqueuedAtMs.toInt)
    (hnext : appendRevoke deviceId enqueuedAtMs operation state = .ok next) :
    next = state.update deviceId ⟨record.slotId, none, .revokePending⟩
        (state.revokeOutbox ++ [⟨deviceId, record.slotId, generateRemoteId operation, enqueuedAtMs⟩]) ∧ next.Valid env := by
  have hvalue : next = state.update deviceId ⟨record.slotId, none, .revokePending⟩
      (state.revokeOutbox ++ [⟨deviceId, record.slotId, generateRemoteId operation, enqueuedAtMs⟩]) := by
    simp only [appendRevoke, bind_eq_ok, deviceRecord_eq_ok, pure_eq_ok] at hnext
    obtain ⟨found, hfound, rfl⟩ := hnext
    cases hrecord.symm.trans hfound
    rfl
  refine ⟨hvalue, ?_⟩
  have hnot : ∀ pending ∈ state.revokeOutbox, pending.deviceId ≠ deviceId := by
    refine h.not_listed fun found hfound hstatus => ?_
    cases hrecord.symm.trans hfound
    rw [hstatus] at hactive
    cases hactive
  rw [hvalue]
  refine h.update ⟨h.deviceId _ _ hrecord, .inl (by rw [hrecord]; rfl), h.slotId _ record hrecord, ?_, rfl, by simp, ?_, ?_, ?_, ?_⟩
  · exact fun other record' hne hother hslot => hne (h.slots _ _ _ _ hrecord hother hslot)
  · rw [List.map_append, List.nodup_append]
    refine ⟨h.outbox, by simp, ?_⟩
    intro first hfirst second hsecond
    obtain ⟨pending, hpending, rfl⟩ := List.mem_map.mp hfirst
    rw [List.map_singleton, List.mem_singleton] at hsecond
    rw [hsecond]
    exact hnot pending hpending
  · exact List.forall_mem_append.mpr ⟨fun pending hold => .inl ⟨hnot pending hold, hold⟩,
      List.forall_mem_singleton.mpr (.inr ⟨rfl, rfl, rfl, validateRandomId_generate _, henqueued⟩)⟩
  · intro _
    simp
  · exact fun pending hpending _ => List.mem_append_left _ hpending

theorem completeRevoke_valid (h : state.Valid env) (hfront : state.revokeOutbox = pending :: rest)
    (hnext : completeRevoke pending state = .ok next) :
    ∃ record, state.devices[pending.deviceId]? = some record ∧ record.status = .revokePending ∧
      next = state.update pending.deviceId { record with status := .revoked } rest ∧ next.Valid env := by
  simp only [completeRevoke, hfront, bind_eq_ok, deviceRecord_eq_ok, pure_eq_ok] at hnext
  obtain ⟨_, -, record, hrecord, _, hstatus, rfl⟩ := hnext
  rw [ensure_eq_ok, not_or, not_not, not_not] at hstatus
  refine ⟨record, hrecord, hstatus.1, rfl, ?_⟩
  have hnodup := h.outbox
  rw [hfront, List.map_cons, List.nodup_cons] at hnodup
  have hother : ∀ later ∈ rest, later.deviceId ≠ pending.deviceId := fun later hlater heq =>
    hnodup.1 (heq ▸ List.mem_map_of_mem hlater)
  have htoken := h.token _ _ hrecord
  rw [hstatus.1] at htoken
  refine h.update ⟨h.deviceId _ _ hrecord, .inl (by rw [hrecord]; rfl), h.slotId _ record hrecord, ?_, htoken,
    fun token => h.tokens _ record token hrecord, hnodup.2, ?_, by simp, ?_⟩
  · exact fun other record' hne hother hslot => hne (h.slots _ _ _ _ hrecord hother hslot)
  · exact fun later hlater => .inl ⟨hother later hlater, by rw [hfront]; exact List.mem_cons_of_mem _ hlater⟩
  · intro later hlater hne
    rw [hfront, List.mem_cons] at hlater
    rcases hlater with rfl | hlater
    · exact absurd rfl hne
    · exact hlater

/-! ## What an operation does to the state -/

/-- the statuses in the order a device goes through them -/
def DeviceStatus.rank : DeviceStatus → Nat
  | .pendingGrant => 0
  | .registered => 1
  | .revokePending => 2
  | .revoked => 3

theorem DeviceStatus.active_iff_rank : status.active = true ↔ status.rank < 2 := by
  cases status <;> decide

theorem DeviceStatus.revoked_of_rank (h : DeviceStatus.revoked.rank ≤ status.rank) :
    status = .revoked := by
  revert h
  cases status <;> decide

/-- every device stays, in its slot, and its status does not go back -/
def DurableState.Ages (state next : DurableState) : Prop :=
  ∀ (deviceId : String) record, state.devices[deviceId]? = some record → ∃ record',
    next.devices[deviceId]? = some record' ∧ record'.slotId = record.slotId ∧ record.status.rank ≤ record'.status.rank

theorem DurableState.Ages.rfl : state.Ages state := fun _ record h => ⟨record, h, Eq.refl _, le_rfl⟩

theorem DurableState.Ages.trans {last : DurableState} (h : state.Ages next) (h' : next.Ages last) :
    state.Ages last := by
  intro deviceId record hrecord
  obtain ⟨record', hrecord', hslot, hrank⟩ := h deviceId record hrecord
  obtain ⟨record'', hrecord'', hslot', hrank'⟩ := h' deviceId record' hrecord'
  exact ⟨record'', hrecord'', hslot'.trans hslot, hrank.trans hrank'⟩

/-- a device is written over one with the same slot and an earlier status -/
theorem DurableState.Ages.update (h : ∀ found, state.devices[deviceId]? = some found →
    record.slotId = found.slotId ∧ found.status.rank ≤ record.status.rank) :
    state.Ages (state.update deviceId record outbox) := by
  intro other found hfound
  rw [get_update]
  by_cases heq : deviceId = other
  · subst heq
    rw [if_pos (Eq.refl _)]
    exact ⟨record, Eq.refl _, h found hfound⟩
  · rw [if_neg heq]
    exact ⟨found, hfound, Eq.refl _, le_rfl⟩

/-- the state is valid, and the file is read back as the state -/
structure RemoteControlPlane.Held (env : AddressEnv) (plane : RemoteControlPlane) : Prop where
  valid : plane.state.Valid env
  file : parseState env plane.file = .ok plane.state

/-- revocations are only added -/
structure DurableState.Grow (state next : DurableState) : Prop where
  ages : state.Ages next
  outbox : state.revokeOutbox <+: next.revokeOutbox

/-- a plane that is held stays held, and revocations are only added -/
def RemoteControlPlane.Grows (env : AddressEnv) (plane plane' : RemoteControlPlane) : Prop :=
  plane.Held env → plane'.Held env ∧ plane.state.Grow plane'.state

instance : Std.Refl (RemoteControlPlane.Grows env) where
  refl _ held := ⟨held, .rfl, List.prefix_rfl⟩

instance : IsTrans RemoteControlPlane (RemoteControlPlane.Grows env) where
  trans _ _ _ h h' held :=
    have ⟨held', hgrow⟩ := h held
    have ⟨held'', hgrow'⟩ := h' held'
    ⟨held'', hgrow.ages.trans hgrow'.ages, hgrow.outbox.trans hgrow'.outbox⟩

/-- a state that is committed -/
def RemoteControlPlane.store (plane : RemoteControlPlane) (next : DurableState) : RemoteControlPlane :=
  { plane with file := stateToValue next, state := next }

theorem RemoteControlPlane.Held.store (hshort : env.Short) (hvalid : next.Valid env) : (plane.store next).Held env :=
  ⟨hvalid, parseState_stateToValue hvalid (size_stateToValue hshort hvalid)⟩

/-- a commit whose candidate is valid is stored, or fails and changes nothing -/
theorem commit_cases {stored : Bool} (hvalid : ∀ next, mutate plane.state = .ok next → next.Valid env) :
    (∃ e, commit env mutate stored plane = (.error e, plane)) ∨
      ∃ next, mutate plane.state = .ok next ∧ commit env mutate stored plane = (.ok (), plane.store next) := by
  cases hnext : mutate plane.state with
  | error e => exact .inl ⟨e, by simp only [commit, hnext]⟩
  | ok next =>
    cases stored with
    | false => exact .inl ⟨.storage, by simp [commit, hnext]⟩
    | true =>
      refine .inr ⟨next, rfl, ?_⟩
      have hchecked := validateState_eq_ok.mpr (hvalid next hnext)
      simp only [commit, hnext, hchecked, if_true]
      rfl

/-- the random bytes of a new slot are not those of a slot that is given out -/
def GrantDraw.Fresh (draw : GrantDraw) (state : DurableState) : Prop :=
  ∀ record ∈ state.devices.vals, generateRemoteId draw.slot ≠ record.slotId

/-- the mutations of operations that only add, with what is known of the state when they are committed -/
inductive Mutates (drawn : GrantDraw → DurableState → Prop) (state : DurableState) :
    (DurableState → Except RemoteControlError DurableState) → Prop where
  | insert {deviceId : String} {draw : GrantDraw} (identifier : validateDeviceId deviceId = .ok ())
      (new : state.devices[deviceId]? = none) (room : state.devices.size < maxRemoteDevices) (fits : drawn draw state) :
      Mutates drawn state (insertDevice deviceId draw)
  | grant {deviceId : String} : Mutates drawn state (setRegistered deviceId)
  | revoke {deviceId : String} {enqueuedAtMs : Int64} {operation : Vector UInt8 16} {record : DeviceRecord}
      (there : state.devices[deviceId]? = some record) (active : record.status.active = true)
      (enqueued : 0 ≤ enqueuedAtMs.toInt) : Mutates drawn state (appendRevoke deviceId enqueuedAtMs operation)

variable {drawn : GrantDraw → DurableState → Prop}

theorem Mutates.grow (h : Mutates drawn state mutate) (hvalid : state.Valid env) (hnext : mutate state = .ok next) :
    state.Grow next := by
  cases h with
  | insert _ hnew =>
    cases hnext
    refine ⟨.update ?_, List.prefix_rfl⟩
    rw [hnew]
    nofun
  | grant =>
    obtain ⟨record, hrecord, hstatus, rfl, -⟩ := setRegistered_valid hvalid hnext
    refine ⟨.update fun found hfound => ?_, List.prefix_rfl⟩
    cases hrecord.symm.trans hfound
    simp [hstatus, DeviceStatus.rank]
  | revoke hrecord hactive henqueued =>
    obtain ⟨rfl, -⟩ := appendRevoke_valid hvalid hrecord hactive henqueued hnext
    refine ⟨.update fun found hfound => ?_, List.prefix_append _ _⟩
    cases hrecord.symm.trans hfound
    exact ⟨rfl, (DeviceStatus.active_iff_rank.mp hactive).le⟩

theorem Mutates.valid (h : Mutates GrantDraw.Fresh state mutate) (hvalid : state.Valid env) (hnext : mutate state = .ok next) :
    next.Valid env := by
  cases h with
  | insert hidentifier hnew hroom hfresh =>
    cases hnext
    exact insertDevice_valid hvalid hidentifier hnew hroom fun other record hother =>
      hfresh record (OrdMap.mem_vals_of_get hother)
  | grant =>
    obtain ⟨-, -, -, -, hvalid'⟩ := setRegistered_valid hvalid hnext
    exact hvalid'
  | revoke hrecord hactive henqueued => exact (appendRevoke_valid hvalid hrecord hactive henqueued hnext).2

/-! ## Operations that only add -/

/-- their commits move the plane along `R` -/
def Commits (env : AddressEnv) (drawn : GrantDraw → DurableState → Prop)
    (R : RemoteControlPlane → RemoteControlPlane → Prop) : Prop :=
  ∀ (plane : RemoteControlPlane) mutate stored, Mutates drawn plane.state mutate → R plane (commit env mutate stored plane).2

theorem commits_grow (hshort : env.Short) : Commits env GrantDraw.Fresh (RemoteControlPlane.Grows env) := by
  intro plane mutate stored hmutates held
  rcases commit_cases (fun next hnext => hmutates.valid held.valid hnext) with ⟨e, hcommit⟩ | ⟨next, hnext, hcommit⟩
  · rw [hcommit]
    exact ⟨held, .rfl, List.prefix_rfl⟩
  · rw [hcommit]
    exact ⟨.store hshort (hmutates.valid held.valid hnext), hmutates.grow held.valid hnext⟩

section

variable {stored : Bool} {R : RemoteControlPlane → RemoteControlPlane → Prop} [Std.Refl R]

theorem lookedUp_moves {α : Type} {read : DurableState → Except RemoteControlError α} :
    Moves R (fun a plane' => plane' = plane ∧ read plane.state = .ok a) (lookedUp read) plane :=
  ⟨refl plane, fun _ ha => ⟨rfl, ha⟩⟩

variable [IsTrans RemoteControlPlane R]

/-- what only reads stays where it is -/
theorem grantRequest_moves : Moves R (fun _ _ => True) (grantRequest deviceId issuedAtMs operation) plane := by
  refine lookedUp_moves.bind ?_
  rintro ⟨_, _, status⟩ _ - ⟨rfl, -⟩
  cases status with
  | revokePending | revoked => exact .fail
  | registered => exact .pure trivial
  | pendingGrant =>
    refine lookedUp_moves.bind ?_
    rintro credential _ - ⟨rfl, -⟩
    exact Moves.read.bind fun _ _ _ _ => .pure trivial

theorem beginGrant_moves (hcommits : Commits env drawn R) (hdrawn : drawn draw plane.state) :
    Moves R (fun _ _ => True) (beginGrant env deviceId issuedAtMs expiresAtMs draw stored) plane := by
  refine Moves.liftExcept.bind ?_
  rintro ⟨⟩ _ - ⟨rfl, hidentifier⟩
  refine Moves.require.bind ?_
  rintro ⟨⟩ _ - ⟨rfl, -⟩
  refine Moves.read.bind ?_
  rintro known plane - ⟨rfl, hknown⟩
  refine .ite (fun _ => grantRequest_moves) fun hnot => ?_
  refine Moves.read.bind ?_
  rintro count _ - ⟨rfl, rfl⟩
  refine Moves.require.bind ?_
  rintro ⟨⟩ plane - ⟨rfl, hroom⟩
  rw [hknown, Std.ExtTreeMap.contains_eq_isSome_getElem?, Bool.not_eq_true, Option.isSome_eq_false_iff, Option.isNone_iff_eq_none] at hnot
  refine Moves.bind (V := fun _ _ => True) ⟨hcommits _ _ _ ?_, fun _ _ => trivial⟩ fun _ _ _ _ => grantRequest_moves
  exact .insert hidentifier hnot (not_le.mp hroom) hdrawn

theorem finishGrant_moves (hcommits : Commits env drawn R) {response : Except RemoteControlError RemoteControlFrame} :
    Moves R (fun _ _ => True) (finishGrant env deviceId response stored) plane := by
  refine Moves.liftExcept.bind ?_
  rintro frame _ - ⟨rfl, -⟩
  split
  · exact ⟨hcommits _ _ _ .grant, fun _ _ => trivial⟩
  · exact .fail

theorem registerDeviceAndIssuePairing_moves (hcommits : Commits env drawn R) {storedDevice storedGrant : Bool}
    (hdrawn : drawn draw plane.state) :
    Moves R (fun _ _ => True)
      (registerDeviceAndIssuePairing env connection deviceId issuedAtMs expiresAtMs draw storedDevice storedGrant) plane := by
  refine (beginGrant_moves hcommits hdrawn).bind fun request plane' _ _ => ?_
  cases request with
  | none => exact lookedUp_moves.mono fun _ _ _ _ => trivial
  | some request =>
    refine (finishGrant_moves hcommits).bind fun _ _ _ _ => ?_
    exact lookedUp_moves.mono fun _ _ _ _ => trivial

theorem enqueueRevoke_moves (hcommits : Commits env drawn R) :
    Moves R (fun _ _ => True) (enqueueRevoke env deviceId enqueuedAtMs operation stored) plane := by
  refine Moves.require.bind ?_
  rintro ⟨⟩ _ - ⟨rfl, henqueued⟩
  refine lookedUp_moves.bind ?_
  rintro record plane - ⟨rfl, hrecord⟩
  rw [deviceRecord_eq_ok] at hrecord
  exact .ite (fun hactive => ⟨hcommits _ _ _ (.revoke hrecord hactive henqueued), fun _ _ => trivial⟩) fun _ => .pure trivial

theorem reconcileAll_moves (hcommits : Commits env drawn R) (devices : List Reconciled) (plane : RemoteControlPlane) :
    Moves R (fun _ _ => True) (reconcileAll env reconciledAtMs devices) plane := by
  induction devices generalizing plane with
  | nil => exact .pure trivial
  | cons device rest ih =>
    refine Moves.read.bind fun _ plane _ _ => .ite (fun _ => ?_) fun _ => ih plane
    refine (enqueueRevoke_moves hcommits).bind fun _ plane' _ _ => ?_
    exact (ih plane').bind fun _ _ _ _ => .pure trivial

theorem reconcileLocalRevocations_moves (hcommits : Commits env drawn R) {devices : List Reconciled} :
    Moves R (fun _ _ => True) (reconcileLocalRevocations env reconciledAtMs devices) plane :=
  Moves.require.bind fun _ plane' _ _ => reconcileAll_moves hcommits devices plane'

end

variable {stored : Bool}

/-- the history of wakes is not part of the state -/
theorem setHistory_moves {f : RemoteControlPlane → RemoteControlPlane} (hfile : (f plane).file = plane.file)
    (hstate : (f plane).state = plane.state) :
    Moves (RemoteControlPlane.Grows env) (fun _ _ => True) (Prog.modify f : PlaneM Unit) plane := by
  refine (Moves.modify fun held => ?_).mono fun _ _ _ _ => trivial
  refine ⟨⟨by rw [hstate]; exact held.valid, by rw [hfile, hstate]; exact held.file⟩, ?_⟩
  rw [hstate]
  exact ⟨.rfl, List.prefix_rfl⟩

theorem wakeDevice_moves {wake : Vector UInt8 16} :
    Moves (RemoteControlPlane.Grows env) (fun _ _ => True) (wakeDevice connection deviceId issuedAtMs operation wake) plane := by
  refine Moves.bind (V := fun _ _ => True) ?_ fun request _ _ _ => ?_
  · refine Moves.require.bind fun _ _ _ _ => lookedUp_moves.bind fun record _ _ _ => ?_
    refine Moves.require.bind fun _ _ _ _ => Moves.read.bind fun history _ _ _ => ?_
    refine (setHistory_moves rfl rfl).bind fun _ _ _ _ => Moves.require.bind fun _ _ _ _ => ?_
    refine (setHistory_moves rfl rfl).bind fun _ _ _ _ => Moves.require.bind fun _ _ _ _ => ?_
    exact (setHistory_moves rfl rfl).bind fun _ _ _ _ => Moves.read.bind fun _ _ _ _ => .pure trivial
  · refine Moves.liftExcept.bind fun frame _ _ _ => ?_
    split
    · exact .pure trivial
    · exact .fail

/-! ## The operation that completes -/

/-- the oldest revocation is done: its device is revoked -/
structure RemoteControlPlane.Completes (env : AddressEnv) (plane : RemoteControlPlane) (completion : RevokeCompletion)
    (plane' : RemoteControlPlane) : Prop where
  held : plane'.Held env
  ages : plane.state.Ages plane'.state
  front : ∃ pending, plane.state.revokeOutbox = pending :: plane'.state.revokeOutbox ∧ completion = pending.completion
  before : ∃ record, plane.state.devices[completion.deviceId]? = some record ∧ record.status = .revokePending
  after : ∃ record, plane'.state.devices[completion.deviceId]? = some record ∧ record.status = .revoked

theorem commit_completes (hshort : env.Short) (held : plane.Held env) (hfront : plane.state.revokeOutbox = pending :: rest) :
    (∃ e, commit env (completeRevoke pending) stored plane = (.error e, plane)) ∨
      ∃ plane', commit env (completeRevoke pending) stored plane = (.ok (), plane') ∧
        plane.Completes env pending.completion plane' := by
  have hvalid : ∀ next, completeRevoke pending plane.state = .ok next → next.Valid env := by
    intro next hnext
    obtain ⟨-, -, -, -, hvalid⟩ := completeRevoke_valid held.valid hfront hnext
    exact hvalid
  rcases commit_cases hvalid with herror | ⟨next, hnext, hcommit⟩
  · exact .inl herror
  · refine .inr ⟨_, hcommit, ?_⟩
    obtain ⟨record, hrecord, hstatus, rfl, hvalid⟩ := completeRevoke_valid held.valid hfront hnext
    refine ⟨.store hshort hvalid, .update ?_, ⟨pending, hfront, rfl⟩, ⟨record, hrecord, hstatus⟩, ?_⟩
    · intro found hfound
      cases hrecord.symm.trans hfound
      exact ⟨rfl, by simp [hstatus, DeviceStatus.rank]⟩
    · exact ⟨_, (get_update _).trans (if_pos rfl), rfl⟩

theorem finishRevoke_completes (hshort : env.Short) (held : plane.Held env)
    (hfront : plane.state.revokeOutbox = pending :: rest) (response : Except RemoteControlError RemoteControlFrame) :
    (∃ e, finishRevoke env pending response stored plane = (.error e, plane)) ∨
      ∃ plane', finishRevoke env pending response stored plane = (.ok pending.completion, plane') ∧
        plane.Completes env pending.completion plane' := by
  unfold finishRevoke
  split
  case h_3 => exact .inl ⟨_, rfl⟩
  case h_4 => exact .inl ⟨_, rfl⟩
  -- the two responses that are followed by a commit
  all_goals
    rcases commit_completes hshort held hfront with ⟨e, hcommit⟩ | ⟨plane', hcommit, hcompletes⟩
    · exact .inl ⟨e, run_bind_error hcommit⟩
    · exact .inr ⟨plane', run_bind hcommit, hcompletes⟩

/-- what a flush leaves: the oldest revocation is completed and reported, or nothing is changed -/
def RemoteControlPlane.Flushed (env : AddressEnv) (plane : RemoteControlPlane)
    (outcome : Except RemoteControlError (Option RevokeCompletion) × RemoteControlPlane) : Prop :=
  (∃ completion plane', outcome = (.ok (some completion), plane') ∧ plane.Completes env completion plane') ∨
    outcome = (.ok none, plane) ∨ ∃ e, outcome = (.error e, plane)

variable (plane) in
/-- the request is about the oldest revocation, and nothing is changed for it -/
theorem beginRevoke_moves (issuedAtMs : Int64) :
    Moves Eq (fun found plane' => ∀ revoke, found = some revoke → ∃ rest, plane'.state.revokeOutbox = revoke.1 :: rest)
      (beginRevoke issuedAtMs) plane := by
  refine Moves.require.bind ?_
  rintro ⟨⟩ _ - ⟨rfl, -⟩
  refine Moves.read.bind ?_
  rintro state plane - ⟨rfl, rfl⟩
  cases hfront : plane.state.revokeOutbox with
  | nil => exact .pure nofun
  | cons pending rest =>
    refine .pure ?_
    rintro _ ⟨⟩
    exact ⟨rest, hfront⟩

variable (stored) in
theorem flushNextRevoke_flushed (hshort : env.Short) (held : plane.Held env) (connection : Exchange) (issuedAtMs : Int64) :
    plane.Flushed env (flushNextRevoke env connection issuedAtMs stored plane) := by
  have hmoves := beginRevoke_moves plane issuedAtMs
  rcases hbegin : beginRevoke issuedAtMs plane with ⟨e | found, plane'⟩
  · have hsame := hmoves.moved
    rw [hbegin] at hsame
    subst hsame
    exact .inr (.inr ⟨e, run_bind_error hbegin⟩)
  obtain ⟨rfl, hfound⟩ := hmoves.of_ok hbegin
  cases found with
  | none => exact .inr (.inl (run_bind hbegin))
  | some revoke =>
    obtain ⟨rest, hfront⟩ := hfound revoke rfl
    unfold RemoteControlPlane.Flushed flushNextRevoke
    rw [run_bind hbegin]
    cases hid : connection.nextRequestId with
    | error e => exact .inr (.inr ⟨e, rfl⟩)
    | ok requestId =>
      rcases finishRevoke_completes hshort held hfront (connection.respond (revoke.2 requestId)) with
        ⟨e, hfinish⟩ | ⟨plane', hfinish, hcompletes⟩
      · exact .inr (.inr ⟨e, (run_bind rfl).trans (run_bind_error hfinish)⟩)
      · exact .inl ⟨revoke.1.completion, plane', (run_bind rfl).trans (run_bind hfinish), hcompletes⟩

end

/-! ## Runs -/

/-- the operations of the plane, with their random bytes, their connection and the fate of their writes -/
inductive PlaneOperation where
  | register (connection : Exchange) (deviceId : String) (issuedAtMs expiresAtMs : Int64) (draw : GrantDraw)
      (storedDevice storedGrant : Bool)
  | enqueue (deviceId : String) (enqueuedAtMs : Int64) (operation : Vector UInt8 16) (stored : Bool)
  | reconcile (reconciledAtMs : Int64) (devices : List Reconciled)
  | flush (connection : Exchange) (issuedAtMs : Int64) (stored : Bool)
  | wake (connection : Exchange) (deviceId : String) (issuedAtMs : Int64) (operation wakeId : Vector UInt8 16)

section

variable (env : AddressEnv)

/-- an operation, and the revocation it reports as completed -/
def PlaneOperation.run : PlaneOperation → PlaneM (Option RevokeCompletion)
  | .register connection deviceId issuedAtMs expiresAtMs draw storedDevice storedGrant => do
    let _ ← registerDeviceAndIssuePairing env connection deviceId issuedAtMs expiresAtMs draw storedDevice storedGrant
    return none
  | .enqueue deviceId enqueuedAtMs operation stored => do
    enqueueRevoke env deviceId enqueuedAtMs operation stored
    return none
  | .reconcile reconciledAtMs devices => do
    let _ ← reconcileLocalRevocations env reconciledAtMs devices
    return none
  | .flush connection issuedAtMs stored => flushNextRevoke env connection issuedAtMs stored
  | .wake connection deviceId issuedAtMs operation wakeId => do
    wakeDevice connection deviceId issuedAtMs operation wakeId
    return none

/-- the random bytes of a new slot are fresh -/
def PlaneOperation.Fresh (state : DurableState) : PlaneOperation → Prop
  | .register _ _ _ _ draw _ _ => draw.Fresh state
  | _ => True

/-- the plane, with the revocations that were added to its outbox and those that were reported as completed, in order -/
structure PlaneRun where
  plane : RemoteControlPlane
  enqueued : List PendingRevoke := []
  completed : List RevokeCompletion := []

def completions : Except RemoteControlError (Option RevokeCompletion) → List RevokeCompletion
  | .ok (some completion) => [completion]
  | _ => []

def PlaneRun.record (run : PlaneRun) (result : Except RemoteControlError (Option RevokeCompletion))
    (plane : RemoteControlPlane) : PlaneRun where
  plane := plane
  enqueued := run.enqueued ++ plane.state.revokeOutbox.drop run.plane.state.revokeOutbox.length
  completed := run.completed ++ completions result

def PlaneRun.step (run : PlaneRun) (operation : PlaneOperation) : PlaneRun :=
  run.record (operation.run env run.plane).1 (operation.run env run.plane).2

end

section

variable {env : AddressEnv} {plane : RemoteControlPlane} {operation : PlaneOperation}

/-- what an operation leaves: revocations are only added and none is reported, or the oldest is completed and reported -/
inductive RemoteControlPlane.Advances (env : AddressEnv) (plane : RemoteControlPlane)
    (outcome : Except RemoteControlError (Option RevokeCompletion) × RemoteControlPlane) : Prop where
  | grows (held : outcome.2.Held env) (grow : plane.state.Grow outcome.2.state) (nothing : completions outcome.1 = [])
  | completes (completion : RevokeCompletion) (reported : completions outcome.1 = [completion])
      (completes : plane.Completes env completion outcome.2)

theorem advances_of_moves {p : PlaneM (Option RevokeCompletion)} (held : plane.Held env)
    (h : Moves (RemoteControlPlane.Grows env) (fun found _ => found = none) p plane) : plane.Advances env (p plane) := by
  obtain ⟨held', hgrow⟩ := h.moved held
  refine .grows held' hgrow ?_
  have hvalue := h.value
  generalize (p plane).1 = result at hvalue
  cases result with
  | error e => rfl
  | ok found =>
    rw [hvalue found rfl]
    rfl

theorem run_advances (hshort : env.Short) (held : plane.Held env) (hfresh : operation.Fresh plane.state) :
    plane.Advances env (operation.run env plane) := by
  cases operation with
  | register connection deviceId issuedAtMs expiresAtMs draw storedDevice storedGrant =>
    exact advances_of_moves held ((registerDeviceAndIssuePairing_moves (commits_grow hshort) hfresh).bind fun _ _ _ _ => .pure rfl)
  | enqueue deviceId enqueuedAtMs operation stored =>
    exact advances_of_moves held ((enqueueRevoke_moves (commits_grow hshort)).bind fun _ _ _ _ => .pure rfl)
  | reconcile reconciledAtMs devices =>
    exact advances_of_moves held ((reconcileLocalRevocations_moves (commits_grow hshort)).bind fun _ _ _ _ => .pure rfl)
  | wake connection deviceId issuedAtMs operation wakeId =>
    exact advances_of_moves held (wakeDevice_moves.bind fun _ _ _ _ => .pure rfl)
  | flush connection issuedAtMs stored =>
    rcases flushNextRevoke_flushed stored hshort held connection issuedAtMs with
      ⟨completion, plane', hflush, hcompletes⟩ | hflush | ⟨e, hflush⟩
    · refine .completes completion ?_ ?_
      · rw [PlaneOperation.run, hflush]
        rfl
      · rw [PlaneOperation.run, hflush]
        exact hcompletes
    all_goals
      rw [PlaneOperation.run, hflush]
      exact .grows held ⟨.rfl, List.prefix_rfl⟩ rfl

/-- the run so far: what was in the outbox or was added to it is completed or still there, in order, and nothing is completed
twice -/
structure PlaneRun.Ordered (env : AddressEnv) (start : DurableState) (run : PlaneRun) : Prop where
  held : run.plane.Held env
  order : (start.revokeOutbox ++ run.enqueued).map PendingRevoke.completion =
    run.completed ++ run.plane.state.revokeOutbox.map PendingRevoke.completion
  done : ∀ completion ∈ run.completed, ∃ record, run.plane.state.devices[completion.deviceId]? = some record ∧
    record.status = .revoked
  once : (run.completed.map RevokeCompletion.deviceId).Nodup

theorem ages_revoked {state : DurableState} {deviceId : String} (hages : state.Ages next)
    (h : ∃ record, state.devices[deviceId]? = some record ∧ record.status = .revoked) :
    ∃ record, next.devices[deviceId]? = some record ∧ record.status = .revoked := by
  obtain ⟨record, hrecord, hstatus⟩ := h
  obtain ⟨record', hrecord', -, hrank⟩ := hages deviceId record hrecord
  rw [hstatus] at hrank
  exact ⟨record', hrecord', DeviceStatus.revoked_of_rank hrank⟩

variable {start : DurableState} {run : PlaneRun} {result : Except RemoteControlError (Option RevokeCompletion)}
  {plane' : RemoteControlPlane}

theorem PlaneRun.Ordered.grows (h : run.Ordered env start) (held : plane'.Held env)
    (hgrow : run.plane.state.Grow plane'.state) (hnothing : completions result = []) :
    (run.record result plane').Ordered env start := by
  obtain ⟨added, hadded⟩ := hgrow.outbox
  have hcompleted : (run.record result plane').completed = run.completed := by
    rw [PlaneRun.record, hnothing, List.append_nil]
  have henqueued : (run.record result plane').enqueued = run.enqueued ++ added := by
    rw [PlaneRun.record, ← hadded, List.drop_left]
  refine ⟨held, ?_, ?_, ?_⟩
  · calc (start.revokeOutbox ++ (run.record result plane').enqueued).map PendingRevoke.completion
        = run.completed ++ run.plane.state.revokeOutbox.map PendingRevoke.completion ++ added.map PendingRevoke.completion := by
          rw [henqueued, ← List.append_assoc, List.map_append, h.order]
      _ = run.completed ++ plane'.state.revokeOutbox.map PendingRevoke.completion := by
          rw [← hadded, List.map_append, List.append_assoc]
      _ = _ := by rw [hcompleted]; rfl
  · rw [hcompleted]
    exact fun completion hcompletion => ages_revoked hgrow.ages (h.done completion hcompletion)
  · rw [hcompleted]
    exact h.once

theorem PlaneRun.Ordered.completes {completion : RevokeCompletion} (h : run.Ordered env start)
    (hreported : completions result = [completion]) (hcompletes : run.plane.Completes env completion plane') :
    (run.record result plane').Ordered env start := by
  obtain ⟨pending, hfront, hpending⟩ := hcompletes.front
  have hcompleted : (run.record result plane').completed = run.completed ++ [completion] := by
    rw [PlaneRun.record, hreported]
  have henqueued : (run.record result plane').enqueued = run.enqueued := by
    rw [PlaneRun.record, List.drop_eq_nil_iff.mpr, List.append_nil]
    rw [hfront, List.length_cons]
    omega
  refine ⟨hcompletes.held, ?_, ?_, ?_⟩
  · rw [henqueued, h.order, hcompleted, hfront, hpending, List.map_cons, List.append_assoc, List.singleton_append]
    rfl
  · rw [hcompleted]
    exact List.forall_mem_append.mpr ⟨fun other hother => ages_revoked hcompletes.ages (h.done other hother),
      List.forall_mem_singleton.mpr hcompletes.after⟩
  · -- a device that is completed now was not completed before: it was still pending
    rw [hcompleted, List.map_append, List.nodup_append]
    refine ⟨h.once, List.nodup_singleton _, ?_⟩
    intro first hfirst second hsecond heq
    obtain ⟨other, hother, rfl⟩ := List.mem_map.mp hfirst
    rw [List.map_singleton, List.mem_singleton] at hsecond
    obtain ⟨record, hrecord, hrevoked⟩ := h.done other hother
    obtain ⟨record', hrecord', hpending'⟩ := hcompletes.before
    rw [heq, hsecond, hrecord'] at hrecord
    cases hrecord
    rw [hrevoked] at hpending'
    cases hpending'

theorem PlaneRun.Ordered.step (hshort : env.Short) (h : run.Ordered env start)
    (hfresh : operation.Fresh run.plane.state) : (run.step env operation).Ordered env start := by
  cases run_advances hshort h.held hfresh with
  | grows held hgrow hnothing => exact h.grows held hgrow hnothing
  | completes completion hreported hcompletes => exact h.completes hreported hcompletes

theorem step_ages (hshort : env.Short) (held : run.plane.Held env) (hfresh : operation.Fresh run.plane.state) :
    run.plane.state.Ages (run.step env operation).plane.state := by
  cases run_advances hshort held hfresh with
  | grows held hgrow hnothing => exact hgrow.ages
  | completes completion hreported hcompletes => exact hcompletes.ages

/-- what was ever in the outbox was there for different devices -/
theorem PlaneRun.Ordered.nodup (h : run.Ordered env start) :
    ((start.revokeOutbox ++ run.enqueued).map PendingRevoke.deviceId).Nodup := by
  have hids : (start.revokeOutbox ++ run.enqueued).map PendingRevoke.deviceId =
      run.completed.map RevokeCompletion.deviceId ++ run.plane.state.revokeOutbox.map PendingRevoke.deviceId := by
    have := congrArg (List.map RevokeCompletion.deviceId) h.order
    rwa [List.map_map, List.map_append, List.map_append, List.map_map, ← List.map_append] at this
  rw [hids, List.nodup_append]
  refine ⟨h.once, h.held.valid.outbox, ?_⟩
  rintro _ hfirst _ hsecond rfl
  obtain ⟨completion, hcompletion, heq⟩ := List.mem_map.mp hfirst
  obtain ⟨pending, hpending, rfl⟩ := List.mem_map.mp hsecond
  obtain ⟨record, hrecord, hrevoked⟩ := h.done completion hcompletion
  obtain ⟨-, -, record', hrecord', hstatus, -⟩ := h.held.valid.pending pending hpending
  rw [heq, hrecord'] at hrecord
  cases hrecord
  rw [hrevoked] at hstatus
  cases hstatus

/-- **Remote control is durable.** From a plane whose file is read as its state, after any operations with any responses and
any failed writes: the state passes its check, the file is read back as the state, a device has a token exactly when it is
active, the outbox lists the devices with a pending revocation and each once, the revocations that were completed are the
first ones that were enqueued, in that order and for different devices, and no further operation takes the status of a
device back. -/
theorem control_plane_durable (env : AddressEnv) (hshort : env.Short) (start : RemoteControlPlane)
    (hopen : parseState env start.file = .ok start.state) (operations : List PlaneOperation)
    (hfresh : Along (PlaneRun.step env) (fun run operation => operation.Fresh run.plane.state) { plane := start } operations)
    (run : PlaneRun) (hrun : run = runFrom (PlaneRun.step env) { plane := start } operations) :
    validateState env run.plane.state = .ok () ∧
    parseState env run.plane.file = .ok run.plane.state ∧
    (∀ (deviceId : String) record, run.plane.state.devices[deviceId]? = some record →
      (record.accessToken.isSome ↔ record.status = .pendingGrant ∨ record.status = .registered)) ∧
    (run.plane.state.revokeOutbox.map PendingRevoke.deviceId).Nodup ∧
    (∀ deviceId, deviceId ∈ run.plane.state.revokeOutbox.map PendingRevoke.deviceId ↔
      ∃ record, run.plane.state.devices[deviceId]? = some record ∧ record.status = .revokePending) ∧
    (start.state.revokeOutbox ++ run.enqueued).map PendingRevoke.completion =
      run.completed ++ run.plane.state.revokeOutbox.map PendingRevoke.completion ∧
    ((start.state.revokeOutbox ++ run.enqueued).map PendingRevoke.deviceId).Nodup ∧
    ∀ operation : PlaneOperation, operation.Fresh run.plane.state →
      run.plane.state.Ages (run.step env operation).plane.state := by
  have hstart : PlaneRun.Ordered env start.state { plane := start } :=
    ⟨⟨valid_of_parseState hopen, hopen⟩, by simp, nofun, List.nodup_nil⟩
  have h : run.Ordered env start.state := hrun ▸ run_inv (fun _ _ h hfresh => h.step hshort hfresh) hstart hfresh
  have hvalid := h.held.valid
  refine ⟨validateState_eq_ok.mpr hvalid, h.held.file, ?_, hvalid.outbox, ?_, h.order, h.nodup,
    fun operation hfresh => step_ages hshort h.held hfresh⟩
  · intro deviceId record hrecord
    rw [← hvalid.token deviceId record hrecord]
    cases record.status <;> decide
  · intro deviceId
    constructor
    · intro hlisted
      obtain ⟨pending, hpending, rfl⟩ := List.mem_map.mp hlisted
      obtain ⟨-, -, record, hrecord, hstatus, -⟩ := hvalid.pending pending hpending
      exact ⟨record, hrecord, hstatus⟩
    · rintro ⟨record, hrecord, hstatus⟩
      exact hvalid.listed deviceId record hrecord hstatus

/-! ### A run -/

/-- no text is an IP address -/
def sampleAddressEnv : AddressEnv := ⟨fun _ => false, fun _ => false⟩

def sampleConfig : RemoteControlConfig :=
  ⟨"relay.example:443", "sha256:" ++ "AAAAAAAAAAAAAAAAAAAAAAAAAAAAAAAAAAAAAAAAAAA", "abc", "https://relay.example"⟩

def sampleState : DurableState := .new sampleConfig ⟨.replicate 16 1, .replicate 16 2, .replicate 32 3⟩

def samplePlane : RemoteControlPlane := { file := stateToValue sampleState, state := sampleState }

/-- a connection that gives the same answer to everything -/
def answering (response : Except RemoteControlError RemoteControlFrame) : Exchange := ⟨.ok 1, fun _ => response⟩

/-- a device is registered and revoked; the first flush is not written -/
def sampleOperations : List PlaneOperation :=
  [.register (answering (.ok (.deviceGrantRegistered 1))) "phone" 1 2 ⟨.replicate 16 4, .replicate 32 5, .replicate 16 6⟩ true true,
    .enqueue "phone" 3 (.replicate 16 7) true, .flush (answering (.error .revoked)) 4 false,
    .flush (answering (.error .revoked)) 5 true]

instance (draw : GrantDraw) (state : DurableState) : Decidable (draw.Fresh state) :=
  inferInstanceAs (Decidable (∀ record ∈ state.devices.vals, generateRemoteId draw.slot ≠ record.slotId))

instance (operation : PlaneOperation) (state : DurableState) : Decidable (operation.Fresh state) := by
  cases operation with
  | register _ _ _ _ draw _ _ => exact inferInstanceAs (Decidable (draw.Fresh state))
  | _ => exact isTrue trivial

theorem short_sampleAddressEnv : sampleAddressEnv.Short := ⟨nofun, nofun⟩

theorem parseState_samplePlane : parseState sampleAddressEnv samplePlane.file = .ok samplePlane.state := by
  have hvalid : sampleState.Valid sampleAddressEnv := validateState_eq_ok.mp (by decide +kernel)
  exact parseState_stateToValue hvalid (size_stateToValue short_sampleAddressEnv hvalid)

theorem control_plane_durable_sample : ∃ run : PlaneRun,
    run = runFrom (PlaneRun.step sampleAddressEnv) { plane := samplePlane } sampleOperations ∧
    run.completed.map RevokeCompletion.deviceId = ["phone"] ∧ parseState sampleAddressEnv run.plane.file = .ok run.plane.state :=
  ⟨_, rfl, by decide +kernel, (control_plane_durable sampleAddressEnv short_sampleAddressEnv samplePlane parseState_samplePlane
    sampleOperations (by decide +kernel) _ rfl).2.1⟩

end

end Kaleido.Hostd
