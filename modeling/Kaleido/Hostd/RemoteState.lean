/-
The durable state of remote control and its file (`kaleido-hostd`, `remote_control.rs`).

`Valid` is what `validate_state` checks, read off the maps (`validateState_eq_ok`). A valid state is written as a value that is
short enough to be read (`size_stateToValue`) and that is read back as the state itself (`parseState_stateToValue`).
-/
import Kaleido.Hostd.RemoteControl

namespace Kaleido.Hostd

open Check Proto Transport

/-! ## Identifiers -/

section

variable {value : String}

set_option maxRecDepth 4096 in
theorem plain_digit : ∀ n < 64, 32 ≤ (Base64.digit n).toNat ∧ (Base64.digit n).toNat < 128 ∧ Base64.digit n ≠ '"' ∧
    Base64.digit n ≠ '\\' := by decide

theorem plain_of_alphabet {c : Char} (h : c ∈ Base64.alphabet) : Json.Plain c := by
  obtain ⟨n, hn⟩ := Base64.exists_value_iff.mpr h
  obtain ⟨hlt, rfl⟩ := Base64.digit_value hn
  exact plain_digit n hlt

/-- the text of an identifier, quoted: its characters are written as they are -/
theorem quotedSize_canonical {n : Nat} (h : validateCanonicalBase64 value n = .ok ()) :
    n = (Json.quotedSize value - 2) * 3 / 4 ∧ 2 ≤ Json.quotedSize value := by
  obtain ⟨bytes, hlength, rfl⟩ := validateCanonicalBase64_eq_ok.mp h
  have hdecoded := Base64.decode_encode bytes
  have hchars := (Base64.decode_isSome_iff.mp (by rw [hdecoded]; rfl)).1
  have hsize : Json.quotedSize (String.ofList (Base64.encode bytes)) = (Base64.encode bytes).length + 2 := by
    rw [Json.quotedSize_plain, String.toList_ofList]
    intro c hc
    rw [String.toList_ofList] at hc
    exact plain_of_alphabet (hchars c hc)
  have hbytes := Base64.length_of_decode hdecoded
  omega

theorem quotedSize_randomId (h : validateRandomId value = .ok ()) : Json.quotedSize value = 24 := by
  have hsize := quotedSize_canonical h
  simp only [randomIdBytes] at hsize
  omega

theorem quotedSize_token (h : validateToken value = .ok ()) : Json.quotedSize value = 45 := by
  have hsize := quotedSize_canonical h
  simp only [tokenBytes] at hsize
  omega

end

/-! ## Valid states -/

structure DurableState.Valid (env : AddressEnv) (state : DurableState) : Prop where
  routeId : validateRandomId state.routeId = .ok ()
  routeHint : validateRandomId state.routeHint = .ok ()
  adminToken : validateToken state.adminToken = .ok ()
  config : validateConfig env state.config = .ok ()
  presence : ∃ text, state.presenceFrame.encode = .ok text
  count : state.devices.size ≤ maxRemoteDevices
  deviceId : ∀ deviceId record, state.devices[deviceId]? = some record → validateDeviceId deviceId = .ok ()
  slotId : ∀ (deviceId : String) record, state.devices[deviceId]? = some record → validateRandomId record.slotId = .ok ()
  slots : ∀ (deviceId other : String) record record', state.devices[deviceId]? = some record →
    state.devices[other]? = some record' → record.slotId = record'.slotId → deviceId = other
  token : ∀ (deviceId : String) record, state.devices[deviceId]? = some record →
    record.status.active = record.accessToken.isSome
  tokens : ∀ (deviceId : String) record token, state.devices[deviceId]? = some record → record.accessToken = some token →
    validateToken token = .ok ()
  pending : ∀ pending ∈ state.revokeOutbox, validateRandomId pending.operationId = .ok () ∧
    0 ≤ pending.enqueuedAtMs.toInt ∧ ∃ record, state.devices[pending.deviceId]? = some record ∧
      record.status = .revokePending ∧ record.slotId = pending.slotId
  outbox : (state.revokeOutbox.map PendingRevoke.deviceId).Nodup
  listed : ∀ (deviceId : String) record, state.devices[deviceId]? = some record → record.status = .revokePending →
    deviceId ∈ state.revokeOutbox.map PendingRevoke.deviceId

section

variable {env : AddressEnv} {state : DurableState}

theorem corrupt_eq_ok {ε α : Type} {x : Except ε α} : corrupt x = .ok () ↔ ∃ a, x = .ok a := by
  cases x <;> simp [corrupt]

theorem corrupt_unit_eq_ok {ε : Type} {x : Except ε Unit} : corrupt x = .ok () ↔ x = .ok () := by
  cases x <;> simp [corrupt]

theorem encode_eq_ok {frame : RemoteControlFrame} : (∃ text, frame.encode = .ok text) ↔
    frame.validate = .ok () ∧ (toJson frame).size ≤ maxRemoteControlFrameBytes := by
  simp only [RemoteControlFrame.encode, seq_eq_ok, ensure_eq_ok, pure_eq_ok, not_lt, gt_iff_lt]
  constructor
  · rintro ⟨text, hvalid, hsize, -⟩
    exact ⟨hvalid, hsize⟩
  · rintro ⟨hvalid, hsize⟩
    exact ⟨_, hvalid, hsize, rfl⟩

/-- the frame that checks a device is short -/
theorem size_grantFrame {slotId token : String} (hrouteId : validateRandomId state.routeId = .ok ())
    (hrouteHint : validateRandomId state.routeHint = .ok ()) (hadmin : validateToken state.adminToken = .ok ())
    (hslot : validateRandomId slotId = .ok ()) (htoken : validateToken token = .ok ()) :
    (toJson (state.grantFrame slotId token)).size ≤ maxRemoteControlFrameBytes := by
  show (Json.tagged "register_device_grant" (operationJson 2 state.routeHint 0 ++
    [("route_id", .str state.routeId), ("device_slot_id", .str slotId), ("access_token", .str token),
      ("admin_token", .str state.adminToken)])).size ≤ 4096
  simp only [Json.tagged, operationJson, List.cons_append, List.nil_append, Json.size, Json.fieldsSize, toJson,
    quotedSize_randomId hrouteId, quotedSize_randomId hrouteHint, quotedSize_randomId hslot, quotedSize_token htoken,
    quotedSize_token hadmin]
  decide

/-- a device passes when its identifiers and its token do -/
theorem encode_grantFrame {slotId token : String} (hrouteId : validateRandomId state.routeId = .ok ())
    (hrouteHint : validateRandomId state.routeHint = .ok ()) (hadmin : validateToken state.adminToken = .ok ())
    (hslot : validateRandomId slotId = .ok ()) :
    (∃ text, (state.grantFrame slotId token).encode = .ok text) ↔ validateToken token = .ok () := by
  rw [encode_eq_ok]
  have hfields : (state.grantFrame slotId token).validate = .ok () ↔ validateToken token = .ok () := by
    simp only [DurableState.grantFrame, RemoteControlFrame.validate, RemoteControlFrame.validateFields,
      RemoteControlFrame.requestId, validateOperation, seq_eq_ok, ensure_eq_ok, hrouteId, hrouteHint, hslot, hadmin]
    simp
  rw [hfields]
  constructor
  · exact fun h => h.1
  · exact fun h => ⟨h, size_grantFrame hrouteId hrouteHint hadmin hslot h⟩

theorem adminToken_of_presence (h : ∃ text, state.presenceFrame.encode = .ok text) :
    validateToken state.adminToken = .ok () := by
  have hvalid := (encode_eq_ok.mp h).1
  simp only [DurableState.presenceFrame, RemoteControlFrame.validate, RemoteControlFrame.validateFields, seq_eq_ok] at hvalid
  exact hvalid.2.2.2.1

theorem relayUrl_of_presence (h : ∃ text, state.presenceFrame.encode = .ok text) :
    state.relayUrl.utf8ByteSize ≤ maxRelayUrlBytes := by
  have hvalid := (encode_eq_ok.mp h).1
  simp only [DurableState.presenceFrame, RemoteControlFrame.validate, RemoteControlFrame.validateFields, seq_eq_ok,
    validateRelayUrl, ensure_eq_ok, not_or, not_lt, gt_iff_lt] at hvalid
  exact hvalid.2.2.2.2.2.1.1

theorem mem_devices {entry : String × DeviceRecord} :
    entry ∈ state.devices.toList ↔ state.devices[entry.1]? = some entry.2 :=
  Std.ExtTreeMap.mem_toList_iff_getElem?_eq_some

/-- distinct slots, as the loop sees them -/
theorem nodup_slots : (state.devices.toList.map fun entry => entry.2.slotId).Nodup ↔
    ∀ (deviceId other : String) record record', state.devices[deviceId]? = some record →
      state.devices[other]? = some record' → record.slotId = record'.slotId → deviceId = other := by
  have hnodup : state.devices.toList.Nodup := (OrdMap.nodup_keys_toList state.devices).of_map _
  rw [List.nodup_map_iff_inj_on hnodup]
  constructor
  · intro h deviceId other record record' hrecord hrecord' hslot
    exact congrArg Prod.fst (h (deviceId, record) (mem_devices.mpr hrecord) (other, record') (mem_devices.mpr hrecord') hslot)
  · rintro h ⟨deviceId, record⟩ hentry ⟨other, record'⟩ hentry' hslot
    have hrecord := mem_devices.mp hentry
    have hrecord' := mem_devices.mp hentry'
    cases h deviceId other record record' hrecord hrecord' hslot
    cases hrecord.symm.trans hrecord'
    rfl

theorem checkPending_eq_ok {pending : PendingRevoke} : checkPending state.devices pending = .ok () ↔
    ∃ record, state.devices[pending.deviceId]? = some record ∧ record.status = .revokePending ∧
      record.slotId = pending.slotId := by
  unfold checkPending
  cases state.devices[pending.deviceId]? <;> simp

/-- **What `validate_state` checks.** -/
theorem validateState_eq_ok : validateState env state = .ok () ↔ state.Valid env := by
  simp only [validateState, seq_eq_ok, ensure_eq_ok, checkFresh_eq_ok, checkAll_eq_ok, checkSome_eq_ok, corrupt_unit_eq_ok,
    nodup_slots, mem_devices, List.not_mem_nil, not_false_eq_true, true_and, checkPending_eq_ok]
  simp only [corrupt_eq_ok]
  constructor
  · rintro ⟨hrouteId, hrouteHint, hconfig, hpresence, hcount, ⟨hdevices, hslots⟩, ⟨hpending, houtbox⟩, hlisted⟩
    have hadmin := adminToken_of_presence hpresence
    refine ⟨hrouteId, hrouteHint, hadmin, hconfig, hpresence, hcount, ?_, ?_, hslots, ?_, ?_, ?_, houtbox, ?_⟩
    · exact fun deviceId record hrecord => (hdevices (deviceId, record) hrecord).1.1
    · exact fun deviceId record hrecord => (hdevices (deviceId, record) hrecord).1.2
    · exact fun deviceId record hrecord => (hdevices (deviceId, record) hrecord).2.1
    · intro deviceId record token hrecord htoken
      obtain ⟨⟨-, hslot⟩, -, hframe⟩ := hdevices (deviceId, record) hrecord
      exact (encode_grantFrame hrouteId hrouteHint hadmin hslot).mp (hframe token htoken)
    · intro pending hmem
      obtain ⟨⟨-, -, hoperation, henqueued⟩, hrecord⟩ := hpending pending hmem
      exact ⟨hoperation, henqueued, hrecord⟩
    · exact fun deviceId record hrecord hstatus => (hlisted (deviceId, record) hrecord).mp hstatus
  · intro h
    refine ⟨h.routeId, h.routeHint, h.config, h.presence, h.count, ⟨?_, h.slots⟩, ⟨?_, h.outbox⟩, ?_⟩
    · rintro ⟨deviceId, record⟩ hrecord
      have hslot := h.slotId deviceId record hrecord
      refine ⟨⟨h.deviceId deviceId record hrecord, hslot⟩, h.token deviceId record hrecord, fun token htoken => ?_⟩
      exact (encode_grantFrame h.routeId h.routeHint h.adminToken hslot).mpr (h.tokens deviceId record token hrecord htoken)
    · intro pending hmem
      obtain ⟨hoperation, henqueued, record, hrecord, hstatus, hslot⟩ := h.pending pending hmem
      exact ⟨⟨h.deviceId _ record hrecord, hslot ▸ h.slotId _ record hrecord, hoperation, henqueued⟩,
        record, hrecord, hstatus, hslot⟩
    · rintro ⟨deviceId, record⟩ hrecord
      refine ⟨h.listed deviceId record hrecord, fun hmem => ?_⟩
      obtain ⟨pending, hpending, rfl⟩ := List.mem_map.mp hmem
      obtain ⟨-, -, found, hfound, hstatus, -⟩ := h.pending pending hpending
      cases hrecord.symm.trans hfound
      exact hstatus

end

/-! ## What is written is read back -/

section

variable {env : AddressEnv} {state : DurableState}

theorem parseDevice_deviceToValue (entry : String × DeviceRecord) : parseDevice (deviceToValue entry) = .ok entry := by
  obtain ⟨deviceId, slotId, accessToken, status⟩ := entry
  cases accessToken <;> cases status <;> rfl

theorem parsePending_pendingToValue (pending : PendingRevoke) : parsePending (pendingToValue pending) = .ok pending := by
  obtain ⟨deviceId, slotId, operationId, enqueuedAtMs⟩ := pending
  have hrange : -2 ^ 63 ≤ enqueuedAtMs.toInt ∧ enqueuedAtMs.toInt < 2 ^ 63 := ⟨enqueuedAtMs.le_toInt, enqueuedAtMs.toInt_lt⟩
  have hparse : parsePending (pendingToValue ⟨deviceId, slotId, operationId, enqueuedAtMs⟩) =
      (ensure (-2 ^ 63 ≤ enqueuedAtMs.toInt ∧ enqueuedAtMs.toInt < 2 ^ 63) RemoteControlError.corruptState >>= fun _ =>
        pure (Int64.ofInt enqueuedAtMs.toInt)) >>= fun ms => pure ⟨deviceId, slotId, operationId, ms⟩ := rfl
  rw [hparse, ensure_eq_ok.mpr hrange, Int64.ofInt_toInt]
  rfl

theorem parsePendings_map (pendings : List PendingRevoke) : parsePendings (pendings.map pendingToValue) = .ok pendings := by
  induction pendings with
  | nil => rfl
  | cons pending pendings ih =>
    rw [List.map_cons, parsePendings, parsePending_pendingToValue, ih]
    rfl

/-- the loop over the devices rebuilds the map -/
theorem parseDevices_map {entries : List (String × DeviceRecord)} (hdistinct : (entries.map Prod.fst).Nodup)
    {devices : OrdMap String DeviceRecord} (hfresh : ∀ entry ∈ entries, devices.contains entry.1 = false) :
    parseDevices devices (entries.map deviceToValue) =
      .ok (entries.foldl (fun devices entry => devices.insert entry.1 entry.2) devices) := by
  induction entries generalizing devices with
  | nil => rfl
  | cons entry entries ih =>
    rw [List.map_cons, List.nodup_cons] at hdistinct
    have hnew : devices.contains entry.1 = false := hfresh entry List.mem_cons_self
    have hrest : ∀ later ∈ entries, (devices.insert entry.1 entry.2).contains later.1 = false := by
      intro later hlater
      have hne : entry.1 ≠ later.1 := fun heq => hdistinct.1 (heq ▸ List.mem_map_of_mem hlater)
      simp [Std.ExtTreeMap.contains_insert, hne, hfresh later (List.mem_cons_of_mem _ hlater)]
    rw [List.map_cons, parseDevices, parseDevice_deviceToValue, List.foldl_cons, ← ih hdistinct.2 hrest]
    simp [hnew, ensure, bind, Except.bind]

theorem parseDevices_devices : parseDevices ∅ (state.devices.toList.map deviceToValue) = .ok state.devices := by
  rw [parseDevices_map (OrdMap.nodup_keys_toList _) (by simp), OrdMap.foldl_insert_toList]

/-- a state that was read is valid -/
theorem valid_of_parseState {value : Json} (h : parseState env value = .ok state) : state.Valid env := by
  simp only [parseState, bind_eq_ok, pure_eq_ok] at h
  -- the fields are read before the state is checked
  iterate 15 obtain ⟨_, -, h⟩ := h
  obtain ⟨_, hvalid, rfl⟩ := h
  exact validateState_eq_ok.mp hvalid

/-- **A valid state that is not too long is read back as it was.** -/
theorem parseState_stateToValue (h : state.Valid env) (hsize : (stateToValue state).size ≤ maxStateBytes) :
    parseState env (stateToValue state) = .ok state := by
  have hparse : parseState env (stateToValue state) = do
      ensure ((stateToValue state).size ≤ maxStateBytes) .corruptState
      let devices ← parseDevices ∅ (state.devices.toList.map deviceToValue)
      let revokeOutbox ← parsePendings (state.revokeOutbox.map pendingToValue)
      validateState env { state with devices, revokeOutbox }
      return { state with devices, revokeOutbox } := rfl
  rw [hparse, parseDevices_devices, parsePendings_map, ensure_eq_ok.mpr hsize]
  show (do validateState env state; return state) = .ok state
  rw [validateState_eq_ok.mpr h]
  rfl

end

/-! ## The file is short enough -/

section

variable {env : AddressEnv} {state : DurableState}

theorem quotedSize_deviceId {deviceId : String} (h : validateDeviceId deviceId = .ok ()) : Json.quotedSize deviceId ≤ 1538 := by
  simp only [validateDeviceId, ensure_eq_ok, not_or, not_lt, gt_iff_lt, maxDeviceIdBytes] at h
  exact (Json.quotedSize_le deviceId).trans (by omega)

theorem size_deviceToValue (h : state.Valid env) {entry : String × DeviceRecord} (hentry : entry ∈ state.devices.toList) :
    (deviceToValue entry).size ≤ 1700 := by
  have hrecord := mem_devices.mp hentry
  have hid := quotedSize_deviceId (h.deviceId _ _ hrecord)
  have hslot := quotedSize_randomId (h.slotId _ _ hrecord)
  have htoken : (toJson entry.2.accessToken).size ≤ 45 := by
    cases haccess : entry.2.accessToken with
    | none => decide
    | some token => exact (quotedSize_token (h.tokens _ _ token hrecord haccess)).le
  have hstatus : Json.quotedSize entry.2.status.asStr ≤ 16 := by
    cases entry.2.status <;> decide
  have hkeys : Json.quotedSize "access_token" = 14 ∧ Json.quotedSize "device_id" = 11 ∧ Json.quotedSize "slot_id" = 9 ∧
      Json.quotedSize "status" = 8 := by decide
  simp only [deviceToValue, Json.size, Json.fieldsSize]
  omega

theorem size_pendingToValue (h : state.Valid env) {pending : PendingRevoke} (hpending : pending ∈ state.revokeOutbox) :
    (pendingToValue pending).size ≤ 1700 := by
  obtain ⟨hoperation, henqueued, record, hrecord, -, hslot⟩ := h.pending pending hpending
  have hid := quotedSize_deviceId (h.deviceId _ _ hrecord)
  have hslot := quotedSize_randomId (hslot ▸ h.slotId _ _ hrecord)
  have hoperation := quotedSize_randomId hoperation
  have hnumber : (Json.num pending.enqueuedAtMs.toInt).size ≤ 19 := by
    have hlt := pending.enqueuedAtMs.toInt_lt
    rw [← Int.toNat_of_nonneg henqueued, Json.size_num]
    exact Json.decimalLength_le (by norm_num) (by omega)
  have hkeys : Json.quotedSize "device_id" = 11 ∧ Json.quotedSize "enqueued_at_ms" = 16 ∧
      Json.quotedSize "operation_id" = 14 ∧ Json.quotedSize "slot_id" = 9 := by decide
  simp only [Json.size] at hnumber
  simp only [pendingToValue, Json.size, Json.fieldsSize]
  omega

/-- no more revocations than devices -/
theorem length_revokeOutbox (h : state.Valid env) : state.revokeOutbox.length ≤ state.devices.size := by
  have hsubset : state.revokeOutbox.map PendingRevoke.deviceId ⊆ state.devices.toList.map Prod.fst := by
    intro deviceId hmem
    obtain ⟨pending, hpending, rfl⟩ := List.mem_map.mp hmem
    obtain ⟨-, -, record, hrecord, -⟩ := h.pending pending hpending
    exact List.mem_map.mpr ⟨(pending.deviceId, record), mem_devices.mpr hrecord, rfl⟩
  have hlength := (h.outbox.subperm hsubset).length_le
  rwa [List.length_map, List.length_map, Std.ExtTreeMap.length_toList] at hlength

/-- an array of at most 128 short items -/
theorem size_arr_le {items : List Json} (hcount : items.length ≤ maxRemoteDevices) (h : ∀ item ∈ items, item.size ≤ 1700) :
    (Json.arr items).size ≤ 217729 := by
  have hsum : (items.map Json.size).sum ≤ items.length * 1700 := by
    have := List.sum_le_card_nsmul (items.map Json.size) 1700 (by simpa using h)
    simpa using this
  simp only [maxRemoteDevices] at hcount
  rw [Json.size_arr]
  omega

theorem quotedSize_pin {pin : String} (h : parseSpkiPin pin = .ok ()) : Json.quotedSize pin = 52 := by
  obtain ⟨digest, htext, hlength, halphabet⟩ := parseSpkiPin_eq_ok h
  have hstart : ∀ c ∈ "sha256:".toList, Json.Plain c := by
    intro c hc
    fin_cases hc <;> exact ⟨by decide, by decide, by decide, by decide⟩
  have hplain : ∀ c ∈ pin.toList, Json.Plain c := by
    intro c hc
    rw [htext, List.mem_append] at hc
    rcases hc with hc | hc
    · exact hstart c hc
    · exact plain_of_alphabet (halphabet c hc)
  rw [Json.quotedSize_plain hplain, htext, List.length_append, hlength]
  rfl

/-- **A valid state fits into its file.** -/
theorem size_stateToValue (hshort : env.Short) (h : state.Valid env) : (stateToValue state).size ≤ maxStateBytes := by
  have hdevices : (Json.arr (state.devices.toList.map deviceToValue)).size ≤ 217729 := by
    refine size_arr_le (by rw [List.length_map, Std.ExtTreeMap.length_toList]; exact h.count) ?_
    intro item hitem
    obtain ⟨entry, hentry, rfl⟩ := List.mem_map.mp hitem
    exact size_deviceToValue h hentry
  have houtbox : (Json.arr (state.revokeOutbox.map pendingToValue)).size ≤ 217729 := by
    refine size_arr_le (by rw [List.length_map]; exact (length_revokeOutbox h).trans h.count) ?_
    intro item hitem
    obtain ⟨pending, hpending, rfl⟩ := List.mem_map.mp hitem
    exact size_pendingToValue h hpending
  have hconfig := h.config
  simp only [validateConfig, seq_eq_ok, mapError_eq_ok] at hconfig
  obtain ⟨hservice, hpin, hhost, -⟩ := hconfig
  have hpin : Json.quotedSize state.servicePublicKeyPin = 52 := quotedSize_pin hpin
  have hservice : Json.quotedSize state.serviceEndpoint ≤ 1556 :=
    (Json.quotedSize_le _).trans (Nat.add_le_add_right (Nat.mul_le_mul_left 6 (length_of_validateEndpoint hshort hservice)) 2)
  have hhost : Json.quotedSize state.hostEndpointId ≤ 770 := by
    simp only [validateHostEndpointId, ensure_eq_ok, not_or, not_lt, gt_iff_lt] at hhost
    exact (Json.quotedSize_le _).trans (Nat.add_le_add_right (Nat.mul_le_mul_left 6 hhost.2.1) 2)
  have hrelay : Json.quotedSize state.relayUrl ≤ 3074 :=
    (Json.quotedSize_le _).trans (Nat.add_le_add_right (Nat.mul_le_mul_left 6 (relayUrl_of_presence h.presence)) 2)
  have hrouteId := quotedSize_randomId h.routeId
  have hrouteHint := quotedSize_randomId h.routeHint
  have hadmin := quotedSize_token h.adminToken
  have hkeys : (["admin_token", "devices", "host_endpoint_id", "relay_url", "revision", "revoke_outbox", "route_hint",
      "route_id", "service_endpoint", "service_public_key_pin"].map Json.quotedSize) =
      [13, 9, 18, 11, 10, 15, 12, 10, 18, 24] := by decide
  simp only [List.map_cons, List.map_nil, List.cons.injEq, and_true] at hkeys
  have hrevision : (Json.num stateRevision).size = 1 := by decide
  rw [stateToValue, maxStateBytes]
  simp only [Json.size_obj, Json.fieldsSize, Json.size_str]
  omega

end

end Kaleido.Hostd
