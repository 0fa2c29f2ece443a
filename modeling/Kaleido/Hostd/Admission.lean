/-
The admission of device commands is idempotent.

A device's request is known by the digest of its device and idempotency key, and what it asks for by the digest of its
lifetime and body. The outbox holds one record for each key (`SideInv`), in every run with crashes, failing appends and
restarts. `device_admission_idempotent` says what the broker answers once a record is durable: a call that passes the checks
is answered `Duplicate` or `IdempotencyConflict` from the record, and writes nothing; and a call whose key has no record is
never answered so. A call that does not pass the checks fails before keys are compared (`long_lifetime_fails`).
-/
import Kaleido.State.Synced
import Kaleido.State.Submit
import Kaleido.Hostd.Broker

namespace Kaleido.Hostd

open Check LineFile Prog Proto State

variable {env : Env}

variable {device device' : DeviceId} {request : DeviceCommandRequest} {w w' : World} {r : OutboxRecord} {nowMs : Int}
  {envelope : CommandEnvelope} {admission : DeviceCommandAdmission}

/-! ## Digested material -/

theorem beBytes_mod {n m : Nat} (h : beBytes n = beBytes m) : n % 256 ^ 8 = m % 256 ^ 8 := by
  have hbyte : ∀ i < 8, n / 256 ^ i % 256 = m / 256 ^ i % 256 := by
    intro i hi
    have hmem : i ∈ [7, 6, 5, 4, 3, 2, 1, 0] := by
      simp only [List.mem_cons, List.not_mem_nil, or_false]
      omega
    simpa using congrArg UInt8.toNat (List.map_inj_left.1 h i hmem)
  have hmod : ∀ k ≤ 8, n % 256 ^ k = m % 256 ^ k := by
    intro k hk
    induction k with
    | zero => simp [Nat.mod_one]
    | succ k ih => rw [Nat.mod_pow_succ, Nat.mod_pow_succ, ih (by omega), hbyte k (by omega)]
  exact hmod 8 le_rfl

theorem length_lengthPrefixed (bytes : List UInt8) : (lengthPrefixed bytes).length = 8 + bytes.length := by
  rw [lengthPrefixed, List.length_append]
  rfl

theorem lengthPrefixed_inj {a b : List UInt8} (h : lengthPrefixed a = lengthPrefixed b) : a = b :=
  (List.append_inj h rfl).2

/-- a field is told apart from the rest of the material while the rest is short -/
theorem field_inj {a a' rest rest' : List UInt8} (h : lengthPrefixed a ++ rest = lengthPrefixed a' ++ rest')
    (hrest : rest.length < 256 ^ 8) (hrest' : rest'.length < 256 ^ 8) : a = a' ∧ rest = rest' := by
  have hlen := congrArg List.length h
  simp only [List.length_append, length_lengthPrefixed] at hlen
  have hsplit : beBytes a.length = beBytes a'.length ∧ a ++ rest = a' ++ rest' := by
    unfold lengthPrefixed at h
    rw [List.append_assoc, List.append_assoc] at h
    exact List.append_inj h rfl
  have hmod := beBytes_mod hsplit.1
  exact List.append_inj hsplit.2 (by omega)

/-- what `device_command_key_digest` digests -/
def keyMaterial (deviceId : DeviceId) (idempotencyKey : String) : List UInt8 :=
  lengthPrefixed (utf8 "human") ++ lengthPrefixed (utf8 deviceId.value) ++ lengthPrefixed (utf8 idempotencyKey)

/-- what `device_request_digest` digests -/
def requestMaterial (env : Env) (request : DeviceCommandRequest) : List UInt8 :=
  lengthPrefixed (utf8 "device-request-v1") ++ lengthPrefixed (env.encodeRequest request.ttlMs request.body)

theorem keyMaterial_inj {key key' : String} (h : keyMaterial device key = keyMaterial device' key')
    (hk : (lengthPrefixed (utf8 key)).length < 256 ^ 8) (hk' : (lengthPrefixed (utf8 key')).length < 256 ^ 8) :
    device = device' ∧ key = key' := by
  unfold keyMaterial at h
  rw [List.append_assoc, List.append_assoc, List.append_cancel_left_eq] at h
  obtain ⟨hdevice, hkey⟩ := field_inj h hk hk'
  exact ⟨congrArg Ident.mk (utf8_inj hdevice), utf8_inj (lengthPrefixed_inj hkey)⟩

/-- SHA-256 and `serde_json` tell two requests apart: equal digests come from equal material, and equal encodings from
equal lifetimes and bodies -/
structure Separates (env : Env) (device device' : DeviceId) (request request' : DeviceCommandRequest) : Prop where
  key : env.hexDigest (keyMaterial device request.idempotencyKey) = env.hexDigest (keyMaterial device' request'.idempotencyKey) →
    keyMaterial device request.idempotencyKey = keyMaterial device' request'.idempotencyKey
  asks : env.hexDigest (requestMaterial env request) = env.hexDigest (requestMaterial env request') →
    requestMaterial env request = requestMaterial env request'
  encoding : env.encodeRequest request.ttlMs request.body = env.encodeRequest request'.ttlMs request'.body →
    request.ttlMs = request'.ttlMs ∧ request.body = request'.body

/-- two valid requests have one key digest only if they have one device and one key -/
theorem Separates.key_iff {request' : DeviceCommandRequest} (h : Separates env device device' request request')
    (hr : request.validate = .ok ()) (hr' : request'.validate = .ok ()) :
    deviceCommandKeyDigest env device request.idempotencyKey = deviceCommandKeyDigest env device' request'.idempotencyKey ↔
      device = device' ∧ request.idempotencyKey = request'.idempotencyKey := by
  have hshort : ∀ r : DeviceCommandRequest, r.validate = .ok () →
      (lengthPrefixed (utf8 r.idempotencyKey)).length < 256 ^ 8 := by
    intro r hr
    simp only [DeviceCommandRequest.validate, seq_eq_ok, ensure_eq_ok] at hr
    rw [length_lengthPrefixed]
    exact lt_of_le_of_lt (Nat.add_le_add_left hr.2.1 8) (by decide)
  constructor
  · exact fun hd => keyMaterial_inj (h.key hd) (hshort _ hr) (hshort _ hr')
  · rintro ⟨rfl, hkey⟩
    rw [hkey]

/-- one request digest only if they ask for the same -/
theorem Separates.request_iff {request' : DeviceCommandRequest} (h : Separates env device device' request request') :
    deviceRequestDigest env request = deviceRequestDigest env request' ↔
      request.ttlMs = request'.ttlMs ∧ request.body = request'.body := by
  constructor
  · intro hd
    have hmaterial := h.asks hd
    exact h.encoding (lengthPrefixed_inj (List.append_cancel_left hmaterial))
  · rintro ⟨httl, hbody⟩
    rw [deviceRequestDigest, deviceRequestDigest, httl, hbody]

/-! ## The outbox of a run -/

variable (env) in
/-- the side files, kept by every primitive -/
def sideWalk (ht : env.Tolerant) (hd : env.HexDigests) : Walk env where
  files := SideFiles env
  inv := SideInv env
  failed := SideInv env
  effect _ := True
  command _ := True
  record := Checked env
  envelope e := ¬ e.commandId.isEmpty
  weaken _ h := h
  block _ h := h.congr rfl rfl rfl
  tick _ h := h.congr rfl rfl rfl
  content _ _ h := h.congr rfl rfl rfl
  acks _ := trivial
  queued _ _ _ _ _ := trivial
  claimed _ _ _ _ _ _ _ := trivial
  admitted := admitted_checked hd
  submitted := commandId_of_validate
  recovered w r h hr := by
    obtain ⟨k, hk⟩ := OrdMap.mem_vals.1 hr
    exact (h.checked_of_get hk).commandId
  commit e _ := keepsSide_applyTrustedCommit ht e
  idempotency w e he h hnone := wp_recordIdempotency_side ht hd he h hnone
  insert r hr := keepsSide_insertInitial ht hr
  claim ticket := keepsSide_claimRecord ht ticket
  complete ticket := keepsSide_completeRecord ht ticket

/-- a start keeps the side files, and the process it leaves agrees with them -/
theorem load_keeps_side (ht : env.Tolerant) (hd : env.HexDigests) (h : SideFiles env w.disk) :
    wp World.disk (SideFiles env) (fun _ => SideInv env) (fun _ w' => SideFiles env w'.disk) (load env) w := by
  refine wp_bind (wp_read (wp_bind (wp_liftExcept (fun read hread => ?_) fun _ _ => h)))
  obtain ⟨store, expected⟩ := read
  have hbox : store.deviceOutbox = boxesOn w.disk := readStore_deviceOutbox h.outbox.whole hread
  refine wp_bind (wp_modify rfl (wp_bind ?_))
  refine wp_mono (wp_and (keepsOutbox_reconcile ht expected { w with store := store } ⟨h.outbox, hbox⟩)
    (keeps_reconcile_same { w with store := store } expected _ ⟨⟨rfl, rfl, rfl⟩, rfl, rfl, rfl⟩))
    (fun d _ hd => h.same hd.2 hd.1.whole) (fun _ v hv => ?_) fun _ v hv => h.same hv.2 hv.1.file.whole
  obtain ⟨hinv, hsame, -, -, -⟩ := hv
  have hside := h.same hsame hinv.file.whole
  refine wp_bind (wp_liftExcept (fun idempotency hidem => wp_bind (wp_modify rfl ?_)) fun _ _ => hside)
  have hread' : readIdempotency v.disk = .ok idempotency := by
    rw [readIdempotency_whole hinv.file.whole, hsame.idempotency, ← readIdempotency_whole h.outbox.whole]
    exact hidem
  have hfull : SideInv env { v with store := { v.store with idempotency := idempotency } } :=
    ⟨hinv.congr rfl rfl, hside.checked, idempotency, hread', fun _ _ hk => hk, fun _ => rfl⟩
  exact wp_post ((sideWalk env ht hd).repair_keeps _ hfull) (fun _ _ hq => hq) fun _ _ hE => hE.files

/-- **In every run** the process's outbox and its files agree. -/
theorem run_side (ht : env.Tolerant) (hd : env.HexDigests) (events : List Event) :
    (Machine.run env {} events).Holds (SideFiles env) (SideInv env) := by
  refine run_inv_all (fun m e h => ?_) ?_ events
  · exact (Machine.step_holds env (fun _ hI => hI.files) h (fun op _ hup =>
      Walk.op_keeps (W := sideWalk env ht hd) (by cases op <;> simp [Walk.Admits, sideWalk]) m.world (h.process hup))
      fun _ _ => load_keeps_side ht hd h.files).1
  · have hinit : SideInv env {} :=
      ⟨⟨⟨by simp [Whole], trivial⟩, rfl⟩, by simp [outboxRecords, recordsOf], ∅, rfl, by simp, fun _ => rfl⟩
    exact ⟨hinit.files, fun _ => hinit⟩

/-- the same admission, at two statuses -/
structure SameAdmission (r r' : OutboxRecord) : Prop where
  digest : r'.requestDigest = r.requestDigest
  envelope : r'.envelope = r.envelope
  ack : r'.admissionAck = r.admissionAck

theorem boxesFrom_keeps {boxes : Outbox} {l : List OutboxRecord} (hl : Chain boxes l) {k : String} {r' : OutboxRecord}
    (hk : boxes[k]? = some r') (h : SameAdmission r r') : ∃ r'', (boxesFrom boxes l)[k]? = some r'' ∧ SameAdmission r r'' := by
  induction l generalizing boxes r' with
  | nil => exact ⟨r', hk, h⟩
  | cons a l ih =>
    by_cases heq : a.keyDigest = k
    · subst heq
      obtain ⟨hdigest, henv, hack, -⟩ := follows_of_get hl.1 hk
      have hnew : (boxes.insert a.keyDigest a)[a.keyDigest]? = some a := by rw [OrdMap.get_insert_self]
      exact ih hl.2 hnew ⟨hdigest.symm.trans h.digest, henv.symm.trans h.envelope, hack.symm.trans h.ack⟩
    · have hold : (boxes.insert a.keyDigest a)[k]? = some r' := by rwa [OrdMap.get_insert, if_neg heq]
      exact ih hl.2 hold h

/-- a durable record is found under its key -/
theorem found_of_mem {boxes : Outbox} {l : List OutboxRecord} (hl : Chain boxes l) (hr : r ∈ l) :
    ∃ r', (boxesFrom boxes l)[r.keyDigest]? = some r' ∧ SameAdmission r r' := by
  induction l generalizing boxes with
  | nil => cases hr
  | cons a l ih =>
    rcases List.mem_cons.1 hr with rfl | hr
    · exact boxesFrom_keeps hl.2 (by rw [OrdMap.get_insert_self]) ⟨rfl, rfl, rfl⟩
    · exact ih hl.2 hr

/-- the request that a durable record was made from -/
structure OfRequest (env : Env) (device : DeviceId) (request : DeviceCommandRequest) (r : OutboxRecord) : Prop where
  made : requestFromEnvelope r.envelope = some request
  actor : r.envelope.actor = .human device
  valid : request.validate = .ok ()
  key : r.keyDigest = deviceCommandKeyDigest env device request.idempotencyKey
  digest : r.requestDigest = deviceRequestDigest env request
  ack : r.admissionAck.commandId = r.envelope.commandId

theorem ofRequest_of_checked (h : Checked env r) : ∃ device request, OfRequest env device request r := by
  have hcheck := h 0
  simp only [checkRecord, seq_eq_ok] at hcheck
  have hmatch := hcheck.2.2.2
  cases hrequest : requestFromEnvelope r.envelope with
  | none => simp only [hrequest, reduceCtorEq] at hmatch
  | some request =>
    cases hactor : r.envelope.actor with
    | human device =>
      simp only [hrequest, hactor, ensure_eq_ok] at hmatch
      obtain ⟨hack, -, hvalid, hkey, hdigest⟩ := hmatch
      exact ⟨device, request, hrequest, hactor, hvalid, hkey.symm, hdigest.symm, hack⟩
    | _ => simp only [hrequest, hactor, reduceCtorEq] at hmatch

/-! ## What the broker answers -/

/-- the envelope of a request passes the store's comparison with the request -/
theorem deviceEnvelope_ok {mint : String → CommandId} (h : deviceEnvelope mint device request nowMs = .ok envelope) :
    validateDeviceEnvelope device envelope request nowMs = .ok () ∧
      envelope.commandId = mint (deviceSeed device request.idempotencyKey) := by
  obtain ⟨expiresAtMs, hexpires, heq⟩ := bind_eq_ok.1 h
  cases heq
  refine ⟨?_, rfl⟩
  simp only [validateDeviceEnvelope, seq_eq_ok, ensure_eq_ok, true_and]
  cases httl : request.ttlMs with
  | none =>
    rw [httl] at hexpires
    cases hexpires
    exact ⟨rfl, rfl⟩
  | some ttlMs =>
    simp only [httl, deviceExpiry] at hexpires
    split_ifs at hexpires with hfits
    cases hexpires
    exact ⟨ensure_eq_ok.2 hfits.2, rfl⟩

/-- the checks of a call before keys are compared -/
def passesChecks (mint : String → CommandId) (w : World) (device : DeviceId) (request : DeviceCommandRequest)
    (nowMs : Int) : Bool :=
  match deviceEnvelope mint device request nowMs with
  | .ok envelope => !w.store.recoveryRequired && request.validate = .ok () && envelope.validate = .ok ()
  | .error _ => false

theorem onStore_eq_ok {α : Type} {p : StoreM α} {b b' : Broker} {a : α} (h : onStore p b = (.ok a, b')) :
    p b.world = (.ok a, b'.world) := by
  unfold onStore at h
  split at h <;> cases h
  assumption

/-- a request whose key is known is answered from the record -/
theorem admit_known {existing : OutboxRecord} (hflag : w.store.recoveryRequired = false)
    (hrequest : request.validate = .ok ()) (henvelope : envelope.validate = .ok ())
    (hdevice : validateDeviceEnvelope device envelope request nowMs = .ok ())
    (hknown : w.store.deviceOutbox[deviceCommandKeyDigest env device request.idempotencyKey]? = some existing) :
    admitDeviceCommand env device envelope request nowMs w =
      (.ok ⟨⟨envelope.commandId, repeatOutcome existing (deviceRequestDigest env request) nowMs, nowMs⟩, none, []⟩, w) := by
  have hwritable : ensureWritable w = (.ok (), w) := (run_bind rfl).trans (run_require hflag w)
  unfold admitDeviceCommand
  rw [run_bind hwritable, run_bind (run_liftExcept (contract_eq_ok.2 hrequest) w),
    run_bind (run_liftExcept (contract_eq_ok.2 henvelope) w), run_bind (run_liftExcept hdevice w)]
  refine (run_bind rfl).trans ?_
  simp only [id, hknown]
  rfl

/-- a call that does not pass the checks fails and leaves the store as it was -/
theorem admit_unchecked (env : Env) (device : DeviceId) (nowMs : Int)
    (h : ¬ (w.store.recoveryRequired = false ∧ request.validate = .ok () ∧ envelope.validate = .ok ())) :
    ∃ e, admitDeviceCommand env device envelope request nowMs w = (.error e, w) := by
  unfold admitDeviceCommand
  by_cases hflag : w.store.recoveryRequired = false
  · have hwritable : ensureWritable w = (.ok (), w) := (run_bind rfl).trans (run_require hflag w)
    rw [run_bind hwritable]
    cases hrequest : contract request.validate with
    | error e => exact ⟨e, run_bind_error rfl⟩
    | ok _ =>
      rw [run_bind (run_liftExcept rfl w)]
      cases henvelope : contract envelope.validate with
      | error e => exact ⟨e, run_bind_error rfl⟩
      | ok _ => exact absurd ⟨hflag, contract_eq_ok.1 hrequest, contract_eq_ok.1 henvelope⟩ h
  · refine ⟨.recoveryRequired, run_bind_error ((run_bind rfl).trans ?_)⟩
    rw [require, if_neg hflag]
    rfl

/-- an outcome that does not refer to an earlier admission -/
def isFresh : CommandOutcome → Bool
  | .duplicate _ => false
  | .rejected error => error.code ≠ .idempotencyConflict
  | _ => true

theorem isFresh_preview (s : CanonicalState) (boxes : Outbox) (envelope : CommandEnvelope) (nowMs : Int) :
    isFresh (previewDeviceAdmission env s boxes envelope nowMs).1.outcome = true := by
  have hsession : ∀ sessionId accepted, isFresh accepted = true → isFresh (sessionOutcome s sessionId accepted nowMs) = true := by
    intro sessionId accepted h
    unfold sessionOutcome
    split_ifs
    · exact h
    · rfl
  have hreply : ∀ response, isFresh (replyOutcome s response nowMs) = true := by
    intro response
    unfold replyOutcome
    split
    · rfl
    · rename_i entry _
      split
      · rfl
      · rename_i rejection _
        cases rejection <;> first | rfl | (cases hstate : entry.state <;> simp [replyRejectionCode, refusal, canonicalError, isFresh, hstate])
  simp only [previewDeviceAdmission]
  split_ifs
  · rfl
  · unfold previewOutcome
    split
    · exact hsession _ _ rfl
    · exact hsession _ _ rfl
    · split_ifs
      · rfl
      · exact hreply _
    · split
      · rfl
      · split_ifs <;> rfl
    · exact hsession _ _ rfl
    · rfl

theorem require_of_ok {c : Prop} [Decidable c] {e : StateError} {u : Unit} (h : blockOnError (require c e) w = (.ok u, w')) :
    c := by
  by_contra hc
  rw [blockOnError, onError, require, if_neg hc] at h
  cases h

/-- what an admission returns is the decision that its record holds -/
theorem ack_admitReady {record : OutboxRecord} (h : admitReady env record nowMs w = (.ok admission, w')) :
    admission.ack = record.admissionAck := by
  simp only [admitReady, run_bind_eq_ok] at h
  obtain ⟨_, _, -, _, _, -, _, _, -, _, _, hack, _, _, -, h⟩ := h
  cases h
  exact require_of_ok hack

theorem ack_admitLocal {record : OutboxRecord} (h : admitLocal env record nowMs w = (.ok admission, w')) :
    admission.ack = record.admissionAck := by
  obtain ⟨_, _, -, h⟩ := run_bind_eq_ok.1 h
  obtain ⟨_, _, -, h⟩ := run_bind_eq_ok.1 h
  have hrest : ∀ (actualAck : CommandAck) (v : World) ticket checkpoint, (do
      blockOnError (require (actualAck = record.admissionAck) .commandOutboxDiverged)
      blockOnError (completeRecord env ticket)
      let projections ← State.changesSince env checkpoint
      return (⟨actualAck, none, projections⟩ : DeviceCommandAdmission)) v = (.ok admission, w') →
      admission.ack = record.admissionAck := by
    intro actualAck v ticket checkpoint h
    simp only [run_bind_eq_ok] at h
    obtain ⟨_, _, hack, _, _, -, _, _, -, h⟩ := h
    cases h
    exact require_of_ok hack
  split_ifs at h
  · obtain ⟨actualAck, v, -, h⟩ := run_bind_eq_ok.1 h
    exact hrest actualAck v _ _ h
  · obtain ⟨_, v, -, h⟩ := run_bind_eq_ok.1 h
    exact hrest record.admissionAck v _ _ h

/-- a request whose key is new is answered with the decision on it -/
theorem admit_new (hnew : w.store.deviceOutbox[deviceCommandKeyDigest env device request.idempotencyKey]? = none)
    (h : admitDeviceCommand env device envelope request nowMs w = (.ok admission, w')) :
    isFresh admission.ack.outcome = true := by
  obtain ⟨_, v, hwritable, hrun⟩ := run_bind_eq_ok.1 h
  obtain rfl : v = w := by
    obtain ⟨_, _, hread, hrequire⟩ := run_bind_eq_ok.1 hwritable
    cases hread
    exact (run_require_eq_ok hrequire).2
  -- three checks, none of which changes the store
  obtain ⟨_, _, hcheck, hrun⟩ := run_bind_eq_ok.1 hrun
  obtain ⟨-, rfl⟩ := Prod.mk.inj hcheck
  obtain ⟨_, _, hcheck, hrun⟩ := run_bind_eq_ok.1 hrun
  obtain ⟨-, rfl⟩ := Prod.mk.inj hcheck
  obtain ⟨_, _, hcheck, hrun⟩ := run_bind_eq_ok.1 hrun
  obtain ⟨-, rfl⟩ := Prod.mk.inj hcheck
  obtain ⟨_, _, hread, hrun⟩ := run_bind_eq_ok.1 hrun
  obtain ⟨hr, rfl⟩ := Prod.mk.inj hread
  cases hr
  simp only [id, hnew] at hrun
  obtain ⟨_, _, -, hrun⟩ := run_bind_eq_ok.1 hrun
  split_ifs at hrun
  · rw [ack_admitReady hrun]
    exact isFresh_preview ..
  · rw [ack_admitLocal hrun]
    exact isFresh_preview ..

/-! ## Idempotence -/

/-- a durable admission of the request under the command -/
def Persisted (disk : Disk) (device : DeviceId) (request : DeviceCommandRequest) (commandId : CommandId) : Prop :=
  ∃ r ∈ outboxRecords disk, r.envelope.actor = .human device ∧ requestFromEnvelope r.envelope = some request ∧
    r.envelope.commandId = commandId

/-- the answer to a later request for the key of an admitted one -/
def laterOutcome (first later : DeviceCommandRequest) (commandId : CommandId) (nowMs : Int) : CommandOutcome :=
  if first.ttlMs = later.ttlMs ∧ first.body = later.body then .duplicate commandId
  else refusal .idempotencyConflict nowMs

/-- the answers of a broker to a request, given what is durable -/
structure Idempotent (env : Env) (mint : String → CommandId) (b : Broker) (device : DeviceId) (request : DeviceCommandRequest)
    (nowMs : Int) : Prop where
  /-- a call that passes the checks is answered from the durable admission of its device and key, and changes nothing -/
  repeated : passesChecks mint b.world device request nowMs = true → ∀ first commandId,
    Persisted b.world.disk device first commandId → first.idempotencyKey = request.idempotencyKey →
    Broker.admitDeviceCommand env mint device request nowMs b = (.ok ⟨⟨mint (deviceSeed device request.idempotencyKey),
      laterOutcome first request commandId nowMs, nowMs⟩, none, []⟩, b)
  /-- a call that does not pass them fails, and changes nothing -/
  failed : passesChecks mint b.world device request nowMs = false →
    ∃ e, Broker.admitDeviceCommand env mint device request nowMs b = (.error e, b)
  /-- a call whose device and key have no durable admission is not answered as if they had -/
  fresh : (∀ first commandId, Persisted b.world.disk device first commandId →
      first.idempotencyKey ≠ request.idempotencyKey) →
    ∀ admission b', Broker.admitDeviceCommand env mint device request nowMs b = (.ok admission, b') →
      isFresh admission.ack.outcome = true

/-- a durable admission is in the outbox of the process, under the digests of its request -/
theorem durable_admission (h : SideInv env w) {first : DeviceCommandRequest} {commandId : CommandId}
    (hp : Persisted w.disk device first commandId) : ∃ existing,
      w.store.deviceOutbox[deviceCommandKeyDigest env device first.idempotencyKey]? = some existing ∧
      existing.requestDigest = deviceRequestDigest env first ∧ existing.admissionAck.commandId = commandId ∧
      first.validate = .ok () := by
  obtain ⟨r, hr, hactor, hrequest, hcommand⟩ := hp
  obtain ⟨device', first', hof⟩ := ofRequest_of_checked (h.checked r hr)
  rw [hof.made] at hrequest
  cases hrequest
  rw [hof.actor] at hactor
  cases hactor
  obtain ⟨existing, hfound, hsame⟩ := found_of_mem h.outbox.file.chain hr
  refine ⟨existing, ?_, hsame.digest.trans hof.digest, ?_, hof.valid⟩
  · rw [h.outbox.memory, ← hof.key]
    exact hfound
  · rw [hsame.ack, hof.ack, hcommand]

/-- **Idempotent admission.** In every run, with crashes, failing appends and restarts, the broker answers a request from
the durable admission of its device and key if there is one, and never refers to an admission if there is none. -/
theorem device_admission_idempotent (env : Env) (hio : env.Tolerant) (hdigest : env.HexDigests) (mint : String → CommandId)
    (events : List Event) (b : Broker) (hb : b.world = (Machine.run env {} events).world)
    (hup : (Machine.run env {} events).up = true) (device : DeviceId) (request : DeviceCommandRequest) (nowMs : Int)
    (hsep : ∀ device' first commandId, Persisted b.world.disk device' first commandId →
      Separates env device' device first request) :
    Idempotent env mint b device request nowMs := by
  have hside : SideInv env b.world := hb ▸ (run_side hio hdigest events).process hup
  have hadmission : ∀ {envelope r}, deviceEnvelope mint device request nowMs = .ok envelope →
      admitDeviceCommand env device envelope request nowMs b.world = r →
      Broker.admitDeviceCommand env mint device request nowMs b =
        publishing (fun _ => r) (·.projections) nowMs b := by
    rintro envelope _ henvelope rfl
    refine (run_bind (run_liftExcept henvelope b)).trans ?_
    unfold publishing onStore
    rfl
  refine ⟨fun hpass first commandId hp hkey => ?_, fun hpass => ?_, fun hnone admission b' hrun => ?_⟩
  · unfold passesChecks at hpass
    split at hpass
    · rename_i envelope henvelope
      simp only [Bool.and_eq_true, Bool.not_eq_true', decide_eq_true_iff] at hpass
      obtain ⟨existing, hfound, hasks, hcommand, hvalid⟩ := durable_admission hside hp
      obtain ⟨hdevice, hid⟩ := deviceEnvelope_ok henvelope
      have houtcome : repeatOutcome existing (deviceRequestDigest env request) nowMs =
          laterOutcome first request commandId nowMs := by
        unfold repeatOutcome laterOutcome
        rw [hasks, hcommand]
        exact if_congr (hsep device first commandId hp).request_iff rfl rfl
      rw [hadmission henvelope (admit_known hpass.1.1 hpass.1.2 hpass.2 hdevice (hkey ▸ hfound)), houtcome, hid]
      rfl
    · cases hpass
  · unfold passesChecks at hpass
    split at hpass
    · rename_i envelope henvelope
      have hunchecked : ¬ (b.world.store.recoveryRequired = false ∧ request.validate = .ok () ∧ envelope.validate = .ok ()) := by
        rintro ⟨hflag, hrequest, hvalid⟩
        simp [hflag, hrequest, hvalid] at hpass
      obtain ⟨e, he⟩ := admit_unchecked env device nowMs hunchecked
      rw [hadmission henvelope he]
      exact ⟨.state e, rfl⟩
    · rename_i e henvelope
      exact ⟨e, run_bind_error (run_liftExcept henvelope b)⟩
  · obtain ⟨envelope, _, henvelope, hrun⟩ := run_bind_eq_ok.1 hrun
    obtain ⟨henvelope, rfl⟩ := Prod.mk.inj henvelope
    obtain ⟨a, b₁, hstore, hrun⟩ := run_bind_eq_ok.1 hrun
    cases hrun
    have hadmitted := onStore_eq_ok hstore
    cases hfind : b.world.store.deviceOutbox[deviceCommandKeyDigest env device request.idempotencyKey]? with
    | none => exact admit_new hfind hadmitted
    | some existing =>
      -- the record that was found is a durable admission of this very device and key
      have hvalid : request.validate = .ok () := by
        by_contra hinvalid
        obtain ⟨e, he⟩ : ∃ e, State.admitDeviceCommand env device envelope request nowMs b.world = (.error e, b.world) :=
          admit_unchecked env device nowMs fun hc => hinvalid hc.2.1
        rw [he] at hadmitted
        cases hadmitted
      have hmem : existing ∈ outboxRecords b.world.disk := by
        have hbox := hfind
        rw [hside.outbox.memory] at hbox
        exact (mem_of_boxesFrom hbox).resolve_right (by simp)
      obtain ⟨device', first, hof⟩ := ofRequest_of_checked (hside.checked existing hmem)
      have hp : Persisted b.world.disk device' first existing.envelope.commandId :=
        ⟨existing, hmem, hof.actor, hof.made, rfl⟩
      have hkey := hof.key.symm.trans (hside.outbox.keyed.key _ _ hfind)
      obtain ⟨rfl, hsame⟩ := ((hsep _ _ _ hp).key_iff hof.valid hvalid).1 hkey
      exact absurd hsame (hnone _ _ hp)

/-- the sample installation, with an encoding that tells the lifetimes below apart -/
def admissionEnv : Env := { sampleEnv with encodeRequest := fun ttlMs _ => [if ttlMs.isNone then 0 else 1] }

/-- an interrupt is admitted, and the process is killed and started again -/
def admittedEvents : List Event :=
  sampleSetup ++ [.call (sampleAdmission sampleInterrupt), .crash (.apply (.hostUpserted sampleHost)) 1, .start]

def admittedBroker : Broker where
  world := (Machine.run admissionEnv {} admittedEvents).world
  hostId := sampleHost.id

def sampleMint (seed : String) : CommandId := ⟨"cmd_" ++ seed⟩

/-- the device's request, with the lifetime `ttlMs` -/
def requestAgain (ttlMs : Option Nat) : DeviceCommandRequest := ⟨"key", ttlMs, sampleInterrupt⟩

/-- the outbox of the sample holds the one request -/
theorem persisted_admitted :
    Persisted admittedBroker.world.disk sampleDevice (requestAgain none) ⟨"cmd_a"⟩ ∧
    ∀ device first commandId, Persisted admittedBroker.world.disk device first commandId →
      device = sampleDevice ∧ first = requestAgain none := by
  have hrecords : ((outboxRecords admittedBroker.world.disk).map fun r => r.envelope) =
      [sampleEnvelope sampleInterrupt] := by decide +kernel
  generalize admittedBroker.world.disk = disk at hrecords ⊢
  constructor
  · have hmem : sampleEnvelope sampleInterrupt ∈ (outboxRecords disk).map fun r => r.envelope := by
      rw [hrecords]
      exact List.mem_singleton.2 rfl
    obtain ⟨r, hr, henvelope⟩ := List.mem_map.1 hmem
    exact ⟨r, hr, by rw [henvelope]; rfl, by rw [henvelope]; rfl, by rw [henvelope]; rfl⟩
  · rintro device first commandId ⟨r, hr, hactor, hfirst, -⟩
    have henvelope : r.envelope = sampleEnvelope sampleInterrupt := by
      have := List.mem_map_of_mem (f := fun r => r.envelope) hr
      rw [hrecords] at this
      simpa using this
    rw [henvelope] at hactor hfirst
    cases hactor
    cases hfirst
    exact ⟨rfl, rfl⟩

theorem interrupt_admitted_once :
    Persisted admittedBroker.world.disk sampleDevice (requestAgain none) ⟨"cmd_a"⟩ ∧
    passesChecks sampleMint admittedBroker.world sampleDevice (requestAgain (some 5)) 90 = true ∧
    Idempotent admissionEnv sampleMint admittedBroker sampleDevice (requestAgain (some 5)) 90 := by
  have hfacts : (Machine.run admissionEnv {} admittedEvents).up = true ∧
      passesChecks sampleMint admittedBroker.world sampleDevice (requestAgain (some 5)) 90 = true := by
    decide +kernel
  refine ⟨persisted_admitted.1, hfacts.2, ?_⟩
  refine device_admission_idempotent admissionEnv (by intro n entry fault h; cases h) sampleDigest_valid sampleMint admittedEvents
    admittedBroker (by rw [admittedBroker]) hfacts.1 sampleDevice (requestAgain (some 5)) 90 fun device first commandId hp => ?_
  obtain ⟨rfl, rfl⟩ := persisted_admitted.2 device first commandId hp
  have hasks : admissionEnv.hexDigest (requestMaterial admissionEnv (requestAgain none)) ≠
      admissionEnv.hexDigest (requestMaterial admissionEnv (requestAgain (some 5))) := by decide +kernel
  have hencoding : admissionEnv.encodeRequest none sampleInterrupt ≠ admissionEnv.encodeRequest (some 5) sampleInterrupt := by
    decide +kernel
  exact ⟨fun _ => rfl, fun h => absurd h hasks, fun h => absurd h hencoding⟩

/-- **A lifetime that is too long.** A later request for the key of an admitted one fails its checks before its key is
looked up: the broker returns an error, not a rejection. -/
theorem long_lifetime_fails :
    Persisted admittedBroker.world.disk sampleDevice (requestAgain none) ⟨"cmd_a"⟩ ∧
    (Broker.admitDeviceCommand admissionEnv sampleMint sampleDevice (requestAgain (some 300001)) 90 admittedBroker).1.isOk =
      false := by
  refine ⟨persisted_admitted.1, ?_⟩
  decide +kernel

end Kaleido.Hostd
