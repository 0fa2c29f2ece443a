/-
Pairing (`kaleido-transport`, `registry.rs`): a secret is issued for a few minutes, and the device that presents it in time
is recorded.

The snapshot keeps the digest of every secret that was issued. A pairing marks the digest's record and adds the device in one
commit, so that a secret that has been used stays used, whatever commits fail and however often the store is opened again.
`pairing_once` is the result over whole runs. It needs nothing of the hash: a second record for a digest is refused when it
would be issued.
-/
import Kaleido.Lib.Run
import Kaleido.Transport.Registry

namespace Kaleido.Transport

open Check Proto State

variable {pairings : List PairingRecord} {index : Nat} {input : IssuePairing} {secret : List UInt8}
  {bootstrap : PairingBootstrap} {next : RegistrySnapshot} {request : PairRequest} {nowMs : Int} {draws : List DeviceId}
  {device : DeviceRecord}

def pairingLifetimeMs : Int := 300000

/-- SHA-256, the checks on keys, endpoints and pins -/
structure PairingEnv where
  sha256 : List UInt8 → List UInt8
  validSpki : List UInt8 → Bool
  validateEndpoint : String → Except TransportError Unit
  parsePin : String → Except TransportError Unit

/-- `PairingBootstrap` -/
structure PairingBootstrap where
  hostId : HostId
  endpoint : String
  hostPublicKeyPin : String
  secret : List UInt8
  expiresAtMs : Int
  deriving DecidableEq

/-- `IssuePairing` -/
structure IssuePairing where
  hostId : HostId
  endpoint : String
  hostPublicKeyPin : String
  nowMs : Int

/-- `char::is_whitespace` -/
def isWhitespace (c : Char) : Bool :=
  (9 ≤ c.toNat && c.toNat ≤ 13) || c.toNat == 0x20 || c.toNat == 0x85 || c.toNat == 0xA0 || c.toNat == 0x1680 ||
    (0x2000 ≤ c.toNat && c.toNat ≤ 0x200A) || c.toNat == 0x2028 || c.toNat == 0x2029 || c.toNat == 0x202F ||
    c.toNat == 0x205F || c.toNat == 0x3000

/-- `str::trim` -/
def trim (text : String) : String :=
  String.ofList (((text.toList.dropWhile isWhitespace).reverse.dropWhile isWhitespace).reverse)

/-- `fresh_device_id`: eight draws -/
def freshDeviceId (existing : OrdMap DeviceId DeviceRecord) (draws : List DeviceId) : Except TransportError DeviceId :=
  match (draws.take 8).find? fun deviceId => !existing.contains deviceId with
  | some deviceId => .ok deviceId
  | none => .error .internal

/-- the loop of `pair_device`: the last record with the digest -/
def matching (digest : List UInt8) (pairings : List PairingRecord) : Option Nat :=
  pairings.zipIdx.foldl (fun found p => if p.1.digest = digest then some p.2 else found) none

namespace SecurityStore

variable (env : PairingEnv)

/-- `open`: every device's key is checked -/
def openBackend (durable : RegistrySnapshot) : Except TransportError SecurityStore := do
  checkAll (fun device => ensure (env.validSpki device.publicKeySpki) .invalidKeyMaterial) durable.devices.vals
  return ⟨durable, durable⟩

/-- `issue_pairing` up to the commit, for the secret that was drawn -/
def issuePlan (r : SecurityStore) (input : IssuePairing) (secret : List UInt8) :
    Except TransportError (PairingBootstrap × RegistrySnapshot) := do
  ensure (¬ input.hostId.isEmpty) .malformedFrame
  env.validateEndpoint input.endpoint
  env.parsePin input.hostPublicKeyPin
  let expiresAtMs := input.nowMs + pairingLifetimeMs
  ensure (expiresAtMs ≤ i64Max) .timeOverflow
  let digest := env.sha256 secret
  ensure (∀ record ∈ r.snapshot.pairings, record.digest ≠ digest) .internal
  return (⟨input.hostId, input.endpoint, input.hostPublicKeyPin, secret, expiresAtMs⟩,
    { r.snapshot with pairings := r.snapshot.pairings ++ [⟨digest, expiresAtMs, none⟩] })

/-- `pair_device` up to the commit, for the identifiers that were drawn -/
def pairPlan (r : SecurityStore) (request : PairRequest) (nowMs : Int) (draws : List DeviceId) :
    Except TransportError (DeviceRecord × RegistrySnapshot) := do
  ensure (request.requestId ≠ 0) .malformedFrame
  ensure (request.secret.length = 32) .pairingInvalid
  ensure (env.validSpki request.devicePublicKeySpki) .authenticationFailed
  let label := trim request.deviceLabel
  ensure (1 ≤ label.length ∧ label.length ≤ 80) .authenticationFailed
  match matching (env.sha256 request.secret) r.snapshot.pairings with
  | none => .error .pairingInvalid
  | some index =>
    match r.snapshot.pairings[index]? with
    | none => .error .pairingInvalid
    | some record => do
      ensure (¬ (record.consumedAtMs.isSome ∨ record.expiresAtMs ≤ nowMs)) .pairingInvalid
      let deviceId ← freshDeviceId r.snapshot.devices draws
      let device : DeviceRecord := ⟨deviceId, request.devicePublicKeySpki, label, nowMs, none⟩
      return (device, {
        pairings := r.snapshot.pairings.modify index fun record => { record with consumedAtMs := some nowMs }
        devices := r.snapshot.devices.insert deviceId device })

/-- a planned change is committed, and answered when that succeeded -/
def carryOut {α : Type} (r : SecurityStore) (plan : Except TransportError (α × RegistrySnapshot)) (result : CommitResult) :
    Except TransportError α × SecurityStore :=
  match plan with
  | .error e => (.error e, r)
  | .ok (a, next) => ((r.commit next result).1.map fun _ => a, (r.commit next result).2)

/-- `issue_pairing` -/
def issuePairing (r : SecurityStore) (input : IssuePairing) (secret : List UInt8) (result : CommitResult) :
    Except TransportError PairingBootstrap × SecurityStore :=
  r.carryOut (r.issuePlan env input secret) result

/-- `pair_device` -/
def pairDevice (r : SecurityStore) (request : PairRequest) (nowMs : Int) (draws : List DeviceId) (result : CommitResult) :
    Except TransportError DeviceRecord × SecurityStore :=
  r.carryOut (r.pairPlan env request nowMs draws) result

end SecurityStore

/-! ## Runs -/

/-- an operation on the store; a commit goes through, or fails and leaves the durable snapshot -/
inductive PairingOp where
  | issue (input : IssuePairing) (secret : List UInt8) (fails : Bool)
  | pair (request : PairRequest) (nowMs : Int) (draws : List DeviceId) (fails : Bool)
  | revoke (deviceId : DeviceId) (atMs : Int) (fails : Bool)
  | reopen

/-- the store, and what its callers were told: the secrets that were issued, the pairings that succeeded with their time, the
devices that were revoked -/
structure Ledger where
  store : SecurityStore
  issued : List PairingBootstrap := []
  paired : List (PairRequest × Int) := []
  revoked : List DeviceId := []

def commitResult (fails : Bool) : CommitResult := if fails then .failed else .committed

namespace Ledger

variable (env : PairingEnv)

/-- the operation's error, and the ledger after it -/
def perform (S : Ledger) : PairingOp → Except TransportError Unit × Ledger
  | .issue input secret fails =>
    match S.store.issuePairing env input secret (commitResult fails) with
    | (.ok bootstrap, store) => (.ok (), { S with store := store, issued := bootstrap :: S.issued })
    | (.error e, store) => (.error e, { S with store := store })
  | .pair request nowMs draws fails =>
    match S.store.pairDevice env request nowMs draws (commitResult fails) with
    | (.ok _, store) => (.ok (), { S with store := store, paired := (request, nowMs) :: S.paired })
    | (.error e, store) => (.error e, { S with store := store })
  | .revoke deviceId atMs fails =>
    match S.store.revokeAndThen deviceId atMs (commitResult fails) with
    | (.ok _, store) => (.ok (), { S with store := store, revoked := deviceId :: S.revoked })
    | (.error e, store) => (.error e, { S with store := store })
  | .reopen =>
    match SecurityStore.openBackend env S.store.durable with
    | .ok store => (.ok (), { S with store := store })
    | .error e => (.error e, S)

def step (S : Ledger) (op : PairingOp) : Ledger := (S.perform env op).2

end Ledger

/-! ## What an operation does -/

/-- the record that `pair_device` finds has the digest -/
theorem matching_eq_some {digest : List UInt8} (h : matching digest pairings = some index) :
    ∃ record, pairings[index]? = some record ∧ record.digest = digest := by
  have hall : ∀ found, matching digest pairings = some found →
      ∃ record, pairings[found]? = some record ∧ record.digest = digest := by
    unfold matching
    refine List.foldlRecOn (motive := fun m : Option Nat => ∀ found, m = some found →
      ∃ record : PairingRecord, pairings[found]? = some record ∧ record.digest = digest) _ _ (by simp) ?_
    intro m hm p hp found hfound
    by_cases hdigest : p.1.digest = digest
    · rw [if_pos hdigest, Option.some.injEq] at hfound
      subst hfound
      exact ⟨p.1, List.mem_zipIdx_iff_getElem?.mp hp, hdigest⟩
    · rw [if_neg hdigest] at hfound
      exact hm found hfound
  exact hall index h

namespace SecurityStore

variable {env : PairingEnv} {r : SecurityStore}

/-- a planned change fails and leaves the store, or is durable and in memory -/
theorem carryOut_cases {α : Type} (r : SecurityStore) (plan : Except TransportError (α × RegistrySnapshot)) (fails : Bool) :
    (∃ e, r.carryOut plan (commitResult fails) = (.error e, r)) ∨
    ∃ a next, plan = .ok (a, next) ∧ r.carryOut plan (commitResult fails) = (.ok a, ⟨next, next⟩) := by
  cases plan with
  | error e => exact .inl ⟨e, rfl⟩
  | ok planned =>
    obtain ⟨a, next⟩ := planned
    cases fails with
    | true => exact .inl ⟨.persistence, rfl⟩
    | false => exact .inr ⟨a, next, rfl, rfl⟩

/-- a revocation fails and leaves the store, or is durable and in memory -/
theorem revokeAndThen_cases (r : SecurityStore) (deviceId : DeviceId) (atMs : Int) (fails : Bool) :
    (∃ e, r.revokeAndThen deviceId atMs (commitResult fails) = (.error e, r)) ∨
    ∃ current, r.snapshot.devices[deviceId]? = some current ∧
      r.revokeAndThen deviceId atMs (commitResult fails) = (.ok (),
        ⟨{ r.snapshot with devices := r.snapshot.devices.insert deviceId { current with revokedAtMs := some atMs } },
          { r.snapshot with devices := r.snapshot.devices.insert deviceId { current with revokedAtMs := some atMs } }⟩) := by
  unfold revokeAndThen
  split
  · exact .inl ⟨_, rfl⟩
  · rename_i current hcurrent
    split
    · exact .inl ⟨_, rfl⟩
    · cases fails with
      | true => exact .inl ⟨_, rfl⟩
      | false => exact .inr ⟨current, hcurrent, rfl⟩

/-- the snapshot that issues a secret has one more record, the first with its digest -/
theorem issuePlan_eq_ok (h : r.issuePlan env input secret = .ok (bootstrap, next)) :
    bootstrap.secret = secret ∧ (∀ record ∈ r.snapshot.pairings, record.digest ≠ env.sha256 secret) ∧
    next = { r.snapshot with pairings := r.snapshot.pairings ++ [⟨env.sha256 secret, bootstrap.expiresAtMs, none⟩] } := by
  simp only [issuePlan, seq_eq_ok, ensure_eq_ok, pure_eq_ok, Prod.mk.injEq] at h
  obtain ⟨-, -, -, -, hfresh, rfl, rfl⟩ := h
  exact ⟨rfl, hfresh, rfl⟩

/-- the snapshot of a pairing marks the record of the digest, which was not yet marked and had not expired, and adds a device
under a new identifier -/
theorem pairPlan_eq_ok (h : r.pairPlan env request nowMs draws = .ok (device, next)) :
    ∃ index record, r.snapshot.pairings[index]? = some record ∧ record.digest = env.sha256 request.secret ∧
      record.consumedAtMs = none ∧ nowMs < record.expiresAtMs ∧ r.snapshot.devices[device.deviceId]? = none ∧
      env.validSpki device.publicKeySpki = true ∧
      next = {
        pairings := r.snapshot.pairings.modify index fun record => { record with consumedAtMs := some nowMs }
        devices := r.snapshot.devices.insert device.deviceId device } := by
  simp only [pairPlan, seq_eq_ok, ensure_eq_ok] at h
  obtain ⟨-, -, hspki, -, h⟩ := h
  split at h
  · cases h
  · rename_i index hindex
    obtain ⟨record, hrecord, hdigest⟩ := matching_eq_some hindex
    rw [hrecord] at h
    obtain ⟨hunused, h⟩ := seq_eq_ok.mp h
    simp only [bind_eq_ok, pure_eq_ok, Prod.mk.injEq] at h
    obtain ⟨deviceId, hfresh, rfl, rfl⟩ := h
    obtain ⟨hopen, htime⟩ := not_or.mp (ensure_eq_ok.mp hunused)
    rw [Option.not_isSome_iff_eq_none] at hopen
    rw [not_le] at htime
    refine ⟨index, record, hrecord, hdigest, hopen, htime, ?_, hspki, rfl⟩
    unfold freshDeviceId at hfresh
    split at hfresh
    · rename_i found hfound
      cases hfresh
      have hnew := List.find?_some hfound
      exact Std.ExtTreeMap.getElem?_eq_none_of_contains_eq_false (by simpa using hnew)
    · cases hfresh

end SecurityStore

namespace Ledger

variable {env : PairingEnv} {S : Ledger}

/-- **An operation that fails changes nothing.** -/
theorem perform_error {op : PairingOp} {e : TransportError} (hopen : ∃ store, SecurityStore.openBackend env S.store.durable = .ok store)
    (h : (S.perform env op).1 = .error e) : (S.perform env op).2 = S := by
  cases op with
  | issue input secret fails =>
    rcases SecurityStore.carryOut_cases S.store (S.store.issuePlan env input secret) fails with ⟨e', hr⟩ | ⟨a, next, -, hr⟩
    · simp only [perform, SecurityStore.issuePairing, hr]
    · simp [perform, SecurityStore.issuePairing, hr] at h
  | pair request nowMs draws fails =>
    rcases SecurityStore.carryOut_cases S.store (S.store.pairPlan env request nowMs draws) fails with
      ⟨e', hr⟩ | ⟨a, next, -, hr⟩
    · simp only [perform, SecurityStore.pairDevice, hr]
    · simp [perform, SecurityStore.pairDevice, hr] at h
  | revoke deviceId atMs fails =>
    rcases SecurityStore.revokeAndThen_cases S.store deviceId atMs fails with ⟨e', hr⟩ | ⟨current, -, hr⟩
    · simp only [perform, hr]
    · simp [perform, hr] at h
  | reopen =>
    obtain ⟨store, hstore⟩ := hopen
    simp [perform, hstore] at h

/-- the record of a secret that was issued: the only one with its digest, and marked when the secret has been used -/
structure Vouched (env : PairingEnv) (S : Ledger) (b : PairingBootstrap) : Prop where
  record : ∃ (index : Nat) (record : PairingRecord), S.store.snapshot.pairings[index]? = some record ∧
    record.digest = env.sha256 b.secret ∧ record.expiresAtMs = b.expiresAtMs ∧
    (∀ (other : Nat) (record' : PairingRecord), S.store.snapshot.pairings[other]? = some record' →
      record'.digest = env.sha256 b.secret → other = index) ∧
    S.paired.countP (fun p => env.sha256 p.1.secret = env.sha256 b.secret) ≤ (if record.consumedAtMs.isSome then 1 else 0)
  inTime : ∀ p ∈ S.paired, env.sha256 p.1.secret = env.sha256 b.secret → p.2 < b.expiresAtMs

/-- a record of the list with one more is an old one or the last -/
theorem getElem?_snoc {last record : PairingRecord} (h : (pairings ++ [last])[index]? = some record) :
    pairings[index]? = some record ∨ index = pairings.length ∧ last = record := by
  rcases Nat.lt_trichotomy index pairings.length with hlt | rfl | hgt
  · rw [List.getElem?_append_left hlt] at h
    exact .inl h
  · rw [List.getElem?_concat_length, Option.some.injEq] at h
    exact .inr ⟨rfl, h⟩
  · rw [List.getElem?_eq_none (by simp; omega)] at h
    cases h

/-- what holds between operations -/
structure Sound (env : PairingEnv) (S : Ledger) : Prop where
  durable : S.store.durable = S.store.snapshot
  keys : ∀ device ∈ S.store.snapshot.devices.vals, env.validSpki device.publicKeySpki = true
  gone : ∀ deviceId ∈ S.revoked, S.store.revoked deviceId = true
  known : ∀ p ∈ S.paired, ∃ record ∈ S.store.snapshot.pairings, record.digest = env.sha256 p.1.secret
  vouched : ∀ b ∈ S.issued, Vouched env S b

/-- the durable snapshot opens to what is in memory -/
theorem Sound.openBackend (h : Sound env S) : SecurityStore.openBackend env S.store.durable = .ok S.store := by
  rw [SecurityStore.openBackend, seq_eq_ok, pure_eq_ok, checkAll_eq_ok]
  refine ⟨fun device hdevice => ?_, congrArg (SecurityStore.mk S.store.durable) h.durable⟩
  rw [h.durable] at hdevice
  exact ensure_eq_ok.mpr (h.keys device hdevice)

/-- a secret is issued -/
theorem Sound.issue (h : Sound env S) (hplan : S.store.issuePlan env input secret = .ok (bootstrap, next)) :
    Sound env { S with store := ⟨next, next⟩, issued := bootstrap :: S.issued } := by
  obtain ⟨rfl, hfresh, rfl⟩ := SecurityStore.issuePlan_eq_ok hplan
  have hunused : ∀ p ∈ S.paired, env.sha256 p.1.secret ≠ env.sha256 bootstrap.secret := by
    intro p hp heq
    obtain ⟨record, hmem, hdigest⟩ := h.known p hp
    exact hfresh record hmem (hdigest.trans heq)
  refine ⟨rfl, h.keys, h.gone, ?_, ?_⟩
  · intro p hp
    obtain ⟨record, hmem, hdigest⟩ := h.known p hp
    exact ⟨record, List.mem_append_left _ hmem, hdigest⟩
  · intro b hb
    rcases List.mem_cons.mp hb with rfl | hb
    · -- the new record is the last one, and no pairing has used its digest
      refine ⟨⟨S.store.snapshot.pairings.length, ⟨env.sha256 b.secret, b.expiresAtMs, none⟩, List.getElem?_concat_length,
        rfl, rfl, ?_, ?_⟩, ?_⟩
      · intro other record' hother hdigest
        rcases getElem?_snoc hother with hold | ⟨heq, -⟩
        · exact absurd hdigest (hfresh record' (List.mem_of_getElem? hold))
        · exact heq
      · rw [List.countP_eq_zero.mpr]
        · exact Nat.zero_le _
        · intro p hp
          simpa using hunused p hp
      · intro p hp heq
        exact absurd heq (hunused p hp)
    · obtain ⟨⟨index, record, hrecord, hdigest, hexpires, honly, hcount⟩, htime⟩ := h.vouched b hb
      refine ⟨⟨index, record, ?_, hdigest, hexpires, ?_, hcount⟩, htime⟩
      · rw [List.getElem?_append_left (List.getElem?_eq_some_iff.mp hrecord).1]
        exact hrecord
      · intro other record' hother hsame
        rcases getElem?_snoc hother with hold | ⟨-, rfl⟩
        · exact honly other record' hold hsame
        · exact absurd (hdigest.trans hsame.symm) (hfresh record (List.mem_of_getElem? hrecord))

/-- a device is paired -/
theorem Sound.pair (h : Sound env S) (hplan : S.store.pairPlan env request nowMs draws = .ok (device, next)) :
    Sound env { S with store := ⟨next, next⟩, paired := (request, nowMs) :: S.paired } := by
  obtain ⟨used, spent, hspent, hdigest, hopen, htime, hnew, hspki, rfl⟩ := SecurityStore.pairPlan_eq_ok hplan
  have hkeep : ∀ record ∈ S.store.snapshot.pairings,
      ∃ record' ∈ S.store.snapshot.pairings.modify used fun r => { r with consumedAtMs := some nowMs },
        record'.digest = record.digest := by
    intro record hmem
    obtain ⟨index, hindex⟩ := List.mem_iff_getElem?.mp hmem
    refine ⟨if used = index then { record with consumedAtMs := some nowMs } else record,
      List.mem_iff_getElem?.mpr ⟨index, ?_⟩, by split_ifs <;> rfl⟩
    rw [List.getElem?_modify, hindex]
    rfl
  refine ⟨rfl, ?_, ?_, ?_, ?_⟩
  · intro other hother
    rcases OrdMap.mem_vals_insert hother with rfl | hother
    · exact hspki
    · exact h.keys other hother
  · intro deviceId hgone
    have hrevoked := h.gone deviceId hgone
    have hne : device.deviceId ≠ deviceId := by
      rintro rfl
      rw [SecurityStore.revoked, hnew] at hrevoked
      cases hrevoked
    rw [SecurityStore.revoked] at hrevoked ⊢
    rw [OrdMap.get_insert, if_neg hne]
    exact hrevoked
  · refine List.forall_mem_cons.mpr ⟨?_, fun p hp => ?_⟩
    · obtain ⟨record', hmem, heq⟩ := hkeep spent (List.mem_of_getElem? hspent)
      exact ⟨record', hmem, heq.trans hdigest⟩
    · obtain ⟨record, hmem, hrecord⟩ := h.known p hp
      obtain ⟨record', hmem', heq⟩ := hkeep record hmem
      exact ⟨record', hmem', heq.trans hrecord⟩
  · intro b hb
    obtain ⟨⟨index, record, hrecord, hsame, hexpires, honly, hcount⟩, hearlier⟩ := h.vouched b hb
    have honly' : ∀ (other : Nat) (record' : PairingRecord),
        (S.store.snapshot.pairings.modify used fun r => { r with consumedAtMs := some nowMs })[other]? = some record' →
        record'.digest = env.sha256 b.secret → other = index := by
      intro other record' hother hdig
      rw [List.getElem?_modify] at hother
      obtain ⟨old, hold, rfl⟩ := Option.map_eq_some_iff.mp hother
      refine honly other old hold ?_
      split_ifs at hdig <;> exact hdig
    by_cases hthis : env.sha256 request.secret = env.sha256 b.secret
    · -- the record of the secret is the one that is marked now
      obtain rfl : used = index := honly used spent hspent (hdigest.trans hthis)
      obtain rfl : spent = record := Option.some.inj (hspent.symm.trans hrecord)
      refine ⟨⟨used, { spent with consumedAtMs := some nowMs }, ?_, hsame, hexpires, honly', ?_⟩,
        List.forall_mem_cons.mpr ⟨fun _ => hexpires ▸ htime, hearlier⟩⟩
      · simp [hspent]
      · rw [hopen] at hcount
        rw [List.countP_cons_of_pos (by simpa using hthis)]
        exact Nat.succ_le_succ hcount
    · have hne : used ≠ index := by
        rintro rfl
        obtain rfl : spent = record := Option.some.inj (hspent.symm.trans hrecord)
        exact hthis (hdigest.symm.trans hsame)
      refine ⟨⟨index, record, ?_, hsame, hexpires, honly', ?_⟩,
        List.forall_mem_cons.mpr ⟨fun heq => absurd heq hthis, hearlier⟩⟩
      · simp [hrecord, hne]
      · rw [List.countP_cons_of_neg (by simpa using hthis)]
        exact hcount

/-- a device is revoked -/
theorem Sound.revoke (h : Sound env S) {deviceId : DeviceId} {current : DeviceRecord} {atMs : Int} {next : RegistrySnapshot}
    (hcurrent : S.store.snapshot.devices[deviceId]? = some current)
    (hnext : next = { S.store.snapshot with
      devices := S.store.snapshot.devices.insert deviceId { current with revokedAtMs := some atMs } }) :
    Sound env { S with store := ⟨next, next⟩, revoked := deviceId :: S.revoked } := by
  subst hnext
  refine ⟨rfl, ?_, ?_, h.known, ?_⟩
  · intro other hother
    rcases OrdMap.mem_vals_insert hother with rfl | hother
    · exact h.keys current (OrdMap.mem_vals_of_get hcurrent)
    · exact h.keys other hother
  · intro other hgone
    rw [SecurityStore.revoked, OrdMap.get_insert]
    by_cases heq : deviceId = other
    · rw [if_pos heq]
      rfl
    · rw [if_neg heq]
      rcases List.mem_cons.mp hgone with rfl | hgone
      · exact absurd rfl heq
      · exact h.gone other hgone
  · intro b hb
    obtain ⟨hrecord, htime⟩ := h.vouched b hb
    exact ⟨hrecord, htime⟩

/-- every operation keeps what holds -/
theorem Sound.step (h : Sound env S) (op : PairingOp) : Sound env (S.step env op) := by
  unfold Ledger.step
  cases op with
  | issue input secret fails =>
    rcases SecurityStore.carryOut_cases S.store (S.store.issuePlan env input secret) fails with
      ⟨e, hr⟩ | ⟨bootstrap, next, hplan, hr⟩
    · simp only [perform, SecurityStore.issuePairing, hr]
      exact h
    · simp only [perform, SecurityStore.issuePairing, hr]
      exact h.issue hplan
  | pair request nowMs draws fails =>
    rcases SecurityStore.carryOut_cases S.store (S.store.pairPlan env request nowMs draws) fails with
      ⟨e, hr⟩ | ⟨device, next, hplan, hr⟩
    · simp only [perform, SecurityStore.pairDevice, hr]
      exact h
    · simp only [perform, SecurityStore.pairDevice, hr]
      exact h.pair hplan
  | revoke deviceId atMs fails =>
    rcases SecurityStore.revokeAndThen_cases S.store deviceId atMs fails with ⟨e, hr⟩ | ⟨current, hcurrent, hr⟩
    · simp only [perform, hr]
      exact h
    · simp only [perform, hr]
      exact h.revoke hcurrent rfl
  | reopen =>
    simp only [perform, h.openBackend]
    exact h

/-- a store that was just opened -/
theorem sound_open {durable : RegistrySnapshot} {store : SecurityStore}
    (h : SecurityStore.openBackend env durable = .ok store) : Sound env ⟨store, [], [], []⟩ := by
  rw [SecurityStore.openBackend, seq_eq_ok, pure_eq_ok, checkAll_eq_ok] at h
  obtain ⟨hkeys, rfl⟩ := h
  refine ⟨rfl, ?_, by simp, by simp, by simp⟩
  intro device hdevice
  exact ensure_eq_ok.mp (hkeys device hdevice)

/-- **A secret pairs one device.** Whatever commits fail and however often the store is opened again, a secret that was issued
has paired at most one device, before it expired; a device that was revoked is not authenticated; an operation that fails
leaves the snapshot; and the durable snapshot opens to the store as it is in memory. -/
theorem pairing_once {env : PairingEnv} {durable : RegistrySnapshot} {store : SecurityStore}
    (hopen : SecurityStore.openBackend env durable = .ok store) (ops : List PairingOp) :
    let S := runFrom (Ledger.step env) ⟨store, [], [], []⟩ ops
    (∀ b ∈ S.issued, S.paired.countP (fun p => p.1.secret = b.secret) ≤ 1 ∧
      ∀ p ∈ S.paired, p.1.secret = b.secret → p.2 < b.expiresAtMs) ∧
    (∀ deviceId ∈ S.revoked, S.store.deviceForAuth deviceId = .error .authenticationFailed) ∧
    (∀ op e, (S.perform env op).1 = .error e → (S.perform env op).2.store.snapshot = S.store.snapshot) ∧
    SecurityStore.openBackend env S.store.durable = .ok S.store := by
  intro S
  have hsound : Sound env S := run_inv (fun _ op h _ => h.step op) (sound_open hopen) (along_of_forall fun _ _ _ => trivial)
  refine ⟨?_, ?_, ?_, hsound.openBackend⟩
  · intro b hb
    obtain ⟨⟨index, record, -, -, -, -, hcount⟩, htime⟩ := hsound.vouched b hb
    constructor
    · calc S.paired.countP (fun p => p.1.secret = b.secret)
          ≤ S.paired.countP (fun p => env.sha256 p.1.secret = env.sha256 b.secret) :=
            List.countP_mono_left (by
              intro p _ hsame
              rw [decide_eq_true_eq] at hsame ⊢
              rw [hsame])
        _ ≤ if record.consumedAtMs.isSome then 1 else 0 := hcount
        _ ≤ 1 := by split_ifs <;> omega
    · intro p hp hsame
      exact htime p hp (by rw [hsame])
  · intro deviceId hgone
    exact SecurityStore.deviceForAuth_revoked (hsound.gone deviceId hgone)
  · intro op e herror
    rw [perform_error ⟨_, hsound.openBackend⟩ herror]

/-- a stand-in for the cryptography -/
def plainEnv : PairingEnv where
  sha256 := id
  validSpki := fun _ => true
  validateEndpoint := fun _ => .ok ()
  parsePin := fun _ => .ok ()

def sampleSecret : List UInt8 := List.replicate 32 7

def samplePair (atMs : Int) (deviceId : DeviceId) (fails : Bool) : PairingOp :=
  .pair ⟨1, sampleSecret, [], "phone"⟩ atMs [deviceId] fails

/-- a secret whose first pairing is not committed, the pairing, a restart, the same secret again, and the revocation -/
def samplePairingOps : List PairingOp :=
  [.issue ⟨⟨"host"⟩, "", "", 0⟩ sampleSecret false, samplePair 1 ⟨"a"⟩ true, samplePair 2 ⟨"b"⟩ false, .reopen,
    samplePair 3 ⟨"c"⟩ false, .revoke ⟨"b"⟩ 4 false]

def samplePairing : Ledger := runFrom (Ledger.step plainEnv) ⟨⟨⟨[], ∅⟩, ⟨[], ∅⟩⟩, [], [], []⟩ samplePairingOps

theorem pairing_once_sample : samplePairing.issued.length = 1 ∧ samplePairing.paired.length = 1 ∧
    samplePairing.revoked = [⟨"b"⟩] ∧ samplePairing.store.deviceForAuth ⟨"b"⟩ = .error .authenticationFailed := by
  have hopen : SecurityStore.openBackend plainEnv ⟨[], ∅⟩ = .ok ⟨⟨[], ∅⟩, ⟨[], ∅⟩⟩ := rfl
  obtain ⟨-, hrevoked, -, -⟩ := pairing_once hopen samplePairingOps
  have hgone : samplePairing.revoked = [⟨"b"⟩] := by decide +kernel
  have hmem : (⟨"b"⟩ : DeviceId) ∈ samplePairing.revoked := by
    rw [hgone]
    exact List.mem_singleton_self _
  exact ⟨by decide +kernel, by decide +kernel, hgone, hrevoked ⟨"b"⟩ hmem⟩

end Ledger

end Kaleido.Transport
