/-
The registry of paired devices (`kaleido-transport`, `registry.rs`): its records, authentication and revocation. Pairing is
in `Transport/Pairing`.

The store keeps a snapshot in memory and replaces a file for every change; the snapshot follows when the replacement has
succeeded. A revoked device stays revoked (`revokeAndThen_revoked`), and a revocation looks at and changes no other device
(`revokeAndThen_agreesBut`).
-/
import Kaleido.Transport.Control

namespace Kaleido.Transport

open Check Proto

/-- `DeviceRecord` -/
structure DeviceRecord where
  deviceId : DeviceId
  publicKeySpki : List UInt8
  deviceLabel : String
  createdAtMs : Int
  revokedAtMs : Option Int
  deriving DecidableEq

def DeviceRecord.isRevoked (d : DeviceRecord) : Bool := d.revokedAtMs.isSome

/-- `PairingRecord` -/
structure PairingRecord where
  digest : List UInt8
  expiresAtMs : Int
  consumedAtMs : Option Int
  deriving DecidableEq

/-- `RegistrySnapshot` -/
structure RegistrySnapshot where
  pairings : List PairingRecord := []
  devices : OrdMap DeviceId DeviceRecord := ∅

/-- what a commit to `AtomicFileBackend` does: the new file takes the old one's place before its directory is synced, and
either may fail -/
inductive CommitResult where
  | committed | replacedOnly | failed
  deriving DecidableEq

/-- `SecurityStore`, with the snapshot the file holds -/
structure SecurityStore where
  durable : RegistrySnapshot := {}
  snapshot : RegistrySnapshot := {}

namespace SecurityStore

/-- `device_for_auth` -/
def deviceForAuth (r : SecurityStore) (deviceId : DeviceId) : Except TransportError DeviceRecord :=
  match r.snapshot.devices[deviceId]? with
  | none => .error .authenticationFailed
  | some device => if device.isRevoked then .error .authenticationFailed else .ok device

/-- `backend.commit`, and the snapshot after it -/
def commit (r : SecurityStore) (next : RegistrySnapshot) : CommitResult → Except TransportError Unit × SecurityStore
  | .committed => (.ok (), ⟨next, next⟩)
  | .replacedOnly => (.error .persistence, { r with durable := next })
  | .failed => (.error .persistence, r)

/-- `revoke_and_then`, up to the callback -/
def revokeAndThen (r : SecurityStore) (deviceId : DeviceId) (revokedAtMs : Int) (result : CommitResult) :
    Except TransportError Unit × SecurityStore :=
  match r.snapshot.devices[deviceId]? with
  | none => (.error .authenticationFailed, r)
  | some current =>
    if current.isRevoked then (.error .deviceRevoked, r)
    else
      let device := { current with revokedAtMs := some revokedAtMs }
      r.commit { r.snapshot with devices := r.snapshot.devices.insert deviceId device } result

/-- the registry knows the device as revoked -/
def revoked (r : SecurityStore) (deviceId : DeviceId) : Bool := r.snapshot.devices[deviceId]?.any (·.isRevoked)

/-- two registries know the same of every other device -/
def AgreesBut (deviceId : DeviceId) (r r' : SecurityStore) : Prop :=
  ∀ other, other ≠ deviceId → r.snapshot.devices[other]? = r'.snapshot.devices[other]?

variable {r r' : SecurityStore} {deviceId other : DeviceId} {revokedAtMs : Int} {result : CommitResult}

/-- a revoked device is not authenticated -/
theorem deviceForAuth_revoked (h : r.revoked deviceId = true) :
    r.deviceForAuth deviceId = .error .authenticationFailed := by
  unfold revoked at h
  unfold deviceForAuth
  cases hdevice : r.snapshot.devices[deviceId]? with
  | none => simp [hdevice] at h
  | some device =>
    rw [hdevice] at h
    exact if_pos h

theorem AgreesBut.deviceForAuth (h : AgreesBut deviceId r r') (hne : other ≠ deviceId) :
    r.deviceForAuth other = r'.deviceForAuth other := by
  unfold SecurityStore.deviceForAuth
  rw [h other hne]

/-- what a revocation may do to the snapshot: nothing, or mark the device -/
theorem revokeAndThen_snapshot (r : SecurityStore) (deviceId : DeviceId) (revokedAtMs : Int) (result : CommitResult) :
    (r.revokeAndThen deviceId revokedAtMs result).2.snapshot = r.snapshot ∨
    ∃ device, device.isRevoked = true ∧
      (r.revokeAndThen deviceId revokedAtMs result).2.snapshot =
        { r.snapshot with devices := r.snapshot.devices.insert deviceId device } := by
  unfold revokeAndThen
  split
  · exact .inl rfl
  · rename_i current _
    split
    · exact .inl rfl
    · cases result with
      | committed => exact .inr ⟨{ current with revokedAtMs := some revokedAtMs }, rfl, rfl⟩
      | replacedOnly | failed => exact .inl rfl

/-- a commit that fails leaves the snapshot -/
theorem revokeAndThen_snapshot_failed (h : result ≠ .committed) :
    (r.revokeAndThen deviceId revokedAtMs result).2.snapshot = r.snapshot := by
  unfold revokeAndThen
  split
  · rfl
  · split
    · rfl
    · cases result with
      | committed => exact absurd rfl h
      | replacedOnly | failed => rfl

/-- a revoked device stays revoked -/
theorem revokeAndThen_revoked (h : r.revoked other = true) :
    (r.revokeAndThen deviceId revokedAtMs result).2.revoked other = true := by
  unfold revoked at h ⊢
  rcases revokeAndThen_snapshot r deviceId revokedAtMs result with
    hs | ⟨device, hdevice, hs⟩
  · rw [hs]
    exact h
  · rw [hs, OrdMap.get_insert]
    split
    · simpa using hdevice
    · exact h

/-- a revocation changes nothing about another device -/
theorem revokeAndThen_agreesBut : AgreesBut deviceId r (r.revokeAndThen deviceId revokedAtMs result).2 := by
  intro other hne
  rcases revokeAndThen_snapshot r deviceId revokedAtMs result with
    hs | ⟨device, -, hs⟩
  · rw [hs]
  · rw [hs, OrdMap.get_insert, if_neg (Ne.symm hne)]

/-- the answer to a revocation, and what it does to the registry, depend on the device alone -/
theorem AgreesBut.revokeAndThen (h : AgreesBut deviceId r r') (hne : other ≠ deviceId) (revokedAtMs : Int)
    (result : CommitResult) :
    (r.revokeAndThen other revokedAtMs result).1 = (r'.revokeAndThen other revokedAtMs result).1 ∧
    AgreesBut deviceId (r.revokeAndThen other revokedAtMs result).2 (r'.revokeAndThen other revokedAtMs result).2 := by
  unfold SecurityStore.revokeAndThen
  rw [← h other hne]
  split
  · exact ⟨rfl, h⟩
  · split
    · exact ⟨rfl, h⟩
    · cases result with
      | committed =>
        refine ⟨rfl, ?_⟩
        intro third hthird
        simp only [commit, OrdMap.get_insert]
        rw [h third hthird]
      | replacedOnly | failed => exact ⟨rfl, h⟩

end SecurityStore

end Kaleido.Transport
