/-
The limits on connections (`kaleido-transport`, `limits.rs`, `ConnectionLimiter`).

The limiter counts its live entries by what they are: those without a device, those of an address and those of a device.
`count_insert_le`, `count_replace_le` and `count_erase_le` say how a call changes a count, `wp_run` that it keeps the limits or
fails and changes nothing. `connection_limits_hold` is the result.
-/
import Kaleido.Lib.Prog
import Kaleido.Lib.Run
import Kaleido.Transport.Control

namespace Kaleido.Transport

open Prog Proto

def maxGlobalConnections : Nat := 64
def maxPreAuthConnections : Nat := 16
def maxConnectionsPerSourceIp : Nat := 4
def maxConnectionsPerDevice : Nat := 2

/-- `LimitEntry`; an address is a number -/
structure LimitEntry where
  sourceIp : Nat
  deviceId : Option DeviceId
  deriving DecidableEq

/-- `ConnectionLimiter` -/
structure ConnectionLimiter where
  entries : OrdMap String LimitEntry := ∅

abbrev LimiterM := Prog ConnectionLimiter TransportError

namespace ConnectionLimiter

/-- the live entries that meet a condition -/
def count (l : ConnectionLimiter) (p : LimitEntry → Bool) : Nat := l.entries.vals.countP p

def accept (key : String) (sourceIp : Nat) : LimiterM Unit := do
  let l ← Prog.read id
  require (key ≠ "" ∧ ¬ l.entries.contains key) .malformedFrame
  require (l.entries.size < maxGlobalConnections) .tooManyConnections
  require (l.count (fun entry => entry.deviceId.isNone) < maxPreAuthConnections) .tooManyConnections
  require (l.count (fun entry => entry.sourceIp = sourceIp) < maxConnectionsPerSourceIp) .tooManyConnections
  Prog.modify fun l => ⟨l.entries.insert key ⟨sourceIp, none⟩⟩

def authenticate (key : String) (deviceId : DeviceId) : LimiterM Unit := do
  require (¬ deviceId.isEmpty) .authenticationFailed
  let l ← Prog.read id
  require (l.count (fun entry => entry.deviceId = some deviceId) < maxConnectionsPerDevice) .tooManyConnections
  match l.entries[key]? with
  | none => Prog.fail .malformedFrame
  | some entry => do
    require entry.deviceId.isNone .malformedFrame
    Prog.modify fun l => ⟨l.entries.insert key { entry with deviceId := some deviceId }⟩

def close (key : String) : LimiterM Unit := do
  let l ← Prog.read id
  Prog.modify fun l => ⟨l.entries.erase key⟩
  require (l.entries.contains key) .malformedFrame

/-- `connections_for_device` -/
def connectionsForDevice (l : ConnectionLimiter) (deviceId : DeviceId) : List String :=
  (l.entries.toList.filter fun entry => entry.2.deviceId = some deviceId).map Prod.fst

end ConnectionLimiter

inductive LimiterCall where
  | accept (key : String) (sourceIp : Nat)
  | authenticate (key : String) (deviceId : DeviceId)
  | close (key : String)

def LimiterCall.run : LimiterCall → LimiterM Unit
  | .accept key sourceIp => ConnectionLimiter.accept key sourceIp
  | .authenticate key deviceId => ConnectionLimiter.authenticate key deviceId
  | .close key => ConnectionLimiter.close key

namespace ConnectionLimiter

variable {l : ConnectionLimiter} {key : String} {entry : LimitEntry} {p : LimitEntry → Bool}

theorem erase_absent (h : ¬ l.entries.contains key) : l.entries.erase key = l.entries := by
  refine OrdMap.ext_get fun a => ?_
  rw [OrdMap.get_erase]
  split_ifs with heq
  · subst heq
    exact (Option.eq_none_iff_forall_ne_some.2 fun entry hentry => h (OrdMap.contains_iff.2 ⟨entry, hentry⟩)).symm
  · rfl

theorem count_insert (key : String) (new : LimitEntry) :
    count ⟨l.entries.insert key new⟩ p = count ⟨l.entries.erase key⟩ p + if p new then 1 else 0 :=
  ((OrdMap.perm_vals_insert l.entries key new).countP_eq p).trans List.countP_cons

/-- an entry counts for itself -/
theorem count_erase (h : l.entries[key]? = some entry) :
    l.count p = count ⟨l.entries.erase key⟩ p + if p entry then 1 else 0 := by
  rw [← count_insert, OrdMap.insert_of_get h]

theorem count_erase_le (key : String) : count ⟨l.entries.erase key⟩ p ≤ l.count p := by
  by_cases hkey : l.entries.contains key
  · obtain ⟨entry, hentry⟩ := OrdMap.contains_iff.1 hkey
    rw [count_erase hentry]
    exact Nat.le_add_right _ _
  · rw [erase_absent hkey]

/-- a new entry raises the counts of what it is -/
theorem count_insert_le (key : String) (new : LimitEntry) :
    count ⟨l.entries.insert key new⟩ p ≤ l.count p + if p new then 1 else 0 := by
  rw [count_insert]
  exact Nat.add_le_add_right (count_erase_le key) _

/-- an entry in another's place raises no count of what the other was -/
theorem count_replace_le {new : LimitEntry} (h : l.entries[key]? = some entry) (hp : p new → p entry) :
    count ⟨l.entries.insert key new⟩ p ≤ l.count p := by
  rw [count_insert, count_erase h]
  split_ifs with hnew hentry
  · exact le_rfl
  · exact absurd (hp hnew) hentry
  · exact Nat.le_succ _
  · exact le_rfl

/-- the limits -/
structure Within (l : ConnectionLimiter) : Prop where
  total : l.entries.size ≤ maxGlobalConnections
  preAuth : l.count (fun entry => entry.deviceId.isNone) ≤ maxPreAuthConnections
  source : ∀ sourceIp, l.count (fun entry => entry.sourceIp = sourceIp) ≤ maxConnectionsPerSourceIp
  device : ∀ deviceId, l.count (fun entry => entry.deviceId = some deviceId) ≤ maxConnectionsPerDevice

theorem Within.accepted (h : Within l) {sourceIp : Nat} (htotal : l.entries.size < maxGlobalConnections)
    (hpreAuth : l.count (fun entry => entry.deviceId.isNone) < maxPreAuthConnections)
    (hsource : l.count (fun entry => entry.sourceIp = sourceIp) < maxConnectionsPerSourceIp) :
    Within ⟨l.entries.insert key ⟨sourceIp, none⟩⟩ where
  total := Std.ExtTreeMap.size_insert_le.trans htotal
  preAuth := (count_insert_le key _).trans hpreAuth
  source ip := by
    refine (count_insert_le key _).trans ?_
    split_ifs with heq
    · exact of_decide_eq_true heq ▸ hsource
    · exact h.source ip
  device d := (count_insert_le key _).trans (h.device d)

/-- an entry that moves to a device leaves the others without one, and stays with its address -/
theorem Within.authenticated (h : Within l) {deviceId : DeviceId} (hentry : l.entries[key]? = some entry)
    (hnone : entry.deviceId.isNone)
    (hdevice : l.count (fun entry => entry.deviceId = some deviceId) < maxConnectionsPerDevice) :
    Within ⟨l.entries.insert key { entry with deviceId := some deviceId }⟩ where
  total := by
    rw [Std.ExtTreeMap.size_insert, if_pos (OrdMap.contains_iff.2 ⟨entry, hentry⟩)]
    exact h.total
  preAuth := (count_replace_le hentry fun _ => hnone).trans h.preAuth
  source ip := (count_replace_le hentry fun hip : decide (entry.sourceIp = ip) => hip).trans (h.source ip)
  device d := by
    refine (count_insert_le key _).trans ?_
    split_ifs with heq
    · exact Option.some.inj (of_decide_eq_true heq) ▸ hdevice
    · exact h.device d

theorem Within.closed (h : Within l) (key : String) : Within ⟨l.entries.erase key⟩ where
  total := Std.ExtTreeMap.size_erase_le.trans h.total
  preAuth := (count_erase_le key).trans h.preAuth
  source ip := (count_erase_le key).trans (h.source ip)
  device d := (count_erase_le key).trans (h.device d)

theorem wp_run (call : LimiterCall) (l : ConnectionLimiter) :
    wp (fun _ => ([] : List Unit)) (fun _ => True) (fun _ l' => Within l → Within l') (fun _ l' => l' = l) call.run l := by
  cases call with
  | accept key sourceIp =>
    refine wp_bind (wp_read (wp_bind (wp_require (fun _ => ?_) fun _ => rfl)))
    refine wp_bind (wp_require (fun htotal => ?_) fun _ => rfl)
    refine wp_bind (wp_require (fun hpreAuth => ?_) fun _ => rfl)
    exact wp_bind (wp_require (fun hsource => wp_modify rfl fun h => h.accepted htotal hpreAuth hsource) fun _ => rfl)
  | authenticate key deviceId =>
    refine wp_bind (wp_require (fun _ => wp_bind (wp_read (wp_bind (wp_require (fun hdevice => ?_) fun _ => rfl)))) fun _ => rfl)
    rcases hentry : l.entries[key]? with _ | entry
    · simp only [id, hentry]
      exact wp_fail rfl
    · simp only [id, hentry]
      exact wp_bind (wp_require (fun hnone => wp_modify rfl fun h => h.authenticated hentry hnone hdevice) fun _ => rfl)
  | close key =>
    refine wp_bind (wp_read (wp_bind (wp_modify rfl (wp_require (fun _ h => h.closed key) fun hkey => ?_))))
    exact congrArg ConnectionLimiter.mk (erase_absent hkey)

theorem mem_connectionsForDevice {deviceId : DeviceId} :
    key ∈ l.connectionsForDevice deviceId ↔ ∃ sourceIp, l.entries[key]? = some ⟨sourceIp, some deviceId⟩ := by
  simp only [connectionsForDevice, List.mem_map, List.mem_filter, Std.ExtTreeMap.mem_toList_iff_getElem?_eq_some, Prod.exists,
    decide_eq_true_eq]
  constructor
  · rintro ⟨_, ⟨sourceIp, _⟩, ⟨hentry, rfl⟩, rfl⟩
    exact ⟨sourceIp, hentry⟩
  · rintro ⟨sourceIp, hentry⟩
    exact ⟨key, _, ⟨hentry, rfl⟩, rfl⟩

end ConnectionLimiter

open ConnectionLimiter

/-- **The limits hold at all times.** After every sequence of calls the live entries are within the four limits; a call that
fails changes nothing, from any state; and a device's connections are its live entries, each once. -/
theorem connection_limits_hold :
    (∀ calls : List LimiterCall, Within (runFrom (fun l call => (call.run l).2) {} calls)) ∧
      (∀ (call : LimiterCall) (l l' : ConnectionLimiter) (e : TransportError), call.run l = (.error e, l') → l' = l) ∧
      ∀ (l : ConnectionLimiter) (deviceId : DeviceId), (l.connectionsForDevice deviceId).Nodup ∧
        ∀ key, key ∈ l.connectionsForDevice deviceId ↔ ∃ sourceIp, l.entries[key]? = some ⟨sourceIp, some deviceId⟩ := by
  refine ⟨fun calls => ?_, fun call l l' e hrun => ?_, fun l deviceId => ⟨?_, fun key => mem_connectionsForDevice⟩⟩
  · refine run_inv_all (I := Within) (fun l call hl => wp_final (wp_post (wp_run call l) ?_ ?_)) ?_ calls
    · exact fun _ _ hkeeps => hkeeps hl
    · exact fun _ _ hsame => hsame ▸ hl
    · constructor <;> simp [count]
  · have hpost := (wp_run call l).2.2
    rw [hrun] at hpost
    exact hpost
  · exact (List.filter_sublist.map Prod.fst).nodup (OrdMap.nodup_keys_toList l.entries)

end Kaleido.Transport
