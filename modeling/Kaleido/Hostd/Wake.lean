/-
How often the host wakes a device (`kaleido-hostd`, `remote_control.rs`, `wake_device`).

An attempt is put on the device's history before its frame is sent, so what was sent is among the attempts (`Paced`). The
history is never longer than the limit, so that a refused attempt takes nothing off it. Every other operation leaves the
histories alone and takes no status back (`Follows`).
-/
import Kaleido.Lib.Window
import Kaleido.Hostd.RemoteDurability

namespace Kaleido.Hostd

open Check Transport Prog Window

variable {env : AddressEnv} {plane : RemoteControlPlane} {deviceId : String} {issuedAtMs : Int64}
  {operation wakeId : Vector UInt8 16}

/-- the wake frame that an operation passes to its connection, with the device it is for -/
def PlaneOperation.wakes (plane : RemoteControlPlane) : PlaneOperation → List (String × RemoteControlFrame)
  | .wake connection deviceId issuedAtMs operation wakeId =>
    match (beginWake deviceId issuedAtMs operation wakeId plane).1, connection.nextRequestId with
    | .ok request, .ok requestId => [(deviceId, request requestId)]
    | _, _ => []
  | _ => []

/-- a plane and the wake frames it has sent -/
structure WakeRun where
  plane : RemoteControlPlane
  sent : List (String × RemoteControlFrame) := []

def WakeRun.step (env : AddressEnv) (run : WakeRun) (operation : PlaneOperation) : WakeRun :=
  ⟨(operation.run env run.plane).2, run.sent ++ operation.wakes run.plane⟩

/-- when the frame was issued, if it wakes the device -/
def wakeTime (deviceId : String) : String × RemoteControlFrame → Option Int
  | (device, .wakeDevice _ _ issuedAtMs ..) => if device = deviceId then some issuedAtMs else none
  | _ => none

def WakeRun.times (run : WakeRun) (deviceId : String) : List Int := run.sent.filterMap (wakeTime deviceId)

/-! ## Attempts -/

def RemoteControlPlane.history (plane : RemoteControlPlane) (deviceId : String) : List Int :=
  (plane.wakeHistory[deviceId]?.getD []).map Int64.toInt

/-- no history is longer than the limit -/
def RemoteControlPlane.Short (plane : RemoteControlPlane) : Prop :=
  ∀ deviceId, (plane.history deviceId).length ≤ maxWakeRequestsPerMinute

/-- what an attempt leaves of a history -/
def kept (issuedAtMs : Int64) (history : List Int) : List Int := history.filter fun seenAt => issuedAtMs.toInt - seenAt < wakeWindowMs

/-- the device is registered, its history is not ahead of the clock and has room, and one more instant is put on it -/
structure Attempted (deviceId : String) (issuedAtMs : Int64) (plane plane' : RemoteControlPlane) : Prop where
  registered : ∃ record, plane.state.devices[deviceId]? = some record ∧ record.status = .registered
  clock : ∀ seenAt ∈ plane.history deviceId, seenAt ≤ issuedAtMs.toInt
  room : (kept issuedAtMs (plane.history deviceId)).length < maxWakeRequestsPerMinute
  history : plane'.history = Function.update plane.history deviceId
    (kept issuedAtMs (plane.history deviceId) ++ [issuedAtMs.toInt])

/-- an attempt is refused, or it is made -/
inductive Attempt (plane : RemoteControlPlane) (deviceId : String) (issuedAtMs : Int64) :
    Except RemoteControlError (Nat → RemoteControlFrame) × RemoteControlPlane → Prop where
  | refused (e : RemoteControlError) (plane' : RemoteControlPlane) (state : plane'.state = plane.state)
      (history : plane'.history = plane.history) : Attempt plane deviceId issuedAtMs (.error e, plane')
  | made (request : Nat → RemoteControlFrame) (plane' : RemoteControlPlane) (state : plane'.state = plane.state)
      (attempted : Attempted deviceId issuedAtMs plane plane')
      (time : ∀ requestId other, wakeTime other (deviceId, request requestId) =
        if deviceId = other then some issuedAtMs.toInt else none) : Attempt plane deviceId issuedAtMs (.ok request, plane')

/-- the plane with another history of a device -/
def RemoteControlPlane.note (plane : RemoteControlPlane) (deviceId : String) (history : List Int64) : RemoteControlPlane :=
  { plane with wakeHistory := plane.wakeHistory.insert deviceId history }

theorem history_note (history : List Int64) :
    (plane.note deviceId history).history = Function.update plane.history deviceId (history.map Int64.toInt) := by
  funext other
  simp only [RemoteControlPlane.history, RemoteControlPlane.note, OrdMap.get_insert, Function.update_apply, eq_comm (a := other)]
  split_ifs <;> rfl

/-- a full history has nothing to prune -/
theorem RemoteControlPlane.Short.kept_eq (h : plane.Short)
    (hfull : maxWakeRequestsPerMinute ≤ (kept issuedAtMs (plane.history deviceId)).length) :
    kept issuedAtMs (plane.history deviceId) = plane.history deviceId :=
  List.filter_sublist.eq_of_length_le ((h deviceId).trans hfull)

theorem beginWake_attempt (hshort : plane.Short) :
    Attempt plane deviceId issuedAtMs (beginWake deviceId issuedAtMs operation wakeId plane) := by
  unfold beginWake
  by_cases hissued : 0 ≤ issuedAtMs.toInt
  swap
  · simpa [bind, require, hissued, fail] using Attempt.refused _ plane rfl rfl
  rcases hrecord : deviceRecord deviceId plane.state with e | record
  · simpa [bind, require, pure, hissued, lookedUp, hrecord] using Attempt.refused _ plane rfl rfl
  by_cases hstatus : record.status = .registered
  swap
  · simpa [bind, require, pure, hissued, lookedUp, hrecord, hstatus, fail] using Attempt.refused _ plane rfl rfl
  have hmap : plane.history deviceId = (plane.wakeHistory[deviceId]?.getD []).map Int64.toInt := rfl
  generalize hhistory : plane.wakeHistory[deviceId]?.getD [] = history at hmap
  have hkept : (history.filter fun seenAt => issuedAtMs.toInt - seenAt.toInt < wakeWindowMs).map Int64.toInt =
      kept issuedAtMs (plane.history deviceId) := by
    rw [hmap, kept, List.filter_map]
    rfl
  -- the three ends of an attempt differ in the history they leave
  rcases hclock : history.any fun seenAt => issuedAtMs.toInt < seenAt.toInt
  swap
  · simp only [bind, require, pure, hissued, lookedUp, hrecord, hstatus, Prog.read, Prog.modify, hhistory, hclock, fail,
      not_true_eq_false, ↓reduceIte]
    refine .refused _ (plane.note deviceId history) rfl ?_
    rw [history_note, ← hmap, Function.update_eq_self]
  by_cases hroom : maxWakeRequestsPerMinute ≤
      (history.filter fun seenAt => issuedAtMs.toInt - seenAt.toInt < wakeWindowMs).length
  · simp only [bind, require, pure, hissued, lookedUp, hrecord, hstatus, Prog.read, Prog.modify, hhistory, hclock, fail,
      ge_iff_le, hroom, Bool.false_eq_true, not_true_eq_false, not_false_eq_true, ↓reduceIte]
    refine .refused _ ((plane.note deviceId history).note deviceId _) rfl ?_
    rw [history_note, history_note, Function.update_idem, hkept, hshort.kept_eq, Function.update_eq_self]
    rwa [← hkept, List.length_map]
  · simp only [bind, require, pure, hissued, lookedUp, hrecord, hstatus, Prog.read, Prog.modify, hhistory, hclock,
      ge_iff_le, hroom, Bool.false_eq_true, not_false_eq_true, ↓reduceIte]
    refine .made (fun requestId => .wakeDevice requestId _ _ _ _ _ _)
      (((plane.note deviceId history).note deviceId _).note deviceId _) rfl
      ⟨⟨record, deviceRecord_eq_ok.mp hrecord, hstatus⟩, ?_, ?_, ?_⟩ fun _ _ => rfl
    · intro seenAt hseen
      rw [hmap, List.mem_map] at hseen
      obtain ⟨seen, hmem, rfl⟩ := hseen
      simpa using List.any_eq_false.mp hclock seen hmem
    · rwa [← hkept, List.length_map, ← not_le]
    · rw [history_note, history_note, history_note, Function.update_idem, Function.update_idem, List.map_append, hkept]
      rfl

/-! ## Pace -/

/-- what the history of a device says about the attempts to wake it -/
structure Paced (history attempts : List Int) : Prop where
  sorted : attempts.Pairwise (· ≤ ·)
  spaced : Spaced wakeWindowMs maxWakeRequestsPerMinute attempts
  short : history.length ≤ maxWakeRequestsPerMinute
  bounded : attempts = [] ∧ history = [] ∨
    ∃ now ∈ history, Bounded wakeWindowMs maxWakeRequestsPerMinute now attempts history 0 0

theorem Paced.attempt {history attempts : List Int} (h : Paced history attempts)
    (hclock : ∀ seenAt ∈ history, seenAt ≤ issuedAtMs.toInt)
    (hroom : (kept issuedAtMs history).length < maxWakeRequestsPerMinute) :
    Paced (kept issuedAtMs history ++ [issuedAtMs.toInt]) (attempts ++ [issuedAtMs.toInt]) := by
  have hnow : Bounded wakeWindowMs maxWakeRequestsPerMinute issuedAtMs.toInt attempts history 0 0 := by
    rcases h.bounded with ⟨rfl, rfl⟩ | ⟨now, hnow, hbounded⟩
    · exact ⟨by simp, fun _ _ => by simp [recent], fun _ _ => by simp [recent]⟩
    · exact hbounded.later (hclock now hnow)
  have hmade := ((hnow.prune fun since hsince => recent_filter hsince history).pass hroom).happen.record
  refine ⟨?_, hmade.spaced h.spaced, ?_, .inr ⟨_, by simp, hmade⟩⟩
  · rw [List.pairwise_append]
    refine ⟨h.sorted, List.pairwise_singleton _ _, fun t ht later hlater => ?_⟩
    rw [List.mem_singleton.mp hlater]
    exact hnow.past t ht
  · rw [List.length_append, List.length_singleton]
    exact hroom

/-! ## Other operations -/

/-- the histories stay, and so does a valid state, with no status taken back -/
def RemoteControlPlane.Follows (env : AddressEnv) (plane plane' : RemoteControlPlane) : Prop :=
  plane'.wakeHistory = plane.wakeHistory ∧
    (plane.state.Valid env → plane'.state.Valid env ∧ plane.state.Ages plane'.state)

instance : Std.Refl (RemoteControlPlane.Follows env) where
  refl _ := ⟨rfl, fun hvalid => ⟨hvalid, .rfl⟩⟩

instance : IsTrans RemoteControlPlane (RemoteControlPlane.Follows env) where
  trans _ _ _ h h' := ⟨h'.1.trans h.1, fun hvalid =>
    have ⟨hvalid', hages⟩ := h.2 hvalid
    have ⟨hvalid'', hages'⟩ := h'.2 hvalid'
    ⟨hvalid'', hages.trans hages'⟩⟩

section

variable {mutate : DurableState → Except RemoteControlError DurableState} {stored : Bool}

/-- a commit takes over only what it has checked -/
theorem commit_follows (h : ∀ next, plane.state.Valid env → mutate plane.state = .ok next → plane.state.Ages next) :
    plane.Follows env (commit env mutate stored plane).2 := by
  unfold commit
  split
  · exact refl plane
  rename_i next hnext
  split_ifs
  · split
    · exact ⟨rfl, fun hvalid => ⟨hvalid, .rfl⟩⟩
    · exact ⟨rfl, fun hvalid => ⟨validateState_eq_ok.mp ‹_›, h next hvalid hnext⟩⟩
  · exact refl plane

theorem commit_eq_ok {plane' : RemoteControlPlane} (h : commit env mutate stored plane = (.ok (), plane')) :
    mutate plane.state = .ok plane'.state := by
  unfold commit at h
  split at h
  · cases h
  · split_ifs at h
    · split at h <;> cases h
      assumption
    · cases h

theorem commits_follow : Commits env (fun _ _ => True) (RemoteControlPlane.Follows env) := fun _ _ _ hmutates =>
  commit_follows fun _ hvalid hnext => (hmutates.grow hvalid hnext).ages

theorem flushNextRevoke_follows {connection : Exchange} :
    Moves (RemoteControlPlane.Follows env) (fun _ _ => True) (flushNextRevoke env connection issuedAtMs stored) plane := by
  have hbegin := beginRevoke_moves plane issuedAtMs
  refine Moves.bind (V := fun found plane' => ∀ revoke, found = some revoke → ∃ rest, plane'.state.revokeOutbox = revoke.1 :: rest)
    ⟨hbegin.moved ▸ refl plane, hbegin.value⟩ fun found plane' _ hfound => ?_
  rcases found with _ | revoke
  · exact .pure trivial
  obtain ⟨rest, hfront⟩ := hfound revoke rfl
  refine Moves.liftExcept.bind ?_
  rintro requestId plane' - ⟨rfl, -⟩
  have hcommit : Moves (RemoteControlPlane.Follows env) (fun _ _ => True) (commit env (completeRevoke revoke.1) stored) plane' := by
    refine ⟨commit_follows fun next hvalid hnext => ?_, fun _ _ => trivial⟩
    obtain ⟨record, hrecord, hstatus, rfl, -⟩ := completeRevoke_valid hvalid hfront hnext
    refine .update fun found hfound => ?_
    cases hrecord.symm.trans hfound
    exact ⟨rfl, by simp [hstatus, DeviceStatus.rank]⟩
  refine Moves.bind (V := fun _ _ => True) ?_ fun _ _ _ _ => .pure trivial
  unfold finishRevoke
  split
  · exact hcommit.bind fun _ _ _ _ => .pure trivial
  · exact hcommit.bind fun _ _ _ _ => .pure trivial
  · exact .fail
  · exact .fail

end

/-- what comes after the attempt leaves the plane -/
theorem run_wake {connection : Exchange} :
    ((PlaneOperation.wake connection deviceId issuedAtMs operation wakeId).run env plane).2 =
      (beginWake deviceId issuedAtMs operation wakeId plane).2 := by
  refine (run_bind_snd (fun _ _ => rfl) plane).trans (run_bind_snd (fun request plane' => ?_) plane)
  rcases connection.ask request with e | frame
  · rfl
  · cases frame <;> rfl

/-! ## Runs -/

variable {run : WakeRun}

theorem times_step {operation : PlaneOperation} : (run.step env operation).times deviceId =
    run.times deviceId ++ (operation.wakes run.plane).filterMap (wakeTime deviceId) := List.filterMap_append

/-- what an operation means for wakes: none is sent and the histories stay, or there was one more attempt -/
inductive WakeRun.Passes (run run' : WakeRun) : Prop where
  | quiet (times : run'.times = run.times) (history : run'.plane.history = run.plane.history)
  | attempt (deviceId : String) (issuedAtMs : Int64)
      (attempted : Attempted deviceId issuedAtMs run.plane run'.plane)
      (times : ∀ other, run'.times other = run.times other ∨
        other = deviceId ∧ run'.times other = run.times other ++ [issuedAtMs.toInt])

theorem step_passes (hvalid : run.plane.state.Valid env) (hshort : run.plane.Short) (operation : PlaneOperation) :
    ((run.step env operation).plane.state.Valid env ∧ run.plane.state.Ages (run.step env operation).plane.state) ∧
      run.Passes (run.step env operation) := by
  have hfollows : run.plane.Follows env (operation.run env run.plane).2 → operation.wakes run.plane = [] → _ ∧
      run.Passes (run.step env operation) := fun h hnone => by
    refine ⟨h.2 hvalid, .quiet (funext fun other => ?_) (funext fun other => ?_)⟩
    · rw [times_step, hnone]
      exact List.append_nil _
    · rw [RemoteControlPlane.history, WakeRun.step, h.1]
      rfl
  have hmoves : ∀ {α : Type} {p : PlaneM α}, Moves (RemoteControlPlane.Follows env) (fun _ _ => True) p run.plane →
      run.plane.Follows env ((do let _ ← p; return none : PlaneM (Option RevokeCompletion)) run.plane).2 := fun hp =>
    (hp.bind (W := fun _ _ => True) fun _ _ _ _ => .pure trivial).moved
  cases operation with
  | register => exact hfollows (hmoves (registerDeviceAndIssuePairing_moves commits_follow trivial)) rfl
  | enqueue => exact hfollows (hmoves (enqueueRevoke_moves commits_follow)) rfl
  | reconcile => exact hfollows (hmoves (reconcileLocalRevocations_moves commits_follow)) rfl
  | flush => exact hfollows flushNextRevoke_follows.moved rfl
  | wake connection device issuedAtMs draw wakeId =>
    have hattempt : Attempt _ _ issuedAtMs (beginWake device issuedAtMs draw wakeId run.plane) := beginWake_attempt hshort
    have hplane : (run.step env (.wake connection device issuedAtMs draw wakeId)).plane =
      (beginWake device issuedAtMs draw wakeId run.plane).2 := run_wake
    have htimes : ∀ other, (run.step env (.wake connection device issuedAtMs draw wakeId)).times other = _ := fun _ => times_step
    simp only [PlaneOperation.wakes] at htimes
    generalize beginWake device issuedAtMs draw wakeId run.plane = r at hattempt hplane htimes
    cases hattempt with
    | refused e plane' hstate hhistory =>
      subst hplane
      rw [hstate]
      exact ⟨⟨hvalid, .rfl⟩, .quiet (funext fun other => by simpa using htimes other) hhistory⟩
    | made request plane' hstate hattempted htime =>
      subst hplane
      rw [hstate]
      refine ⟨⟨hvalid, .rfl⟩, .attempt device issuedAtMs hattempted fun other => ?_⟩
      rw [htimes]
      cases connection.nextRequestId with
      | error e => simp
      | ok requestId =>
        simp only [List.filterMap_cons, htime, List.filterMap_nil]
        split_ifs with heq
        · exact .inr ⟨heq.symm, rfl⟩
        · exact .inl (List.append_nil _)

/-- the wakes of a device are among the attempts that its history has kept in pace -/
structure WakeRun.Fits (env : AddressEnv) (run : WakeRun) : Prop where
  valid : run.plane.state.Valid env
  paced : ∀ deviceId, ∃ attempts, (run.times deviceId).Sublist attempts ∧ Paced (run.plane.history deviceId) attempts

theorem WakeRun.Fits.short (h : run.Fits env) : run.plane.Short := fun deviceId =>
  have ⟨_, _, hpaced⟩ := h.paced deviceId
  hpaced.short

theorem WakeRun.Fits.step (h : run.Fits env) (operation : PlaneOperation) : (run.step env operation).Fits env := by
  obtain ⟨⟨hvalid, -⟩, hpasses⟩ := step_passes h.valid h.short operation
  refine ⟨hvalid, fun deviceId => ?_⟩
  obtain ⟨attempts, hsent, hpaced⟩ := h.paced deviceId
  cases hpasses with
  | quiet htimes hhistory =>
    rw [htimes, hhistory]
    exact ⟨attempts, hsent, hpaced⟩
  | attempt device issuedAtMs hattempted htimes =>
    rw [hattempted.history]
    by_cases heq : deviceId = device
    · subst heq
      refine ⟨attempts ++ [issuedAtMs.toInt], ?_, by simpa using hpaced.attempt hattempted.clock hattempted.room⟩
      rcases htimes deviceId with hsame | ⟨-, hadded⟩
      · rw [hsame]
        exact hsent.trans (List.sublist_append_left _ _)
      · rw [hadded]
        exact hsent.append_right _
    · rw [Function.update_of_ne heq, (htimes deviceId).resolve_right fun h => heq h.1]
      exact ⟨attempts, hsent, hpaced⟩

/-- the device is no longer active, and nothing more has been sent to it than `times` -/
structure WakeRun.Silenced (env : AddressEnv) (deviceId : String) (times : List Int) (run : WakeRun) : Prop where
  fits : run.Fits env
  sent : run.times deviceId = times
  inactive : ∃ record, run.plane.state.devices[deviceId]? = some record ∧ record.status.active = false

theorem WakeRun.Silenced.step {times : List Int} (h : run.Silenced env deviceId times) (operation : PlaneOperation) :
    (run.step env operation).Silenced env deviceId times := by
  obtain ⟨hfits, hsent, record, hrecord, hinactive⟩ := h
  obtain ⟨⟨-, hages⟩, hpasses⟩ := step_passes hfits.valid hfits.short operation
  obtain ⟨record', hrecord', -, hrank⟩ := hages deviceId record hrecord
  refine ⟨hfits.step operation, ?_, record', hrecord', ?_⟩
  · cases hpasses with
    | quiet htimes => rw [htimes, hsent]
    | attempt device _ hattempted htimes =>
      rw [(htimes deviceId).resolve_right, hsent]
      rintro ⟨rfl, -⟩
      obtain ⟨found, hfound, hstatus⟩ := hattempted.registered
      cases hrecord.symm.trans hfound
      rw [hstatus] at hinactive
      cases hinactive
  · rw [← Bool.not_eq_true, DeviceStatus.active_iff_rank] at hinactive ⊢
    omega

/-- a revocation that is enqueued, or was enqueued before, leaves its device inactive -/
theorem enqueueRevoke_silences {enqueuedAtMs : Int64} {stored : Bool} (hfits : run.Fits env)
    (h : (enqueueRevoke env deviceId enqueuedAtMs operation stored run.plane).1 = .ok ()) :
    (run.step env (.enqueue deviceId enqueuedAtMs operation stored)).Silenced env deviceId (run.times deviceId) := by
  refine ⟨hfits.step _, times_step.trans (List.append_nil _), ?_⟩
  obtain ⟨plane', hr⟩ : ∃ plane', enqueueRevoke env deviceId enqueuedAtMs operation stored run.plane = (.ok (), plane') :=
    ⟨_, Prod.ext h rfl⟩
  have hplane : (run.step env (.enqueue deviceId enqueuedAtMs operation stored)).plane = plane' :=
    congrArg Prod.snd (run_bind hr)
  rw [hplane]
  obtain ⟨_, _, hrequire, hr⟩ := run_bind_eq_ok.mp hr
  obtain ⟨henqueued, rfl⟩ := run_require_eq_ok hrequire
  obtain ⟨record, _, hlooked, hr⟩ := run_bind_eq_ok.mp hr
  obtain ⟨hrecord, rfl⟩ := Prod.mk.inj hlooked
  rw [deviceRecord_eq_ok] at hrecord
  split_ifs at hr with hactive
  · obtain ⟨heq, -⟩ := appendRevoke_valid hfits.valid hrecord hactive henqueued (commit_eq_ok hr)
    rw [heq, get_update, if_pos rfl]
    exact ⟨_, rfl, rfl⟩
  · cases hr
    exact ⟨record, hrecord, by simpa using hactive⟩

/-- a plane that was opened has been read from its file, and has woken nobody -/
theorem openPlane_eq_ok {config : RemoteControlConfig} {file : Option Json} {draw : RouteDraw} {stored : Bool}
    (h : openPlane env config file draw stored = .ok plane) :
    plane.wakeHistory = ∅ ∧ parseState env plane.file = .ok plane.state := by
  cases file with
  | none =>
    simp only [openPlane, bind_eq_ok, pure_eq_ok] at h
    obtain ⟨_, -, _, -, _, -, file, -, state, hparse, _, -, rfl⟩ := h
    exact ⟨rfl, hparse⟩
  | some file =>
    simp only [openPlane, bind_eq_ok, pure_eq_ok] at h
    obtain ⟨_, -, file, -, state, hparse, _, -, rfl⟩ := h
    exact ⟨rfl, hparse⟩

/-- **Wakes are limited.** On a plane that was opened, after any operations with any answers and any failed writes: the wake
frames sent for a device were issued in order, and no window has more of them than the limit; and once a revocation of the
device is in the outbox, or its call has returned, nothing more is sent for it. -/
theorem wakes_limited (env : AddressEnv) (config : RemoteControlConfig) (file : Option Json) (draw : RouteDraw) (stored : Bool)
    (plane : RemoteControlPlane) (hopen : openPlane env config file draw stored = .ok plane) (operations : List PlaneOperation)
    (deviceId : String) :
    let run := runFrom (WakeRun.step env) { plane } operations
    (run.times deviceId).Pairwise (· ≤ ·) ∧
    (∀ since, (run.times deviceId).countP (fun t => since ≤ t ∧ t < since + wakeWindowMs) ≤ maxWakeRequestsPerMinute) ∧
    (deviceId ∈ run.plane.state.revokeOutbox.map PendingRevoke.deviceId → ∀ later,
      (runFrom (WakeRun.step env) run later).times deviceId = run.times deviceId) ∧
    ∀ enqueuedAtMs operation stored, (enqueueRevoke env deviceId enqueuedAtMs operation stored run.plane).1 = .ok () →
      ∀ later, (runFrom (WakeRun.step env) (run.step env (.enqueue deviceId enqueuedAtMs operation stored)) later).times
        deviceId = run.times deviceId := by
  intro run
  obtain ⟨hnew, hparse⟩ := openPlane_eq_ok hopen
  have hstart : WakeRun.Fits env { plane } := by
    refine ⟨valid_of_parseState hparse, fun deviceId => ⟨[], List.Sublist.refl [], ?_⟩⟩
    have hempty : plane.history deviceId = [] := by simp [RemoteControlPlane.history, hnew]
    rw [hempty]
    exact ⟨List.Pairwise.nil, fun _ => Nat.zero_le _, Nat.zero_le _, .inl ⟨rfl, rfl⟩⟩
  have hfits : run.Fits env := run_inv_all (fun _ operation h => h.step operation) hstart operations
  obtain ⟨attempts, hsent, hpaced⟩ := hfits.paced deviceId
  have hquiet : ∀ run', run'.Silenced env deviceId (run.times deviceId) → ∀ later,
      (runFrom (WakeRun.step env) run' later).times deviceId = run.times deviceId := fun run' h later =>
    (run_inv_all (fun _ operation h => h.step operation) h later).sent
  refine ⟨hpaced.sorted.sublist hsent, fun since => hsent.countP_le.trans (hpaced.spaced since), fun hlisted => ?_, ?_⟩
  · obtain ⟨pending, hpending, rfl⟩ := List.mem_map.mp hlisted
    obtain ⟨-, -, record, hrecord, hstatus, -⟩ := hfits.valid.pending pending hpending
    exact hquiet run ⟨hfits, rfl, record, hrecord, by rw [hstatus]; rfl⟩
  · exact fun enqueuedAtMs operation stored h => hquiet _ (enqueueRevoke_silences hfits h)

/-- the phone is registered and woken twice, once in vain -/
def sampleWakes : List PlaneOperation :=
  [.register (answering (.ok (.deviceGrantRegistered 1))) "phone" 1 2 ⟨.replicate 16 4, .replicate 32 5, .replicate 16 6⟩ true true,
    .wake (answering (.error .unavailable)) "phone" 5 (.replicate 16 7) (.replicate 16 8),
    .wake (answering (.ok (.wakeAccepted 1))) "phone" 6 (.replicate 16 9) (.replicate 16 10)]

theorem wakes_limited_sample :
    (runFrom (WakeRun.step sampleAddressEnv) { plane := samplePlane } sampleWakes).times "phone" = [5, 6] ∧
    ((runFrom (WakeRun.step sampleAddressEnv) { plane := samplePlane } sampleWakes).times "phone").Pairwise (· ≤ ·) := by
  refine ⟨by decide +kernel, (wakes_limited sampleAddressEnv sampleConfig (some samplePlane.file)
    ⟨.replicate 16 1, .replicate 16 2, .replicate 32 3⟩ true samplePlane ?_ sampleWakes "phone").1⟩
  have hconfig : validateConfig sampleAddressEnv sampleConfig = .ok () := by decide +kernel
  simp only [openPlane, hconfig, bind_eq_ok, pure_eq_ok]
  exact ⟨(), trivial, _, rfl, _, parseState_samplePlane, (), by decide +kernel, rfl⟩

end Kaleido.Hostd
