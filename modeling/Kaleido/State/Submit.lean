/-
What submitting a command does.

`submitOutcome` is the outcome that `submit_command` decides for a command whose key is new, and `enqueues` the queue entry
it writes on the way, if any. The rules take the operation apart accordingly: `wp_submit` into the entry, the
acknowledgement and the key; `wp_admission` into its checks, the answer to a repeated key, and an admission that is written.
-/
import Kaleido.State.Store

namespace Kaleido.State

open Check LineFile Prog Proto

variable {env : Env}

/-- what `submit_command` decides about a command whose key is new -/
def submitOutcome (env : Env) (s : CanonicalState) (envelope : CommandEnvelope) (nowMs : Int) : CommandOutcome :=
  if envelope.expiredAt nowMs then refusal .commandExpired nowMs
  else match envelope.body with
    | .submitPrompt sessionId _ => sessionOutcome s sessionId (.acceptedLocally none) nowMs
    | .respondAttention response => replyOutcome s response nowMs
    | .enqueueInput sessionId _ _ => sessionOutcome s sessionId (.enqueued (queueEntryId env envelope.commandId)) nowMs
    | _ => .acceptedLocally none

/-- the queue entry that `submit_command` writes for a command whose key is new -/
def enqueues (env : Env) (s : CanonicalState) (envelope : CommandEnvelope) (nowMs : Int) : Option QueueEntry :=
  match envelope.body with
  | .enqueueInput sessionId body intent =>
    if ¬ envelope.expiredAt nowMs ∧ s.sessions.contains sessionId then
      some (queuedEntry env s envelope.commandId sessionId body intent nowMs)
    else none
  | _ => none

theorem enqueues_eq_some {s : CanonicalState} {envelope : CommandEnvelope} {nowMs : Int} {entry : QueueEntry}
    (h : enqueues env s envelope nowMs = some entry) : ∃ sessionId body intent,
      envelope.body = .enqueueInput sessionId body intent ∧ s.sessions.contains sessionId = true ∧
      entry = queuedEntry env s envelope.commandId sessionId body intent nowMs ∧
      submitOutcome env s envelope nowMs = .enqueued (queueEntryId env envelope.commandId) := by
  unfold enqueues at h
  split at h
  · rename_i sessionId body intent hbody
    split_ifs at h with hc
    cases h
    refine ⟨sessionId, body, intent, hbody, hc.2, rfl, ?_⟩
    rw [submitOutcome, if_neg hc.1, hbody]
    exact if_pos hc.2
  · cases h

theorem enqueues_eq_none {s : CanonicalState} {envelope : CommandEnvelope} {nowMs : Int}
    (h : enqueues env s envelope nowMs = none) (entryId : QueueEntryId) :
    submitOutcome env s envelope nowMs ≠ .enqueued entryId := by
  unfold submitOutcome
  split_ifs with hexpired
  · simp [refusal]
  · unfold enqueues at h
    split
    · unfold sessionOutcome; split_ifs <;> simp [refusal]
    · unfold replyOutcome; repeat' split
      all_goals simp [refusal]
    · rename_i sessionId body intent hbody
      rw [hbody] at h
      simp only [ite_eq_right_iff, reduceCtorEq, imp_false, not_and] at h
      rw [sessionOutcome, if_neg (h (by simpa using hexpired))]
      simp [refusal]
    · simp

/-- the checks `admit_device_command` makes before it writes, and the acknowledgement it decides on -/
structure Admissible (env : Env) (device : DeviceId) (envelope : CommandEnvelope) (request : DeviceCommandRequest)
    (nowMs : Int) (record : OutboxRecord) : Prop where
  request_ok : request.validate = .ok ()
  envelope_ok : envelope.validate = .ok ()
  device_ok : validateDeviceEnvelope device envelope request nowMs = .ok ()
  record_eq : ∃ s boxes status, record = { admissionRecord (deviceCommandKeyDigest env device request.idempotencyKey)
    (deviceRequestDigest env request) envelope (previewDeviceAdmission env s boxes envelope nowMs).1 with status := status }

section

variable {C : Disk → Prop} {E : StateError → World → Prop} {w : World} {envelope : CommandEnvelope} {nowMs : Int}

/-- what is left once the outcome is decided -/
def acknowledge (env : Env) (envelope : CommandEnvelope) (ack : CommandAck) : StoreM CommandAck := do
  let _ ← applyTrusted env (.commandAcknowledged ack)
  recordIdempotency env (dedupeDigest env envelope) envelope.commandId
  return ack

/-- **Submitting a command**: an invalid one changes nothing, a repeated key is answered, and otherwise the entry is
written, if there is one, before the outcome is acknowledged and the key recorded. -/
theorem wp_submit {Q : CommandAck → World → Prop} {K : World → Prop} (hinvalid : ∀ e, E e w)
    (hdup : ∀ original, w.store.idempotency[dedupeDigest env envelope]? = some original →
      Q ⟨envelope.commandId, .duplicate original, nowMs⟩ w)
    (henqueue : envelope.validate = .ok () → w.store.idempotency[dedupeDigest env envelope]? = none →
      ∀ entry, enqueues env w.store.state envelope nowMs = some entry →
      wp World.disk C (fun _ => K) E (apply env (.queueEntryUpserted entry)) w)
    (hother : envelope.validate = .ok () → w.store.idempotency[dedupeDigest env envelope]? = none →
      enqueues env w.store.state envelope nowMs = none → K w)
    (hack : ∀ v, K v → wp World.disk C Q E
      (acknowledge env envelope ⟨envelope.commandId, submitOutcome env w.store.state envelope nowMs, nowMs⟩) v) :
    wp World.disk C Q E (submitCommand env envelope nowMs) w := by
  refine wp_bind (wp_liftExcept (fun _ hv => wp_bind (wp_read ?_)) fun e _ => hinvalid e)
  have hvalid : envelope.validate = .ok () := contract_eq_ok.1 hv
  split
  · rename_i original horiginal
    exact wp_pure (hdup original horiginal)
  · rename_i hnone
    have hplain : ∀ outcome, enqueues env w.store.state envelope nowMs = none →
        outcome = submitOutcome env w.store.state envelope nowMs →
        wp World.disk C Q E (acknowledge env envelope ⟨envelope.commandId, outcome, nowMs⟩) w := by
      rintro outcome hnot rfl
      exact hack w (hother hvalid hnone hnot)
    split_ifs with hexpired
    · refine wp_bind (wp_pure (hplain _ ?_ (by rw [submitOutcome, if_pos hexpired])))
      unfold enqueues
      split
      · exact if_neg fun hc => hc.1 hexpired
      · rfl
    · refine wp_bind (wp_bind (wp_read ?_))
      cases hbody : envelope.body with
      | enqueueInput sessionId body intent =>
        refine wp_bind (wp_read ?_)
        by_cases hs : w.store.state.sessions.contains sessionId = true
        · simp only [hs, Bool.not_true, Bool.false_eq_true, if_false]
          have hentry : enqueues env w.store.state envelope nowMs =
              some (queuedEntry env w.store.state envelope.commandId sessionId body intent nowMs) := by
            simp only [enqueues, hbody]
            exact if_pos ⟨by simpa using hexpired, hs⟩
          have hout : submitOutcome env w.store.state envelope nowMs = .enqueued (queueEntryId env envelope.commandId) := by
            obtain ⟨_, _, _, _, _, _, h⟩ := enqueues_eq_some hentry
            exact h
          refine wp_seq (henqueue hvalid hnone _ hentry) (fun _ v hv => wp_pure ?_)
            fun _ _ he => he
          rw [← hout]
          exact hack v hv
        · simp only [hs, Bool.not_false, if_true]
          refine wp_pure (hplain _ ?_ ?_)
          · simp only [enqueues, hbody]
            exact if_neg fun hc => hs hc.2
          · rw [submitOutcome, if_neg hexpired, hbody]
            exact (if_neg hs).symm
      | _ =>
        refine wp_pure (hplain _ (by simp only [enqueues, hbody]) ?_)
        rw [submitOutcome, if_neg hexpired, hbody]

/-- **Admitting a command**: a check that fails changes nothing, a repeated key is answered, and otherwise the command is
admitted with a record of the decision taken on it. -/
theorem wp_admission {device : DeviceId} {request : DeviceCommandRequest} {Q : DeviceCommandAdmission → World → Prop}
    (hinvalid : ∀ e, E e w)
    (hrepeat : ∀ existing, w.store.deviceOutbox[deviceCommandKeyDigest env device request.idempotencyKey]? = some existing →
      Q ⟨⟨envelope.commandId, repeatOutcome existing (deviceRequestDigest env request) nowMs, nowMs⟩, none, []⟩ w)
    (hnew : w.store.recoveryRequired = false →
      w.store.deviceOutbox[deviceCommandKeyDigest env device request.idempotencyKey]? = none →
      let preview := previewDeviceAdmission env w.store.state w.store.deviceOutbox envelope nowMs
      let record := admissionRecord (deviceCommandKeyDigest env device request.idempotencyKey)
        (deviceRequestDigest env request) envelope preview.1
      (∀ status, Admissible env device envelope request nowMs { record with status := status }) →
      (preview.2 = true → wp World.disk C Q E (admitReady env record nowMs) w) ∧
      (preview.2 = false → wp World.disk C Q E (admitLocal env record nowMs) w)) :
    wp World.disk C Q E (admitDeviceCommand env device envelope request nowMs) w := by
  refine wp_bind (wp_bind (wp_read (wp_require (fun hflag => ?_) fun _ => hinvalid _)))
  refine wp_bind (wp_liftExcept (fun _ hrequest => ?_) fun e _ => hinvalid e)
  refine wp_bind (wp_liftExcept (fun _ henvelope => ?_) fun e _ => hinvalid e)
  refine wp_bind (wp_liftExcept (fun _ hdevice => wp_bind (wp_read ?_)) fun e _ => hinvalid e)
  split
  · rename_i existing hexisting
    exact wp_pure (hrepeat existing hexisting)
  · rename_i hnone
    refine wp_bind (wp_liftExcept (fun _ _ => ?_) fun e _ => hinvalid e)
    obtain ⟨hready, hlocal⟩ := hnew hflag hnone fun status =>
      ⟨contract_eq_ok.1 hrequest, contract_eq_ok.1 henvelope, hdevice, _, _, status, rfl⟩
    change wp World.disk C Q E (if (previewDeviceAdmission env w.store.state w.store.deviceOutbox envelope nowMs).2 = true
      then admitReady env _ nowMs else admitLocal env _ nowMs) w
    cases hd : (previewDeviceAdmission env w.store.state w.store.deviceOutbox envelope nowMs).2 with
    | true => exact hready hd
    | false => exact hlocal hd

end

end Kaleido.State
