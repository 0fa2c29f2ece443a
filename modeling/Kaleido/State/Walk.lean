/-
What every operation is made of.

An operation writes through five primitives only: committing an effect, recording an idempotency line, and inserting,
claiming or completing an outbox record. A `Walk` is an invariant of the store together with the proof that each primitive
keeps it; `Walk.op_keeps` and `Walk.recoverAdmissions_keeps` then say that every operation, and the repair of admissions
during a start, keeps it and passes through good files only. `Walk.start_keeps` says it of a whole start.

The invariant may constrain what is written: `effect` the effects, `command` the commands that devices submit, `record`
the outbox records that are inserted and `envelope` the commands whose idempotency is recorded.
-/
import Kaleido.State.Machine
import Kaleido.State.Submit

namespace Kaleido.State

open Check Prog Proto

/-! ## Parts of an operation -/

/-- the effects that an operation is given -/
def Op.effects : Op → List StateEffect
  | .apply e => [e]
  | .applyAll effects | .finishDispatch _ effects | .finishQueueDelivery _ effects => effects
  | _ => []

/-- what the operations other than submissions and admissions are made of: effects that satisfy `P`, claims and completions
keep the invariant `I`, and `J` holds after a failure -/
structure Parts (env : Env) (C : Disk → Prop) (I J : World → Prop) (P : StateEffect → Prop) : Prop where
  weaken : ∀ w, I w → J w
  block : ∀ w, J w → J { w with store := w.store.block }
  content : ∀ w content, I w → I { w with content := content }
  apply : ∀ e, P e → Keeps World.disk C I J (apply env e)
  unavailable : ∀ commandId atMs, P (.commandAcknowledged (unavailableAck commandId atMs))
  claimed : ∀ (w : World) (entryId : QueueEntryId) (old : QueueEntry) commandId atMs, I w →
    w.store.state.queue[entryId]? = some old →
    P (.queueEntryUpserted { old with state := .submitting commandId, editable := false, updatedAtMs := atMs })
  claim : ∀ ticket, Keeps World.disk C I J (claimRecord env ticket)
  complete : ∀ ticket, Keeps World.disk C I J (completeRecord env ticket)

section

variable {env : Env} {C : Disk → Prop} {I J : World → Prop} {P : StateEffect → Prop} {α : Type} {p : StoreM α}
  {effects : List StateEffect}

/-- an invariant that a line of the outbox keeps is kept by all that write one -/
theorem keeps_outbox (hIJ : ∀ w, I w → J w) (h : ∀ record, Keeps World.disk C I J (appendOutbox env record)) :
    (∀ record, Keeps World.disk C I J (insertInitial env record)) ∧
      (∀ ticket, Keeps World.disk C I J (claimRecord env ticket)) ∧ ∀ ticket, Keeps World.disk C I J (completeRecord env ticket) :=
  ⟨fun _ => .bind .read fun _ => .bind (.liftExcept hIJ) fun _ => .bind (h _) fun _ => .pure,
    fun _ => .bind .read fun _ => .bind (.liftExcept hIJ) fun _ => .bind (h _) fun _ => .pure,
    fun _ => .bind .read fun _ => .bind (.liftExcept hIJ) fun _ => h _⟩

namespace Parts

variable (h : Parts env C I J P)

include h

theorem require {c : Prop} [Decidable c] {e : StateError} : Keeps World.disk C I J (require c e) := .require h.weaken

theorem blockOnError (hp : Keeps World.disk C I J p) : Keeps World.disk C I J (blockOnError p) :=
  .onError (fun _ => rfl) h.block hp

theorem ensureWritable : Keeps World.disk C I J ensureWritable := .bind .read fun _ => h.require

/-- an operation that changes only the bodies -/
theorem of_content (hp : ∀ w, ∃ content, (p w).2 = { w with content := content }) : Keeps World.disk C I J p := by
  refine .of_log_eq h.weaken (fun w => ?_) fun w hw => ?_
  · obtain ⟨content, heq⟩ := hp w
    rw [heq]
  · obtain ⟨content, heq⟩ := hp w
    rw [heq]
    exact h.content w content hw

theorem applyAll (he : ∀ e ∈ effects, P e) : Keeps World.disk C I J (applyAll env effects) :=
  .bind (.forEach_of_mem effects fun e hmem => h.apply e (he e hmem)) fun _ => .pure

/-- an admission, from its parts -/
theorem admitDeviceCommand {device : DeviceId} {envelope : CommandEnvelope} {request : DeviceCommandRequest} {nowMs : Int}
    (hinsert : ∀ r, Admissible env device envelope request nowMs r → Keeps World.disk C I J (insertInitial env r))
    (hsubmit : Keeps World.disk C I J (submitCommand env envelope nowMs))
    (hack : ∀ ack : CommandAck, ack.commandId = envelope.commandId →
      Keeps World.disk C I J (applyTrusted env (.commandAcknowledged ack))) :
    Keeps World.disk C I J (admitDeviceCommand env device envelope request nowMs) := by
  intro w hw
  refine wp_admission (fun _ => h.weaken w hw) (fun _ _ => hw) fun _ _ => ?_
  intro preview record hadmissible
  refine ⟨fun _ => ?_, fun _ => ?_⟩
  · have hready : Keeps World.disk C I J (admitReady env record nowMs) :=
      .bind (hinsert _ (hadmissible _)) fun _ => .bind .read fun _ => .bind (h.blockOnError hsubmit) fun _ =>
        .bind (h.blockOnError h.require) fun _ => .bind .read fun _ => .pure
    exact hready w hw
  · have hlocal : Keeps World.disk C I J (admitLocal env record nowMs) := by
      refine .bind (hinsert _ (hadmissible _)) fun _ => .bind .read fun _ => .ite
        (fun _ => .bind (h.blockOnError hsubmit) fun _ => ?_) fun _ =>
        .bind (h.blockOnError (hack _ rfl)) fun _ => .bind .pure fun _ => ?_
      all_goals
        exact .bind (h.blockOnError h.require) fun _ => .bind (h.blockOnError (h.complete _)) fun _ =>
          .bind .read fun _ => .pure
    exact hlocal w hw

theorem claimDispatch (ticket : DispatchTicket) : Keeps World.disk C I J (claimDispatch env ticket) :=
  .bind h.ensureWritable fun _ => .bind (h.claim ticket) fun _ => .pure

theorem rejectReadyDispatch (ticket : DispatchTicket) (atMs : Int) :
    Keeps World.disk C I J (rejectReadyDispatch env ticket atMs) := by
  refine .bind h.ensureWritable fun _ => .bind .read fun boxes => ?_
  split
  · exact .fail h.weaken
  · exact .bind h.require fun _ => .bind (h.claim ticket) fun _ => .bind .read fun _ =>
      .bind (h.apply _ (h.unavailable _ _)) fun _ => .bind (h.complete ticket) fun _ => .read

theorem finishDispatch (ticket : DispatchTicket) (he : ∀ e ∈ effects, P e) :
    Keeps World.disk C I J (finishDispatch env ticket effects) :=
  .bind h.ensureWritable fun _ => .bind .read fun _ => .bind (.liftExcept h.weaken) fun _ => .bind h.require fun _ =>
    .bind .read fun _ => .bind (h.applyAll he) fun _ => .bind (h.complete ticket) fun _ => .read

theorem claimQueueDelivery (entryId : QueueEntryId) (atMs : Int) :
    Keeps World.disk C I J (claimQueueDelivery env entryId atMs) := by
  refine .bind h.ensureWritable fun _ w hw => wp_bind (wp_read ?_)
  split
  · exact wp_fail (h.weaken w hw)
  · rename_i entry hentry
    split
    · exact wp_fail (h.weaken w hw)
    · rename_i commandId _
      have he := h.claimed w entryId entry commandId atMs hw (Option.filter_eq_some_iff.1 hentry).1
      exact (Keeps.bind .read fun _ => .bind (h.apply _ he) fun _ => .bind .read fun _ => .pure) w hw

theorem finishQueueDelivery (entryId : QueueEntryId) (he : ∀ e ∈ effects, P e) :
    Keeps World.disk C I J (finishQueueDelivery env entryId effects) :=
  .bind h.ensureWritable fun _ => .bind .read fun _ => .bind (.liftExcept h.weaken) fun _ => .bind .read fun _ =>
    .bind (h.applyAll he) fun _ => .read

/-- **Every operation** keeps the invariant, if submissions and admissions do. -/
theorem run {op : Op} (he : ∀ e ∈ op.effects, P e)
    (hsubmit : ∀ envelope nowMs, op = .submitCommand envelope nowMs →
      Keeps World.disk C I J (submitCommand env envelope nowMs))
    (hadmission : ∀ device envelope request nowMs, op = .admitDeviceCommand device envelope request nowMs →
      Keeps World.disk C I J (State.admitDeviceCommand env device envelope request nowMs)) :
    Keeps World.disk C I J (op.run env) := by
  cases op with
  | apply e => exact .map (h.apply e (he e List.mem_cons_self))
  | applyAll effects => exact .map (h.applyAll he)
  | submitCommand envelope nowMs => exact .map (hsubmit envelope nowMs rfl)
  | admitDeviceCommand device envelope request nowMs => exact .map (hadmission device envelope request nowMs rfl)
  | claimDispatch ticket => exact .map (h.claimDispatch ticket)
  | rejectReadyDispatch ticket atMs => exact .map (h.rejectReadyDispatch ticket atMs)
  | finishDispatch ticket effects => exact .map (h.finishDispatch ticket he)
  | claimQueueDelivery entryId atMs => exact .map (h.claimQueueDelivery entryId atMs)
  | finishQueueDelivery entryId effects => exact .map (h.finishQueueDelivery entryId he)
  | writeContentForDevice deviceId request bytes nowMs =>
    exact .map (h.of_content (writeContentForDevice_world env deviceId request bytes nowMs))
  | storeContent kind sensitivity bytes => exact .map (h.of_content (storeContent_world env kind sensitivity bytes))

/-- the repair of one admission, from its parts -/
theorem recoverAdmission {recovery : AdmissionRecovery}
    (hidem : Keeps World.disk C I J (ensureCommandIdempotency env recovery.envelope))
    (hsubmit : Keeps World.disk C I J (submitCommand env recovery.envelope recovery.envelope.issuedAtMs))
    (hack : Keeps World.disk C I J (applyTrusted env (.commandAcknowledged recovery.admissionAck))) :
    Keeps World.disk C I J (recoverAdmission env recovery) := by
  have hknown : ∀ acks, Keeps World.disk C I J (recoverAcknowledged env recovery acks) := fun acks =>
    .bind (.liftExcept h.weaken) fun _ => .bind (.ite (fun _ => hidem) fun _ => .pure) fun _ => .pure
  have hrepair : Keeps World.disk C I J (acknowledgeRecovered env recovery) :=
    .bind hack fun _ => .bind hidem fun _ => .pure
  have hagain : Keeps World.disk C I J (decideAgain env recovery) := by
    refine .ite (fun _ => .bind hsubmit fun _ => ?_) fun _ => .bind hack fun _ => .bind .pure fun _ => ?_
    all_goals exact .bind h.require fun _ => .pure
  refine .bind .read fun s => ?_
  split
  · exact hknown _
  · split
    · refine .bind h.require fun _ => ?_
      split
      · exact .bind h.require fun _ => hrepair
      · exact hagain
    · exact .fail h.weaken
    · split
      · exact .fail h.weaken
      · exact .ite (fun _ => hrepair) fun _ => .bind h.require fun _ => hagain
    · exact hagain

end Parts

end

/-! ## Walks -/

/-- an invariant of the store, kept by every primitive -/
structure Walk (env : Env) where
  /-- what holds of the files after every append -/
  files : Disk → Prop
  inv : World → Prop
  /-- what holds after a failure -/
  failed : World → Prop
  effect : StateEffect → Prop
  command : CommandEnvelope → Prop
  record : OutboxRecord → Prop
  envelope : CommandEnvelope → Prop
  weaken : ∀ w, inv w → failed w
  block : ∀ w, failed w → failed { w with store := w.store.block }
  tick : ∀ w, inv w → inv { w with ticks := w.ticks + 1 }
  content : ∀ w content, inv w → inv { w with content := content }
  acks : ∀ ack, effect (.commandAcknowledged ack)
  queued : ∀ w entry, inv w → w.store.state.sessions.contains entry.sessionId = true → entry.state = .pending →
    effect (.queueEntryUpserted entry)
  claimed : ∀ (w : World) (entryId : QueueEntryId) (old : QueueEntry) commandId atMs, inv w →
    w.store.state.queue[entryId]? = some old →
    effect (.queueEntryUpserted { old with state := .submitting commandId, editable := false, updatedAtMs := atMs })
  admitted : ∀ device envelope request nowMs r, command envelope → Admissible env device envelope request nowMs r → record r
  submitted : ∀ e, e.validate = .ok () → envelope e
  recovered : ∀ w r, inv w → r ∈ w.store.deviceOutbox.vals → envelope r.envelope
  commit : ∀ e, effect e → Keeps World.disk files inv failed (applyTrustedCommit env e)
  idempotency : ∀ w e, envelope e → inv w → w.store.idempotency[dedupeDigest env e]? = none →
    wp World.disk files (fun _ => inv) (fun _ => failed) (recordIdempotency env (dedupeDigest env e) e.commandId) w
  insert : ∀ r, record r → Keeps World.disk files inv failed (insertInitial env r)
  claim : ∀ ticket, Keeps World.disk files inv failed (claimRecord env ticket)
  complete : ∀ ticket, Keeps World.disk files inv failed (completeRecord env ticket)

namespace Walk

variable {env : Env} (W : Walk env) {e : StateEffect}

/-- the program keeps the invariant of the walk -/
abbrev Preserves {α : Type} (p : StoreM α) : Prop := Keeps World.disk W.files W.inv W.failed p

/-- the program keeps the invariant and the idempotency table -/
abbrev PreservesWith {α : Type} (table : OrdMap String CommandId) (p : StoreM α) : Prop :=
  Keeps World.disk W.files (fun w => W.inv w ∧ w.store.idempotency = table) W.failed p

variable {W} {α : Type} {p : StoreM α}

/-! ### Effects -/

theorem preservesWith_applyTrustedCommit (he : W.effect e) (table : OrdMap String CommandId) :
    W.PreservesWith table (applyTrustedCommit env e) := by
  intro w h
  obtain ⟨hext, hfiles, hpost⟩ := W.commit e he w h.1
  have hsame := (applyTrustedCommit_sameSides env e w).idempotency
  refine ⟨hext, hfiles, ?_⟩
  generalize applyTrustedCommit env e w = r at hpost hsame
  obtain ⟨_ | _, v⟩ := r
  · exact hpost
  · exact ⟨hpost, hsame.trans h.2⟩

theorem preserves_applyCommit (he : W.effect e) : W.Preserves (applyCommit env e) :=
  .bind (.require W.weaken) fun _ => W.commit e he

theorem preserves_applyTrusted (he : W.effect e) : W.Preserves (applyTrusted env e) := .bind (W.commit e he) fun _ => .pure

/-- what the walk says about the parts of an operation -/
theorem parts (W : Walk env) : Parts env W.files W.inv W.failed W.effect where
  weaken := W.weaken
  block := W.block
  content := W.content
  apply _ he := .bind (preserves_applyCommit he) fun _ => .pure
  unavailable _ _ := W.acks _
  claimed := W.claimed
  claim := W.claim
  complete := W.complete

/-! ### Commands -/

/-- `submit_command` records an idempotency line only for a key that has none -/
theorem preserves_submitCommand (envelope : CommandEnvelope) (nowMs : Int) :
    W.Preserves (submitCommand env envelope nowMs) := by
  intro w h
  let K (v : World) : Prop := (W.inv v ∧ v.store.idempotency = w.store.idempotency) ∧
    envelope.validate = .ok () ∧ w.store.idempotency[dedupeDigest env envelope]? = none
  refine wp_submit (K := K) (fun _ => W.weaken w h) (fun _ _ => h) (fun hvalid hnone entry hentry => ?_)
    (fun hvalid hnone _ => ⟨⟨h, rfl⟩, hvalid, hnone⟩) ?_
  · obtain ⟨sessionId, body, intent, -, hs, rfl, -⟩ := enqueues_eq_some hentry
    have he : W.effect (.queueEntryUpserted (queuedEntry env w.store.state envelope.commandId sessionId body intent nowMs)) :=
      W.queued w _ h hs rfl
    have happly : W.PreservesWith w.store.idempotency (apply env _) :=
      .bind (.bind (.require fun v hv => W.weaken v hv.1) fun _ => preservesWith_applyTrustedCommit he _) fun _ => .pure
    exact wp_post (happly w ⟨h, rfl⟩) (fun _ _ hv => ⟨hv, hvalid, hnone⟩) fun _ _ he => he
  · rintro v ⟨hv, hvalid, hnone⟩
    have hack : ∀ ack, W.PreservesWith w.store.idempotency (applyTrusted env (.commandAcknowledged ack)) := fun ack =>
      .bind (preservesWith_applyTrustedCommit (W.acks ack) _) fun _ => .pure
    refine wp_seq (hack _ v hv) (fun _ u hu => ?_) fun _ _ he => he
    exact wp_seq (W.idempotency u envelope (W.submitted envelope hvalid) hu.1 (hu.2 ▸ hnone)) (fun _ _ hq => wp_pure hq)
      fun _ _ he => he

theorem preserves_admitDeviceCommand {envelope : CommandEnvelope} (hc : W.command envelope) (device : DeviceId)
    (request : DeviceCommandRequest) (nowMs : Int) :
    W.Preserves (admitDeviceCommand env device envelope request nowMs) :=
  W.parts.admitDeviceCommand (fun r hr => W.insert r (W.admitted device envelope request nowMs r hc hr))
    (preserves_submitCommand envelope nowMs) fun _ _ => preserves_applyTrusted (W.acks _)

variable (W) in
/-- what the walk asks of the arguments of an operation -/
def Admits : Op → Prop
  | .apply e => W.effect e
  | .applyAll effects | .finishDispatch _ effects | .finishQueueDelivery _ effects => ∀ e ∈ effects, W.effect e
  | .admitDeviceCommand _ envelope _ _ => W.command envelope
  | _ => True

/-- **Every operation** keeps the invariant of the walk. -/
theorem op_keeps {op : Op} (h : W.Admits op) : W.Preserves (op.run env) := by
  refine W.parts.run ?_ (fun envelope nowMs _ => preserves_submitCommand envelope nowMs) ?_
  · cases op with
    | apply e => simpa [Op.effects, Admits] using h
    | applyAll effects | finishDispatch _ effects | finishQueueDelivery _ effects => exact h
    | _ => simp [Op.effects]
  · rintro device envelope request nowMs rfl
    exact preserves_admitDeviceCommand h device request nowMs

/-! ### Repairing admissions -/

theorem preserves_ensureCommandIdempotency {envelope : CommandEnvelope} (he : W.envelope envelope) :
    W.Preserves (ensureCommandIdempotency env envelope) := by
  intro w h
  refine wp_bind (wp_read ?_)
  split
  · exact W.parts.require w h
  · rename_i hnone
    exact W.idempotency w envelope he h hnone

/-- the repair of admissions keeps the invariant of the walk -/
theorem recoverAdmissions_keeps : W.Preserves (recoverAdmissions env) := by
  intro w h
  have hloop : W.Preserves (forEach (recoverOne env) (w.store.deviceOutbox.admissionRecoveries env)) := by
    refine .forEach_of_mem _ fun recovery hmem => ?_
    obtain ⟨r, hr, rfl⟩ := List.mem_map.1 hmem
    have he : W.envelope r.envelope := W.recovered w r h (List.mem_of_mem_filter hr)
    refine .bind ?_ fun _ => .ite (fun _ => W.complete _) fun _ => .pure
    exact W.parts.recoverAdmission (preserves_ensureCommandIdempotency he) (preserves_submitCommand _ _)
      (preserves_applyTrusted (W.acks _))
  exact (Keeps.bind hloop fun _ => .pure) w h

/-- the end of a start -/
theorem repair_keeps : W.Preserves (do recoverAdmissions env; collectContent env) :=
  .bind W.recoverAdmissions_keeps fun _ =>
    .bind (fun w h => wp_of_log_eq rfl (W.tick w h)) fun _ => .modify (fun _ => rfl) fun w h => W.content w _ h

/-- a start keeps an invariant that reading the files and completing the journal establish -/
theorem start_keeps {C : Disk → Prop} {E : World → Prop} {w : World} (hC : ∀ d, W.files d → C d) (hE : ∀ v, W.failed v → E v)
    (h : E w) (hread : ∀ store expected, readStore env w.disk = .ok (store, expected) →
      wp World.disk C (fun _ => W.inv) (fun _ => E) (reconcile env expected) { w with store := store })
    (htable : ∀ v table, W.inv v → W.inv { v with store := { v.store with idempotency := table } }) :
    wp World.disk C (fun _ => W.inv) (fun _ => E) (load env) w := by
  refine wp_bind (wp_read (wp_bind (wp_liftExcept (fun read hok => ?_) fun _ _ => h)))
  obtain ⟨store, expected⟩ := read
  refine wp_bind (wp_modify rfl (wp_seq (hread store expected hok) (fun _ v hv => ?_) fun _ _ hE => hE))
  refine wp_bind (wp_liftExcept (fun table _ => wp_bind (wp_modify rfl ?_)) fun _ _ => hE v (W.weaken v hv))
  exact wp_mono (W.repair_keeps _ (htable v table hv)) (fun d _ h => hC d h) (fun _ _ hq => hq) fun _ v h => hE v h

end Walk

end Kaleido.State
