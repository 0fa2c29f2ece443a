/-
A process agrees with its files.

`SideInv` is the agreement of the outbox and of the idempotency table, and `Synced` puts it together with that of the log
and the journal (`LogInv`). Every operation keeps `Synced` (`op_keeps_synced`) and passes only through files
(`SyncedFiles`) from which a start restores it (`load_keeps_synced`), whichever append fails in a tolerable way.
-/
import Kaleido.State.Dispatch
import Kaleido.State.LogInv

namespace Kaleido.State

open Check LineFile Prog Proto

variable {env : Env}

variable {table : OrdMap String CommandId} {disk disk' : Disk} {key : String} {entry : Entry}
  {envelope e : CommandEnvelope} {record : OutboxRecord} {w : World}

/-- SHA-256 in hexadecimal is 64 lower-case hexadecimal digits -/
def Env.HexDigests (env : Env) : Prop := ∀ bytes, validDigest (env.hexDigest bytes) = true

/-! ## The idempotency table -/

theorem readIdempotencyFrom_append {n : Nat} {table' : OrdMap String CommandId} {l : List IdempotencyRecord}
    {record : IdempotencyRecord} (h : readIdempotencyFrom n table l = .ok table') :
    readIdempotencyFrom n table (l ++ [record]) = readIdempotencyRecord (n + l.length) table' record := by
  induction l generalizing n table with
  | nil =>
    cases h
    change (readIdempotencyRecord n table' record >>= fun t => .ok t) = readIdempotencyRecord n table' record
    cases readIdempotencyRecord n table' record <;> rfl
  | cons a l ih =>
    obtain ⟨mid, hmid, hrest⟩ := bind_eq_ok.1 h
    rw [List.cons_append, readIdempotencyFrom, hmid]
    exact (ih hrest).trans (by rw [List.length_cons, Nat.add_assoc, Nat.add_comm 1])

theorem readIdempotency_whole (hw : Whole disk) :
    readIdempotency disk = readIdempotencyFrom 1 ∅ (recordsOf Entry.idempotency? disk) := by
  rw [readIdempotency, readFile_whole (chunksOf_whole hw), map_entry_chunksOf]
  rfl

/-- a new key is appended to the table -/
theorem readIdempotency_append {commandId : CommandId} (hw : Whole disk) (h : readIdempotency disk = .ok table)
    (hkey : validDigest key = true) (hid : ¬ commandId.isEmpty) (hnew : table[key]? = none) :
    readIdempotency (disk ++ [⟨.idempotency ⟨idempotencyFormatVersion, key, commandId⟩, .whole⟩]) =
      .ok (table.insert key commandId) := by
  rw [readIdempotency_whole hw] at h
  rw [readIdempotency_whole (whole_append_single hw), recordsOf_append, recordsOf_single, Entry.idempotency?,
    Option.toList_some, readIdempotencyFrom_append h]
  simp only [readIdempotencyRecord, seq_eq_ok, ensure_eq_ok, pure_eq_ok]
  exact ⟨⟨trivial, hkey, hid⟩, by simp [hnew], trivial⟩

theorem readIdempotency_append_other (hw : Whole disk) (h : entry.idempotency? = none) :
    readIdempotency (disk ++ [⟨entry, .whole⟩]) = readIdempotency disk := by
  rw [readIdempotency_whole (whole_append_single hw), readIdempotency_whole hw, recordsOf_append, recordsOf_single, h]
  simp

/-! ## Outbox records that read back -/

/-- a record passes the checks of its line -/
def Checked (env : Env) (record : OutboxRecord) : Prop := ∀ line, checkRecord env line record = .ok ()

theorem replyOutcome_validate (s : CanonicalState) (response : AttentionResponse) (nowMs : Int) :
    (replyOutcome s response nowMs).validate = .ok () := by
  unfold replyOutcome
  split
  · rfl
  · split <;> rfl

theorem previewDeviceAdmission_validate (s : CanonicalState) (boxes : Outbox) (nowMs : Int)
    (hid : ¬ envelope.commandId.isEmpty) : (previewDeviceAdmission env s boxes envelope nowMs).1.validate = .ok () := by
  refine seq_eq_ok.2 ⟨nonEmpty_eq_ok.2 hid, ?_⟩
  simp only [previewDeviceAdmission]
  split_ifs
  · rfl
  · unfold previewOutcome
    split
    case h_3 =>
      split_ifs
      · rfl
      · exact replyOutcome_validate s _ nowMs
    case h_4 =>
      split
      · rfl
      · split_ifs <;> rfl
    all_goals first
      | rfl
      | (unfold sessionOutcome; split_ifs <;> rfl)

/-- the request is recovered from the envelope it became -/
theorem requestFromEnvelope_eq {device : DeviceId} {request : DeviceCommandRequest} {nowMs : Int}
    (hr : request.validate = .ok ()) (h : validateDeviceEnvelope device envelope request nowMs = .ok ()) :
    requestFromEnvelope envelope = some request ∧ envelope.actor = .human device ∧ envelope.issuedAtMs = nowMs := by
  simp only [validateDeviceEnvelope, seq_eq_ok, ensure_eq_ok] at h
  obtain ⟨hactor, hkey, hbody, hissued, -, hexpires⟩ := h
  obtain ⟨key, ttlMs, body⟩ := request
  unfold requestFromEnvelope
  cases ttlMs with
  | none => simp_all
  | some ttl =>
    simp only [DeviceCommandRequest.validate, seq_eq_ok, checkSome_some, ensure_eq_ok] at hr
    have httl : ttl ≤ 300000 := hr.2.2.1.2
    have hrelative : 0 ≤ nowMs + (ttl : Int) - nowMs ∧ nowMs + (ttl : Int) - nowMs ≤ i64Max := by
      unfold i64Max
      omega
    rw [Option.map_some] at hexpires
    simp only [hexpires, hissued]
    rw [if_pos hrelative]
    simp_all

theorem checked_of_admissible (hd : env.HexDigests) {device : DeviceId} {request : DeviceCommandRequest} {nowMs : Int}
    (h : Admissible env device envelope request nowMs record) : Checked env record := by
  intro line
  obtain ⟨s, boxes, status, rfl⟩ := h.record_eq
  have hid : ¬ envelope.commandId.isEmpty := by
    have := h.envelope_ok
    simp only [CommandEnvelope.validate, seq_eq_ok] at this
    exact nonEmpty_eq_ok.1 this.1
  obtain ⟨hrequest, hactor, hissued⟩ := requestFromEnvelope_eq h.request_ok h.device_ok
  simp only [checkRecord, admissionRecord, seq_eq_ok, ensure_eq_ok, contract_eq_ok, hrequest, hactor]
  refine ⟨?_, h.envelope_ok, previewDeviceAdmission_validate s boxes nowMs hid, rfl, hissued.symm, h.request_ok, trivial,
    trivial⟩
  simp [validRecord, deviceCommandKeyDigest, deviceRequestDigest, hd _]

theorem Checked.status (h : Checked env record) (status : OutboxStatus) :
    Checked env { record with status := status } := fun line => h line

theorem Checked.commandId (h : Checked env record) : ¬ record.envelope.commandId.isEmpty := by
  have := h 0
  simp only [checkRecord, seq_eq_ok, contract_eq_ok] at this
  have hv := this.2.1
  simp only [CommandEnvelope.validate, seq_eq_ok] at hv
  exact nonEmpty_eq_ok.1 hv.1

/-- the admission acknowledges its own command -/
theorem Checked.ackCommand (h : Checked env record) :
    record.admissionAck.commandId = record.envelope.commandId := by
  have hcheck := h 0
  simp only [checkRecord, seq_eq_ok] at hcheck
  have hmatch := hcheck.2.2.2
  split at hmatch
  · exact (ensure_eq_ok.1 hmatch).1
  · cases hmatch

theorem mem_of_boxesFrom {boxes : Outbox} {l : List OutboxRecord} {k : String} {r : OutboxRecord}
    (h : (boxesFrom boxes l)[k]? = some r) : r ∈ l ∨ boxes[k]? = some r := by
  induction l generalizing boxes with
  | nil => exact .inr h
  | cons a l ih =>
    rcases ih h with hl | hb
    · exact .inl (List.mem_cons_of_mem _ hl)
    · rcases OrdMap.of_get_insert hb with ⟨-, rfl⟩ | ⟨-, hb⟩
      · exact .inl List.mem_cons_self
      · exact .inr hb

/-! ## The side files -/

/-- the outbox and the idempotency table read back -/
structure SideFiles (env : Env) (disk : Disk) : Prop where
  outbox : OutboxFile disk
  checked : ∀ r ∈ outboxRecords disk, Checked env r
  idempotency : ∃ table, readIdempotency disk = .ok table

/-- the process's outbox is the one on disk; its idempotency table holds the one on disk, and is no more than that unless
an append failed -/
structure SideInv (env : Env) (w : World) : Prop where
  outbox : OutboxInv w
  checked : ∀ r ∈ outboxRecords w.disk, Checked env r
  idempotency : ∃ table, readIdempotency w.disk = .ok table ∧
    (∀ (k : String) c, table[k]? = some c → w.store.idempotency[k]? = some c) ∧
    (env.Reliable → w.store.idempotency = table)

theorem SideInv.files (h : SideInv env w) : SideFiles env w.disk :=
  ⟨h.outbox.file, h.checked, h.idempotency.imp fun _ ht => ht.1⟩

theorem SideInv.congr {w' : World} (h : SideInv env w) (hd : w'.disk = w.disk)
    (hb : w'.store.deviceOutbox = w.store.deviceOutbox) (hi : w'.store.idempotency = w.store.idempotency) :
    SideInv env w' := by
  refine ⟨h.outbox.congr hb hd, hd ▸ h.checked, ?_⟩
  rw [hd, hi]
  exact h.idempotency

theorem SideInv.checked_of_get (h : SideInv env w) {k : String} {r : OutboxRecord} (hk : w.store.deviceOutbox[k]? = some r) :
    Checked env r := by
  rw [h.outbox.memory] at hk
  rcases mem_of_boxesFrom hk with hmem | hnone
  · exact h.checked r hmem
  · simp at hnone

/-- the program keeps the side files -/
abbrev KeepsSide {α : Type} (env : Env) (p : StoreM α) : Prop :=
  Keeps World.disk (SideFiles env) (SideInv env) (SideInv env) p

/-- an append to the log or the journal leaves the side files alone -/
theorem SideInv.append_other (h : SideInv env w) (ho : entry.outbox? = none) (hi : entry.idempotency? = none) :
    SideInv env (w.appended entry) := by
  refine ⟨h.outbox.append_other ho, ?_, ?_⟩
  · simp only [World.appended, outboxRecords, recordsOf_append, recordsOf_single, ho, Option.toList_none, List.append_nil]
    exact h.checked
  · simp only [World.appended, readIdempotency_append_other h.outbox.file.whole hi]
    exact h.idempotency

theorem keepsSide_appendEntry (ht : env.Tolerant) {path : String} (ho : entry.outbox? = none)
    (hi : entry.idempotency? = none) : KeepsSide env (appendEntry env path entry) := fun _ h =>
  wp_appendEntry ht ⟨(h.append_other ho hi).files, h.append_other ho hi⟩ (fun _ => h.congr rfl rfl rfl)
    fun _ _ => h.append_other ho hi

theorem keepsSide_applyTrustedCommit (ht : env.Tolerant) (effect : StateEffect) :
    KeepsSide env (applyTrustedCommit env effect) :=
  keeps_applyTrustedCommit env (fun _ h => h) (fun _ h => h.congr rfl rfl rfl) (fun _ h => h.congr rfl rfl rfl)
    (fun _ _ _ => keepsSide_appendEntry ht rfl rfl) (fun _ _ => keepsSide_appendEntry ht rfl rfl)
    fun _ _ h hbox hidem => h.congr rfl hbox hidem

/-- a record that passes its checks and follows from the outbox is appended -/
theorem SideInv.boxed (h : SideInv env w) (hf : follows w.store.deviceOutbox record = true) (hc : Checked env record) :
    SideInv env (w.boxed record) := by
  refine ⟨(h.outbox.boxed hf).1, ?_, ?_⟩
  · simp only [World.boxed, World.appended, outboxRecords, recordsOf_append, recordsOf_single, Entry.outbox?,
      Option.toList_some, List.mem_append, List.mem_singleton]
    rintro r (hr | rfl)
    · exact h.checked r hr
    · exact hc
  · obtain ⟨table, hread, htable⟩ := h.idempotency
    exact ⟨table, (readIdempotency_append_other h.outbox.file.whole rfl).trans hread, htable⟩

theorem wp_appendOutbox_side (ht : env.Tolerant) (h : SideInv env w) (hf : follows w.store.deviceOutbox record = true)
    (hc : Checked env record) :
    wp World.disk (SideFiles env) (fun _ => SideInv env) (fun _ => SideInv env) (appendOutbox env record) w :=
  wp_bind (wp_appendEntry ht ⟨(h.boxed hf hc).files, wp_modify rfl (h.boxed hf hc)⟩ (fun _ => h.congr rfl rfl rfl)
    fun _ hl => by cases hl)

theorem keepsSide_insertInitial (ht : env.Tolerant) (hc : Checked env record) :
    KeepsSide env (insertInitial env record) := by
  intro w h
  refine wp_bind (wp_read (wp_bind (wp_liftExcept (fun _ hok => wp_bind ?_) fun _ _ => h)))
  exact wp_post (wp_appendOutbox_side ht h (follows_of_checkInitial hok).1 hc)
    (fun _ _ hq => wp_pure hq) fun _ _ he => he

theorem keepsSide_claimRecord (ht : env.Tolerant) (ticket : DispatchTicket) : KeepsSide env (claimRecord env ticket) := by
  intro w h
  refine wp_bind (wp_read (wp_bind (wp_liftExcept (fun claimed hok => wp_bind ?_) fun _ _ => h)))
  obtain ⟨k, r, hk, hr, rfl, -⟩ := claim_eq_ok hok
  have hf : follows w.store.deviceOutbox { r with status := .claimed } = true :=
    follows_of_status h.outbox.keyed hk rfl (by simp [hr, validTransition])
  exact wp_post (wp_appendOutbox_side ht h hf ((h.checked_of_get hk).status _))
    (fun _ _ hq => wp_pure hq) fun _ _ he => he

theorem keepsSide_completeRecord (ht : env.Tolerant) (ticket : DispatchTicket) :
    KeepsSide env (completeRecord env ticket) := by
  intro w h
  refine wp_bind (wp_read (wp_bind (wp_liftExcept (fun completed hok => ?_) fun _ _ => h)))
  obtain ⟨k, r, hk, hr, rfl, -⟩ := complete_eq_ok hok
  have hf : follows w.store.deviceOutbox { r with status := .completed } = true :=
    follows_of_status h.outbox.keyed hk rfl (by simp [hr, validTransition])
  exact wp_appendOutbox_side ht h hf ((h.checked_of_get hk).status _)

/-- the process remembers a key -/
def World.remembering (w : World) (key : String) (commandId : CommandId) : World :=
  { w with store := { w.store with idempotency := w.store.idempotency.insert key commandId } }

/-- the process remembers a key and its line is on disk -/
def World.keyed (w : World) (key : String) (commandId : CommandId) : World :=
  (w.remembering key commandId).appended (.idempotency ⟨idempotencyFormatVersion, key, commandId⟩)

/-- a key that is new to the process is not on disk -/
theorem SideInv.new_key (h : SideInv env w) (hnone : w.store.idempotency[key]? = none)
    (hread : readIdempotency w.disk = .ok table) : table[key]? = none := by
  obtain ⟨table', hread', hsub, -⟩ := h.idempotency
  rw [hread] at hread'
  cases hread'
  by_contra hsome
  obtain ⟨c, hc⟩ := Option.ne_none_iff_exists'.1 hsome
  rw [hsub _ _ hc] at hnone
  cases hnone

/-- a new key is recorded -/
theorem SideInv.record_key (hd : env.HexDigests) (hid : ¬ e.commandId.isEmpty) (h : SideInv env w)
    (hnone : w.store.idempotency[dedupeDigest env e]? = none) :
    SideInv env (w.keyed (dedupeDigest env e) e.commandId) := by
  obtain ⟨table, hread, hsub, heq⟩ := h.idempotency
  have hdigest : validDigest (dedupeDigest env e) = true := hd _
  have hread' := readIdempotency_append h.outbox.file.whole hread hdigest hid (h.new_key hnone hread)
  refine ⟨(show OutboxInv (w.remembering _ _) from h.outbox.congr rfl rfl).append_other rfl, ?_, _, hread', fun k c hk => ?_,
    fun hr => ?_⟩
  · simp only [World.keyed, World.remembering, World.appended, outboxRecords, recordsOf_append, recordsOf_single,
      Entry.outbox?, Option.toList_none, List.append_nil]
    exact h.checked
  · rw [OrdMap.get_insert] at hk
    change (w.store.idempotency.insert _ _)[k]? = _
    rw [OrdMap.get_insert]
    by_cases hkey : dedupeDigest env e = k
    · rwa [if_pos hkey] at hk ⊢
    · rw [if_neg hkey] at hk ⊢
      exact hsub k c hk
  · change w.store.idempotency.insert _ _ = _
    rw [heq hr]

/-- the line of a new key could not be written -/
theorem SideInv.remember_key {commandId : CommandId} (h : SideInv env w) (hnone : w.store.idempotency[key]? = none)
    (hr : ¬ env.Reliable) :
    SideInv env (w.remembering key commandId).missed := by
  obtain ⟨table, hread, hsub, -⟩ := h.idempotency
  refine ⟨h.outbox.congr rfl rfl, h.checked, table, hread, fun k c hk => ?_, fun hr' => absurd hr' hr⟩
  change (w.store.idempotency.insert _ _)[k]? = _
  rw [OrdMap.get_insert]
  split_ifs with hkey
  · rw [← hkey, h.new_key hnone hread] at hk
    cases hk
  · exact hsub k c hk

theorem wp_recordIdempotency_side (ht : env.Tolerant) (hd : env.HexDigests) (hid : ¬ e.commandId.isEmpty) (h : SideInv env w)
    (hnone : w.store.idempotency[dedupeDigest env e]? = none) :
    wp World.disk (SideFiles env) (fun _ => SideInv env) (fun _ => SideInv env)
      (recordIdempotency env (dedupeDigest env e) e.commandId) w :=
  have hdone := h.record_key hd hid hnone
  wp_bind (wp_modify rfl (wp_appendEntry ht ⟨hdone.files, hdone⟩ (h.remember_key hnone) fun _ _ => hdone))

/-! ## Log and side files together -/

structure SyncedFiles (env : Env) (disk : Disk) : Prop where
  log : LogFiles env disk
  side : SideFiles env disk

/-- the process agrees with its files -/
structure Synced (env : Env) (w : World) : Prop where
  log : LogInv env w
  side : SideInv env w

theorem Synced.files (h : Synced env w) : SyncedFiles env w.disk := ⟨h.log.files, h.side.files⟩

theorem Synced.congr {w' : World} (h : Synced env w) (hd : w'.disk = w.disk) (hstore : w'.store = w.store) :
    Synced env w' :=
  ⟨h.log.congr hd (hstore ▸ rfl) (hstore ▸ rfl) (hstore ▸ rfl) (hstore ▸ rfl) (hstore ▸ rfl),
    h.side.congr hd (hstore ▸ rfl) (hstore ▸ rfl)⟩

theorem Synced.boxed (h : Synced env w) (hf : follows w.store.deviceOutbox record = true) (hc : Checked env record) :
    Synced env (w.boxed record) :=
  ⟨(h.log.append_other (w := w) (show (Entry.outbox record).stream? = none from rfl) rfl).congr rfl rfl rfl rfl rfl rfl, h.side.boxed hf hc⟩

theorem Synced.record_key (hd : env.HexDigests) (hid : ¬ e.commandId.isEmpty) (h : Synced env w)
    (hnone : w.store.idempotency[dedupeDigest env e]? = none) :
    Synced env (w.keyed (dedupeDigest env e) e.commandId) :=
  ⟨(show LogInv env (w.remembering _ _) from h.log.congr rfl rfl rfl rfl rfl rfl).append_other rfl rfl, h.side.record_key hd hid hnone⟩

theorem Synced.remember_key {commandId : CommandId} (h : Synced env w) (hnone : w.store.idempotency[key]? = none)
    (hr : ¬ env.Reliable) :
    Synced env (w.remembering key commandId).missed :=
  ⟨h.log.congr rfl rfl rfl rfl rfl rfl, h.side.remember_key hnone hr⟩

/-- an invariant of the log and one of the side files are kept together -/
theorem wp_synced {α : Type} {p : StoreM α}
    (hlog : wp World.disk (LogFiles env) (fun _ => LogInv env) (fun _ => LogInv env) p w)
    (hside : wp World.disk (SideFiles env) (fun _ => SideInv env) (fun _ => SideInv env) p w) :
    wp World.disk (SyncedFiles env) (fun _ => Synced env) (fun _ => Synced env) p w :=
  wp_mono (wp_and hlog hside) (fun _ _ hd => ⟨hd.1, hd.2⟩) (fun _ _ hq => ⟨hq.1, hq.2⟩) fun _ _ he => ⟨he.1, he.2⟩

/-- `checked_of_admissible`, as a walk asks for it -/
theorem admitted_checked (hd : env.HexDigests) (device : DeviceId) (envelope : CommandEnvelope)
    (request : DeviceCommandRequest) (nowMs : Int) (record : OutboxRecord) (_ : True)
    (h : Admissible env device envelope request nowMs record) : Checked env record :=
  checked_of_admissible hd h

theorem commandId_of_validate (e : CommandEnvelope) (he : e.validate = .ok ()) : ¬ e.commandId.isEmpty := by
  simp only [CommandEnvelope.validate, seq_eq_ok] at he
  exact nonEmpty_eq_ok.1 he.1

variable (env) in
/-- the agreement of process and files, kept by every primitive -/
def syncedWalk (ht : env.Tolerant) (hd : env.HexDigests) : Walk env where
  files := SyncedFiles env
  inv := Synced env
  failed := Synced env
  effect := CleanEffect
  command _ := True
  record := Checked env
  envelope e := ¬ e.commandId.isEmpty
  weaken _ h := h
  block _ h := ⟨.of_blocked h.log.files h.log.clean rfl, h.side.congr rfl rfl rfl⟩
  tick _ h := ⟨h.log.congr rfl rfl rfl rfl rfl rfl, h.side.congr rfl rfl rfl⟩
  content _ _ h := ⟨h.log.congr rfl rfl rfl rfl rfl rfl, h.side.congr rfl rfl rfl⟩
  acks _ := trivial
  queued w entry h hs _ := by
    obtain ⟨session, hsession⟩ := Option.isSome_iff_exists.1 (Std.ExtTreeMap.contains_eq_isSome_getElem?.symm.trans hs)
    exact h.log.clean.sessions entry.sessionId session hsession
  claimed _ entryId old _ _ h hold := h.log.clean.queue entryId old hold
  admitted := admitted_checked hd
  submitted := commandId_of_validate
  recovered w r h hr := by
    obtain ⟨k, hk⟩ := OrdMap.mem_vals.1 hr
    exact (h.side.checked_of_get hk).commandId
  commit e he w h := wp_synced (keepsLog_applyTrustedCommit ht he w h.log) (keepsSide_applyTrustedCommit ht e w h.side)
  idempotency w e he h hnone := wp_synced (keepsLog_recordIdempotency ht _ _ w h.log)
    (wp_recordIdempotency_side ht hd he h.side hnone)
  insert r hr w h := wp_synced ((keeps_outbox (fun _ => id) (keepsLog_appendOutbox ht)).1 r w h.log)
    (keepsSide_insertInitial ht hr w h.side)
  claim ticket w h := wp_synced ((keeps_outbox (fun _ => id) (keepsLog_appendOutbox ht)).2.1 ticket w h.log)
    (keepsSide_claimRecord ht ticket w h.side)
  complete ticket w h := wp_synced ((keeps_outbox (fun _ => id) (keepsLog_appendOutbox ht)).2.2 ticket w h.log)
    (keepsSide_completeRecord ht ticket w h.side)

/-- the identifiers an operation brings in are left unchanged by `stream_file_name` -/
def Op.Clean : Op → Prop
  | .apply e => CleanEffect e
  | .applyAll effects | .finishDispatch _ effects | .finishQueueDelivery _ effects => ∀ e ∈ effects, CleanEffect e
  | _ => True

/-- **Every operation** keeps process and files in agreement. -/
theorem op_keeps_synced (ht : env.Tolerant) (hd : env.HexDigests) {op : Op} (hc : op.Clean) :
    Keeps World.disk (SyncedFiles env) (Synced env) (Synced env) (op.run env) :=
  Walk.op_keeps (W := syncedWalk env ht hd) (by cases op <;> exact hc)

theorem apply_keeps_synced (ht : env.Tolerant) (hd : env.HexDigests) {e : StateEffect} (he : CleanEffect e) :
    Keeps World.disk (SyncedFiles env) (Synced env) (Synced env) ((Op.apply e).run env) :=
  op_keeps_synced ht hd he

/-! ## Starting -/

theorem readRecords_eq (h : SideFiles env disk) : readRecords env disk = .ok (boxesOn disk) := by
  rw [readRecords, readFile_whole (chunksOf_whole h.outbox.whole), map_entry_chunksOf]
  refine readOutboxFrom_eq_ok.2 ⟨fun p hp => h.checked p.1 ?_ p.2, h.outbox.chain, rfl⟩
  exact List.fst_mem_of_mem_zipIdx hp

/-- what `load` reads when the log replays to `r` and the journal files are a first part of what it yields -/
def readBack (disk : Disk) (r : Replayed) : Store where
  projections := journalOn disk
  deviceOutbox := boxesOn disk
  state := r.state
  cursors := r.cursors
  lastAppendedAtMs := r.lastAppendedAtMs

theorem readStore_eq {r : Replayed} (hl : LogFiles env disk) (hs : SideFiles env disk)
    (hr : replay {} (logRecords disk) = .ok r) (hj : ∀ key, (journalOn disk).entriesOf key <+: r.expected.entriesOf key) :
    readStore env disk = .ok (readBack disk r, r.expected) := by
  have hv : (journalOn disk).Verified := fun key => by
    obtain ⟨rest, hrest⟩ := hj key
    have := (replay_facts hr).verified key
    rw [← hrest, verifyHistory_append] at this
    exact this.1
  unfold readStore
  rw [readJournal_eq hl.streams.whole hv, readRecords_eq hs, readAll_eq hl.streams]
  exact bind_eq_ok.2 ⟨_, rfl, bind_eq_ok.2 ⟨_, rfl, bind_eq_ok.2 ⟨_, rfl, bind_eq_ok.2 ⟨r, hr, rfl⟩⟩⟩⟩

/-- the two disks differ in the projection journal only -/
structure SameRecords (disk disk' : Disk) : Prop where
  log : logRecords disk' = logRecords disk
  outbox : outboxRecords disk' = outboxRecords disk
  idempotency : recordsOf Entry.idempotency? disk' = recordsOf Entry.idempotency? disk

theorem SameRecords.append_view (h : SameRecords disk disk') {envelope : ProjectionEnvelope} {extent : Extent} :
    SameRecords disk (disk' ++ [⟨.projection envelope, extent⟩]) :=
  ⟨by simpa using h.log, by simpa using h.outbox,
    by simpa using h.idempotency⟩

theorem SideFiles.congr (h : SideFiles env disk) (hbox : outboxRecords disk' = outboxRecords disk)
    (hidem : recordsOf Entry.idempotency? disk' = recordsOf Entry.idempotency? disk) (hw : Whole disk') :
    SideFiles env disk' := by
  refine ⟨⟨hw, ?_⟩, ?_, ?_⟩
  · rw [hbox]; exact h.outbox.chain
  · rw [hbox]; exact h.checked
  · rw [readIdempotency_whole hw, hidem, ← readIdempotency_whole h.outbox.whole]
    exact h.idempotency

theorem SideFiles.same (h : SideFiles env disk) (hs : SameRecords disk disk') (hw : Whole disk') :
    SideFiles env disk' := h.congr hs.outbox hs.idempotency hw

/-- the process has read its files and completed the journal -/
structure Restarted (env : Env) (w v : World) : Prop where
  synced : Synced env v
  same : SameRecords w.disk v.disk
  writable : v.store.recoveryRequired = false
  table : readIdempotency v.disk = .ok v.store.idempotency
  content : v.content = w.content

/-- completing the journal leaves the other files and the rest of the process alone -/
theorem keeps_reconcile_same (w : World) (expected : ProjectionJournal) :
    Keeps World.disk (SameRecords w.disk) (fun v => SameRecords w.disk v.disk ∧ v.content = w.content ∧
      v.store.deviceOutbox = w.store.deviceOutbox ∧ v.store.recoveryRequired = w.store.recoveryRequired)
      (fun v => SameRecords w.disk v.disk) (reconcile env expected) := by
  refine keeps_reconcile env (fun _ h => h.1) (fun path envelope v h => ?_) (fun _ _ h => h) expected
  exact wp_appendEntry_any (fun _ => h.1.append_view) ⟨h.1.append_view, h.2⟩ h.1 fun _ _ => h.1.append_view

/-- the log replays, and the journal files are a first part of what it yields -/
def Replays (disk : Disk) : Prop := ∃ r, replay {} (logRecords disk) = .ok r ∧
  ∀ key, (journalOn disk).entriesOf key <+: r.expected.entriesOf key

/-- **A start** reads its files, completes the journal and goes on with the repair of admissions; when the log replays it
fails before that only when an append does. -/
theorem wp_load_replays (ht : env.Tolerant) (h : SyncedFiles env w.disk) {C : Disk → Prop} {Q : Unit → World → Prop}
    {E : StateError → World → Prop} (hC : ∀ disk, SyncedFiles env disk → SameRecords w.disk disk → C disk)
    (herr : ∀ e v, SyncedFiles env v.disk → SameRecords w.disk v.disk → (Replays w.disk → ¬ env.Reliable) → E e v)
    (hrest : ∀ v, Restarted env w v → wp World.disk C Q E (do recoverAdmissions env; collectContent env) v) :
    wp World.disk C Q E (load env) w := by
  have hsame : SameRecords w.disk w.disk := ⟨rfl, rfl, rfl⟩
  refine wp_bind (wp_read (wp_bind (wp_liftExcept (fun read hread => ?_) fun e hread => herr e w h hsame fun hreplays => ?_)))
  swap
  · obtain ⟨r, hr, hj⟩ := hreplays
    rw [readStore_eq h.log h.side hr hj] at hread
    cases hread
  obtain ⟨store, expected⟩ := read
  obtain ⟨r, hback⟩ := readStore_readBack h.log hread
  obtain ⟨table, htable⟩ := h.side.idempotency
  refine wp_bind (wp_modify rfl (wp_bind ?_))
  have hbox : store.deviceOutbox = boxesOn w.disk := readStore_deviceOutbox h.side.outbox.whole hread
  refine wp_mono (wp_and (wp_reconcile ht (w := { w with store := store }) h.log hback)
    (keeps_reconcile_same { w with store := store } expected _ ⟨hsame, rfl, rfl, rfl⟩))
    (fun d _ hd => hC d ⟨hd.1, h.side.same hd.2 hd.1.streams.whole⟩ hd.2) (fun _ v hv => ?_) fun e v hv =>
    herr e v ⟨hv.1.1, h.side.same hv.2 hv.1.1.streams.whole⟩ hv.2 fun hreplays => hv.1.2 ?_
  swap
  · obtain ⟨r', hr', hj⟩ := hreplays
    rw [hback.replayed] at hr'
    cases hr'
    refine not_diverges_of_prefix fun key => ?_
    rw [ProjectionJournal.entriesOf, show store.projections.entries = (journalOn w.disk).entries from hback.entries]
    exact hj key
  obtain ⟨⟨hlog, -⟩, hv, hcontent, hboxes, hflag⟩ := hv
  have hwhole := hlog.files.streams.whole
  have hread' : readIdempotency v.disk = .ok table := by
    rw [readIdempotency_whole hwhole, hv.idempotency, ← readIdempotency_whole h.side.outbox.whole]
    exact htable
  refine wp_bind (wp_liftExcept (fun table' htable' => ?_) fun _ herr' => by rw [htable] at herr'; cases herr')
  rw [htable] at htable'
  cases htable'
  have hside : SideFiles env v.disk := h.side.same hv hwhole
  have hmemory : v.store.deviceOutbox = boxesOn v.disk := by
    rw [hboxes, boxesOn, hv.outbox]
    exact hbox
  refine wp_bind (wp_modify rfl (hrest _ ⟨⟨hlog.congr rfl rfl rfl rfl rfl rfl, ⟨hside.outbox, hmemory⟩, hside.checked, table,
    hread', fun _ _ hk => hk, fun _ => rfl⟩, hv, ?_, hread', hcontent⟩))
  exact hflag.trans hback.writable

/-- a start, while the log is no longer than the cursors -/
theorem wp_load (ht : env.Tolerant) {w : World} (h : SyncedFiles env w.disk) {C : Disk → Prop} {Q : Unit → World → Prop}
    {E : StateError → World → Prop} (hC : ∀ disk, SyncedFiles env disk → SameRecords w.disk disk → C disk)
    (herr : ∀ e v, SyncedFiles env v.disk → SameRecords w.disk v.disk →
      ((logRecords w.disk).length ≤ u64Max → ¬ env.Reliable) → E e v)
    (hrest : ∀ v, Restarted env w v → wp World.disk C Q E (do recoverAdmissions env; collectContent env) v) :
    wp World.disk C Q E (load env) w :=
  wp_load_replays ht h hC (fun e v hv hs hrel => herr e v hv hs fun hsmall => hrel (h.log.replays hsmall)) hrest

/-- **A start** leaves a process that agrees with its files, or files from which the next start can. -/
theorem load_keeps_synced (ht : env.Tolerant) (hd : env.HexDigests) (h : SyncedFiles env w.disk) :
    wp World.disk (SyncedFiles env) (fun _ => Synced env) (fun _ w' => SyncedFiles env w'.disk) (load env) w := by
  refine wp_load ht h (fun _ hd _ => hd) (fun _ _ hv _ _ => hv) fun v hv => ?_
  exact wp_post ((syncedWalk env ht hd).repair_keeps v hv.synced) (fun _ _ hq => hq) fun _ _ he => he.files

end Kaleido.State
