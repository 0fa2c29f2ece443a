/-
Invariants of a process and its files.

`P cur s disk boxes` says something about the state, the files and the outbox while the admission `cur` is under way.
`Held P cur w` says it of a process that agrees with its files and is writable; `Recoverable P disk` says it, for some
admission under way, of what the next start will read. The rules below give what a commit, a line of the outbox and a
line of the idempotency table do to the two (`wp_commit_held`, `wp_appendOutbox_held`, `wp_recordIdempotency_held`), a
process that is blocked writes nothing (`op_blocked`, `blocked_run_idle`), and `Machine.step_held` is the step of a
whole run: what every operation and the repair of admissions keep holds after every crash and every start.
-/
import Kaleido.State.Synced
import Kaleido.State.Growth

namespace Kaleido.State

open Check LineFile Prog Proto

variable {env : Env} {κ : Type} {P : κ → CanonicalState → Disk → Outbox → Prop} {cur cur' : κ} {w : World} {e : StateEffect}
  {record : OutboxRecord}

/-! ## Processes and files -/

/-- the predicate does not look at the projection journal -/
def IgnoresViews (P : κ → CanonicalState → Disk → Outbox → Prop) : Prop :=
  ∀ cur s d d' boxes, SameRecords d d' → P cur s d boxes → P cur s d' boxes

/-- files of which the predicate holds, whatever was under way -/
def Recoverable (P : κ → CanonicalState → Disk → Outbox → Prop) (disk : Disk) : Prop :=
  ∀ r, replay {} (logRecords disk) = .ok r → ∃ cur, P cur r.state disk (boxesOn disk)

variable (env P) in
/-- a process that agrees with its files; while it is writable the predicate holds for `cur` -/
structure Held (cur : κ) (w : World) : Prop where
  synced : Synced env w
  files : Recoverable P w.disk
  records : w.store.recoveryRequired = false → P cur w.store.state w.disk w.store.deviceOutbox

theorem Recoverable.same (hP : IgnoresViews P) {disk disk' : Disk} (h : Recoverable P disk) (hs : SameRecords disk disk') :
    Recoverable P disk' := by
  intro r hr
  rw [hs.log] at hr
  obtain ⟨cur, hcur⟩ := h r hr
  refine ⟨cur, hP _ _ _ _ _ hs ?_⟩
  rw [boxesOn, hs.outbox]
  exact hcur

theorem Held.of_records (hs : Synced env w) (hflag : w.store.recoveryRequired = false)
    (h : P cur w.store.state w.disk w.store.deviceOutbox) : Held env P cur w := by
  refine ⟨hs, fun r hr => ⟨cur, ?_⟩, fun _ => h⟩
  obtain ⟨q, hq⟩ := hs.log.agrees hflag
  rw [hq.replayed] at hr
  cases hr
  rw [← hq.state, ← hs.side.outbox.memory]
  exact h

theorem Held.congr {w' : World} (h : Held env P cur w) (hd : w'.disk = w.disk) (hstore : w'.store = w.store) :
    Held env P cur w' := by
  refine ⟨h.synced.congr hd hstore, hd ▸ h.files, fun hf => ?_⟩
  rw [hd, hstore]
  exact h.records (hstore ▸ hf)

theorem Held.block (h : Held env P cur w) : Held env P cur' { w with store := w.store.block } :=
  ⟨⟨.of_blocked h.synced.log.files h.synced.log.clean rfl, h.synced.side.congr rfl rfl rfl⟩, h.files, fun hf => by cases hf⟩

/-- a process that has read its files holds what they say -/
theorem Restarted.held {v : World} (hP : IgnoresViews P) (h : Restarted env w v) (hf : Recoverable P w.disk) :
    ∃ cur, Held env P cur v := by
  obtain ⟨r, hr⟩ := h.synced.log.agrees h.writable
  obtain ⟨cur, hcur⟩ := (hf.same hP h.same) r hr.replayed
  refine ⟨cur, .of_records h.synced h.writable ?_⟩
  rw [hr.state, h.synced.side.outbox.memory]
  exact hcur

/-! ## Primitives -/

/-- a committed record continues the replay -/
theorem Logged.apply_eq {disk : Disk} {q : Replayed} (h : Logged e w.disk disk) (hflag : w.store.recoveryRequired = false)
    (hs : Synced env w) (hq : replay {} (logRecords disk) = .ok q) : w.store.state.apply e = .ok q.state := by
  obtain ⟨record, rfl, hlog⟩ := h.log
  obtain ⟨r, hagree⟩ := hs.log.agrees hflag
  rw [hlog] at hq
  obtain ⟨r', hr', hstep⟩ := replay_append.1 hq
  rw [hagree.replayed] at hr'
  cases hr'
  obtain ⟨next, -, -, happly, -, -, rfl⟩ := step_eq_ok.1 (replay_single.1 hstep)
  rw [hagree.state]
  exact happly

variable (env P) in
/-- the effect is committed, or it leaves what was held -/
abbrev CommitsHeld (cur cur' : κ) (e : StateEffect) (able : Prop) {α : Type} (p : StoreM α) (w : World) : Prop :=
  wp World.disk (Recoverable P) (fun _ w' => Held env P cur' w' ∧ Committed e w w')
    (fun _ w' => Held env P cur w' ∧ w.SameSides w' ∧ (able → ¬ env.Reliable)) p w

section

variable (cur' : κ) (ht : env.Tolerant) (he : CleanEffect e) (h : Held env P cur w)
  (hnext : w.store.recoveryRequired = false → ∀ s' d, w.store.state.apply e = .ok s' → Logged e w.disk d →
    P cur' s' d w.store.deviceOutbox)
include ht he h hnext

/-- **Committing an effect.** -/
theorem wp_commit_held : CommitsHeld env P cur cur' e (Able w e) (applyTrustedCommit env e) w := by
  cases hflag : w.store.recoveryRequired with
  | true =>
    refine wp_bind (wp_bind (wp_read (wp_require (fun hf => ?_) fun _ => ?_)))
    · rw [hflag] at hf
      cases hf
    · exact ⟨h, ⟨rfl, rfl, rfl⟩, fun ha => by rw [ha.writable] at hflag; cases hflag⟩
  | false =>
    have hfiles : ∀ d, Logged e w.disk d → Recoverable P d := by
      intro d hd q hq
      refine ⟨cur', ?_⟩
      rw [boxesOn, hd.outbox, ← boxesOn, ← h.synced.side.outbox.memory]
      exact hnext hflag _ _ (hd.apply_eq hflag h.synced hq) hd
    refine wp_mono (wp_and (wp_and (wp_commit_log ht he h.synced.log)
      (keepsSide_applyTrustedCommit ht e w h.synced.side)) (wp_commit env e w))
      (fun d _ hd => hfiles d hd.2.1) (fun _ w' hq => ?_) fun _ w' hE => ?_
    · obtain ⟨⟨hl, hs⟩, hc⟩ := hq
      refine ⟨.of_records ⟨hl, hs⟩ hc.writable ?_, hc⟩
      rw [hc.sides.deviceOutbox]
      exact hnext hflag _ _ hc.state hc.logged
    · obtain ⟨⟨⟨hl, hable⟩, hs⟩, hsides, ⟨hblocked, -, hlogged⟩ | ⟨hsame, hdisk⟩⟩ := hE
      · exact ⟨⟨⟨hl, hs⟩, hfiles _ hlogged, fun hf => by rw [hblocked] at hf; cases hf⟩, hsides, hable⟩
      · exact ⟨h.congr (hdisk ht) hsame, hsides, hable⟩

/-- an effect that is applied on trust -/
theorem wp_applyTrusted_held : CommitsHeld env P cur cur' e (Able w e) (applyTrusted env e) w :=
  wp_seq (wp_commit_held _ ht he h hnext) (fun _ _ hq => wp_pure hq) fun _ _ hE => hE

end

/-- an effect that enters from outside: no local acceptance -/
theorem wp_apply_held (cur' : κ) (ht : env.Tolerant) (he : CleanEffect e) (h : Held env P cur w)
    (hnext : w.store.recoveryRequired = false → isLocalAcceptance e = false → ∀ s' d, w.store.state.apply e = .ok s' →
      Logged e w.disk d → P cur' s' d w.store.deviceOutbox) :
    CommitsHeld env P cur cur' e (isLocalAcceptance e = false ∧ Able w e) (apply env e) w := by
  refine wp_bind (wp_bind (wp_require (fun hl => ?_) fun hl => ⟨h, ⟨rfl, rfl, rfl⟩, fun ha => ?_⟩))
  · exact wp_post (wp_commit_held _ ht he h fun hflag s' d => hnext hflag (by simpa using hl) s' d)
      (fun _ _ hq => wp_pure hq) fun _ _ hE => ⟨hE.1, hE.2.1, fun ha => hE.2.2 ha.2⟩
  · exact absurd ha.1 (by simpa using hl)

/-- **A line of the outbox.** -/
theorem wp_appendOutbox_held (cur' : κ) (ht : env.Tolerant) (h : Held env P cur w) (hflag : w.store.recoveryRequired = false)
    (hf : follows w.store.deviceOutbox record = true) (hc : Checked env record)
    (hnext : P cur' w.store.state (w.boxed record).disk (w.store.deviceOutbox.insert record.keyDigest record)) :
    wp World.disk (Recoverable P) (fun _ w' => Held env P cur' w' ∧ w' = w.boxed record)
      (fun _ w' => Held env P cur w' ∧ w'.store = w.store ∧ ¬ env.Reliable) (appendOutbox env record) w := by
  have hdone : Held env P cur' (w.boxed record) := .of_records (h.synced.boxed hf hc) hflag hnext
  exact wp_bind (wp_appendEntry ht ⟨hdone.files, wp_modify rfl ⟨hdone, rfl⟩⟩
    (fun hr => ⟨h.congr rfl rfl, rfl, hr⟩) fun _ hl => by cases hl)

/-- the ticket of a record finds it -/
theorem find_ticketFor {boxes : Outbox} (hkeyed : boxes.Keyed) {k : String} (hk : boxes[k]? = some record) :
    boxes.find env (ticketFor env record) = some record := by
  have hsome : (boxes.find env (ticketFor env record)).isSome = true :=
    List.find?_isSome.2 ⟨record, OrdMap.mem_vals_of_get hk, by simp⟩
  obtain ⟨found, hfound⟩ := Option.isSome_iff_exists.1 hsome
  obtain ⟨⟨k', hk'⟩, hticket⟩ := find_eq_some hfound
  have hcommand : found.envelope.commandId = record.envelope.commandId := congrArg DispatchTicket.commandId hticket
  rw [hkeyed.command k' k found record hk' hk hcommand, hk] at hk'
  rw [hfound, hk']

/-- a new record -/
theorem wp_insertInitial_held (cur' : κ) (ht : env.Tolerant) (hc : Checked env record) (h : Held env P cur w)
    (hflag : w.store.recoveryRequired = false)
    (hnext : w.store.deviceOutbox[record.keyDigest]? = none →
      (∀ (k : String) r, w.store.deviceOutbox[k]? = some r → r.envelope.commandId ≠ record.envelope.commandId) →
      P cur' w.store.state (w.boxed record).disk (w.store.deviceOutbox.insert record.keyDigest record)) :
    wp World.disk (Recoverable P) (fun ticket w' => ticket = ticketFor env record ∧ Held env P cur' w' ∧ w' = w.boxed record)
      (fun _ w' => Held env P cur w' ∧ w'.store = w.store ∧
        (w.store.deviceOutbox.checkInitial record = .ok () → ¬ env.Reliable)) (insertInitial env record) w := by
  refine wp_bind (wp_read (wp_bind (wp_liftExcept (fun _ hok => wp_bind ?_) fun _ herr => ⟨h, rfl, fun hok => ?_⟩)))
  · obtain ⟨hf, hnone⟩ := follows_of_checkInitial hok
    exact wp_post (wp_appendOutbox_held _ ht h hflag hf hc (hnext hnone fun _ _ hk => follows_fresh hf hnone hk)) (fun _ _ hq => wp_pure ⟨rfl, hq⟩) fun _ _ hE => ⟨hE.1, hE.2.1, fun _ => hE.2.2⟩
  · rw [hok] at herr
    cases herr

/-- completing a claimed record -/
theorem wp_completeRecord_held (cur' : κ) (ht : env.Tolerant) (h : Held env P cur w) (hflag : w.store.recoveryRequired = false)
    {k : String} (hk : w.store.deviceOutbox[k]? = some record) (hstatus : record.status = .claimed)
    (hnext : P cur' w.store.state (w.boxed { record with status := .completed }).disk
      (w.store.deviceOutbox.insert record.keyDigest { record with status := .completed })) :
    wp World.disk (Recoverable P) (fun _ w' => Held env P cur' w' ∧ w' = w.boxed { record with status := .completed })
      (fun _ w' => Held env P cur w' ∧ w'.store = w.store ∧ ¬ env.Reliable)
      (completeRecord env (ticketFor env record)) w := by
  have hkeyed := h.synced.side.outbox.keyed
  have hcomplete : w.store.deviceOutbox.complete env (ticketFor env record) = .ok { record with status := .completed } := by
    rw [Outbox.complete, find_ticketFor hkeyed hk]
    exact if_pos hstatus
  refine wp_bind (wp_read (wp_bind (wp_liftExcept (fun completed hok => ?_) fun _ herr => ?_)))
  · rw [hcomplete] at hok
    cases hok
    have hf : follows w.store.deviceOutbox { record with status := .completed } = true :=
      follows_of_status hkeyed hk rfl (by simp [hstatus, validTransition])
    exact wp_appendOutbox_held _ ht h hflag hf ((h.synced.side.checked_of_get hk).status _) hnext
  · rw [hcomplete] at herr
    cases herr

/-- **A line of the idempotency table.** -/
theorem wp_recordIdempotency_held (cur' : κ) (ht : env.Tolerant) (hd : env.HexDigests) {envelope : CommandEnvelope}
    (hid : ¬ envelope.commandId.isEmpty) (h : Held env P cur w) (hflag : w.store.recoveryRequired = false)
    (hnone : w.store.idempotency[dedupeDigest env envelope]? = none)
    (hnext : P cur' w.store.state (w.keyed (dedupeDigest env envelope) envelope.commandId).disk w.store.deviceOutbox) :
    wp World.disk (Recoverable P)
      (fun _ w' => Held env P cur' w' ∧ w' = w.keyed (dedupeDigest env envelope) envelope.commandId)
      (fun _ w' => (Held env P cur w' ∨ Held env P cur' w') ∧ ¬ env.Reliable)
      (recordIdempotency env (dedupeDigest env envelope) envelope.commandId) w := by
  have hdone : Held env P cur' (w.keyed (dedupeDigest env envelope) envelope.commandId) :=
    .of_records (h.synced.record_key hd hid hnone) hflag hnext
  exact wp_bind (wp_modify rfl (wp_appendEntry ht ⟨hdone.files, hdone, rfl⟩
    (fun hr => ⟨.inl ⟨h.synced.remember_key hnone hr, h.files, h.records⟩, hr⟩) fun hr _ => ⟨.inr hdone, hr⟩))

/-! ## A blocked process -/

section

variable {C : Disk → Prop}

/-- the program leaves the store and the files alone -/
abbrev Idle {α : Type} (C : Disk → Prop) (p : StoreM α) (w : World) : Prop :=
  wp World.disk C (fun _ w' => w'.disk = w.disk ∧ w'.store = w.store) (fun _ w' => w'.disk = w.disk ∧ w'.store = w.store) p w

/-- a program that asks for a writable store first does nothing on a blocked one -/
theorem wp_blocked {α : Type} {Q : α → World → Prop} {E : StateError → World → Prop} {f : Unit → StoreM α}
    (hb : w.store.recoveryRequired = true) (hE : E .recoveryRequired w) : wp World.disk C Q E (ensureWritable >>= f) w := by
  refine wp_bind (wp_bind (wp_read (wp_require (fun hf => ?_) fun _ => hE)))
  rw [hb] at hf
  cases hf

theorem wp_commit_blocked {Q : StateCommit → World → Prop} {E : StateError → World → Prop}
    (hb : w.store.recoveryRequired = true) (hE : E .recoveryRequired w) :
    wp World.disk C Q E (applyTrustedCommit env e) w := wp_blocked hb hE

theorem idle_apply (hb : w.store.recoveryRequired = true) : Idle C (apply env e) w :=
  wp_bind (wp_bind (wp_require (fun _ => wp_commit_blocked hb ⟨rfl, rfl⟩) fun _ => ⟨rfl, rfl⟩))

theorem idle_applyAll (hb : w.store.recoveryRequired = true) (effects : List StateEffect) :
    Idle C (applyAll env effects) w := by
  refine wp_bind ?_
  cases effects with
  | nil => exact wp_pure (wp_pure ⟨rfl, rfl⟩)
  | cons e rest =>
    refine wp_bind (wp_bind (wp_bind (wp_require (fun _ => wp_commit_blocked hb ⟨rfl, rfl⟩) fun _ => ⟨rfl, rfl⟩)))

theorem idle_submitCommand (hb : w.store.recoveryRequired = true) (envelope : CommandEnvelope) (nowMs : Int) :
    Idle C (submitCommand env envelope nowMs) w := by
  -- neither an entry nor an acknowledgement can be written
  refine wp_submit (K := (· = w)) (fun _ => ⟨rfl, rfl⟩) (fun _ _ => ⟨rfl, rfl⟩) (fun _ _ _ _ => ?_) (fun _ _ _ => rfl) ?_
  · exact wp_bind (wp_bind (wp_require (fun _ => wp_commit_blocked hb ⟨rfl, rfl⟩) fun _ => ⟨rfl, rfl⟩))
  · rintro v rfl
    exact wp_bind (wp_bind (wp_commit_blocked hb ⟨rfl, rfl⟩))

theorem idle_of_content {α : Type} {p : StoreM α} (hp : ∃ content, (p w).2 = { w with content := content }) :
    Idle C p w := by
  obtain ⟨content, hp⟩ := hp
  refine wp_of_log_eq (by rw [hp]) ?_
  generalize p w = r at hp
  obtain ⟨_ | _, w'⟩ := r <;> (cases hp; exact ⟨rfl, rfl⟩)

/-- **A blocked process** writes nothing. -/
theorem op_blocked (hb : w.store.recoveryRequired = true) (op : Op) : Idle C (op.run env) w := by
  cases op with
  | apply e => exact wp_map (idle_apply hb)
  | applyAll effects => exact wp_map (idle_applyAll hb effects)
  | submitCommand envelope nowMs => exact wp_map (idle_submitCommand hb envelope nowMs)
  | writeContentForDevice deviceId request bytes nowMs =>
    exact wp_map (idle_of_content (writeContentForDevice_world env deviceId request bytes nowMs w))
  | storeContent kind sensitivity bytes => exact wp_map (idle_of_content (storeContent_world env kind sensitivity bytes w))
  | _ => exact wp_map (wp_blocked hb ⟨rfl, rfl⟩)

end

/-! ## Runs -/

/-- the repair of admissions, from whatever was under way -/
def Repairs (env : Env) (P : κ → CanonicalState → Disk → Outbox → Prop) (idle : κ) : Prop :=
  ∀ cur v, Held env P cur v → v.store.recoveryRequired = false → readIdempotency v.disk = .ok v.store.idempotency →
    wp World.disk (Recoverable P) (fun _ => Held env P idle) (fun _ w' => Recoverable P w'.disk) (recoverAdmissions env) v

/-- **A start.** -/
theorem load_held (ht : env.Tolerant) (hd : env.HexDigests) (hP : IgnoresViews P) {idle : κ} (hrepair : Repairs env P idle)
    (h : SyncedFiles env w.disk) (hf : Recoverable P w.disk) :
    wp World.disk (fun d => SyncedFiles env d ∧ Recoverable P d) (fun _ => Held env P idle)
      (fun _ w' => SyncedFiles env w'.disk ∧ Recoverable P w'.disk) (load env) w := by
  refine wp_post (wp_and (load_keeps_synced ht hd h) ?_) (fun _ _ hq => hq.2) fun _ _ hE => hE
  refine wp_load ht h (fun _ _ hs => hf.same hP hs) (fun _ _ _ hs _ => hf.same hP hs) fun v hv => ?_
  obtain ⟨cur, hcur⟩ := hv.held hP hf
  refine wp_seq (hrepair cur v hcur hv.writable hv.table) (fun _ u hu => ?_) fun _ _ hE => hE
  refine wp_of_log_eq rfl ?_
  exact hu.congr rfl rfl

/-- **One event** of a run: what every operation keeps, and the repair of admissions restores, holds of the files at all
times and of a process that is up; and the files are only extended. -/
theorem Machine.step_held (ht : env.Tolerant) (hd : env.HexDigests) (hP : IgnoresViews P) {idle : κ}
    (hrepair : Repairs env P idle) {m : Machine} {event : Event}
    (h : m.Holds (fun d => SyncedFiles env d ∧ Recoverable P d) (Held env P idle))
    (hop : ∀ op, (event = .call op ∨ ∃ survive, event = .crash op survive) → m.up = true → op.Clean ∧
      (m.world.store.recoveryRequired = false → wp World.disk (Recoverable P) (fun _ => Held env P idle)
        (fun _ => Held env P idle) (op.run env) m.world)) :
    (m.step env event).Holds (fun d => SyncedFiles env d ∧ Recoverable P d) (Held env P idle) ∧
      m.world.disk <+: (m.step env event).world.disk := by
  refine step_holds env (fun w hw => ⟨hw.synced.files, hw.files⟩) h (fun op hev hup => ?_) fun _ _ =>
    load_held ht hd hP hrepair h.files.1 h.files.2
  obtain ⟨hclean, hwrite⟩ := hop op hev hup
  refine wp_post (wp_and (op_keeps_synced ht hd hclean m.world (h.process hup).synced) ?_)
    (fun _ _ hq => hq.2) fun _ _ hE => hE.2
  cases hflag : m.world.store.recoveryRequired with
  | false => exact hwrite hflag
  | true =>
    exact wp_post (op_blocked hflag op) (fun _ _ hq => (h.process hup).congr hq.1 hq.2)
      fun _ _ hE => (h.process hup).congr hE.1 hE.2

end Kaleido.State
