/-
At-most-once dispatch.

The outbox file is a chain: each line starts a record for a key and a command the file does not know, or repeats the
record of its key one status later. Every operation extends the chain (`op_keeps_outbox`), so does a start, and the
process's own copy of the outbox is what the chain says (`OutboxInv`). A record that has left Ready never returns to it
(`Spent.mono`), a claim needs a Ready record and leaves it Claimed, so a command is dispatched at most once over any run
with any number of crashes (`dispatched_at_most_once`).
-/
import Kaleido.State.Files
import Kaleido.State.Walk

namespace Kaleido.State

open Check LineFile Prog Proto

variable {boxes : Outbox} {l : List OutboxRecord} {r : OutboxRecord} {c : CommandId} {disk : Disk}
  {ticket : DispatchTicket} {w : World} {entry : Entry} {m : Machine}

/-! ## The chain of outbox lines -/

/-- the outbox lines on disk -/
abbrev outboxRecords (disk : Disk) : List OutboxRecord := recordsOf Entry.outbox? disk

/-- the outbox after some lines -/
def boxesFrom (boxes : Outbox) (records : List OutboxRecord) : Outbox :=
  records.foldl (fun boxes record => boxes.insert record.keyDigest record) boxes

/-- each line follows from the ones before it -/
def Chain : Outbox → List OutboxRecord → Prop
  | _, [] => True
  | boxes, record :: rest => follows boxes record = true ∧ Chain (boxes.insert record.keyDigest record) rest

/-- the outbox the lines on disk add up to -/
abbrev boxesOn (disk : Disk) : Outbox := boxesFrom ∅ (outboxRecords disk)

theorem chain_append {l' : List OutboxRecord} :
    Chain boxes (l ++ l') ↔ Chain boxes l ∧ Chain (boxesFrom boxes l) l' := by
  induction l generalizing boxes with
  | nil => simp [Chain, boxesFrom]
  | cons r l ih => simp [Chain, boxesFrom, ih, and_assoc]

/-- every record is stored under its own key, and no two keys share a command -/
structure Outbox.Keyed (boxes : Outbox) : Prop where
  key : ∀ (k : String) r, boxes[k]? = some r → r.keyDigest = k
  command : ∀ (k k' : String) r r', boxes[k]? = some r → boxes[k']? = some r' →
    r.envelope.commandId = r'.envelope.commandId → k = k'

theorem keyed_empty : Outbox.Keyed (∅ : Outbox) := ⟨by simp, by simp⟩

theorem follows_of_get (h : follows boxes r = true) {previous : OutboxRecord} (hp : boxes[r.keyDigest]? = some previous) :
    previous.requestDigest = r.requestDigest ∧
      previous.envelope = r.envelope ∧ previous.admissionAck = r.admissionAck ∧
      validTransition previous.status r.status = true := by
  simp only [follows, hp, Bool.and_eq_true, decide_eq_true_eq] at h
  exact ⟨h.1.1.1, h.1.1.2, h.1.2, h.2⟩

theorem follows_fresh (h : follows boxes r = true) (hp : boxes[r.keyDigest]? = none) {k : String} {r' : OutboxRecord}
    (hk : boxes[k]? = some r') :
    r'.envelope.commandId ≠ r.envelope.commandId := by
  simp only [follows, hp, Bool.not_eq_true', List.any_eq_false, decide_eq_true_eq] at h
  exact h r' (OrdMap.mem_vals_of_get hk)

theorem keyed_insert (h : boxes.Keyed) (hf : follows boxes r = true) :
    Outbox.Keyed (boxes.insert r.keyDigest r) := by
  -- the command of `r` is at no other key: it is fresh, or it is the command of the record `r` replaces
  have own : ∀ (k : String) r', boxes[k]? = some r' → r'.envelope.commandId = r.envelope.commandId → k = r.keyDigest := by
    intro k r' hk hc
    cases hp : boxes[r.keyDigest]? with
    | none => exact absurd hc (follows_fresh hf hp hk)
    | some previous =>
      refine h.command k r.keyDigest r' previous hk hp ?_
      rw [hc, (follows_of_get hf hp).2.1]
  refine ⟨OrdMap.forall_insert h.key rfl, fun k k' r₁ r₂ h₁ h₂ hc => ?_⟩
  rcases OrdMap.of_get_insert h₁ with ⟨rfl, rfl⟩ | ⟨-, h₁⟩ <;> rcases OrdMap.of_get_insert h₂ with ⟨rfl, rfl⟩ | ⟨-, h₂⟩
  · rfl
  · rw [own k' r₂ h₂ hc.symm]
  · rw [own k r₁ h₁ hc]
  · exact h.command k k' r₁ r₂ h₁ h₂ hc

theorem keyed_boxesFrom (h : boxes.Keyed) (hl : Chain boxes l) :
    (boxesFrom boxes l).Keyed := by
  induction l generalizing boxes with
  | nil => exact h
  | cons r l ih => exact ih (keyed_insert h hl.1) hl.2

/-! ## A record that has left Ready -/

/-- the command has a record that has left Ready -/
def Spent (boxes : Outbox) (commandId : CommandId) : Prop :=
  ∃ (k : String) (r : OutboxRecord), boxes[k]? = some r ∧ r.envelope.commandId = commandId ∧ r.status ≠ .ready

theorem validTransition_ne_ready {a b : OutboxStatus} (h : validTransition a b = true) : b ≠ .ready := by
  cases a <;> cases b <;> simp_all [validTransition]

theorem spent_insert (hf : follows boxes r = true) (h : Spent boxes c) : Spent (boxes.insert r.keyDigest r) c := by
  obtain ⟨k, r', hk, hc, hs⟩ := h
  by_cases heq : r.keyDigest = k
  · subst heq
    obtain ⟨-, henv, -, htr⟩ := follows_of_get hf hk
    refine ⟨r.keyDigest, r, by simp, ?_, validTransition_ne_ready htr⟩
    rw [← henv, hc]
  · exact ⟨k, r', by simp [OrdMap.get_insert, heq, hk], hc, hs⟩

theorem spent_boxesFrom (hl : Chain boxes l) (h : Spent boxes c) : Spent (boxesFrom boxes l) c := by
  induction l generalizing boxes with
  | nil => exact h
  | cons r l ih => exact ih hl.2 (spent_insert hl.1 h)

/-- a longer file has left Ready at least as often -/
theorem Spent.mono {disk' : Disk} (hp : disk <+: disk') (hc : Chain ∅ (outboxRecords disk')) (h : Spent (boxesOn disk) c) :
    Spent (boxesOn disk') c := by
  obtain ⟨t, ht⟩ : outboxRecords disk <+: outboxRecords disk' := recordsOf_prefix hp
  rw [← ht, chain_append] at hc
  rw [boxesOn, ← ht, boxesFrom, List.foldl_append]
  exact spent_boxesFrom hc.2 h

/-! ## What the operations on the outbox write -/

variable {env : Env}

theorem find_eq_some (h : boxes.find env ticket = some r) :
    (∃ k : String, boxes[k]? = some r) ∧ ticketFor env r = ticket := by
  refine ⟨OrdMap.mem_vals.1 (List.mem_of_find?_eq_some h), ?_⟩
  simpa using List.find?_some h

/-- a claim takes a Ready record to Claimed -/
theorem claim_eq_ok {claimed : OutboxRecord} (h : boxes.claim env ticket = .ok claimed) :
    ∃ (k : String) (r : OutboxRecord), boxes[k]? = some r ∧
      r.status = .ready ∧ claimed = { r with status := .claimed } ∧ ticketFor env r = ticket := by
  unfold Outbox.claim at h
  split at h
  · cases h
  · rename_i r hr
    obtain ⟨⟨k, hk⟩, ht⟩ := find_eq_some hr
    split_ifs at h with hs
    cases h
    exact ⟨k, r, hk, hs, rfl, ht⟩

/-- a completion takes a Claimed record to Completed -/
theorem complete_eq_ok {completed : OutboxRecord} (h : boxes.complete env ticket = .ok completed) :
    ∃ (k : String) (r : OutboxRecord), boxes[k]? = some r ∧
      r.status = .claimed ∧ completed = { r with status := .completed } ∧ ticketFor env r = ticket := by
  unfold Outbox.complete at h
  split at h
  · cases h
  · rename_i r hr
    obtain ⟨⟨k, hk⟩, ht⟩ := find_eq_some hr
    split_ifs at h with hs
    cases h
    exact ⟨k, r, hk, hs, rfl, ht⟩

theorem follows_of_status {k : String} {r' : OutboxRecord} (hkey : boxes.Keyed) (hk : boxes[k]? = some r)
    (hr : r' = { r with status := r'.status }) (hs : validTransition r.status r'.status = true) : follows boxes r' = true := by
  have hkd : r'.keyDigest = k := by rw [hr]; exact hkey.key k r hk
  rw [hr] at hkd ⊢
  simp only at hkd
  simp [follows, hkd, hk, hs]

theorem follows_of_checkInitial (h : boxes.checkInitial r = .ok ()) :
    follows boxes r = true ∧ boxes[r.keyDigest]? = none := by
  simp only [Outbox.checkInitial, ensure_eq_ok, not_or, Bool.not_eq_true] at h
  have hnone : boxes[r.keyDigest]? = none := by
    rw [← Option.not_isSome_iff_eq_none, ← Std.ExtTreeMap.contains_eq_isSome_getElem?, h.1]
    simp
  exact ⟨by simp [follows, hnone, h.2], hnone⟩

/-! ## Every operation extends the chain -/

/-- the files hold whole lines and a chain of outbox lines -/
structure OutboxFile (disk : Disk) : Prop where
  whole : Whole disk
  chain : Chain ∅ (outboxRecords disk)

/-- the process's outbox is the one on disk -/
structure OutboxInv (w : World) : Prop where
  file : OutboxFile w.disk
  memory : w.store.deviceOutbox = boxesOn w.disk

theorem OutboxFile.keyed (h : OutboxFile disk) : (boxesOn disk).Keyed := keyed_boxesFrom keyed_empty h.chain

theorem OutboxInv.keyed (h : OutboxInv w) : w.store.deviceOutbox.Keyed := h.memory ▸ h.file.keyed

/-- the invariant looks at the outbox and the disk only -/
theorem OutboxInv.congr {w' : World} (h : OutboxInv w) (hm : w'.store.deviceOutbox = w.store.deviceOutbox)
    (hd : w'.disk = w.disk) : OutboxInv w' := ⟨hd ▸ h.file, by rw [hm, hd, h.memory]⟩

theorem outboxFile_append (h : OutboxFile disk) (hf : ∀ r, entry = .outbox r → follows (boxesOn disk) r = true) :
    OutboxFile (disk ++ [⟨entry, .whole⟩]) := by
  refine ⟨whole_append_single h.whole, ?_⟩
  rw [outboxRecords, recordsOf_append, recordsOf_single, chain_append]
  refine ⟨h.chain, ?_⟩
  cases entry with
  | outbox r => exact ⟨hf r rfl, trivial⟩
  | _ => trivial

/-- the rules below are about programs that keep the outbox invariant -/
abbrev KeepsOutbox {α : Type} (p : StoreM α) : Prop := Keeps World.disk OutboxFile OutboxInv OutboxInv p

/-- an append to another file leaves the outbox alone -/
theorem OutboxInv.append_other (h : OutboxInv w) (hne : entry.outbox? = none) :
    OutboxInv (w.appended entry) := by
  refine ⟨outboxFile_append h.file (fun r hr => by subst hr; cases hne), ?_⟩
  simp only [World.appended, boxesOn, outboxRecords, recordsOf_append, recordsOf_single, hne, Option.toList_none,
    List.append_nil]
  exact h.memory

theorem keepsOutbox_appendEntry (ht : env.Tolerant) {path : String} (hne : entry.outbox? = none) :
    KeepsOutbox (appendEntry env path entry) := fun _ h =>
  wp_appendEntry ht ⟨(h.append_other hne).file, h.append_other hne⟩ (fun _ => h.congr rfl rfl) fun _ _ => h.append_other hne

theorem keepsOutbox_applyTrustedCommit (ht : env.Tolerant) (effect : StateEffect) :
    KeepsOutbox (applyTrustedCommit env effect) :=
  keeps_applyTrustedCommit env (fun _ h => h) (fun _ h => h.congr rfl rfl) (fun _ h => h.congr rfl rfl)
    (fun _ _ _ => keepsOutbox_appendEntry ht rfl) (fun _ _ => keepsOutbox_appendEntry ht rfl)
    (fun _ _ h hbox _ => h.congr hbox rfl)

theorem keepsOutbox_recordIdempotency (ht : env.Tolerant) (key : String) (commandId : CommandId) :
    KeepsOutbox (recordIdempotency env key commandId) :=
  Keeps.bind (Keeps.modify (fun _ => rfl) fun _ h => h.congr rfl rfl) fun _ => keepsOutbox_appendEntry ht rfl

/-- the world after an outbox record is appended to file and memory -/
def World.boxed (w : World) (record : OutboxRecord) : World :=
  { w.appended (.outbox record) with
    store := { w.store with deviceOutbox := w.store.deviceOutbox.insert record.keyDigest record } }

/-- a line that follows from the outbox is appended to file and memory -/
theorem OutboxInv.boxed {record : OutboxRecord} (h : OutboxInv w) (hf : follows w.store.deviceOutbox record = true) :
    OutboxInv (w.boxed record) ∧
      boxesOn (w.boxed record).disk = (boxesOn w.disk).insert record.keyDigest record := by
  have hboxes : boxesOn (w.boxed record).disk = (boxesOn w.disk).insert record.keyDigest record := by
    simp [World.boxed, boxesOn, outboxRecords, boxesFrom]
  refine ⟨⟨outboxFile_append h.file (fun r hr => by cases hr; rw [← h.memory]; exact hf), ?_⟩, hboxes⟩
  rw [hboxes, ← h.memory]
  rfl

theorem wp_appendOutbox (ht : env.Tolerant) {record : OutboxRecord} (h : OutboxInv w)
    (hf : follows w.store.deviceOutbox record = true) :
    wp World.disk OutboxFile
      (fun _ w' => OutboxInv w' ∧ boxesOn w'.disk = (boxesOn w.disk).insert record.keyDigest record)
      (fun _ => OutboxInv) (appendOutbox env record) w :=
  wp_bind (wp_appendEntry ht ⟨(h.boxed hf).1.file, wp_modify rfl (h.boxed hf)⟩ (fun _ => h.congr rfl rfl)
    fun _ hl => by cases hl)

theorem keepsOutbox_insertInitial (ht : env.Tolerant) (record : OutboxRecord) :
    KeepsOutbox (insertInitial env record) := by
  intro w h
  refine wp_bind (wp_read (wp_bind (wp_liftExcept (fun _ hok => wp_bind ?_) fun _ _ => h)))
  exact wp_post (wp_appendOutbox ht h (follows_of_checkInitial hok).1)
    (fun _ _ hq => wp_pure hq.1) fun _ _ he => he

/-- **A claim** takes a command that had not left Ready, and the command has left Ready afterwards. -/
theorem wp_claimRecord (ht : env.Tolerant) (h : OutboxInv w) (ticket : DispatchTicket) :
    wp World.disk OutboxFile
      (fun envelope w' => OutboxInv w' ∧ envelope.commandId = ticket.commandId ∧
        ¬ Spent (boxesOn w.disk) envelope.commandId ∧ Spent (boxesOn w'.disk) envelope.commandId)
      (fun _ => OutboxInv) (claimRecord env ticket) w := by
  refine wp_bind (wp_read (wp_bind (wp_liftExcept (fun claimed hok => wp_bind ?_) fun _ _ => h)))
  obtain ⟨k, r, hk, hr, rfl, hticket⟩ := claim_eq_ok hok
  have hf : follows w.store.deviceOutbox { r with status := .claimed } = true :=
    follows_of_status h.keyed hk rfl (by simp [hr, validTransition])
  refine wp_post (wp_appendOutbox ht h hf) (fun _ w' hq => wp_pure ⟨hq.1, ?_, ?_, ?_⟩) fun _ _ he => he
  · rw [← hticket]; rfl
  · rintro ⟨k', r', hk', hc, hs⟩
    rw [← h.memory] at hk'
    have : k' = k := h.keyed.command k' k r' r hk' hk hc
    subst this
    rw [hk] at hk'
    cases hk'
    exact hs hr
  · rw [hq.2]
    exact ⟨r.keyDigest, { r with status := .claimed }, by simp, rfl, by simp⟩

theorem keepsOutbox_completeRecord (ht : env.Tolerant) (ticket : DispatchTicket) :
    KeepsOutbox (completeRecord env ticket) := by
  intro w h
  refine wp_bind (wp_read (wp_bind (wp_liftExcept (fun completed hok => ?_) fun _ _ => h)))
  obtain ⟨k, r, hk, hr, rfl, -⟩ := complete_eq_ok hok
  have hf : follows w.store.deviceOutbox { r with status := .completed } = true :=
    follows_of_status h.keyed hk rfl (by simp [hr, validTransition])
  exact wp_post (wp_appendOutbox ht h hf) (fun _ _ hq => hq.1) fun _ _ he => he

variable (env) in
/-- the outbox invariant, kept by every primitive -/
def outboxWalk (ht : env.Tolerant) : Walk env where
  files := OutboxFile
  inv := OutboxInv
  failed := OutboxInv
  effect _ := True
  command _ := True
  record _ := True
  envelope _ := True
  weaken _ h := h
  block _ h := h.congr rfl rfl
  tick _ h := h.congr rfl rfl
  content _ _ h := h.congr rfl rfl
  acks _ := trivial
  queued _ _ _ _ _ := trivial
  claimed _ _ _ _ _ _ _ := trivial
  admitted _ _ _ _ _ _ _ := trivial
  submitted _ _ := trivial
  recovered _ _ _ _ := trivial
  commit effect _ := keepsOutbox_applyTrustedCommit ht effect
  idempotency w _ _ h _ := keepsOutbox_recordIdempotency ht _ _ w h
  insert record _ := keepsOutbox_insertInitial ht record
  claim ticket _ h := wp_post (wp_claimRecord ht h ticket) (fun _ _ hq => hq.1) fun _ _ he => he
  complete ticket := keepsOutbox_completeRecord ht ticket

theorem op_keeps_outbox (ht : env.Tolerant) (op : Op) : KeepsOutbox (op.run env) :=
  Walk.op_keeps (W := outboxWalk env ht) (by cases op <;> simp [Walk.Admits, outboxWalk])

/-- **`claim_dispatch`** returns an envelope only for a command that had not left Ready. -/
theorem wp_claimDispatch (ht : env.Tolerant) (h : OutboxInv w) (ticket : DispatchTicket) :
    wp World.disk OutboxFile
      (fun claim w' => OutboxInv w' ∧ ¬ Spent (boxesOn w.disk) claim.envelope.commandId ∧
        Spent (boxesOn w'.disk) claim.envelope.commandId)
      (fun _ => OutboxInv) (claimDispatch env ticket) w := by
  refine wp_bind (wp_bind (wp_read (wp_require (fun _ => wp_bind ?_) fun _ => h)))
  exact wp_post (wp_claimRecord ht h ticket)
    (fun _ _ hq => wp_pure ⟨hq.1, hq.2.2.1, hq.2.2.2⟩) fun _ _ he => he

/-- **`reject_ready_dispatch`** succeeds only for a command that had not left Ready. -/
theorem wp_rejectReadyDispatch (ht : env.Tolerant) (h : OutboxInv w) (ticket : DispatchTicket) (atMs : Int) :
    wp World.disk OutboxFile
      (fun _ w' => OutboxInv w' ∧ ¬ Spent (boxesOn w.disk) ticket.commandId ∧ Spent (boxesOn w'.disk) ticket.commandId)
      (fun _ => OutboxInv) (rejectReadyDispatch env ticket atMs) w := by
  refine wp_bind (wp_bind (wp_read (wp_require (fun _ => wp_bind (wp_read ?_)) fun _ => h)))
  split
  · exact wp_fail h
  · refine wp_bind (wp_require (fun _ => wp_bind ?_) fun _ => h)
    refine wp_post (wp_claimRecord ht h ticket) (fun envelope w₁ hq => ?_) fun _ _ he => he
    obtain ⟨hinv, hcmd, hfresh, hspent⟩ := hq
    rw [hcmd] at hfresh hspent
    have hrest : KeepsOutbox (do
        let checkpoint ← read (·.store.projections.checkpoint)
        let _ ← apply env (.commandAcknowledged (unavailableAck envelope.commandId atMs))
        completeRecord env ticket
        changesSince env checkpoint) :=
      Keeps.bind Keeps.read fun _ => Keeps.bind ((outboxWalk env ht).parts.apply _ trivial) fun _ =>
        Keeps.bind (keepsOutbox_completeRecord ht _) fun _ => Keeps.read
    -- having left Ready survives everything that is appended later
    have hkept := hrest.and_stable (S := fun d => Spent (boxesOn d) ticket.commandId) (fun _ h => h.file) (fun _ h => h.file)
      fun _ _ hext hfile hs => hs.mono hext hfile.chain
    exact wp_post (hkept w₁ ⟨hinv, hspent⟩) (fun _ _ hq => ⟨hq.1, hfresh, hq.2⟩) fun _ _ he => he.1

/-! ## A start reads the chain back -/

/-- a verified outbox file is the outbox its lines add up to -/
theorem readOutboxFrom_eq_ok {n : Nat} {boxes' : Outbox} {records : List OutboxRecord} :
    readOutboxFrom env n boxes records = .ok boxes' ↔
      (∀ p ∈ records.zipIdx n, checkRecord env p.2 p.1 = .ok ()) ∧ Chain boxes records ∧
        boxes' = boxesFrom boxes records := by
  induction records generalizing n boxes with
  | nil => simp [readOutboxFrom, Chain, boxesFrom, eq_comm]
  | cons r l ih =>
    have hline : ∀ b, readOutboxRecord env n boxes r = .ok b ↔
        checkRecord env n r = .ok () ∧ follows boxes r = true ∧ b = boxes.insert r.keyDigest r := fun b => by
      simp only [readOutboxRecord, seq_eq_ok, ensure_eq_ok, pure_eq_ok, eq_comm (a := b)]
    simp only [readOutboxFrom, bind_eq_ok, hline, ih, List.zipIdx_cons, List.mem_cons, forall_eq_or_imp, Chain, boxesFrom,
      List.foldl_cons]
    constructor
    · rintro ⟨b, ⟨hr, hf, rfl⟩, hl, hc, hb'⟩
      exact ⟨⟨hr, hl⟩, ⟨hf, hc⟩, hb'⟩
    · rintro ⟨⟨hr, hl⟩, ⟨hf, hc⟩, hb'⟩
      exact ⟨_, ⟨hr, hf, rfl⟩, hl, hc, hb'⟩

theorem readRecords_eq_ok (hw : Whole disk) (h : readRecords env disk = .ok boxes) :
    boxes = boxesOn disk := by
  rw [readRecords, readFile_whole (chunksOf_whole hw), map_entry_chunksOf] at h
  exact (readOutboxFrom_eq_ok.1 h).2.2

theorem readStore_deviceOutbox {store : Store} {expected : ProjectionJournal} (hw : Whole disk)
    (h : readStore env disk = .ok (store, expected)) : store.deviceOutbox = boxesOn disk := by
  simp only [readStore, bind_eq_ok] at h
  obtain ⟨_, -, boxes, hb, _, -, _, -, h⟩ := h
  cases h
  exact readRecords_eq_ok hw hb

theorem keepsOutbox_reconcile (ht : env.Tolerant) (expected : ProjectionJournal) :
    KeepsOutbox (reconcile env expected) :=
  keeps_reconcile env (fun _ h => h) (fun _ _ => keepsOutbox_appendEntry ht rfl) (fun _ _ h => h.congr rfl rfl) expected

/-- a start keeps the chain, and the process it leaves agrees with it -/
theorem load_keeps_outbox (ht : env.Tolerant) (h : OutboxFile w.disk) :
    wp World.disk OutboxFile (fun _ => OutboxInv) (fun _ w' => OutboxFile w'.disk) (load env) w := by
  refine (outboxWalk env ht).start_keeps (fun _ h => h) (fun _ h => h.file) h (fun store expected hr => ?_)
    fun _ _ h => h.congr rfl rfl
  exact wp_post (keepsOutbox_reconcile ht expected _ ⟨h, readStore_deviceOutbox h.whole hr⟩) (fun _ _ hq => hq)
    fun _ _ he => he.file

/-! ## Runs -/

/-- what holds in every state of a run -/
structure DispatchInv (m : Machine) : Prop where
  outbox : m.Holds OutboxFile OutboxInv
  down : m.Down

theorem dispatchInv_init : DispatchInv {} where
  outbox := ⟨⟨by simp [Whole], trivial⟩, fun _ => ⟨⟨by simp [Whole], trivial⟩, rfl⟩⟩
  down := by simp [Machine.Down]

theorem step_dispatchInv (ht : env.Tolerant) (m : Machine) (e : Event) (h : DispatchInv m) :
    DispatchInv (m.step env e) ∧ m.world.disk <+: (m.step env e).world.disk := by
  obtain ⟨hh, hext⟩ := Machine.step_holds env (e := e) (fun _ hI => hI.file) h.outbox
    (fun op _ hup => op_keeps_outbox ht op _ (h.outbox.process hup)) fun _ _ => load_keeps_outbox ht h.outbox.files
  exact ⟨⟨hh, m.step_down env h.down e⟩, hext⟩

theorem run_dispatchInv (ht : env.Tolerant) (h : DispatchInv m) (events : List Event) :
    DispatchInv (m.run env events) ∧ m.world.disk <+: (m.run env events).world.disk := by
  induction events generalizing m with
  | nil => exact ⟨h, List.prefix_rfl⟩
  | cons e events ih =>
    obtain ⟨hm, hext⟩ := step_dispatchInv ht m e h
    obtain ⟨hr, hext'⟩ := ih hm
    exact ⟨hr, hext.trans hext'⟩

variable (env) in
/-- the dispatches of a command an event performs: a claim that returned its envelope, or a rejection that succeeded -/
def dispatches (commandId : CommandId) (m : Machine) (e : Event) : Nat :=
  match e, m.reply env e with
  | .call (.claimDispatch _), some (.ok (.claim claim)) => if claim.envelope.commandId = commandId then 1 else 0
  | .call (.rejectReadyDispatch ticket _), some (.ok _) => if ticket.commandId = commandId then 1 else 0
  | _, _ => 0

/-- a dispatch takes a command that had not left Ready, and it has left Ready afterwards -/
theorem step_dispatches (ht : env.Tolerant) (h : DispatchInv m) (e : Event) (c : CommandId) :
    dispatches env c m e = 0 ∨ dispatches env c m e = 1 ∧ ¬ Spent (boxesOn m.world.disk) c ∧
      Spent (boxesOn (m.step env e).world.disk) c := by
  unfold dispatches
  split
  · rename_i ticket claim hreply
    obtain ⟨hup, hrun⟩ := Machine.run_of_reply env hreply
    obtain ⟨claim', hclaim, heq⟩ := map_eq_ok.1 hrun
    cases heq
    obtain ⟨-, hfresh, hspent⟩ := wp_ok (wp_claimDispatch ht (h.outbox.process hup) ticket) hclaim
    split_ifs with hc
    · exact .inr ⟨rfl, hc ▸ hfresh, hc ▸ hspent⟩
    · exact .inl rfl
  · rename_i ticket atMs reply hreply
    obtain ⟨hup, hrun⟩ := Machine.run_of_reply env hreply
    obtain ⟨projections, hreject, -⟩ := map_eq_ok.1 hrun
    obtain ⟨-, hfresh, hspent⟩ := wp_ok (wp_rejectReadyDispatch ht (h.outbox.process hup) ticket atMs) hreject
    split_ifs with hc
    · exact .inr ⟨rfl, hc ▸ hfresh, hc ▸ hspent⟩
    · exact .inl rfl
  · exact .inl rfl

/-- any command is dispatched at most once -/
theorem tally_dispatches (ht : env.Tolerant) (h : DispatchInv m) (events : List Event) (c : CommandId) :
    tally (Machine.step env) (dispatches env c) m events ≤ 1 := by
  refine (tally_once (P := fun _ _ => True) (S := fun m => Spent (boxesOn m.world.disk) c)
    (fun m e hm _ => (step_dispatchInv ht m e hm).1) (fun m e hm _ hs => ?_) (fun m e hm _ => step_dispatches ht hm e c) h
    (along_of_forall fun _ _ _ => trivial)).1
  obtain ⟨hm', hext⟩ := step_dispatchInv ht m e hm
  exact hs.mono hext hm'.outbox.files.chain

/-- a Claimed line on disk means that the command has left Ready -/
theorem spent_of_claimed (hl : Chain boxes l) (hr : r ∈ l) (hs : r.status ≠ .ready) :
    Spent (boxesFrom boxes l) r.envelope.commandId := by
  induction l generalizing boxes with
  | nil => cases hr
  | cons r' l ih =>
    rcases List.mem_cons.1 hr with rfl | hr
    · change Spent (boxesFrom (boxes.insert r.keyDigest r) l) _
      exact spent_boxesFrom hl.2 ⟨r.keyDigest, r, by simp, rfl, hs⟩
    · exact ih hl.2 hr

/-- a command that has left Ready is not pending -/
theorem not_pending_of_spent (h : DispatchInv m) (hs : Spent (boxesOn m.world.disk) c) {p : PendingDispatch}
    (hp : p ∈ m.world.store.pendingDispatches env) : p.envelope.commandId ≠ c := by
  rintro rfl
  simp only [Store.pendingDispatches, Outbox.pending, List.mem_map, List.mem_filter, decide_eq_true_eq] at hp
  obtain ⟨r, ⟨hr, hready⟩, rfl⟩ := hp
  obtain ⟨k, hk⟩ := OrdMap.mem_vals.1 hr
  obtain ⟨k', r', hk', hc, hs⟩ := hs
  cases hup : m.up with
  | false =>
    rw [h.down hup] at hk
    simp at hk
  | true =>
    have hinv := h.outbox.process hup
    rw [← hinv.memory] at hk'
    obtain rfl := hinv.keyed.command k' k r' r hk' hk hc
    rw [hk] at hk'
    cases hk'
    exact hs hready

/-- **At-most-once dispatch.** Over every interleaving of operations, crashes between any two appends and starts, a
command is handed out by `claim_dispatch` or closed by `reject_ready_dispatch` at most once in all, and once a Claimed
line for it has reached the disk it is never pending again. -/
theorem dispatched_at_most_once (env : Env) (hio : env.Reliable) (events : List Event) (c : CommandId) :
    tally (Machine.step env) (dispatches env c) {} events ≤ 1 ∧
      ∀ before after, events = before ++ after →
        (∃ r ∈ outboxRecords (Machine.run env {} before).world.disk, r.envelope.commandId = c ∧ r.status = .claimed) →
        ∀ p ∈ (Machine.run env {} events).world.store.pendingDispatches env, p.envelope.commandId ≠ c := by
  refine ⟨tally_dispatches hio.tolerant dispatchInv_init events c, ?_⟩
  rintro before after rfl ⟨r, hr, rfl, hclaimed⟩ p hp
  obtain ⟨hbefore, -⟩ := run_dispatchInv hio.tolerant dispatchInv_init before
  obtain ⟨hafter, hext⟩ := run_dispatchInv hio.tolerant hbefore after
  rw [Machine.run, runFrom_append] at hp
  have hspent : Spent (boxesOn (Machine.run env {} before).world.disk) r.envelope.commandId :=
    spent_of_claimed hbefore.outbox.files.chain hr (by simp [hclaimed])
  exact not_pending_of_spent hafter (hspent.mono hext hafter.outbox.files.chain) hp

/-- an interrupt is claimed, the process is killed during a second claim and started again, and a third claim is refused -/
def interruptEvents : List Event :=
  sampleSetup ++ [.call (sampleAdmission sampleInterrupt), .call (.claimDispatch (sampleTicket sampleInterrupt)),
    .crash (.claimDispatch (sampleTicket sampleInterrupt)) 0, .start,
    .call (.claimDispatch (sampleTicket sampleInterrupt))]

theorem interrupt_dispatched_once : sampleEnv.Reliable ∧
    tally (Machine.step sampleEnv) (dispatches sampleEnv ⟨"cmd_a"⟩) {} interruptEvents = 1 ∧
    tally (Machine.step sampleEnv) (dispatches sampleEnv ⟨"cmd_a"⟩) {} interruptEvents ≤ 1 :=
  ⟨fun _ _ => rfl, by decide +kernel, (dispatched_at_most_once sampleEnv (fun _ _ => rfl) interruptEvents ⟨"cmd_a"⟩).1⟩

end Kaleido.State
