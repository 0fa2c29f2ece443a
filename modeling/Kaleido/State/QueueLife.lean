/-
The life of a queue entry across restarts.

The log gives every entry its states one after another (`entryStates`). While an input is enqueued only under an identifier
that is not in the queue, a finished delivery writes no other entry, and nobody else acknowledges an input as enqueued
(`Op.Queues`), an entry goes through `Pending`, `Submitting` and `DeliveredAsNewTurn` at most once and in this order
(`Lifecycle`), at every crash point. `QueueLife` is the invariant; it also names the one admission that a crash may have cut
short. Admissions, claims and the repair of admissions keep it (`wp_admit_life`, `wp_claim_life`, `repairs_life`).
-/
import Kaleido.State.Held
import Kaleido.State.Reached
import Kaleido.State.QueueOrder

namespace Kaleido.State

open Check LineFile Prog Proto CanonicalState

variable {env : Env} {k : String} {envelope : CommandEnvelope} {v : World} {sessionId : SessionId} {body : ContentRef}
  {intent : QueueIntent} {states : List QueueState} {entryId : QueueEntryId}

/-! ## The states of an entry -/

/-- the state an effect gives to an entry -/
def stateGiven (k : QueueEntryId) : StateEffect → Option QueueState
  | .queueEntryUpserted entry => if entry.id = k then some entry.state else none
  | _ => none

/-- the states an entry was given, in the order of the log -/
def entryStates (disk : Disk) (k : QueueEntryId) : List QueueState := (effectsOf disk).filterMap (stateGiven k)

/-- an entry is enqueued, claimed and delivered, each at most once -/
inductive Lifecycle : List QueueState → Prop
  | absent : Lifecycle []
  | pending : Lifecycle [.pending]
  | submitting (c : CommandId) : Lifecycle [.pending, .submitting c]
  | delivered (c : CommandId) (turnId : TurnId) (atMs : Int) :
      Lifecycle [.pending, .submitting c, .deliveredAsNewTurn turnId atMs]

theorem Logged.entryStates {e : StateEffect} {disk disk' : Disk} (h : Logged e disk disk') (k : QueueEntryId) :
    entryStates disk' k = entryStates disk k ++ (stateGiven k e).toList := by
  rw [State.entryStates, h.effectsOf, List.filterMap_append]
  cases he : stateGiven k e <;> simp [State.entryStates, he]

/-! ## The invariant -/

/-- the windows of an admission: until the command is acknowledged no other input is enqueued under its entry, and a refused
input is still refused -/
structure Window (env : Env) (s : CanonicalState) (r : OutboxRecord) : Prop where
  status : r.status = .claimed
  notAccepted : isAcceptedLocally r.admissionAck.outcome = false
  enqueued : acksOf s r.envelope.commandId = [] →
    r.admissionAck.outcome = .enqueued (queueEntryId env r.envelope.commandId) →
    ∀ ack ∈ s.acks, ack.outcome ≠ .enqueued (queueEntryId env r.envelope.commandId)
  refused : acksOf s r.envelope.commandId = [] →
    r.admissionAck.outcome ≠ .enqueued (queueEntryId env r.envelope.commandId) →
    enqueues env s r.envelope r.envelope.issuedAtMs = none

/-- `claims` are the entries that claims were made for, `commands` the inputs admitted -/
structure QueueLife (env : Env) (claims : Set QueueEntryId) (commands : Set CommandId) (cur : Option CommandId)
    (s : CanonicalState) (disk : Disk) (boxes : Outbox) : Prop where
  ids : ∀ (k : QueueEntryId) entry, s.queue[k]? = some entry → entry.id = k
  current : ∀ k : QueueEntryId, (s.queue[k]?.map fun entry => entry.state) = (entryStates disk k).getLast?
  life : ∀ k, Lifecycle (entryStates disk k)
  claimed : ∀ k c, QueueState.submitting c ∈ entryStates disk k → k ∈ claims
  acked : ∀ ack ∈ s.acks, ∀ k, ack.outcome = .enqueued k →
    k = queueEntryId env ack.commandId ∧ ack.commandId ∈ commands ∧ s.queue[k]? ≠ none
  oneCommand : ∀ ack ∈ s.acks, ∀ ack' ∈ s.acks, ∀ k, ack.outcome = .enqueued k → ack'.outcome = .enqueued k →
    ack.commandId = ack'.commandId
  submitting : ∀ (k : QueueEntryId) entry c, s.queue[k]? = some entry → entry.state = .submitting c →
    ∃ ack ∈ s.acks, ack.commandId = c ∧ ack.outcome = .enqueued k
  inputs : ∀ (k : String) r, boxes[k]? = some r → r.envelope.commandId ∈ commands ∧
    ∃ sessionId body intent, r.envelope.body = .enqueueInput sessionId body intent
  underWay : ∀ (k : String) r, boxes[k]? = some r → r.status ≠ .completed →
    cur = some r.envelope.commandId ∧ Window env s r

variable {claims : Set QueueEntryId} {commands : Set CommandId} {cur : Option CommandId} {s s' : CanonicalState}
  {d d' : Disk} {boxes : Outbox} {e : StateEffect} {entry : QueueEntry} {ack : CommandAck} {r record : OutboxRecord}
  {w : World}

variable (env claims commands) in
/-- the program returns with `Q`, or fails with the admission `cur` under way -/
abbrev Lives {α : Type} (cur : Option CommandId) (Q : α → World → Prop) : StoreM α → World → Prop :=
  wp World.disk (Recoverable (QueueLife env claims commands)) Q fun _ => Held env (QueueLife env claims commands) cur

/-- the windows of the records under way stay -/
def Windows (env : Env) (boxes : Outbox) (s s' : CanonicalState) : Prop :=
  ∀ (k : String) r, boxes[k]? = some r → r.status ≠ .completed → Window env s r → Window env s' r

theorem QueueLife.windows (h : QueueLife env claims commands cur s d boxes) (hwindows : Windows env boxes s s') (k : String)
    (r : OutboxRecord) (hk : boxes[k]? = some r) (hst : r.status ≠ .completed) :
    cur = some r.envelope.commandId ∧ Window env s' r := by
  obtain ⟨hcur, hw⟩ := h.underWay k r hk hst
  exact ⟨hcur, hwindows k r hk hst hw⟩

/-- only the log matters -/
theorem QueueLife.of_log (h : QueueLife env claims commands cur s d boxes) (hlog : logRecords d' = logRecords d) :
    QueueLife env claims commands cur s d' boxes := by
  have hstates : ∀ k, entryStates d' k = entryStates d k := fun k => by
    rw [entryStates, effectsOf, hlog]
    rfl
  exact { h with
    current := fun k => hstates k ▸ h.current k
    life := fun k => hstates k ▸ h.life k
    claimed := fun k c hc => h.claimed k c (hstates k ▸ hc) }

theorem queueLife_ignoresViews : IgnoresViews (QueueLife env claims commands) :=
  fun _ _ _ _ _ hs h => h.of_log hs.log

/-- without an unfinished record nothing is under way -/
theorem QueueLife.idle (h : QueueLife env claims commands cur s d boxes)
    (hdone : ∀ (k : String) r, boxes[k]? = some r → r.status = .completed) :
    QueueLife env claims commands none s d boxes :=
  { h with underWay := fun k r hk hst => absurd (hdone k r hk) hst }

theorem QueueLife.completed (h : QueueLife env claims commands none s d boxes) (hk : boxes[k]? = some r) :
    r.status = .completed := by
  by_contra hst
  exact absurd (h.underWay k r hk hst).1 (by simp)

/-- an entry is written in the next state of its life -/
theorem QueueLife.upsert (h : QueueLife env claims commands cur s d boxes)
    (happly : s.apply (.queueEntryUpserted entry) = .ok s') (hd : Logged (.queueEntryUpserted entry) d d')
    (hlife : Lifecycle (entryStates d entry.id ++ [entry.state]))
    (hclaim : ∀ c, entry.state = .submitting c → entry.id ∈ claims ∧
      ∃ ack ∈ s.acks, ack.commandId = c ∧ ack.outcome = .enqueued entry.id)
    (hwindows : Windows env boxes s s') :
    QueueLife env claims commands cur s' d' boxes := by
  have hq : s'.queue = s.queue.insert entry.id entry := apply_queue happly
  have hacks : s'.acks = s.acks := by simpa using apply_acks happly
  have hself : entryStates d' entry.id = entryStates d entry.id ++ [entry.state] := by
    rw [hd.entryStates]
    simp [stateGiven]
  have hother : ∀ k, entry.id ≠ k → entryStates d' k = entryStates d k := fun k hk => by
    rw [hd.entryStates]
    simp [stateGiven, hk]
  have hget : ∀ k : QueueEntryId, entry.id ≠ k → s'.queue[k]? = s.queue[k]? := fun k hk => by
    rw [hq, OrdMap.get_insert, if_neg hk]
  have hgetself : s'.queue[entry.id]? = some entry := by rw [hq, OrdMap.get_insert_self]
  refine ⟨fun k e hk => ?_, fun k => ?_, fun k => ?_, fun k c hc => ?_, fun ack hmem k hout => ?_, hacks ▸ h.oneCommand,
    fun k e c hk hst => ?_, h.inputs, h.windows hwindows⟩
  · by_cases heq : entry.id = k
    · subst heq
      rw [hgetself] at hk
      cases hk
      rfl
    · exact h.ids k e (hget k heq ▸ hk)
  · by_cases heq : entry.id = k
    · subst heq
      rw [hgetself, hself]
      simp
    · rw [hget k heq, hother k heq]
      exact h.current k
  · by_cases heq : entry.id = k
    · subst heq
      rw [hself]
      exact hlife
    · rw [hother k heq]
      exact h.life k
  · by_cases heq : entry.id = k
    · subst heq
      rw [hself, List.mem_append, List.mem_singleton] at hc
      rcases hc with hc | hc
      · exact h.claimed _ c hc
      · exact (hclaim c hc.symm).1
    · exact h.claimed k c (hother k heq ▸ hc)
  · rw [hacks] at hmem
    obtain ⟨hid, hcommand, hqueue⟩ := h.acked ack hmem k hout
    refine ⟨hid, hcommand, ?_⟩
    rw [hq, OrdMap.get_insert]
    split_ifs
    · simp
    · exact hqueue
  · rw [hacks]
    by_cases heq : entry.id = k
    · subst heq
      rw [hgetself] at hk
      cases hk
      exact (hclaim c hst).2
    · exact h.submitting k e c (hget k heq ▸ hk) hst

/-- an effect that neither writes an entry nor acknowledges an input as enqueued -/
def leavesQueue : StateEffect → Bool
  | .queueEntryUpserted _ => false
  | .commandAcknowledged ack => match ack.outcome with
    | .enqueued _ => false
    | _ => true
  | _ => true

theorem leavesQueue_of_ne (h : ∀ k, ack.outcome ≠ .enqueued k) : leavesQueue (.commandAcknowledged ack) = true := by
  cases hout : ack.outcome with
  | enqueued k => exact absurd hout (h k)
  | _ => simp [leavesQueue, hout]

theorem stateGiven_of_leavesQueue (he : leavesQueue e = true) (k : QueueEntryId) : stateGiven k e = none := by
  cases e with
  | queueEntryUpserted entry => cases he
  | _ => rfl

theorem map_queue_of_leavesQueue (he : leavesQueue e = true) (happly : s.apply e = .ok s') (k : QueueEntryId) :
    (s'.queue[k]?.map fun entry => (entry.id, entry.sessionId, entry.state)) =
      s.queue[k]?.map fun entry => (entry.id, entry.sessionId, entry.state) := by
  rw [apply_queue happly]
  cases e with
  | queueEntryUpserted entry => cases he
  | queueReordered sessionId order => exact map_reorderQueue _ (fun _ _ => rfl) _ _ _ _
  | _ => rfl

/-- such an effect, while nothing is under way or the command under way is acknowledged -/
theorem QueueLife.keep (h : QueueLife env claims commands cur s d boxes) (he : leavesQueue e = true)
    (happly : s.apply e = .ok s') (hd : Logged e d d')
    (hwindows : Windows env boxes s s') :
    QueueLife env claims commands cur s' d' boxes := by
  have hstates : ∀ k, entryStates d' k = entryStates d k := fun k => by
    rw [hd.entryStates, stateGiven_of_leavesQueue he]
    simp
  have hmap := map_queue_of_leavesQueue he happly
  have hold : ∀ (k : QueueEntryId) entry, s'.queue[k]? = some entry →
      ∃ old, s.queue[k]? = some old ∧ old.id = entry.id ∧ old.state = entry.state := by
    intro k entry hk
    have := hmap k
    rw [hk] at this
    obtain ⟨old, hold, heq⟩ := Option.map_eq_some_iff.1 this.symm
    exact ⟨old, hold, congrArg Prod.fst heq, congrArg (fun p => p.2.2) heq⟩
  have hsome : ∀ k : QueueEntryId, s.queue[k]? ≠ none → s'.queue[k]? ≠ none := by
    intro k hk hnone
    have := hmap k
    rw [hnone] at this
    exact hk (Option.map_eq_none_iff.1 this.symm)
  -- the acknowledgements that say "enqueued" are the old ones
  have hacks : ∀ ack ∈ s'.acks, ∀ k, ack.outcome = .enqueued k → ack ∈ s.acks := by
    intro ack hmem k hout
    rw [apply_acks happly, List.mem_append] at hmem
    rcases hmem with hmem | hmem
    · exact hmem
    · cases e with
      | commandAcknowledged new =>
        rw [List.mem_singleton.1 hmem] at hout
        simp [leavesQueue, hout] at he
      | _ => simp at hmem
  have hmono : ∀ ack ∈ s.acks, ack ∈ s'.acks := fun ack hmem => by
    rw [apply_acks happly]
    exact List.mem_append_left _ hmem
  refine ⟨fun k entry hk => ?_, fun k => ?_, fun k => hstates k ▸ h.life k, fun k c hc => h.claimed k c (hstates k ▸ hc),
    fun ack hmem k hout => ?_, fun ack hmem ack' hmem' k hout hout' => ?_, fun k entry c hk hst => ?_, h.inputs,
    h.windows hwindows⟩
  · obtain ⟨old, hold, hid, -⟩ := hold k entry hk
    exact hid ▸ h.ids k old hold
  · have := congrArg (Option.map fun p : QueueEntryId × SessionId × QueueState => p.2.2) (hmap k)
    simp only [Option.map_map, Function.comp_def] at this
    rw [hstates k, ← h.current k]
    exact this
  · obtain ⟨hid, hcommand, hqueue⟩ := h.acked ack (hacks ack hmem k hout) k hout
    exact ⟨hid, hcommand, hsome k hqueue⟩
  · exact h.oneCommand ack (hacks ack hmem k hout) ack' (hacks ack' hmem' k hout') k hout hout'
  · obtain ⟨old, hold, -, hstate⟩ := hold k entry hk
    obtain ⟨ack, hmem, hack⟩ := h.submitting k old c hold (hstate.trans hst)
    exact ⟨ack, hmono ack hmem, hack⟩

/-- the acknowledgement of an input as enqueued -/
theorem QueueLife.acknowledge (h : QueueLife env claims commands cur s d boxes)
    (happly : s.apply (.commandAcknowledged ack) = .ok s') (hd : Logged (.commandAcknowledged ack) d d')
    (hout : ack.outcome = .enqueued (queueEntryId env ack.commandId)) (hcommand : ack.commandId ∈ commands)
    (hqueue : s.queue[queueEntryId env ack.commandId]? ≠ none)
    (hfirst : ∀ old ∈ s.acks, old.outcome ≠ .enqueued (queueEntryId env ack.commandId))
    (hwindows : Windows env boxes s s') :
    QueueLife env claims commands cur s' d' boxes := by
  have hq : s'.queue = s.queue := apply_queue happly
  have hacks : s'.acks = s.acks ++ [ack] := apply_acks happly
  have hstates : ∀ k, entryStates d' k = entryStates d k := fun k => by
    rw [hd.entryStates]
    simp [stateGiven]
  have hmem : ∀ old ∈ s'.acks, ∀ k, old.outcome = .enqueued k →
      old ∈ s.acks ∧ k ≠ queueEntryId env ack.commandId ∨ old = ack ∧ k = queueEntryId env ack.commandId := by
    intro old hold k hk
    rw [hacks, List.mem_append, List.mem_singleton] at hold
    rcases hold with hold | rfl
    · exact .inl ⟨hold, fun heq => hfirst old hold (heq ▸ hk)⟩
    · rw [hout] at hk
      exact .inr ⟨rfl, (CommandOutcome.enqueued.inj hk).symm⟩
  refine ⟨hq ▸ h.ids, fun k => ?_, fun k => hstates k ▸ h.life k, fun k c hc => h.claimed k c (hstates k ▸ hc),
    fun old hold k hk => ?_, fun old hold old' hold' k hk hk' => ?_, fun k entry c hk hst => ?_, h.inputs,
    h.windows hwindows⟩
  · rw [hq, hstates k]
    exact h.current k
  · rw [hq]
    rcases hmem old hold k hk with ⟨hin, -⟩ | ⟨rfl, rfl⟩
    · exact h.acked old hin k hk
    · exact ⟨rfl, hcommand, hqueue⟩
  · rcases hmem old hold k hk with ⟨hin, hne⟩ | ⟨rfl, rfl⟩
    · rcases hmem old' hold' k hk' with ⟨hin', -⟩ | ⟨-, heq⟩
      · exact h.oneCommand old hin old' hin' k hk hk'
      · exact absurd heq hne
    · rcases hmem old' hold' _ hk' with ⟨-, hne⟩ | ⟨rfl, -⟩
      · exact absurd rfl hne
      · rfl
  · obtain ⟨old, hin, hold⟩ := h.submitting k entry c (hq ▸ hk) hst
    exact ⟨old, hacks ▸ List.mem_append_left _ hin, hold⟩

/-! ## Submitting the command under way -/

/-- once the command is acknowledged the window is closed -/
theorem Window.acknowledged (h : Window env s r) (happly : s.apply (.commandAcknowledged ack) = .ok s')
    (hc : ack.commandId = r.envelope.commandId) : Window env s' r := by
  have hacks : acksOf s' r.envelope.commandId ≠ [] := by
    rw [acksOf, apply_acks happly, List.filter_append]
    simp [hc]
  exact ⟨h.status, h.notAccepted, fun hnone => absurd hnone hacks, fun hnone => absurd hnone hacks⟩

/-- the record under way is the only unfinished one -/
theorem QueueLife.only (h : QueueLife env claims commands cur s d boxes) (hkeyed : boxes.Keyed) {k' : String}
    (hk : boxes[k]? = some r) (hst : r.status ≠ .completed) (hk' : boxes[k']? = some record)
    (hst' : record.status ≠ .completed) : record = r := by
  have hc := (h.underWay k r hk hst).1
  rw [(h.underWay k' record hk' hst').1] at hc
  rw [hkeyed.command k' k record r hk' hk (Option.some.inj hc), hk] at hk'
  exact (Option.some.inj hk').symm

/-- the entry of a known session goes to a clean stream -/
theorem cleanEffect_queued (h : Synced env w) {nowMs : Int} (hentry : enqueues env w.store.state envelope nowMs = some entry) :
    CleanEffect (.queueEntryUpserted entry) := by
  obtain ⟨sessionId, body, intent, -, hs, rfl, -⟩ := enqueues_eq_some hentry
  obtain ⟨session, hsession⟩ := Option.isSome_iff_exists.1 (Std.ExtTreeMap.contains_eq_isSome_getElem?.symm.trans hs)
  exact h.log.clean.sessions sessionId session hsession

section

variable {k : String} {nowMs : Int}

/-- the process goes on with the record under way -/
structure Repairing (env : Env) (claims : Set QueueEntryId) (commands : Set CommandId) (r : OutboxRecord) (w v : World) :
    Prop where
  held : Held env (QueueLife env claims commands) (some r.envelope.commandId) v
  writable : v.store.recoveryRequired = false
  boxes : v.store.deviceOutbox = w.store.deviceOutbox

/-- what is known while a command is under way in `w` -/
structure Submitting (env : Env) (claims : Set QueueEntryId) (commands : Set CommandId) (r : OutboxRecord) (w v : World) : Prop
    extends Repairing env claims commands r w v where
  idempotency : v.store.idempotency = w.store.idempotency

/-- an acknowledgement that leaves the queue alone, or is the first one of an entry that is there -/
def Acknowledges (env : Env) (s : CanonicalState) (r : OutboxRecord) (ack : CommandAck) : Prop :=
  leavesQueue (.commandAcknowledged ack) = true ∨ ack.outcome = .enqueued (queueEntryId env r.envelope.commandId) ∧
    s.queue[queueEntryId env r.envelope.commandId]? ≠ none ∧
    ∀ old ∈ s.acks, old.outcome ≠ .enqueued (queueEntryId env r.envelope.commandId)

/-- an input that is enqueued has a new entry, which its record promises -/
def EnqueuesNew (env : Env) (s : CanonicalState) (r : OutboxRecord) (nowMs : Int) : Prop :=
  enqueues env s r.envelope nowMs ≠ none → s.queue[queueEntryId env r.envelope.commandId]? = none ∧
    r.admissionAck.outcome = .enqueued (queueEntryId env r.envelope.commandId) ∧
    ∀ ack ∈ s.acks, ack.outcome ≠ .enqueued (queueEntryId env r.envelope.commandId)

/-- the acknowledgement of the command under way -/
theorem wp_applyAck_life (ht : env.Tolerant) (h : Held env (QueueLife env claims commands) (some r.envelope.commandId) v)
    (hflag : v.store.recoveryRequired = false) (hk : v.store.deviceOutbox[k]? = some r)
    (hc : ack.commandId = r.envelope.commandId) (hout : Acknowledges env v.store.state r ack) :
    Lives env claims commands (some r.envelope.commandId)
      (fun _ u => Held env (QueueLife env claims commands) (some r.envelope.commandId) u ∧
        Committed (.commandAcknowledged ack) v u)
      (applyTrusted env (.commandAcknowledged ack)) v := by
  have hlife := h.records hflag
  refine wp_post (wp_applyTrusted_held (some r.envelope.commandId) ht trivial h fun _ s' d happly hlogged => ?_) (fun _ _ hq => hq) fun _ _ hE => hE.1
  have hwindows : Windows env v.store.deviceOutbox v.store.state s' := fun k' r' hk' hst hw =>
    hw.acknowledged happly (hc.trans (Option.some.inj (hlife.underWay k' r' hk' hst).1))
  rcases hout with hleave | ⟨hout, hqueue, hfirst⟩
  · exact hlife.keep hleave happly hlogged hwindows
  · rw [← hc] at hout hqueue hfirst
    exact hlife.acknowledge happly hlogged hout (hc ▸ (hlife.inputs k r hk).1) hqueue hfirst hwindows

/-- the acknowledgement and the key of the command under way -/
theorem wp_acknowledge_life (ht : env.Tolerant) (hd : env.HexDigests) (h : Submitting env claims commands r w v)
    (hk : w.store.deviceOutbox[k]? = some r) (hnone : w.store.idempotency[dedupeDigest env r.envelope]? = none)
    (hc : ack.commandId = r.envelope.commandId) (hout : Acknowledges env v.store.state r ack) :
    Lives env claims commands (some r.envelope.commandId) (fun _ => Repairing env claims commands r w)
      (acknowledge env r.envelope ack) v := by
  have hk' : v.store.deviceOutbox[k]? = some r := h.boxes ▸ hk
  refine wp_seq (wp_applyAck_life ht h.held h.writable hk' hc hout) (fun _ u hu => ?_)
    fun _ _ hE => hE
  obtain ⟨hheld, hcommitted⟩ := hu
  refine wp_seq (wp_recordIdempotency_held (some r.envelope.commandId) ht hd
    (h.held.synced.side.checked_of_get hk').commandId hheld hcommitted.writable ?_ ?_)
    (fun _ u' hu' => wp_pure ?_) fun _ _ hE => hE.1.elim id id
  · rw [hcommitted.sides.idempotency, h.idempotency]
    exact hnone
  · exact (hheld.records hcommitted.writable).of_log
      (by simp [World.keyed, World.remembering, World.appended, recordsOf_single, Entry.stream?])
  · rw [hu'.2]
    exact ⟨hu'.2 ▸ hu'.1, hcommitted.writable, hcommitted.sides.deviceOutbox.trans h.boxes⟩

/-- **Submitting the command under way.** An input is enqueued only if its entry is new. -/
theorem wp_submit_life (ht : env.Tolerant) (hd : env.HexDigests)
    (h : Held env (QueueLife env claims commands) (some r.envelope.commandId) w) (hflag : w.store.recoveryRequired = false)
    (hk : w.store.deviceOutbox[k]? = some r) (hst : r.status ≠ .completed) (hnew : EnqueuesNew env w.store.state r nowMs) :
    Lives env claims commands (some r.envelope.commandId) (fun _ => Repairing env claims commands r w)
      (submitCommand env r.envelope nowMs) w := by
  by_cases hnone : w.store.idempotency[dedupeDigest env r.envelope]? = none
  swap
  · refine wp_submit (K := fun _ => False) (fun _ => h) (fun _ _ => ⟨h, hflag, rfl⟩) (fun _ hn => absurd hn hnone)
      (fun _ hn => absurd hn hnone) fun _ hf => hf.elim
  have hlife := h.records hflag
  refine wp_submit (K := fun v => Submitting env claims commands r w v ∧ Acknowledges env v.store.state r
      ⟨r.envelope.commandId, submitOutcome env w.store.state r.envelope nowMs, nowMs⟩)
    (fun _ => h) (fun _ hdup => by rw [hnone] at hdup; cases hdup) (fun _ _ entry hentry => ?_) (fun _ _ hnot => ?_)
    fun v hv => wp_acknowledge_life ht hd hv.1 hk hnone rfl hv.2
  · -- the entry is written
    obtain ⟨hqueue, hadm, hfirst⟩ := hnew (by rw [hentry]; simp)
    obtain ⟨sessionId, body, intent, -, -, hqueued, hout⟩ := enqueues_eq_some hentry
    have hid : entry.id = queueEntryId env r.envelope.commandId := by rw [hqueued]; rfl
    have hpending : entry.state = .pending := by rw [hqueued]; rfl
    refine wp_post (wp_apply_held (some r.envelope.commandId) ht (cleanEffect_queued h.synced hentry) h
      fun _ _ s' d happly hlogged => ?_) (fun _ v hv => ?_) fun _ _ hE => hE.1
    · refine hlife.upsert happly hlogged ?_ (fun c hc => by rw [hpending] at hc; cases hc) fun k' r' hk' hst' hw => ?_
      · have hcurrent := hlife.current entry.id
        rw [hid, hqueue, ← hid] at hcurrent
        rw [List.getLast?_eq_none_iff.1 hcurrent.symm, hpending]
        exact .pending
      · rw [hlife.only h.synced.side.outbox.keyed hk hst hk' hst'] at hw ⊢
        have hacks : s'.acks = w.store.state.acks := by simpa using apply_acks happly
        refine ⟨hw.status, hw.notAccepted, fun hno => ?_, fun _ hne => absurd hadm hne⟩
        rw [acksOf, hacks] at hno
        rw [hacks]
        exact hw.enqueued hno
    · obtain ⟨hheld, hcommitted⟩ := hv
      refine ⟨⟨⟨hheld, hcommitted.writable, hcommitted.sides.deviceOutbox⟩, hcommitted.sides.idempotency⟩, .inr ⟨hout, ?_, ?_⟩⟩
      · rw [apply_queue hcommitted.state, ← hid, OrdMap.get_insert_self]
        simp
      · rw [show v.store.state.acks = w.store.state.acks by simpa using apply_acks hcommitted.state]
        exact hfirst
  · refine ⟨⟨⟨h, hflag, rfl⟩, rfl⟩, .inl ?_⟩
    exact leavesQueue_of_ne (enqueues_eq_none hnot)

/-! ## Admitting an input -/

/-- the record of a new admission -/
theorem QueueLife.insert (record : OutboxRecord) (h : QueueLife env claims commands none s d boxes) (hlog : logRecords d' = logRecords d)
    (hin : record.envelope.commandId ∈ commands)
    (hbody : ∃ sessionId body intent, record.envelope.body = .enqueueInput sessionId body intent)
    (hwindow : Window env s record) :
    QueueLife env claims commands (some record.envelope.commandId) s d' (boxes.insert record.keyDigest record) := by
  refine { h.of_log hlog with inputs := OrdMap.forall_insert h.inputs ⟨hin, hbody⟩, underWay := fun k r hk hst => ?_ }
  rcases OrdMap.of_get_insert hk with ⟨-, rfl⟩ | ⟨-, hk⟩
  · exact ⟨rfl, hwindow⟩
  · exact absurd (h.completed hk) hst

/-- the record under way is completed -/
theorem QueueLife.complete (h : QueueLife env claims commands cur s d boxes) (hkeyed : boxes.Keyed)
    (hlog : logRecords d' = logRecords d) (hk : boxes[k]? = some r) (hst : r.status ≠ .completed) :
    QueueLife env claims commands none s d' (boxes.insert r.keyDigest { r with status := .completed }) := by
  refine { h.of_log hlog with
    inputs := OrdMap.forall_insert h.inputs (h.inputs k r hk), underWay := fun k' r' hk' hst' => ?_ }
  rcases OrdMap.of_get_insert hk' with ⟨-, rfl⟩ | ⟨hne, hk'⟩
  · exact absurd rfl hst'
  · rw [h.only hkeyed hk hst hk' hst'] at hk'
    exact absurd (hkeyed.key k' r hk') hne

theorem isAcceptedLocally_input (hbody : envelope.body = .enqueueInput sessionId body intent) :
    isAcceptedLocally (submitOutcome env s envelope nowMs) = false := by
  unfold submitOutcome sessionOutcome
  rw [hbody]
  simp only
  split_ifs <;> rfl

/-- an input is admitted with the outcome that its submission will have -/
theorem preview_input (hbody : envelope.body = .enqueueInput sessionId body intent) :
    previewDeviceAdmission env s boxes envelope nowMs =
      (⟨envelope.commandId, submitOutcome env s envelope nowMs, nowMs⟩, false) := by
  have hout : (if envelope.expiredAt nowMs then refusal .commandExpired nowMs else previewOutcome env s boxes envelope nowMs) =
      submitOutcome env s envelope nowMs := by
    unfold submitOutcome previewOutcome
    rw [hbody]
  unfold previewDeviceAdmission
  simp only [hout]
  exact Prod.ext rfl (isAcceptedLocally_input hbody)

/-- completing the command under way, whatever its admission left -/
theorem wp_complete_life (ht : env.Tolerant) (h : Held env (QueueLife env claims commands) (some r.envelope.commandId) v)
    (hflag : v.store.recoveryRequired = false) (hk : v.store.deviceOutbox[k]? = some r) (hst : r.status = .claimed) :
    Lives env claims commands (some r.envelope.commandId) (fun _ => Held env (QueueLife env claims commands) none)
      (completeRecord env (ticketFor env r)) v := by
  refine wp_post (wp_completeRecord_held none ht h hflag hk hst ?_) (fun _ _ hq => hq.1)
    fun _ _ hE => hE.1
  refine (h.records hflag).complete h.synced.side.outbox.keyed ?_ hk (by rw [hst]; simp)
  simp [World.boxed, World.appended, recordsOf_single, Entry.stream?]

/-- **Admitting an input.** -/
theorem wp_admit_life (ht : env.Tolerant) (hd : env.HexDigests) (h : Held env (QueueLife env claims commands) none w)
    {device : DeviceId} {envelope : CommandEnvelope} {request : DeviceCommandRequest} (hin : envelope.commandId ∈ commands)
    (hbody : ∃ sessionId body intent, envelope.body = .enqueueInput sessionId body intent)
    (hfresh : w.store.deviceOutbox[deviceCommandKeyDigest env device request.idempotencyKey]? = none →
      enqueues env w.store.state envelope nowMs ≠ none →
      w.store.state.queue[queueEntryId env envelope.commandId]? = none) :
    Lives env claims commands none (fun _ => Held env (QueueLife env claims commands) none)
      (admitDeviceCommand env device envelope request nowMs) w := by
  refine wp_admission (fun _ => h) (fun _ _ => h) fun hflag hnone => ?_
  obtain ⟨sessionId, body, intent, hbody'⟩ := hbody
  rw [preview_input hbody']
  intro preview record hadmissible
  refine ⟨fun hready => Bool.noConfusion hready, fun _ => ?_⟩
  let claimed : OutboxRecord := { record with status := .claimed }
  have hlife := h.records hflag
  have hissued : envelope.issuedAtMs = nowMs := by
    have := (hadmissible .claimed).device_ok
    simp only [validateDeviceEnvelope, seq_eq_ok, ensure_eq_ok] at this
    exact this.2.2.2.1
  -- an enqueued outcome and a written entry go together
  have henq : submitOutcome env w.store.state envelope nowMs = .enqueued (queueEntryId env envelope.commandId) →
      enqueues env w.store.state envelope nowMs ≠ none := fun hout hno => enqueues_eq_none hno _ hout
  have hfirst : submitOutcome env w.store.state envelope nowMs = .enqueued (queueEntryId env envelope.commandId) →
      ∀ ack ∈ w.store.state.acks, ack.outcome ≠ .enqueued (queueEntryId env envelope.commandId) := by
    intro hout ack hmem hk
    exact (hlife.acked ack hmem _ hk).2.2 (hfresh hnone (henq hout))
  have hrefused : submitOutcome env w.store.state envelope nowMs ≠ .enqueued (queueEntryId env envelope.commandId) →
      enqueues env w.store.state envelope nowMs = none := by
    intro hout
    by_contra hsome
    obtain ⟨entry, hentry⟩ := Option.ne_none_iff_exists'.1 hsome
    obtain ⟨_, _, _, _, _, _, hout'⟩ := enqueues_eq_some hentry
    exact hout hout'
  have hwindow : Window env w.store.state claimed :=
    ⟨rfl, isAcceptedLocally_input hbody', fun _ => hfirst, fun _ hne => by
      change enqueues env w.store.state envelope envelope.issuedAtMs = none
      rw [hissued]
      exact hrefused hne⟩
  refine wp_seq (wp_insertInitial_held (some envelope.commandId) ht
    (checked_of_admissible hd (hadmissible .claimed)) h hflag fun _ _ => hlife.insert claimed ?_ hin
      ⟨_, _, _, hbody'⟩ hwindow) (fun ticket v hv => ?_) fun _ _ hE => hE.1
  · simp [World.boxed, World.appended, recordsOf_single, Entry.stream?]
  obtain ⟨rfl, hheld, rfl⟩ := hv
  have hk : (w.boxed claimed).store.deviceOutbox[claimed.keyDigest]? = some claimed := by
    change (w.store.deviceOutbox.insert claimed.keyDigest claimed)[claimed.keyDigest]? = _
    rw [OrdMap.get_insert_self]
  refine wp_bind (wp_read ?_)
  -- what follows the acknowledgement
  have hrest : ∀ (ack : CommandAck) (v : World), Repairing env claims commands claimed (w.boxed claimed) v →
      Lives env claims commands none (fun _ => Held env (QueueLife env claims commands) none) (do
          blockOnError (require (ack = record.admissionAck) .commandOutboxDiverged)
          blockOnError (completeRecord env (ticketFor env claimed))
          let projections ← changesSince env (w.boxed claimed).store.projections.checkpoint
          return (⟨ack, none, projections⟩ : DeviceCommandAdmission)) v := by
    rintro ack v ⟨hv, hvflag, hvboxes⟩
    refine wp_bind (wp_onError (fun _ => rfl) (wp_require (fun _ => ?_) fun _ => hv.block))
    refine wp_bind (wp_onError (fun _ => rfl) (wp_post (wp_complete_life ht hv hvflag (hvboxes ▸ hk) rfl)
      (fun _ u hu => ?_) fun _ _ hE => hE.block))
    exact wp_bind (wp_read (wp_pure hu))
  split_ifs with hsubmit
  · have hnew : EnqueuesNew env w.store.state claimed nowMs := by
      intro hsome
      have hout : submitOutcome env w.store.state envelope nowMs = .enqueued (queueEntryId env envelope.commandId) := by
        by_contra hne
        exact hsome (hrefused hne)
      exact ⟨hfresh hnone hsome, hout, hfirst hout⟩
    exact wp_bind (wp_onError (fun _ => rfl) (wp_post (wp_submit_life (r := claimed) ht hd hheld hflag hk (by simp [claimed])
      hnew) (fun ack v hv => hrest ack v hv) fun _ _ hE => hE.block))
  · -- a refused input
    have hleave : leavesQueue (.commandAcknowledged claimed.admissionAck) = true := by
      refine leavesQueue_of_ne fun k' hk' => hsubmit ?_
      rw [show record.admissionAck.outcome = .enqueued k' from hk', show record.envelope.body = _ from hbody']
      rfl
    refine wp_bind (wp_onError (fun _ => rfl) (wp_post (wp_applyAck_life (r := claimed) ht hheld hflag hk rfl (.inl hleave)) (fun _ v hv => wp_bind (wp_pure ?_)) fun _ _ hE => hE.block))
    exact hrest _ v ⟨hv.1, hv.2.writable, hv.2.sides.deviceOutbox⟩

/-! ## Repairing the admission under way -/

theorem wp_ensureCommandIdempotency_life (ht : env.Tolerant) (hd : env.HexDigests) (h : Repairing env claims commands r w v)
    (hk : w.store.deviceOutbox[k]? = some r) :
    Lives env claims commands (some r.envelope.commandId) (fun _ => Repairing env claims commands r w)
      (ensureCommandIdempotency env r.envelope) v := by
  refine wp_bind (wp_read ?_)
  split
  · exact wp_require (fun _ => h) fun _ => h.held
  · rename_i hnone
    refine wp_post (wp_recordIdempotency_held (some r.envelope.commandId) ht hd
      (h.held.synced.side.checked_of_get (h.boxes ▸ hk)).commandId h.held h.writable hnone ?_)
      (fun _ u hu => ?_) fun _ _ hE => hE.1.elim id id
    · exact (h.held.records h.writable).of_log
        (by simp [World.keyed, World.remembering, World.appended, recordsOf_single, Entry.stream?])
    · rw [hu.2]
      exact ⟨hu.2 ▸ hu.1, h.writable, h.boxes⟩

/-- taking the decision again writes an entry only where there is none -/
theorem wp_decideAgain_life (ht : env.Tolerant) (hd : env.HexDigests)
    (h : Held env (QueueLife env claims commands) (some r.envelope.commandId) w) (hflag : w.store.recoveryRequired = false)
    (hk : w.store.deviceOutbox[k]? = some r) (hst : r.status ≠ .completed)
    (hacks : acksOf w.store.state r.envelope.commandId = [])
    (hqueue : r.admissionAck.outcome = .enqueued (queueEntryId env r.envelope.commandId) →
      w.store.state.queue[queueEntryId env r.envelope.commandId]? = none) (ticket : DispatchTicket) (after : Bool) :
    Lives env claims commands (some r.envelope.commandId) (fun _ => Repairing env claims commands r w)
      (decideAgain env ⟨ticket, r.envelope, r.admissionAck, after⟩) w := by
  have hlife := h.records hflag
  obtain ⟨-, hwindow⟩ := hlife.underWay k r hk hst
  obtain ⟨-, sessionId, body, intent, hbody⟩ := hlife.inputs k r hk
  have hnew : EnqueuesNew env w.store.state r r.envelope.issuedAtMs := by
    intro hsome
    have hout : r.admissionAck.outcome = .enqueued (queueEntryId env r.envelope.commandId) := by
      by_contra hne
      exact hsome (hwindow.refused hacks hne)
    exact ⟨hqueue hout, hout, hwindow.enqueued hacks hout⟩
  have hroute : deviceRouteUsesSubmit r.envelope.body = true := by rw [hbody]; rfl
  unfold decideAgain
  simp only [hroute, if_true]
  refine wp_seq (wp_submit_life (r := r) ht hd h hflag hk hst hnew) (fun ack v hv => ?_)
    fun _ _ hE => hE
  exact wp_bind (wp_require (fun _ => wp_pure hv) fun _ => hv.held)

/-- the admission under way is taken to its end, as far as it goes -/
theorem wp_recoverAdmission_life (ht : env.Tolerant) (hd : env.HexDigests)
    (h : Held env (QueueLife env claims commands) (some r.envelope.commandId) w) (hflag : w.store.recoveryRequired = false)
    (hk : w.store.deviceOutbox[k]? = some r) (hst : r.status ≠ .completed) {ticket : DispatchTicket} {after : Bool} :
    Lives env claims commands (some r.envelope.commandId) (fun _ => Repairing env claims commands r w)
      (recoverAdmission env ⟨ticket, r.envelope, r.admissionAck, after⟩) w := by
  have hlife := h.records hflag
  have hself : Repairing env claims commands r w w := ⟨h, hflag, rfl⟩
  obtain ⟨-, sessionId, body, intent, hbody⟩ := hlife.inputs k r hk
  obtain ⟨-, hwindow⟩ := hlife.underWay k r hk hst
  refine wp_bind (wp_read ?_)
  split
  · -- acknowledged already
    refine wp_bind (wp_liftExcept (fun terminal _ => wp_bind ?_) fun _ _ => h)
    unfold ensureSubmitIdempotency
    rw [hbody]
    exact wp_post (wp_ensureCommandIdempotency_life ht hd hself hk) (fun _ _ hq => wp_pure hq) fun _ _ hE => hE
  · rename_i hacks
    have hacks' : acksOf w.store.state r.envelope.commandId = [] := hacks
    have hagain := fun hq => wp_decideAgain_life ht hd h hflag hk hst hacks' hq ticket after
    cases hout : r.admissionAck.outcome with
    | enqueued entryId =>
      simp only [hbody]
      refine wp_bind (wp_require (fun hid => ?_) fun _ => h)
      have hout' : r.admissionAck.outcome = .enqueued (queueEntryId env r.envelope.commandId) := hid ▸ hout
      split
      · rename_i existing hexisting
        refine wp_bind (wp_require (fun _ => ?_) fun _ => h)
        -- the entry is there: its acknowledgement follows
        have hack := wp_applyAck_life ht h hflag hk (h.synced.side.checked_of_get hk).ackCommand
          (.inr ⟨hout', by rw [← hid, hexisting]; simp, hwindow.enqueued hacks' hout'⟩)
        refine wp_seq hack (fun _ v hv => ?_) fun _ _ hE => hE
        exact wp_seq (wp_ensureCommandIdempotency_life ht hd ⟨hv.1, hv.2.writable, hv.2.sides.deviceOutbox⟩ hk) (fun _ _ hq => wp_pure hq) fun _ _ hE => hE
      · rename_i hnone
        exact hagain fun _ => hid ▸ hnone
    | _ =>
      simp only [hbody]
      exact hagain fun hq => by rw [hout] at hq; cases hq

/-- **The repair of admissions** ends with nothing under way. -/
theorem repairs_life (ht : env.Tolerant) (hd : env.HexDigests) : Repairs env (QueueLife env claims commands) none := by
  intro cur v h hflag _
  have hlife := h.records hflag
  have hkeyed := h.synced.side.outbox.keyed
  refine wp_bind (wp_read (wp_bind ?_))
  have hone : (v.store.deviceOutbox.vals.filter fun r => r.status ≠ .completed).length ≤ 1 :=
    OrdMap.length_filter_vals_le_one fun k k' r r' hk hk' hst hst' => by
      have heq := hlife.only hkeyed hk (by simpa using hst) hk' (by simpa using hst')
      exact hkeyed.command k k' r r' hk hk' (by rw [heq])
  unfold Outbox.admissionRecoveries
  generalize hl : (v.store.deviceOutbox.vals.filter fun r => r.status ≠ .completed) = unfinished at hone
  match unfinished, hl, hone with
  | [], hl, _ =>
    refine wp_pure (wp_pure (.of_records h.synced hflag (hlife.idle fun k r hk => ?_)))
    by_contra hst
    have : r ∈ v.store.deviceOutbox.vals.filter fun r => r.status ≠ .completed :=
      List.mem_filter.2 ⟨OrdMap.mem_vals_of_get hk, by simpa using hst⟩
    rw [hl] at this
    cases this
  | [r], hl, _ =>
    have hmem : r ∈ v.store.deviceOutbox.vals.filter fun r => r.status ≠ .completed := by rw [hl]; exact List.mem_singleton.2 rfl
    obtain ⟨hvals, hst⟩ := List.mem_filter.1 hmem
    obtain ⟨k, hk⟩ := OrdMap.mem_vals.1 hvals
    have hst' : r.status ≠ .completed := by simpa using hst
    obtain ⟨rfl, hwindow⟩ := hlife.underWay k r hk hst'
    refine wp_bind (wp_seq (wp_recoverAdmission_life ht hd h hflag hk hst')
      (fun terminal u hu => ?_) fun _ _ hE => hE.files)
    split_ifs with hafter
    · refine wp_post (wp_complete_life ht hu.held hu.writable (hu.boxes ▸ hk) hwindow.status)
        (fun _ _ hq => ?_) fun _ _ hE => hE.files
      exact wp_bind (wp_pure (wp_pure (wp_pure hq)))
    · -- an input is never accepted locally, so its record is completed
      have hnot := hwindow.notAccepted
      cases hout : r.admissionAck.outcome with
      | acceptedLocally note => rw [hout] at hnot; cases hnot
      | _ => simp [hout] at hafter
  | _ :: _ :: _, _, hone => simp at hone

/-! ## Claiming and finishing a delivery -/

theorem lifecycle_pending (h : Lifecycle states) (hlast : states.getLast? = some .pending) :
    states = [.pending] := by
  cases h <;> simp_all

theorem lifecycle_submitting (h : Lifecycle states) {c : CommandId} (hlast : states.getLast? = some (.submitting c)) :
    states = [.pending, .submitting c] := by
  cases h <;> simp_all

theorem cleanEffect_entry (h : Synced env w) {old : QueueEntry} (hold : w.store.state.queue[entryId]? = some old)
    (hs : entry.sessionId = old.sessionId) :
    CleanEffect (.queueEntryUpserted entry) := by
  change cleanName entry.sessionId.value
  rw [hs]
  exact h.log.clean.queue entryId old hold

/-- **Claiming a delivery** adds one `Submitting`. -/
theorem wp_claim_life (ht : env.Tolerant) (h : Held env (QueueLife env claims commands) none w) (hin : entryId ∈ claims)
    (atMs : Int) :
    Lives env claims commands none
      (fun claim w' => Held env (QueueLife env claims commands) none w' ∧ entryStates w.disk entryId = [.pending] ∧
        entryStates w'.disk entryId = [.pending, .submitting claim.commandId]) (claimQueueDelivery env entryId atMs) w := by
  refine wp_bind (wp_bind (wp_read (wp_require (fun hflag => wp_bind (wp_read ?_)) fun _ => h)))
  have hlife := h.records hflag
  split
  · exact wp_fail h
  · rename_i entry hentry
    split
    · exact wp_fail h
    · rename_i commandId hcommand
      obtain ⟨hget, hpending⟩ := Option.filter_eq_some_iff.1 hentry
      simp only [Bool.and_eq_true, decide_eq_true_iff] at hpending
      have hid : entry.id = entryId := hlife.ids entryId entry hget
      have hstates : entryStates w.disk entryId = [.pending] := by
        refine lifecycle_pending (hlife.life entryId) ?_
        rw [← hlife.current entryId, hget, Option.map_some, hpending.2]
      have hack : ∃ ack ∈ w.store.state.acks, ack.commandId = commandId ∧ ack.outcome = .enqueued entryId := by
        obtain ⟨ack, hmem, hsome⟩ := List.exists_of_findSome?_eq_some hcommand
        split_ifs at hsome with hout
        exact ⟨ack, hmem, Option.some.inj hsome, hout⟩
      refine wp_bind (wp_read (wp_seq (wp_apply_held none ht (cleanEffect_entry h.synced hget rfl) h
        fun _ _ s' d happly hlogged => ?_) (fun _ v hv => ?_) fun _ _ hE => hE.1))
      · refine hlife.upsert happly hlogged ?_ (fun c hc => ?_) fun k r hk hst => absurd (hlife.completed hk) hst
        · simp only [hid, hstates]
          exact .submitting commandId
        · cases hc
          simp only [hid]
          exact ⟨hin, hack⟩
      · refine wp_bind (wp_read (wp_pure ⟨hv.1, hstates, ?_⟩))
        rw [hv.2.logged.entryStates, hstates]
        simp [stateGiven, hid]

end

end Kaleido.State
