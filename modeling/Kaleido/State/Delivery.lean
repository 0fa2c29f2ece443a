/-
A queue entry is delivered at most once.

`finish_queue_delivery` checks that the entry was claimed and that its effects hold one delivered entry and the turn that
answers its command; applied one after another they end in exactly that (`Delivering`, `wp_finish_life`). Over whole runs
with crashes and starts, an entry is claimed at most once and finished at most once, after a claim, as a turn of its session
that answers the command that enqueued it (`entry_delivered_once`). Effects of another entry's delivery may bring it back to
`Pending`, and then it is claimed again (`entry_claimed_twice`).
-/
import Kaleido.State.QueueLife

namespace Kaleido.State

open Check LineFile Prog Proto CanonicalState

variable {env : Env} {claims : Set QueueEntryId} {commands : Set CommandId} {s s' : CanonicalState} {e : StateEffect}
  {w : World}

/-! ## Finishing a delivery -/

/-- the turn that answers the command -/
def answersCommand (turnId : TurnId) (sessionId : SessionId) (c : CommandId) : StateEffect → Bool
  | .turnUpserted turn => turn.id = turnId && turn.sessionId = sessionId && turn.origin = .remoteCommand c
  | _ => false

/-- what `finish_queue_delivery` has checked -/
structure Deliverable (s : CanonicalState) (entryId : QueueEntryId) (effects : List StateEffect) (delivered : QueueEntry)
    (c : CommandId) (turnId : TurnId) (atMs : Int) : Prop where
  claimed : (s.queue[entryId]?.map fun entry => (entry.sessionId, entry.state)) = some (delivered.sessionId, .submitting c)
  noAcks : acknowledgements effects = []
  upserts : entryUpserts entryId effects = [delivered]
  state : delivered.state = .deliveredAsNewTurn turnId atMs
  turn : effects.any (answersCommand turnId delivered.sessionId c) = true

theorem checkQueueDelivery_ok {entryId : QueueEntryId} {effects : List StateEffect}
    (h : checkQueueDelivery s entryId effects = .ok ()) :
    ∃ delivered c turnId atMs, Deliverable s entryId effects delivered c turnId atMs := by
  unfold checkQueueDelivery at h
  split at h
  · cases h
  · rename_i current hcurrent
    split at h
    · rename_i c hc
      rw [seq_eq_ok, ensure_eq_ok] at h
      obtain ⟨hacks, h⟩ := h
      split at h
      · rename_i delivered hupserts
        rw [seq_eq_ok, ensure_eq_ok] at h
        obtain ⟨hfields, h⟩ := h
        split at h
        · rename_i turnId atMs hstate
          rw [ensure_eq_ok] at h
          refine ⟨delivered, c, turnId, atMs, ?_, hacks, hupserts, hstate, ?_⟩
          · rw [hcurrent, Option.map_some, hc, hfields.1]
          · rw [List.any_eq_true] at h ⊢
            obtain ⟨e, hmem, he⟩ := h
            refine ⟨e, hmem, ?_⟩
            cases e with
            | turnUpserted turn => rw [← hfields.1] at he; exact he
            | _ => cases he
        · cases h
      · cases h
    · cases h

/-- effects still to come write no entry but the delivered one -/
def WritesOnly (entryId : QueueEntryId) (effects : List StateEffect) : Prop :=
  ∀ e ∈ effects, CleanEffect e ∧ ∀ entry, e = .queueEntryUpserted entry → entry.id = entryId

/-- the delivery has come as far as the effects `rest` that are still to be applied -/
structure Delivering (env : Env) (claims : Set QueueEntryId) (commands : Set CommandId) (entryId : QueueEntryId)
    (delivered : QueueEntry) (c : CommandId) (turnId : TurnId) (w : World) (rest : List StateEffect) (v : World) : Prop where
  held : Held env (QueueLife env claims commands) none v
  writable : v.store.recoveryRequired = false
  only : WritesOnly entryId rest
  noAcks : acknowledgements rest = []
  acks : v.store.state.acks = w.store.state.acks
  entry : entryUpserts entryId rest = [delivered] ∧ entryStates v.disk entryId = entryStates w.disk entryId ∧
      (v.store.state.queue[entryId]?.map fun entry => entry.state) = some (.submitting c) ∨
    entryUpserts entryId rest = [] ∧ entryStates v.disk entryId = entryStates w.disk entryId ++ [delivered.state] ∧
      (v.store.state.queue[entryId]?.map fun entry => (entry.sessionId, entry.state)) =
        some (delivered.sessionId, delivered.state)
  turn : rest.any (answersCommand turnId delivered.sessionId c) = true ∨ ∃ turn, v.store.state.turns[turnId]? = some turn ∧
    turn.sessionId = delivered.sessionId ∧ turn.origin = .remoteCommand c

variable {entryId : QueueEntryId} {delivered : QueueEntry} {c : CommandId} {turnId : TurnId} {atMs : Int} {v u : World}
  {rest : List StateEffect}

/-- the turn is there once its effect has been applied -/
theorem Delivering.turn_step (h : Delivering env claims commands entryId delivered c turnId w (e :: rest) v)
    (happly : v.store.state.apply e = .ok u.store.state) :
    rest.any (answersCommand turnId delivered.sessionId c) = true ∨ ∃ turn, u.store.state.turns[turnId]? = some turn ∧
      turn.sessionId = delivered.sessionId ∧ turn.origin = .remoteCommand c := by
  rcases h.turn with hany | ⟨turn, hget, hs, ho⟩
  · rw [List.any_cons, Bool.or_eq_true] at hany
    rcases hany with hany | hany
    · right
      cases e with
      | turnUpserted turn =>
        simp only [answersCommand, Bool.and_eq_true, decide_eq_true_iff] at hany
        obtain ⟨turn', hget, hs, ho⟩ := apply_turn_upserted happly
        exact ⟨turn', hany.1.1 ▸ hget, hs.trans hany.1.2, ho.trans hany.2⟩
      | _ => cases hany
    · exact .inl hany
  · obtain ⟨turn', hget', hextends⟩ := apply_extends happly hget
    exact .inr ⟨turn', hget', hextends.session.trans hs, hextends.origin.trans ho⟩

/-- an effect of the delivery that is not the entry's -/
theorem Delivering.leaves (h : Delivering env claims commands entryId delivered c turnId w (e :: rest) v)
    (hne : ∀ entry, e ≠ .queueEntryUpserted entry) : leavesQueue e = true := by
  have hacks := h.noAcks
  cases e with
  | queueEntryUpserted entry => exact absurd rfl (hne entry)
  | commandAcknowledged ack => simp [acknowledgements] at hacks
  | _ => rfl

/-- **One effect** of a delivery. -/
theorem wp_deliver_step (ht : env.Tolerant) (hstate : delivered.state = .deliveredAsNewTurn turnId atMs)
    (h : Delivering env claims commands entryId delivered c turnId w (e :: rest) v) :
    Lives env claims commands none (fun _ => Delivering env claims commands entryId delivered c turnId w rest)
      (apply env e) v := by
  have hlife := h.held.records h.writable
  obtain ⟨hclean, honly⟩ := h.only e List.mem_cons_self
  have hnoAcks : acknowledgements [e] = [] ∧ acknowledgements rest = [] := by
    have := h.noAcks
    rw [acknowledgements_cons] at this
    exact List.append_eq_nil_iff.1 this
  have hrest : WritesOnly entryId rest := fun e' he' => h.only e' (List.mem_cons_of_mem _ he')
  have hacks : ∀ u, Committed e v u → u.store.state.acks = w.store.state.acks := fun u hu => by
    rw [hu.grew.acks, hnoAcks.1, List.append_nil, h.acks]
  by_cases hup : ∃ entry, e = .queueEntryUpserted entry
  · obtain ⟨entry, rfl⟩ := hup
    have hid : entry.id = entryId := honly entry rfl
    have hcons : entryUpserts entryId (.queueEntryUpserted entry :: rest) = entry :: entryUpserts entryId rest := by
      simp [entryUpserts, hid]
    rcases h.entry with ⟨hups, hstates, hsub⟩ | ⟨hups, -, -⟩
    swap
    · rw [hcons] at hups
      cases hups
    rw [hcons] at hups
    obtain ⟨rfl, hnil⟩ := List.cons.inj hups
    have hlast : entryStates v.disk entryId = [.pending, .submitting c] :=
      lifecycle_submitting (hlife.life entryId) (hlife.current entryId ▸ hsub)
    refine wp_post (wp_apply_held none ht hclean h.held fun _ _ s' d happly hlogged => ?_)
      (fun _ u hu => ?_) fun _ _ hE => hE.1
    · refine hlife.upsert happly hlogged ?_ (fun c' hc' => by rw [hstate] at hc'; cases hc')
        fun k r hk hst => absurd (hlife.completed hk) hst
      rw [hid, hlast, hstate]
      exact .delivered c turnId atMs
    · refine ⟨hu.1, hu.2.writable, hrest, hnoAcks.2, hacks u hu.2, .inr ⟨hnil, ?_, ?_⟩, h.turn_step hu.2.state⟩
      · rw [hu.2.logged.entryStates, hstates]
        simp [stateGiven, hid]
      · rw [apply_queue hu.2.state, OrdMap.get_insert, if_pos hid, Option.map_some]
  · have hleave := h.leaves fun entry heq => hup ⟨entry, heq⟩
    have hcons : entryUpserts entryId (e :: rest) = entryUpserts entryId rest := by
      cases e with
      | queueEntryUpserted entry => exact absurd ⟨entry, rfl⟩ hup
      | _ => rfl
    have hentry := h.entry
    rw [hcons] at hentry
    refine wp_post (wp_apply_held none ht hclean h.held fun _ _ s' d happly hlogged =>
      hlife.keep hleave happly hlogged fun k r hk hst => absurd (hlife.completed hk) hst)
      (fun _ u hu => ?_) fun _ _ hE => hE.1
    have hstates : entryStates u.disk entryId = entryStates v.disk entryId := by
      rw [hu.2.logged.entryStates, stateGiven_of_leavesQueue hleave]
      simp
    have hmap := map_queue_of_leavesQueue hleave hu.2.state entryId
    have hstateOf := congrArg (Option.map fun p : QueueEntryId × SessionId × QueueState => p.2.2) hmap
    have hpair := congrArg (Option.map fun p : QueueEntryId × SessionId × QueueState => p.2) hmap
    simp only [Option.map_map, Function.comp_def] at hstateOf hpair
    refine ⟨hu.1, hu.2.writable, hrest, hnoAcks.2, hacks u hu.2, ?_, h.turn_step hu.2.state⟩
    rcases hentry with ⟨hups, hv, hsub⟩ | ⟨hups, hv, hsub⟩
    · exact .inl ⟨hups, hstates.trans hv, hstateOf.trans hsub⟩
    · exact .inr ⟨hups, hstates.trans hv, hpair.trans hsub⟩

/-- the entry was delivered as a turn of its session that answers the command that enqueued it -/
def DeliveredTo (commands : Set CommandId) (s : CanonicalState) (entryId : QueueEntryId) : Prop :=
  ∃ entry turnId atMs turn, ∃ c ∈ commands, s.queue[entryId]? = some entry ∧ entry.state = .deliveredAsNewTurn turnId atMs ∧
    s.turns[turnId]? = some turn ∧ turn.sessionId = entry.sessionId ∧ turn.origin = .remoteCommand c ∧
    (∃ ack ∈ s.acks, ack.commandId = c ∧ ack.outcome = .enqueued entryId) ∧
    ∀ ack ∈ s.acks, ack.outcome = .enqueued entryId → ack.commandId = c

/-- **Finishing a delivery** adds one `DeliveredAsNewTurn`, to an entry that was claimed. -/
theorem wp_finish_life (ht : env.Tolerant) (h : Held env (QueueLife env claims commands) none w)
    {effects : List StateEffect} (honly : WritesOnly entryId effects) :
    Lives env claims commands none
      (fun _ w' => Held env (QueueLife env claims commands) none w' ∧ entryId ∈ claims ∧
        (∃ c turnId atMs, entryStates w.disk entryId = [.pending, .submitting c] ∧
          entryStates w'.disk entryId = [.pending, .submitting c, .deliveredAsNewTurn turnId atMs]) ∧
        DeliveredTo commands w'.store.state entryId) (finishQueueDelivery env entryId effects) w := by
  refine wp_bind (wp_bind (wp_read (wp_require (fun hflag => wp_bind (wp_read ?_)) fun _ => h)))
  refine wp_bind (wp_liftExcept (fun _ hok => wp_bind (wp_read ?_)) fun _ _ => h)
  obtain ⟨delivered, c, turnId, atMs, hcheck⟩ := checkQueueDelivery_ok hok
  have hlife := h.records hflag
  obtain ⟨current, hget, hcurrent⟩ := Option.map_eq_some_iff.1 hcheck.claimed
  have hsub : current.state = .submitting c := congrArg Prod.snd hcurrent
  obtain ⟨ack, hmem, hc, hout⟩ := hlife.submitting entryId current c hget hsub
  have hbefore : entryStates w.disk entryId = [.pending, .submitting c] := by
    refine lifecycle_submitting (hlife.life entryId) ?_
    rw [← hlife.current entryId, hget, Option.map_some, hsub]
  have hclaimed : entryId ∈ claims := hlife.claimed entryId c (by rw [hbefore]; simp)
  have hstart : Delivering env claims commands entryId delivered c turnId w effects w :=
    ⟨h, hflag, honly, hcheck.noAcks, rfl, .inl ⟨hcheck.upserts, rfl, by rw [hget, Option.map_some, hsub]⟩, .inl hcheck.turn⟩
  refine wp_bind (wp_seq (wp_forEach (Delivering env claims commands entryId delivered c turnId w)
    (fun e rest v hv => wp_deliver_step ht hcheck.state hv) hstart) (fun _ v hv => ?_) fun _ _ hE => hE)
  refine wp_pure (wp_read ⟨hv.held, hclaimed, ?_, ?_⟩)
  all_goals obtain ⟨hnil, -, -⟩ | ⟨-, hstates, hentry⟩ := hv.entry
  · cases hnil
  · exact ⟨c, turnId, atMs, hbefore, by rw [hstates, hbefore, hcheck.state]; rfl⟩
  · cases hnil
  · obtain ⟨entry, hget', heq⟩ := Option.map_eq_some_iff.1 hentry
    obtain hnil | ⟨turn, hturn, hs, ho⟩ := hv.turn
    · cases hnil
    have hmem' : ack ∈ v.store.state.acks := hv.acks ▸ hmem
    refine ⟨entry, turnId, atMs, turn, c, hc ▸ (hlife.acked ack hmem entryId hout).2.1, hget',
      (congrArg Prod.snd heq).trans hcheck.state, hturn, hs.trans (congrArg Prod.fst heq).symm, ho,
      ⟨ack, hmem', hc, hout⟩, fun ack' hack' hout' => ?_⟩
    exact ((hv.held.records hv.writable).oneCommand ack' hack' ack hmem' entryId hout' hout).trans hc

/-! ## Runs -/

/-- the operation an event performs -/
def Event.op? : Event → Option Op
  | .call op | .crash op _ => some op
  | .start | .crashStart _ => none

/-- the operations of queued inputs: an input is enqueued under a new entry only, a delivery writes its own entry only, and
no other effect writes an entry or acknowledges an input as enqueued -/
def Op.Queues (env : Env) (w : World) : Op → Prop
  | .apply e => CleanEffect e ∧ leavesQueue e = true
  | .admitDeviceCommand device envelope request nowMs =>
    (∃ sessionId body intent, envelope.body = .enqueueInput sessionId body intent) ∧
    (w.store.deviceOutbox[deviceCommandKeyDigest env device request.idempotencyKey]? = none →
      enqueues env w.store.state envelope nowMs ≠ none →
      w.store.state.queue[queueEntryId env envelope.commandId]? = none)
  | .claimQueueDelivery .. | .writeContentForDevice .. | .storeContent .. => True
  | .finishQueueDelivery entryId effects => WritesOnly entryId effects
  | _ => False

/-- the operation claims the entry -/
def Op.claims? (entryId : QueueEntryId) : Op → Bool
  | .claimQueueDelivery k _ => k = entryId
  | _ => false

/-- the operation admits the command -/
def Op.admits? (commandId : CommandId) : Op → Bool
  | .admitDeviceCommand _ envelope _ _ => envelope.commandId = commandId
  | _ => false

/-- the entries for which a claim was made, even one that a crash cut short -/
def claimedIn (events : List Event) : Set QueueEntryId := { k | ∃ event ∈ events, event.op?.any (Op.claims? k) }

/-- the commands of the admissions -/
def admittedIn (events : List Event) : Set CommandId := { c | ∃ event ∈ events, event.op?.any (Op.admits? c) }

/-- **One operation** keeps the invariant. -/
theorem op_keeps_life (ht : env.Tolerant) (hd : env.HexDigests) (h : Held env (QueueLife env claims commands) none w)
    (hflag : w.store.recoveryRequired = false) {op : Op} (hop : op.Queues env w)
    (hclaims : ∀ k, op.claims? k = true → k ∈ claims) (hcommands : ∀ c, op.admits? c = true → c ∈ commands) :
    Lives env claims commands none (fun _ => Held env (QueueLife env claims commands) none) (op.run env) w := by
  have hcontent : ∀ {α : Type} {p : StoreM α}, (∃ content, (p w).2 = { w with content := content }) →
      Lives env claims commands none (fun _ => Held env (QueueLife env claims commands) none) p w := fun hp =>
    wp_post (idle_of_content hp) (fun _ _ hq => h.congr hq.1 hq.2) fun _ _ hE => h.congr hE.1 hE.2
  cases op with
  | apply e =>
    have hlife := h.records hflag
    refine wp_map (wp_post (wp_apply_held none ht hop.1 h fun _ _ s' d happly hlogged => ?_)
      (fun _ _ hq => hq.1) fun _ _ hE => hE.1)
    exact hlife.keep hop.2 happly hlogged fun k r hk hst => absurd (hlife.completed hk) hst
  | admitDeviceCommand device envelope request nowMs =>
    exact wp_map (wp_admit_life ht hd h (hcommands _ (by simp [Op.admits?])) hop.1 hop.2)
  | claimQueueDelivery entryId atMs =>
    exact wp_map (wp_post (wp_claim_life ht h (hclaims _ (by simp [Op.claims?])) atMs)
      (fun _ _ hq => hq.1) fun _ _ hE => hE)
  | finishQueueDelivery entryId effects =>
    exact wp_map (wp_post (wp_finish_life ht h hop) (fun _ _ hq => hq.1) fun _ _ hE => hE)
  | writeContentForDevice deviceId request bytes nowMs =>
    exact wp_map (hcontent (writeContentForDevice_world env deviceId request bytes nowMs w))
  | storeContent kind sensitivity bytes => exact wp_map (hcontent (storeContent_world env kind sensitivity bytes w))
  | _ => exact hop.elim

/-- what holds of a run of queued inputs -/
abbrev QueueRun (env : Env) (claims : Set QueueEntryId) (commands : Set CommandId) (m : Machine) : Prop :=
  m.Holds (fun d => SyncedFiles env d ∧ Recoverable (QueueLife env claims commands) d)
    (Held env (QueueLife env claims commands) none)

/-- the event is one of queued inputs, with a claim of `claims` or an admission of `commands` if it makes one -/
structure QueueEvent (env : Env) (claims : Set QueueEntryId) (commands : Set CommandId) (m : Machine) (event : Event) :
    Prop where
  queues : ∀ op, event.op? = some op → op.Queues env m.world
  claims : ∀ k, event.op?.any (Op.claims? k) = true → k ∈ claims
  commands : ∀ c, event.op?.any (Op.admits? c) = true → c ∈ commands

theorem Op.Queues.clean {op : Op} (h : op.Queues env w) : op.Clean := by
  cases op with
  | apply e => exact h.1
  | finishQueueDelivery entryId effects => exact fun e he => (h e he).1
  | admitDeviceCommand | claimQueueDelivery | writeContentForDevice | storeContent => trivial
  | _ => exact h.elim

/-- **One event** keeps the invariant and extends the files. -/
theorem step_queueRun (ht : env.Tolerant) (hd : env.HexDigests) {m : Machine} {event : Event}
    (h : QueueRun env claims commands m) (he : QueueEvent env claims commands m event) :
    QueueRun env claims commands (m.step env event) ∧ m.world.disk <+: (m.step env event).world.disk := by
  refine Machine.step_held ht hd queueLife_ignoresViews (repairs_life ht hd) h fun op hev hup => ?_
  have hop : event.op? = some op := by
    rcases hev with rfl | ⟨_, rfl⟩ <;> rfl
  refine ⟨(he.queues op hop).clean, fun hflag => op_keeps_life ht hd (h.process hup) hflag (he.queues op hop)
    (fun k hk => he.claims k ?_) fun c hc => he.commands c ?_⟩
  · rw [hop]; exact hk
  · rw [hop]; exact hc

variable (env) in
/-- a claim of the entry that returned -/
def claimReturned (entryId : QueueEntryId) (m : Machine) (event : Event) : Nat :=
  match event, m.reply env event with
  | .call (.claimQueueDelivery k _), some (.ok _) => if k = entryId then 1 else 0
  | _, _ => 0

variable (env) in
/-- a delivery of the entry that was finished -/
def finishReturned (entryId : QueueEntryId) (m : Machine) (event : Event) : Nat :=
  match event, m.reply env event with
  | .call (.finishQueueDelivery k _), some (.ok _) => if k = entryId then 1 else 0
  | _, _ => 0

theorem entryStates_prefix {d d' : Disk} (h : d <+: d') (k : QueueEntryId) : entryStates d k <+: entryStates d' k := by
  obtain ⟨t, ht⟩ : logRecords d <+: logRecords d' := recordsOf_prefix h
  refine ⟨(t.map (·.effect)).filterMap (stateGiven k), ?_⟩
  rw [entryStates, entryStates, ← List.filterMap_append, effectsOf, effectsOf, ← List.map_append]
  exact congrArg (fun l => (l.map LogRecord.effect).filterMap (stateGiven k)) ht

/-- a returned claim adds the first `Submitting` -/
theorem step_claimReturned (ht : env.Tolerant) {m : Machine} {event : Event} (h : QueueRun env claims commands m)
    (he : QueueEvent env claims commands m event) (k : QueueEntryId) :
    claimReturned env k m event = 0 ∨ claimReturned env k m event = 1 ∧
      (¬ ∃ c, QueueState.submitting c ∈ entryStates m.world.disk k) ∧
      ∃ c, QueueState.submitting c ∈ entryStates (m.step env event).world.disk k := by
  unfold claimReturned
  split
  · rename_i entryId atMs reply hreply
    obtain ⟨hup, hrun⟩ := Machine.run_of_reply env hreply
    obtain ⟨claim, hclaim, -⟩ := map_eq_ok.1 hrun
    split_ifs with hk
    · subst hk
      have hin : entryId ∈ claims := he.claims entryId (by simp [Event.op?, Op.claims?])
      obtain ⟨-, hbefore, hafter⟩ := wp_ok (wp_claim_life ht (h.process hup) hin atMs) hclaim
      refine .inr ⟨rfl, ?_, claim.commandId, ?_⟩
      · rw [hbefore]; simp
      · rw [hafter]; simp
    · exact .inl rfl
  · exact .inl rfl

/-- a finished delivery adds the first `DeliveredAsNewTurn` -/
theorem step_finishReturned (ht : env.Tolerant) {m : Machine} {event : Event} (h : QueueRun env claims commands m)
    (he : QueueEvent env claims commands m event) (k : QueueEntryId) :
    finishReturned env k m event = 0 ∨ finishReturned env k m event = 1 ∧
      (¬ ∃ turnId atMs, QueueState.deliveredAsNewTurn turnId atMs ∈ entryStates m.world.disk k) ∧
      ∃ turnId atMs, QueueState.deliveredAsNewTurn turnId atMs ∈ entryStates (m.step env event).world.disk k := by
  unfold finishReturned
  split
  · rename_i entryId effects reply hreply
    obtain ⟨hup, hrun⟩ := Machine.run_of_reply env hreply
    obtain ⟨projections, hfinish, -⟩ := map_eq_ok.1 hrun
    split_ifs with hk
    · subst hk
      obtain ⟨-, -, ⟨c, turnId, atMs, hbefore, hafter⟩, -⟩ :=
        wp_ok (wp_finish_life ht (h.process hup) (he.queues _ rfl)) hfinish
      refine .inr ⟨rfl, ?_, turnId, atMs, ?_⟩
      · rw [hbefore]; simp
      · rw [hafter]; simp
    · exact .inl rfl
  · exact .inl rfl

theorem queueRun_init : QueueRun env claims commands {} := by
  have hlife : QueueLife env claims commands none {} [] ∅ :=
    ⟨by simp, by simp [entryStates, effectsOf, logRecords], fun _ => .absent, by simp [entryStates, effectsOf, logRecords],
      by simp, by simp, by simp, by simp, by simp⟩
  have hheld : Held env (QueueLife env claims commands) none {} := .of_records synced_init rfl hlife
  exact ⟨⟨hheld.synced.files, hheld.files⟩, fun _ => hheld⟩

/-- **A queue entry is delivered at most once.** Over every interleaving of admissions of inputs, claims, finished
deliveries and other effects, with crashes between any two appends and starts, in which an input is enqueued under a new
entry only, a delivery writes its own entry only and no other effect writes an entry or acknowledges an input as enqueued:
`claim_queue_delivery` returns a claim of an entry at most once, `finish_queue_delivery` succeeds for it at most once and
only after a claim of it, and the entry is then delivered as a turn of its session that answers the command that enqueued
it. -/
theorem entry_delivered_once (env : Env) (hio : env.Tolerant) (hdigest : env.HexDigests) (events : List Event)
    (hrun : Along (Machine.step env) (fun m event => ∀ op, event.op? = some op → op.Queues env m.world) {} events)
    (entryId : QueueEntryId) :
    tally (Machine.step env) (claimReturned env entryId) {} events ≤ 1 ∧
    tally (Machine.step env) (finishReturned env entryId) {} events ≤ 1 ∧
    ∀ before effects after reply, events = before ++ .call (.finishQueueDelivery entryId effects) :: after →
      (Machine.run env {} before).reply env (.call (.finishQueueDelivery entryId effects)) = some (.ok reply) →
      entryId ∈ claimedIn before ∧ DeliveredTo (admittedIn before)
        ((Machine.run env {} before).step env (.call (.finishQueueDelivery entryId effects))).world.store.state entryId := by
  have hall : Along (Machine.step env) (QueueEvent env Set.univ Set.univ) {} events :=
    hrun.imp fun m event _ hq => ⟨hq, fun _ _ => trivial, fun _ _ => trivial⟩
  have hprefix : ∀ m event, QueueRun env Set.univ Set.univ m → QueueEvent env Set.univ Set.univ m event →
      ∀ st ∈ entryStates m.world.disk entryId, st ∈ entryStates (m.step env event).world.disk entryId :=
    fun m event hm he st hst => ( entryStates_prefix (step_queueRun hio hdigest hm he).2 entryId).subset hst
  refine ⟨(tally_once (S := fun m => ∃ c, QueueState.submitting c ∈ entryStates m.world.disk entryId)
      (fun m event hm he => (step_queueRun hio hdigest hm he).1)
      (fun m event hm he ⟨c, hc⟩ => ⟨c, hprefix m event hm he _ hc⟩)
      (fun m event hm he => step_claimReturned hio hm he entryId) queueRun_init hall).1,
    (tally_once (S := fun m => ∃ turnId atMs, QueueState.deliveredAsNewTurn turnId atMs ∈ entryStates m.world.disk entryId)
      (fun m event hm he => (step_queueRun hio hdigest hm he).1)
      (fun m event hm he ⟨turnId, atMs, hc⟩ => ⟨turnId, atMs, hprefix m event hm he _ hc⟩)
      (fun m event hm he => step_finishReturned hio hm he entryId) queueRun_init hall).1, ?_⟩
  rintro before effects after reply rfl hreply
  obtain ⟨hbefore, hfinish, -⟩ := along_append.1 hrun
  have hheld : QueueRun env (claimedIn before) (admittedIn before) (Machine.run env {} before) :=
    run_inv (fun m event hm he => (step_queueRun hio hdigest hm he).1) queueRun_init
      (hbefore.imp fun m event hmem hq => ⟨hq, fun k hk => ⟨event, hmem, hk⟩, fun c hc => ⟨event, hmem, hc⟩⟩)
  obtain ⟨hup, hop⟩ := Machine.run_of_reply env hreply
  obtain ⟨projections, hok, -⟩ := map_eq_ok.1 hop
  obtain ⟨-, hclaimed, -, hdelivered⟩ := wp_ok (wp_finish_life hio (hheld.process hup) (hfinish _ rfl)) hok
  exact ⟨hclaimed, hdelivered⟩

/-- an uploaded input -/
def inputBytes : List UInt8 := [104, 105]

def inputRef : ContentRef where
  contentId := ⟨sampleDigest inputBytes⟩
  kind := .markdown
  byteLen := 2
  digest := "sha256:" ++ sampleDigest inputBytes
  preview := none
  sensitivity := .sensitive
  availability := .stored

def uploadInput : Op :=
  .writeContentForDevice sampleDevice ⟨.markdown, 2, "sha256:" ++ sampleDigest inputBytes⟩ inputBytes 40

/-- the device queues its input for the sample session -/
def deviceInput (name : String) (atMs : Int) : Op :=
  .admitDeviceCommand sampleDevice
    ⟨⟨name⟩, name, .human sampleDevice, atMs, none, .enqueueInput ⟨"ses_a"⟩ inputRef .newTurn⟩
    ⟨name, none, .enqueueInput ⟨"ses_a"⟩ inputRef .newTurn⟩ atMs

def inputEntry (name : String) (position : Nat) (atMs : Int) (state : QueueState) : QueueEntry where
  id := queueEntryId queueEnv ⟨name⟩
  sessionId := ⟨"ses_a"⟩
  position := position
  intent := .newTurn
  body := inputRef
  state := state
  editable := false
  createdAtMs := atMs
  updatedAtMs := 80

/-- the delivery of an input as a turn -/
def inputDelivered (name : String) (position : Nat) (atMs : Int) : List StateEffect :=
  [.turnUpserted ⟨⟨"trn_a"⟩, ⟨"ses_a"⟩, .completed, .remoteCommand ⟨name⟩, some 70, some 75, [], none, none⟩,
    .queueEntryUpserted (inputEntry name position atMs (.deliveredAsNewTurn ⟨"trn_a"⟩ 80))]

theorem inputDelivered_writesOnly (name : String) (position : Nat) (atMs : Int) :
    WritesOnly (queueEntryId queueEnv ⟨name⟩) (inputDelivered name position atMs) := by
  have hclean : cleanName "ses_a" := by unfold cleanName; decide
  intro e he
  rcases List.mem_cons.1 he with rfl | he
  · exact ⟨hclean, fun _ h => by cases h⟩
  · obtain rfl := List.mem_singleton.1 he
    refine ⟨hclean, fun entry h => ?_⟩
    cases h
    rfl

/-- the host, the session and the body become known -/
def uploadEvents : List Event := sampleSetup ++ [.call uploadInput]

/-- the process is killed while it admits an input, started again, and delivers it -/
def deliveryEvents : List Event :=
  uploadEvents ++ [.crash (deviceInput "cmd_a" 50) 2, .start,
    .call (.claimQueueDelivery (queueEntryId queueEnv ⟨"cmd_a"⟩) 70),
    .call (.finishQueueDelivery (queueEntryId queueEnv ⟨"cmd_a"⟩) (inputDelivered "cmd_a" 0 50))]

theorem input_delivered_once :
    tally (Machine.step queueEnv) (finishReturned queueEnv (queueEntryId queueEnv ⟨"cmd_a"⟩)) {} deliveryEvents = 1 ∧
    tally (Machine.step queueEnv) (claimReturned queueEnv (queueEntryId queueEnv ⟨"cmd_a"⟩)) {} deliveryEvents ≤ 1 := by
  have hfinish : tally (Machine.step queueEnv) (finishReturned queueEnv (queueEntryId queueEnv ⟨"cmd_a"⟩)) {} deliveryEvents = 1 ∧
      (runFrom (Machine.step queueEnv) {} uploadEvents).world.store.state.queue[queueEntryId queueEnv ⟨"cmd_a"⟩]? = none := by
    decide +kernel
  have hbefore : Along (Machine.step queueEnv) (fun m event => ∀ op, event.op? = some op → op.Queues queueEnv m.world) {}
      uploadEvents := by
    refine ⟨?_, ?_, ?_, trivial⟩
    all_goals rintro op ⟨⟩
    · exact ⟨by unfold CleanEffect cleanName; decide, rfl⟩
    · exact ⟨by unfold CleanEffect cleanName; decide, rfl⟩
    · trivial
  have hrun : Along (Machine.step queueEnv) (fun m event => ∀ op, event.op? = some op → op.Queues queueEnv m.world) {}
      deliveryEvents := by
    refine along_append.2 ⟨hbefore, ?_⟩
    have hfresh := hfinish.2
    generalize runFrom (Machine.step queueEnv) {} uploadEvents = m at hfresh ⊢
    refine ⟨?_, ?_, ?_, ?_, trivial⟩
    all_goals rintro op ⟨⟩
    · exact ⟨⟨_, _, _, rfl⟩, fun _ _ => hfresh⟩
    · trivial
    · exact inputDelivered_writesOnly _ _ _
  exact ⟨hfinish.1, (entry_delivered_once queueEnv (by intro n entry fault h; cases h) queueEnv_hexDigests deliveryEvents
    hrun _).1⟩

/-- two inputs are claimed, and the delivery of the second brings the first back -/
def returningEvents : List Event :=
  uploadEvents ++ [.call (deviceInput "cmd_a" 50), .call (deviceInput "cmd_b" 60),
    .call (.claimQueueDelivery (queueEntryId queueEnv ⟨"cmd_a"⟩) 70),
    .call (.claimQueueDelivery (queueEntryId queueEnv ⟨"cmd_b"⟩) 70),
    .call (.finishQueueDelivery (queueEntryId queueEnv ⟨"cmd_b"⟩)
      (inputDelivered "cmd_b" 1 60 ++ [.queueEntryUpserted (inputEntry "cmd_a" 0 50 .pending)])),
    .call (.claimQueueDelivery (queueEntryId queueEnv ⟨"cmd_a"⟩) 90)]

/-- **An entry is claimed twice.** `finish_queue_delivery` looks at the upserts of its own entry only, so the effects that
finish one delivery may set a claimed entry back to `Pending`. -/
theorem entry_claimed_twice :
    tally (Machine.step queueEnv) (claimReturned queueEnv (queueEntryId queueEnv ⟨"cmd_a"⟩)) {} returningEvents = 2 := by
  decide +kernel

end Kaleido.State
