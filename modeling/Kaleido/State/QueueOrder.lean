/-
The order in which queued inputs are delivered.

`enqueueOrder` lists the entries in the order in which they were enqueued, as the log has it. A new entry is placed
behind the pending entries by their number alone, so it comes last only while the pending entries of its session hold
smaller positions (`InOrder`). Then positions follow the order of enqueueing (`Ordered`), and the entry that
`pending_queue_deliveries` offers is the first (`deliveries_in_order`). Once an entry has been claimed ahead of pending
ones, the next input gets a position that is taken (`late_input_overtakes`).
-/
import Kaleido.State.Reload
import Kaleido.State.Submit

namespace Kaleido.State

open Check LineFile Prog Proto CanonicalState

variable {env : Env}

/-! ## The order of enqueueing -/

/-- the entry that an effect enqueues -/
def enqueuedId : StateEffect → Option QueueEntryId
  | .queueEntryUpserted entry => if entry.state.isPending then some entry.id else none
  | _ => none

/-- the entries in the order in which they were enqueued -/
def enqueueOrder (disk : Disk) : List QueueEntryId := (effectsOf disk).filterMap enqueuedId

theorem Logged.enqueueOrder {e : StateEffect} {disk disk' : Disk} (h : Logged e disk disk') :
    enqueueOrder disk' = enqueueOrder disk ++ (enqueuedId e).toList := by
  rw [State.enqueueOrder, h.effectsOf, List.filterMap_append]
  cases he : enqueuedId e <;> simp [State.enqueueOrder, he]

/-- `a` comes before `b`, if both are pending in one session -/
def Before (s : CanonicalState) (a b : QueueEntryId) : Prop :=
  ∀ first second, s.queue[a]? = some first → s.queue[b]? = some second → first.sessionId = second.sessionId →
    first.state.isPending = true → second.state.isPending = true → first.position < second.position

/-- positions follow the order of enqueueing -/
structure Ordered (s : CanonicalState) (order : List QueueEntryId) : Prop where
  keyed : ∀ (k : QueueEntryId) entry, s.queue[k]? = some entry → entry.id = k
  known : ∀ (k : QueueEntryId) entry, s.queue[k]? = some entry → entry.state.isPending = true →
    k ∈ order ∧ entry.intent = .newTurn
  listed : ∀ k ∈ order, s.queue[k]? ≠ none
  sorted : order.Pairwise (Before s)

variable {s next : CanonicalState} {order : List QueueEntryId} {e : StateEffect} {entry : QueueEntry}

/-- an effect that leaves the pending entries and their positions alone, or takes an entry out of them -/
def Harmless : StateEffect → Bool
  | .queueEntryUpserted entry => !entry.state.isPending
  | .queueReordered .. => false
  | _ => true

theorem Ordered.of_queue (h : Ordered s order) (hq : next.queue = s.queue) : Ordered next order := by
  obtain ⟨hkeyed, hknown, hlisted, hsorted⟩ := h
  refine ⟨hq ▸ hkeyed, hq ▸ hknown, hq ▸ hlisted, hsorted.imp fun hb => ?_⟩
  unfold Before
  rw [hq]
  exact hb

/-- an entry that is no longer pending -/
theorem Ordered.leave (h : Ordered s order) (hq : next.queue = s.queue.insert entry.id entry)
    (hp : entry.state.isPending = false) : Ordered next order := by
  have hget : ∀ (k : QueueEntryId) e, next.queue[k]? = some e → e.state.isPending = true → s.queue[k]? = some e := by
    intro k e hk hpe
    rcases OrdMap.of_get_insert (hq ▸ hk) with ⟨-, rfl⟩ | ⟨-, hk⟩
    · rw [hp] at hpe; cases hpe
    · exact hk
  refine ⟨hq ▸ OrdMap.forall_insert h.keyed rfl, fun k e hk hpe => h.known k e (hget k e hk hpe) hpe, fun k hk => ?_,
    h.sorted.imp fun hb first second ha hb' hs hpa hpb => ?_⟩
  · rw [hq, OrdMap.get_insert]
    split_ifs
    · simp
    · exact h.listed k hk
  · exact hb first second (hget _ _ ha hpa) (hget _ _ hb' hpb) hs hpa hpb

/-- an entry that comes after all that are pending in its session -/
theorem Ordered.enqueue (h : Ordered s order) (hq : next.queue = s.queue.insert entry.id entry)
    (hnew : s.queue[entry.id]? = none) (hintent : entry.intent = .newTurn)
    (hlast : ∀ (k : QueueEntryId) earlier, s.queue[k]? = some earlier → earlier.sessionId = entry.sessionId →
      earlier.state.isPending = true → earlier.position < entry.position) : Ordered next (order ++ [entry.id]) := by
  have hself : next.queue[entry.id]? = some entry := by rw [hq, OrdMap.get_insert_self]
  have hother : ∀ k : QueueEntryId, entry.id ≠ k → next.queue[k]? = s.queue[k]? := by
    intro k hk
    rw [hq, OrdMap.get_insert, if_neg hk]
  have hold : ∀ k ∈ order, next.queue[k]? = s.queue[k]? := fun k hk =>
    hother k fun heq => h.listed k hk (heq ▸ hnew)
  refine ⟨fun k e hk => ?_, fun k e hk hpe => ?_, fun k hk => ?_,
    List.pairwise_append.2 ⟨?_, List.pairwise_singleton _ _, fun a ha b hb => ?_⟩⟩
  · by_cases heq : entry.id = k
    · subst heq
      rw [hself] at hk
      cases hk
      rfl
    · exact h.keyed k e (hother k heq ▸ hk)
  · by_cases heq : entry.id = k
    · subst heq
      rw [hself] at hk
      cases hk
      exact ⟨by simp, hintent⟩
    · obtain ⟨hmem, hi⟩ := h.known k e (hother k heq ▸ hk) hpe
      exact ⟨List.mem_append_left _ hmem, hi⟩
  · rcases List.mem_append.1 hk with hk | hk
    · rw [hold k hk]
      exact h.listed k hk
    · rw [List.mem_singleton.1 hk, hself]
      simp
  · refine h.sorted.imp_of_mem fun {a b} ha hb hab => ?_
    unfold Before
    rw [hold a ha, hold b hb]
    exact hab
  · intro first second hfirst hsecond hs hpa _
    rw [hold a ha] at hfirst
    rw [List.mem_singleton.1 hb, hself] at hsecond
    cases hsecond
    exact hlast a first hfirst hs hpa

/-- what an accepted effect does to the order, unless it enqueues or reorders -/
theorem Ordered.step (h : Ordered s order) (he : Harmless e = true) (happly : s.apply e = .ok next) :
    Ordered next (order ++ (enqueuedId e).toList) := by
  have hq := apply_queue happly
  cases e with
  | queueEntryUpserted entry =>
    have hp : entry.state.isPending = false := by simpa [Harmless] using he
    simpa [enqueuedId, hp] using h.leave hq hp
  | queueReordered => cases he
  | _ => simpa [enqueuedId] using h.of_queue hq

/-! ## Operations -/

/-- the order holds of a process and its log -/
def InOrderIn (w : World) : Prop := Ordered w.store.state (enqueueOrder w.disk)

abbrev KeepsOrder {α : Type} (p : StoreM α) : Prop := Keeps World.disk (fun _ => True) InOrderIn InOrderIn p

variable {w : World}

theorem wp_commit_order (ht : env.Tolerant) (h : InOrderIn w)
    (hnext : ∀ s', w.store.state.apply e = .ok s' → Ordered s' (enqueueOrder w.disk ++ (enqueuedId e).toList)) :
    wp World.disk (fun _ => True) (fun _ w' => InOrderIn w') (fun _ w' => InOrderIn w') (applyTrustedCommit env e) w := by
  have hdone : ∀ w' : World, w.store.state.apply e = .ok w'.store.state → Logged e w.disk w'.disk → InOrderIn w' := by
    intro w' happly hlogged
    rw [InOrderIn, hlogged.enqueueOrder]
    exact hnext _ happly
  refine wp_mono (wp_commit env e w) (fun _ _ _ => trivial) (fun _ w' hc => hdone w' hc.state hc.logged) fun _ w' hE => ?_
  rcases hE.2 with ⟨-, happly, hlogged⟩ | ⟨hstore, hdisk⟩
  · exact hdone w' happly hlogged
  · rw [InOrderIn, hstore, hdisk ht]
    exact h

theorem keepsOrder_commit (ht : env.Tolerant) (he : Harmless e = true) : KeepsOrder (applyTrustedCommit env e) :=
  fun _ h => wp_commit_order ht h fun _ happly => Ordered.step h he happly

theorem keepsOrder_apply (ht : env.Tolerant) (he : Harmless e = true) : KeepsOrder (apply env e) :=
  Keeps.bind (Keeps.bind (Keeps.require fun _ h => h) fun _ => keepsOrder_commit ht he) fun _ => Keeps.pure

theorem keepsOrder_applyTrusted (ht : env.Tolerant) (he : Harmless e = true) : KeepsOrder (applyTrusted env e) :=
  Keeps.bind (keepsOrder_commit ht he) fun _ => Keeps.pure

/-- a line that is not of the log -/
theorem wp_appendEntry_order {path : String} {entry : Entry} (hs : entry.stream? = none) (h : InOrderIn w) :
    wp World.disk (fun _ => True) (fun _ w' => InOrderIn w' ∧ w'.store = w.store) (fun _ w' => InOrderIn w')
      (appendEntry env path entry) w := by
  have hsame : ∀ extent, enqueueOrder (w.disk ++ [⟨entry, extent⟩]) = enqueueOrder w.disk := fun extent => by
    simp [enqueueOrder, effectsOf, logRecords, -Entry.stream?, hs]
  refine wp_appendEntry_any (fun _ => trivial) ⟨?_, rfl⟩ h fun extent _ => ?_
  · rw [InOrderIn, show (w.appended entry).disk = w.disk ++ [⟨entry, .whole⟩] from rfl, hsame]
    exact h
  · rw [InOrderIn, hsame]
    exact h

theorem keepsOrder_appendEntry {path : String} {entry : Entry} (hs : entry.stream? = none) :
    KeepsOrder (appendEntry env path entry) := fun _ h =>
  wp_post (wp_appendEntry_order hs h) (fun _ _ hq => hq.1) fun _ _ he => he

theorem keepsOrder_appendOutbox (record : OutboxRecord) : KeepsOrder (appendOutbox env record) :=
  Keeps.bind (keepsOrder_appendEntry rfl) fun _ => Keeps.modify (fun _ => rfl) fun _ h => h

/-- the operations other than submissions and admissions, of harmless effects -/
theorem orderParts (ht : env.Tolerant) : Parts env (fun _ => True) InOrderIn InOrderIn (Harmless · = true) where
  weaken _ h := h
  block _ h := h
  content _ _ h := h
  apply _ := keepsOrder_apply ht
  unavailable _ _ := rfl
  claimed _ _ _ _ _ _ _ := rfl
  claim := (keeps_outbox (fun _ => id) keepsOrder_appendOutbox).2.1
  complete := (keeps_outbox (fun _ => id) keepsOrder_appendOutbox).2.2

theorem keepsOrder_acknowledge (ht : env.Tolerant) (envelope : CommandEnvelope) (ack : CommandAck) :
    KeepsOrder (acknowledge env envelope ack) :=
  Keeps.bind (keepsOrder_applyTrusted ht rfl) fun _ => Keeps.bind
    (Keeps.bind (Keeps.modify (fun _ => rfl) fun _ h => h) fun _ => keepsOrder_appendEntry rfl) fun _ => Keeps.pure

/-- the pending entries of one session -/
def pendingOf (s : CanonicalState) (sessionId : SessionId) : List QueueEntry :=
  (s.queueOf sessionId).filter fun entry => entry.state.isPending

/-- a command that is new to the store enqueues a new entry for a new turn, and the pending entries of its session hold
positions below their number -/
def enqueuesLast (env : Env) (store : Store) (envelope : CommandEnvelope) (nowMs : Int) : Bool :=
  store.idempotency[dedupeDigest env envelope]?.isSome || match enqueues env store.state envelope nowMs with
    | none => true
    | some entry => entry.intent = .newTurn && store.state.queue[entry.id]?.isNone &&
        (pendingOf store.state entry.sessionId).all fun earlier =>
          earlier.position < u32OfCount (pendingOf store.state entry.sessionId).length

/-- the operation brings no pending entry back and enqueues at the end -/
def Op.inOrder (env : Env) (w : World) : Op → Bool
  | .apply e => Harmless e
  | .applyAll effects | .finishDispatch _ effects | .finishQueueDelivery _ effects => effects.all Harmless
  | .submitCommand envelope nowMs => enqueuesLast env w.store envelope nowMs
  | .admitDeviceCommand device envelope request nowMs =>
    w.store.deviceOutbox[deviceCommandKeyDigest env device request.idempotencyKey]?.isSome ||
      enqueuesLast env w.store envelope nowMs
  | _ => true

theorem wp_submitCommand_order (ht : env.Tolerant) (h : InOrderIn w) {envelope : CommandEnvelope} {nowMs : Int}
    (hlast : enqueuesLast env w.store envelope nowMs = true) :
    wp World.disk (fun _ => True) (fun _ => InOrderIn) (fun _ => InOrderIn) (submitCommand env envelope nowMs) w := by
  refine wp_submit (K := InOrderIn) (fun _ => h) (fun _ _ => h) (fun _ hnone entry hentry => ?_) (fun _ _ _ => h)
    fun v hv => keepsOrder_acknowledge ht _ _ v hv
  simp only [enqueuesLast, hnone, hentry, Option.isSome_none, Bool.false_or, Bool.and_eq_true, decide_eq_true_iff,
    Option.isNone_iff_eq_none, List.all_eq_true] at hlast
  obtain ⟨⟨hintent, hnew⟩, hroom⟩ := hlast
  obtain ⟨sessionId, body, intent, hbody, -, rfl, -⟩ := enqueues_eq_some hentry
  refine wp_bind (wp_bind (wp_require (fun _ => wp_post (wp_commit_order ht h fun s' happly => ?_)
    (fun _ _ hq => wp_pure hq) fun _ _ he => he) fun _ => h))
  refine Ordered.enqueue h (apply_queue happly) hnew hintent fun k earlier hk hs hp => ?_
  exact hroom earlier (List.mem_filter.2 ⟨mem_queueOf.2 ⟨⟨k, hk⟩, hs⟩, hp⟩)

/-- a new record leaves the state and the idempotency table alone -/
theorem wp_insertInitial_order (h : InOrderIn w) (record : OutboxRecord) :
    wp World.disk (fun _ => True) (fun _ w' => InOrderIn w' ∧ w'.store.state = w.store.state ∧
      w'.store.idempotency = w.store.idempotency) (fun _ => InOrderIn) (insertInitial env record) w := by
  refine wp_bind (wp_read (wp_bind (wp_liftExcept (fun _ _ => wp_bind (wp_bind ?_)) fun _ _ => h)))
  refine wp_post (wp_appendEntry_order rfl h) (fun _ v hv => wp_modify rfl (wp_pure ⟨hv.1, ?_⟩))
    fun _ _ he => he
  rw [hv.2]
  exact ⟨rfl, rfl⟩

theorem wp_admitDeviceCommand_order (ht : env.Tolerant) (h : InOrderIn w) {device : DeviceId} {envelope : CommandEnvelope}
    {request : DeviceCommandRequest} {nowMs : Int}
    (hlast : (Op.admitDeviceCommand device envelope request nowMs).inOrder env w = true) :
    wp World.disk (fun _ => True) (fun _ => InOrderIn) (fun _ => InOrderIn)
      (admitDeviceCommand env device envelope request nowMs) w := by
  refine wp_admission (fun _ => h) (fun _ _ => h) fun _ hnone => ?_
  simp only [Op.inOrder, hnone, Option.isSome_none, Bool.false_or] at hlast
  intro preview record _
  -- the record comes first; the command is submitted in the state it was checked in
  have hsubmit : ∀ v, InOrderIn v ∧ v.store.state = w.store.state ∧ v.store.idempotency = w.store.idempotency →
      wp World.disk (fun _ => True) (fun _ => InOrderIn) (fun _ => InOrderIn)
        (blockOnError (submitCommand env envelope nowMs)) v := fun v hv => by
    refine wp_onError (fun _ => rfl) (wp_submitCommand_order ht hv.1 ?_)
    rw [enqueuesLast, hv.2.1, hv.2.2]
    exact hlast
  have hparts := orderParts ht
  refine ⟨fun _ => ?_, fun _ => ?_⟩
  · refine wp_seq (wp_insertInitial_order h _) (fun ticket v hv => wp_bind (wp_read ?_))
      fun _ _ he => he
    refine wp_seq (hsubmit v hv) (fun _ u hu => ?_) fun _ _ he => he
    exact (Keeps.bind (hparts.blockOnError hparts.require) fun _ => .bind .read fun _ => .pure) u hu
  · refine wp_seq (wp_insertInitial_order h _) (fun ticket v hv => wp_bind (wp_read ?_))
      fun _ _ he => he
    have hrest : ∀ ack : CommandAck, KeepsOrder (do
        blockOnError (require (ack = record.admissionAck) .commandOutboxDiverged)
        blockOnError (completeRecord env ticket)
        let projections ← changesSince env v.store.projections.checkpoint
        return (⟨ack, none, projections⟩ : DeviceCommandAdmission)) := fun _ =>
      .bind (hparts.blockOnError hparts.require) fun _ => .bind (hparts.blockOnError (hparts.complete _)) fun _ =>
        .bind .read fun _ => .pure
    split_ifs
    · exact wp_seq (hsubmit v hv) (fun _ u hu => hrest _ u hu) fun _ _ he => he
    · exact (Keeps.bind (hparts.blockOnError (keepsOrder_applyTrusted ht rfl)) fun _ => .bind .pure fun _ => hrest _) v hv.1

/-- **One operation** keeps the order. -/
theorem op_keeps_order (ht : env.Tolerant) (h : InOrderIn w) {op : Op} (hop : op.inOrder env w = true) :
    InOrderIn (opStep env w op) := by
  suffices hw : wp World.disk (fun _ => True) (fun _ => InOrderIn) (fun _ => InOrderIn) (op.run env) w from wp_final hw
  cases op with
  | submitCommand envelope nowMs => exact wp_map (wp_submitCommand_order ht h hop)
  | admitDeviceCommand device envelope request nowMs => exact wp_map (wp_admitDeviceCommand_order ht h hop)
  | _ =>
    refine (orderParts ht).run ?_ (by rintro _ _ ⟨⟩) (by rintro _ _ _ _ ⟨⟩) w h
    simpa [Op.effects, Op.inOrder] using hop

/-! ## Deliveries -/

/-- every entry of the session that was enqueued before an offered entry has left `Pending` -/
def DeliversInOrder (w : World) : Prop :=
  ∀ entry commandId, (entry, commandId) ∈ w.store.pendingQueueDeliveries → entry.id ∈ enqueueOrder w.disk ∧
    ∀ before after, enqueueOrder w.disk = before ++ entry.id :: after → ∀ k ∈ before, ∀ earlier,
      w.store.state.queue[k]? = some earlier → earlier.sessionId = entry.sessionId → earlier.state.isPending = false

/-- the offered entry is pending, and no pending entry of its session for a new turn has a smaller position -/
theorem offered {commandId : CommandId} {store : Store} (h : (entry, commandId) ∈ store.pendingQueueDeliveries) :
    entry ∈ store.state.queueOf entry.sessionId ∧ entry.state = .pending ∧
      ∀ other ∈ store.state.queueOf entry.sessionId, other.intent = .newTurn → other.state = .pending →
        entry.position ≤ other.position := by
  obtain ⟨_, hoffer, hcommand⟩ := List.mem_filterMap.1 h
  obtain ⟨session, -, hfind⟩ := List.mem_filterMap.1 hoffer
  obtain ⟨_, -, heq⟩ := Option.map_eq_some_iff.1 hcommand
  cases heq
  obtain ⟨hp, before, after, hsplit, hbefore⟩ := List.find?_eq_some_iff_append.1 hfind
  have hmem : entry ∈ store.state.queueOf session.id := List.mem_of_find?_eq_some hfind
  have hs : entry.sessionId = session.id := (mem_queueOf.1 hmem).2
  rw [hs]
  simp only [Bool.and_eq_true, decide_eq_true_iff] at hp
  refine ⟨hmem, hp.2, fun other hother hi hpending => ?_⟩
  have hsorted := pairwise_queueOf store.state session.id
  rw [hsplit] at hsorted hother
  rcases List.mem_append.1 hother with hother | hother
  · have := hbefore other hother
    simp [hi, hpending] at this
  · rcases List.mem_cons.1 hother with rfl | hother
    · exact le_refl _
    · exact (List.pairwise_cons.1 (List.pairwise_append.1 hsorted).2.1).1 other hother

theorem InOrderIn.delivers (h : InOrderIn w) : DeliversInOrder w := by
  intro entry commandId hoffer
  obtain ⟨hmem, hpending, hfirst⟩ := offered hoffer
  obtain ⟨⟨k, hk⟩, -⟩ := mem_queueOf.1 hmem
  have hp : entry.state.isPending = true := by rw [hpending]; rfl
  obtain rfl := h.keyed k entry hk
  refine ⟨(h.known _ entry hk hp).1, fun before after hsplit k' hk' earlier hearlier hs => ?_⟩
  cases hpe : earlier.state.isPending with
  | false => rfl
  | true =>
    have hbefore : Before w.store.state k' entry.id := by
      have := h.sorted
      rw [hsplit] at this
      exact (List.pairwise_append.1 this).2.2 k' hk' entry.id List.mem_cons_self
    have hlt := hbefore earlier entry hearlier hk hs hpe hp
    have hpe' : earlier.state = .pending := by
      cases hst : earlier.state <;> simp_all [QueueState.isPending]
    have := hfirst earlier (mem_queueOf.2 ⟨⟨k', hearlier⟩, hs⟩) (h.known k' earlier hearlier hpe).2 hpe'
    omega

/-- **First in, first out.** In every run in which an input is enqueued only while the pending entries of its session hold
positions below their number, under a new entry identifier, and no operation brings an entry back to `Pending` or reorders
the queue, every entry enqueued before an offered one has left `Pending`. -/
theorem deliveries_in_order (env : Env) (hio : env.Tolerant) (ops : List Op)
    (hops : Along (opStep env) (fun w op => op.inOrder env w = true) {} ops) :
    DeliversInOrder (runFrom (opStep env) {} ops) := by
  refine InOrderIn.delivers (run_inv (fun w op h hop => op_keeps_order hio h hop) ?_ hops)
  exact ⟨by simp, by simp, by simp [enqueueOrder, effectsOf, logRecords], by simp [enqueueOrder, effectsOf, logRecords]⟩

/-- the SHA-256 digests of three command identifiers; other inputs get the stand-in of the sample installation -/
def queueEnv : Env where
  hexDigest := fun bytes =>
    if bytes = utf8 "cmd_a" then "3ebac592958c439805d2ae8a68d725e9f7071fff16da463401823f77764ff79c"
    else if bytes = utf8 "cmd_b" then "fd575fabf3939789ca5fca2f0ad72a98f5f7a28610ed45611882592087a78eb8"
    else if bytes = utf8 "cmd_c" then "fe726b2ad3c04b6bd94eec29e674aef1752fdef3a4f28e6d9f9555e88469e83a"
    else sampleDigest bytes
  encodeRequest := sampleEnv.encodeRequest
  encodeKey := sampleEnv.encodeKey
  clock := sampleEnv.clock
  io := sampleEnv.io

theorem queueEnv_hexDigests (bytes : List UInt8) : validDigest (queueEnv.hexDigest bytes) = true := by
  simp only [queueEnv]
  split_ifs
  · decide +kernel
  · decide +kernel
  · decide +kernel
  · exact sampleDigest_valid bytes

/-- the broker queues an input for the sample session -/
def sampleInput (name : String) (atMs : Int) : Op :=
  .submitCommand ⟨⟨name⟩, name, .broker, atMs, none, .enqueueInput ⟨"ses_a"⟩ sampleBody .newTurn⟩ atMs

/-- two inputs are queued, the first is claimed, and a third is queued -/
def overtakingOps : List Op :=
  [.apply (.hostUpserted sampleHost), .apply (.sessionUpserted sampleSession), sampleInput "cmd_a" 50, sampleInput "cmd_c" 60,
    .claimQueueDelivery (queueEntryId queueEnv ⟨"cmd_a"⟩) 70, sampleInput "cmd_b" 80]

/-- two inputs are queued and the first is claimed -/
def orderedOps : List Op := overtakingOps.take 5

theorem orderly_inputs_delivered :
    ((runFrom (opStep queueEnv) {} orderedOps).store.pendingQueueDeliveries.map fun p => p.2) = [⟨"cmd_c"⟩] ∧
    DeliversInOrder (runFrom (opStep queueEnv) {} orderedOps) := by
  have hrun : Along (opStep queueEnv) (fun w op => op.inOrder queueEnv w = true) {} orderedOps ∧
      ((runFrom (opStep queueEnv) {} orderedOps).store.pendingQueueDeliveries.map fun p => p.2) = [⟨"cmd_c"⟩] := by
    decide +kernel
  exact ⟨hrun.2, deliveries_in_order queueEnv (by intro n entry fault h; cases h) orderedOps hrun.1⟩

/-- an entry is offered while one of its session that was enqueued before it is pending -/
theorem overtaken {w : World} {early late : QueueEntryId} {before : List QueueEntryId} {sessionId : SessionId}
    {commandId : CommandId} (horder : enqueueOrder w.disk = before ++ [late]) (hearly : early ∈ before)
    (hoffer : (w.store.pendingQueueDeliveries.map fun p => (p.1.id, p.1.sessionId, p.2)) = [(late, sessionId, commandId)])
    (hpending : (w.store.state.queue[early]?.map fun entry => (entry.sessionId, entry.state)) =
      some (sessionId, .pending)) : ¬ DeliversInOrder w := by
  intro h
  have hmem : (late, sessionId, commandId) ∈
      w.store.pendingQueueDeliveries.map fun p => (p.1.id, p.1.sessionId, p.2) := by rw [hoffer]; exact List.mem_singleton.2 rfl
  obtain ⟨⟨entry, commandId'⟩, hmem, heq⟩ := List.mem_map.1 hmem
  obtain ⟨earlier, hearlier, heq'⟩ := Option.map_eq_some_iff.1 hpending
  simp only [Prod.mk.injEq] at heq heq'
  have := (h entry commandId' hmem).2 before [] (by rw [horder, heq.1]) early hearly earlier hearlier
    (heq'.1.trans heq.2.1.symm)
  rw [heq'.2] at this
  cases this

/-- **A late input overtakes.** The third input gets the position that the second one still holds, and the queue then lists
them by their identifiers: the input queued last is offered while the one queued before it is pending. -/
theorem late_input_overtakes : ¬ DeliversInOrder (runFrom (opStep queueEnv) {} overtakingOps) := by
  have hrun : enqueueOrder (runFrom (opStep queueEnv) {} overtakingOps).disk =
        [queueEntryId queueEnv ⟨"cmd_a"⟩, queueEntryId queueEnv ⟨"cmd_c"⟩] ++ [queueEntryId queueEnv ⟨"cmd_b"⟩] ∧
      ((runFrom (opStep queueEnv) {} overtakingOps).store.pendingQueueDeliveries.map fun p =>
        (p.1.id, p.1.sessionId, p.2)) = [(queueEntryId queueEnv ⟨"cmd_b"⟩, ⟨"ses_a"⟩, ⟨"cmd_b"⟩)] ∧
      ((runFrom (opStep queueEnv) {} overtakingOps).store.state.queue[queueEntryId queueEnv ⟨"cmd_c"⟩]?.map
        fun entry => (entry.sessionId, entry.state)) = some (⟨"ses_a"⟩, .pending) := by decide +kernel
  generalize runFrom (opStep queueEnv) {} overtakingOps = w at hrun ⊢
  exact overtaken hrun.1 (by simp) hrun.2.1 hrun.2.2

end Kaleido.State
