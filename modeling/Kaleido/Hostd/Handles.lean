/-
Which subscribers the broker keeps (`kaleido-hostd`, `broker.rs`, `subscribe_with_capacity`, `publish` and the drop of a
`BrokerSubscription`).

A handle is what an accepted subscription returns; it ends when its owner drops or unsubscribes it. A mailbox that overflows is
closed by `publish`, which drops its subscriber too (`publish_fans`). `subscribe_with_capacity` registers before it reads the
journal and takes the subscriber back when the acknowledgement is a refusal, but not when the replay fails.

`subscribers_are_handles` says when a call that returns no subscription leaves nothing behind, and that the subscribers of a run of
such calls are the handles whose mailboxes are open; `failed_replay_stays_registered` is a call that leaves a subscriber behind.
-/
import Kaleido.State.Resume
import Kaleido.State.JournalKept
import Kaleido.Hostd.Latch

namespace Kaleido.Hostd

open Check Prog Proto State

variable {b b' : Broker} {token : Nat} {mailbox : Mailbox} {c : Broker × List Nat} {key : ProjectionKey}
  {j : ProjectionJournal} {call : BrokerCall}

/-! ## Mailboxes -/

/-- an envelope is taken exactly if the mailbox is open afterwards -/
theorem Mailbox.push_taken (m : Mailbox) (envelope : ProjectionEnvelope) (atMs : Int) :
    (m.push envelope atMs).2 = !(m.push envelope atMs).1.closed := by
  unfold Mailbox.push
  cases hclosed : m.closed with
  | true => simp [hclosed]
  | false =>
    simp only [Bool.false_eq_true, if_false]
    split_ifs <;> simp

/-- a closed mailbox stays closed -/
theorem Mailbox.push_open {m : Mailbox} {envelope : ProjectionEnvelope} {atMs : Int}
    (h : (m.push envelope atMs).1.closed = false) : m.closed = false := by
  unfold Mailbox.push at h
  cases hclosed : m.closed with
  | false => rfl
  | true => simp [hclosed] at h

/-- the token has a mailbox that is not closed -/
def Broker.isOpen (b : Broker) (token : Nat) : Bool := b.mailboxes[token]?.any fun mailbox => !mailbox.closed

/-- every subscriber has an open mailbox -/
def Broker.Attended (b : Broker) : Prop := ∀ token key, b.subscribers[token]? = some key → b.isOpen token = true

/-! ## What an operation does to the subscribers -/

/-- no subscriber is added, and the ones that are dropped are those whose mailbox is closed -/
structure Fans (b b' : Broker) : Prop where
  next : b'.nextSubscriptionToken = b.nextSubscriptionToken
  fresh : ∀ token : Nat, b.mailboxes[token]? = none → b'.mailboxes[token]? = none
  unregistered : ∀ token : Nat, b.subscribers[token]? = none → b'.subscribers[token]? = none
  registered : b.Attended → ∀ token : Nat, b'.subscribers[token]? = b.subscribers[token]?.filter fun _ => b'.isOpen token
  fewer : ∀ token, b'.isOpen token = true → b.isOpen token = true
  others : ∀ token : Nat, b.subscribers[token]? = none → b'.isOpen token = b.isOpen token
  journal : JournalSound b.world → JournalSound b'.world

theorem Fans.attended (h : Fans b b') (hb : b.Attended) : b'.Attended := by
  intro token key hkey
  rw [h.registered hb token] at hkey
  exact (Option.filter_eq_some_iff.1 hkey).2

/-- the same subscribers, and the same mailboxes open -/
theorem Fans.of_same (hnext : b'.nextSubscriptionToken = b.nextSubscriptionToken)
    (hsubscribers : b'.subscribers = b.subscribers)
    (hfresh : ∀ token : Nat, b.mailboxes[token]? = none → b'.mailboxes[token]? = none)
    (hopen : ∀ token, b'.isOpen token = b.isOpen token) (hjournal : JournalSound b.world → JournalSound b'.world) :
    Fans b b' := by
  refine ⟨hnext, hfresh, fun _ h => hsubscribers ▸ h, fun hb token => ?_, fun token h => hopen token ▸ h,
    fun token _ => hopen token, hjournal⟩
  rw [hsubscribers, hopen]
  cases hkey : b.subscribers[token]? with
  | none => rfl
  | some key => simp [hb token key hkey, Option.filter]

instance : Std.Refl Fans where
  refl _ := Fans.of_same rfl rfl (fun _ => id) (fun _ => rfl) id

instance : IsTrans Broker Fans where
  trans b b' b'' h h' := by
    refine ⟨h'.next.trans h.next, fun token hb => h'.fresh token (h.fresh token hb),
      fun token hb => h'.unregistered token (h.unregistered token hb), fun hb token => ?_,
      fun token hb => h.fewer token (h'.fewer token hb), fun token hb => ?_, fun hb => h'.journal (h.journal hb)⟩
    · rw [h'.registered (h.attended hb) token, h.registered hb token]
      cases b.subscribers[token]? with
      | none => rfl
      | some key =>
        by_cases hopen : b''.isOpen token = true
        · simp [hopen, h'.fewer token hopen]
        · cases h : b'.isOpen token <;> simp [hopen]
    · rw [h'.others token (h.unregistered token hb), h.others token hb]

/-! ## Publishing -/

/-- the state while envelopes are handed out: the tokens to drop are those whose mailbox is closed -/
structure Fanned (b : Broker) (c : Broker × List Nat) : Prop where
  next : c.1.nextSubscriptionToken = b.nextSubscriptionToken
  subscribers : c.1.subscribers = b.subscribers
  world : c.1.world = b.world
  fresh : ∀ token : Nat, b.mailboxes[token]? = none → c.1.mailboxes[token]? = none
  listed : ∀ token ∈ c.2, (b.subscribers[token]?).isSome
  closed : b.Attended → ∀ (token : Nat) key, b.subscribers[token]? = some key → (c.1.isOpen token = true ↔ token ∉ c.2)
  fewer : ∀ token, c.1.isOpen token = true → b.isOpen token = true
  others : ∀ token : Nat, b.subscribers[token]? = none → c.1.isOpen token = b.isOpen token

variable {b b' : Broker}

theorem Fanned.start : Fanned b (b, []) where
  next := rfl
  subscribers := rfl
  world := rfl
  fresh _ h := h
  listed := nofun
  closed hb token key hkey := by simp [hb token key hkey]
  fewer _ h := h
  others _ _ := rfl

theorem isOpen_insert {token' : Nat} :
    ({ b with mailboxes := b.mailboxes.insert token mailbox } : Broker).isOpen token' =
      if token = token' then !mailbox.closed else b.isOpen token' := by
  unfold Broker.isOpen
  rw [OrdMap.get_insert]
  split_ifs <;> rfl

/-- the mailbox of one subscriber is handed an envelope -/
theorem Fanned.push (h : Fanned b c) (hkey : b.subscribers[token]? = some key)
    (hmailbox : c.1.mailboxes[token]? = some mailbox) (envelope : ProjectionEnvelope) (atMs : Int) :
    Fanned b ({ c.1 with mailboxes := c.1.mailboxes.insert token (mailbox.push envelope atMs).1 },
      if (mailbox.push envelope atMs).2 then c.2 else c.2 ++ [token]) := by
  have htaken := mailbox.push_taken envelope atMs
  have hwas : (mailbox.push envelope atMs).1.closed = false → c.1.isOpen token = true := fun hopen => by
    rw [Broker.isOpen, hmailbox, Option.any_some, Mailbox.push_open hopen]
    rfl
  refine ⟨h.next, h.subscribers, h.world, fun other hother => ?_, fun other hother => ?_, fun hb other otherKey hotherKey => ?_,
    fun other hopen => ?_, fun other hother => ?_⟩
  · rw [OrdMap.get_insert]
    split_ifs with heq
    · rw [← heq] at hother
      rw [h.fresh token hother] at hmailbox
      cases hmailbox
    · exact h.fresh other hother
  · split_ifs at hother with hpushed
    · exact h.listed other hother
    · rcases List.mem_append.1 hother with hold | hnew
      · exact h.listed other hold
      · rw [List.mem_singleton.1 hnew, hkey]
        rfl
  · -- the mailbox that was handed the envelope is to be dropped exactly if it did not take it
    have hother := h.closed hb other otherKey hotherKey
    rw [isOpen_insert, ← htaken]
    cases hpushed : (mailbox.push envelope atMs).2 with
    | true =>
      rw [hpushed, eq_comm, Bool.not_eq_true'] at htaken
      by_cases heq : token = other
      · subst heq
        simpa using hother.1 (hwas htaken)
      · simpa [heq] using hother
    | false =>
      simp only [Bool.false_eq_true, if_false]
      by_cases heq : token = other
      · simp [heq]
      · simpa [heq, Ne.symm heq] using hother
  · rw [isOpen_insert] at hopen
    split_ifs at hopen with heq
    · rw [← heq]
      exact h.fewer token (hwas (by simpa using hopen))
    · exact h.fewer other hopen
  · rw [isOpen_insert]
    split_ifs with heq
    · rw [← heq, hkey] at hother
      cases hother
    · exact h.others other hother

theorem publishOne_fanned (h : Fanned b c) (envelope : ProjectionEnvelope) (atMs : Int) :
    Fanned b (publishOne atMs c envelope) := by
  refine List.foldlRecOn (motive := Fanned b) _ _ h fun c' h' p hp => ?_
  split
  · exact h'
  · rename_i mailbox hmailbox
    have hmem : p ∈ b.subscribers.toList := h.subscribers ▸ List.mem_of_mem_filter hp
    exact h'.push (Std.ExtTreeMap.mem_toList_iff_getElem?_eq_some.1 hmem) hmailbox envelope atMs

theorem get_foldl_erase {α : Type} (tokens : List Nat) (m : OrdMap Nat α) (token : Nat) :
    (tokens.foldl (fun m token => m.erase token) m)[token]? = if token ∈ tokens then none else m[token]? := by
  induction tokens generalizing m with
  | nil => simp
  | cons first rest ih =>
    rw [List.foldl_cons, ih, OrdMap.get_erase]
    by_cases hfirst : first = token
    · simp [hfirst]
    · simp [hfirst, Ne.symm hfirst]

theorem publish_fans (envelopes : List ProjectionEnvelope) (atMs : Int) (b : Broker) : Fans b (publish envelopes atMs b) := by
  have h : Fanned b (envelopes.foldl (publishOne atMs) (b, [])) :=
    List.foldlRecOn (motive := Fanned b) _ _ .start fun c hc envelope _ => publishOne_fanned hc envelope atMs
  generalize hc : envelopes.foldl (publishOne atMs) (b, []) = c at h
  have hpublish : publish envelopes atMs b =
      { c.1 with subscribers := c.2.foldl (fun subscribers token => subscribers.erase token) c.1.subscribers } := by
    rw [publish, hc]
  have hget : ∀ token : Nat, (publish envelopes atMs b).subscribers[token]? =
      if token ∈ c.2 then none else b.subscribers[token]? := by
    intro token
    rw [hpublish, ← h.subscribers]
    exact get_foldl_erase c.2 c.1.subscribers token
  have hopen : ∀ token, (publish envelopes atMs b).isOpen token = c.1.isOpen token := fun token => by rw [hpublish]; rfl
  refine ⟨?_, fun token htoken => ?_, fun token htoken => ?_, fun hb token => ?_, fun token htoken => ?_, fun token htoken => ?_,
    fun hjournal => ?_⟩
  · rw [hpublish]
    exact h.next
  · rw [hpublish]
    exact h.fresh token htoken
  · rw [hget, htoken, ite_self]
  · rw [hget, hopen]
    cases hkey : b.subscribers[token]? with
    | none => simp
    | some key =>
      have hclosed := h.closed hb token key hkey
      by_cases hmem : token ∈ c.2
      · simp [hmem, Bool.eq_false_iff.2 fun hopen => hclosed.1 hopen hmem, Option.filter]
      · simp [hmem, hclosed.2 hmem, Option.filter]
  · rw [hopen] at htoken
    exact h.fewer token htoken
  · rw [hopen]
    exact h.others token htoken
  · rw [hpublish]
    exact hjournal.congr (congrArg (·.store.projections) h.world)

/-! ## Operations -/

variable {env : Env} {mint : String → CommandId} {α : Type} {p : StoreM α}

theorem store_fans (hp : (journalWalk env).Preserves p) : Fans b { b with world := (p b.world).2 } :=
  Fans.of_same rfl rfl (fun _ => id) (fun _ => rfl) (Keeps.final hp)

theorem recv_fans (token : Nat) : Moves Fans (fun _ _ => True) (Broker.recv token) b := by
  refine ⟨?_, fun _ _ => trivial⟩
  unfold Broker.recv
  split
  · exact Std.Refl.refl b
  · rename_i mailbox hmailbox
    refine Fans.of_same rfl rfl (fun other hother => ?_) (fun other => ?_) id
    · rw [OrdMap.get_insert]
      split_ifs with heq
      · rw [← heq, hmailbox] at hother
        cases hother
      · exact hother
    · rw [isOpen_insert]
      split_ifs with heq
      · rw [← heq, Broker.isOpen, hmailbox]
        unfold Mailbox.recv
        split <;> rfl
      · rfl

theorem set_fans (reachability : HostReachability) (atMs : Int) (b : Broker) :
    Moves Fans (fun _ _ => True) (Broker.setAuthenticatedReachability env reachability atMs) b := by
  refine Moves.read.bind fun _ b₁ _ _ => Moves.ite (fun _ => Moves.pure trivial) fun _ => ?_
  refine (Moves.modify (Fans.of_same rfl rfl (fun _ => id) (fun _ => rfl) id)).bind fun _ b₂ _ _ => ?_
  split
  · exact Moves.pure trivial
  · exact (publishing_moves (store_fans (Walk.preserves_applyCommit trivial)) publish_fans).bind fun _ _ _ _ =>
      Moves.pure trivial

/-- the operations that neither add nor end a subscription -/
def BrokerOp.fansOut : BrokerOp → Bool
  | .subscribe .. | .unsubscribe _ => false
  | _ => true

theorem op_fans (op : BrokerOp) (h : op.fansOut = true) : Moves Fans (fun _ _ => True) (op.run env mint) b := by
  refine op_moves (P := True) (fun _ => journalWalk env) (fun b hp => store_fans (hp trivial)) publish_fans
    (fun _ _ _ _ => trivial) (fun _ _ => trivial) (fun _ _ _ => trivial) fun hmailbox => ?_
  cases op with
  | recv token => exact (recv_fans token).bind fun _ _ _ _ => Moves.pure trivial
  | subscribe _ _ _ | unsubscribe _ => cases h
  | _ => cases hmailbox

/-! ## Subscribing -/

/-- the broker with a new subscriber, before the journal is read -/
def Broker.registered (b : Broker) (key : ProjectionKey) (capacity : Nat) : Broker :=
  { b with
    nextSubscriptionToken := b.nextSubscriptionToken + 1
    subscribers := b.subscribers.insert b.nextSubscriptionToken key
    mailboxes := b.mailboxes.insert b.nextSubscriptionToken ⟨[], capacity, false⟩ }

/-- nothing is registered: a mailbox needs room, and the tokens may be used up -/
def Broker.turnsAway (b : Broker) (capacity : Nat) : Bool := capacity = 0 || u64Max < b.nextSubscriptionToken + 1

/-- the acknowledgement is a refusal -/
def refuses : ProjectionSubscribeOutcome → Bool
  | .rejected _ => true
  | _ => false

/-- what a new subscriber becomes once the journal is read: taken back when it is refused, but not when the replay fails -/
def Broker.replayed (b : Broker) (key : ProjectionKey) (capacity : Nat) :
    Except StateError ProjectionReplay → Except BrokerError (Nat × ProjectionReplay) × Broker
  | .error e => (.error (.state e), b.registered key capacity)
  | .ok replay => (.ok (b.nextSubscriptionToken, replay),
    if refuses replay.ack.outcome then
      { b.registered key capacity with
        subscribers := (b.registered key capacity).subscribers.erase b.nextSubscriptionToken }
    else b.registered key capacity)

section

variable {request : ProjectionSubscribe} {atMs : Int} {capacity : Nat}

variable (request atMs) in
theorem subscribe_turnedAway (h : b.turnsAway capacity = true) :
    ∃ e, Broker.subscribeWithCapacity request atMs capacity b = (.error e, b) := by
  unfold Broker.subscribeWithCapacity
  by_cases hcapacity : capacity = 0
  · refine ⟨.invalidSubscriptionCapacity, run_bind_error ?_⟩
    rw [require, if_neg (not_not.2 hcapacity)]
    rfl
  · rw [run_bind (run_require hcapacity b)]
    have hexhausted : ¬ b.nextSubscriptionToken + 1 ≤ u64Max := by simpa [Broker.turnsAway, hcapacity] using h
    refine ⟨.subscriptionIdExhausted, ?_⟩
    rw [run_bind (p := Prog.read _) rfl]
    rw [require, if_neg hexhausted]
    rfl

theorem subscribe_eq (h : b.turnsAway capacity = false) : Broker.subscribeWithCapacity request atMs capacity b =
    b.replayed request.key capacity (b.world.store.projections.replay request atMs) := by
  have hopens : capacity ≠ 0 ∧ b.nextSubscriptionToken + 1 ≤ u64Max := by simpa [Broker.turnsAway] using h
  unfold Broker.subscribeWithCapacity
  rw [run_bind (run_require hopens.1 b), run_bind (p := Prog.read _) rfl, run_bind (run_require hopens.2 b),
    run_bind (p := Prog.modify _) (a := ()) rfl, run_bind (p := Prog.read _) rfl]
  dsimp only [id]
  cases b.world.store.projections.replay request atMs with
  | error e => rfl
  | ok replay => cases houtcome : replay.ack.outcome <;> simp only [Broker.replayed, refuses, houtcome] <;> rfl

variable (atMs) in
/-- a request with a valid key is answered -/
theorem replay_ok (hj : j.Sound) (hkey : request.key.validate = .ok ()) :
    ∃ replay, j.replay request atMs = .ok replay := by
  cases hlast : j.current request.key with
  | none => exact ⟨_, ProjectionJournal.replay_unknown hkey hlast⟩
  | some last =>
    obtain ⟨floor, -, -, hreplay⟩ := ProjectionJournal.replay_eq hj.verified hj.retains hkey hlast
    exact ⟨_, hreplay⟩

end

/-! ## Handles -/

/-- the subscription that a call returns alive -/
def accepted : Except BrokerError (Nat × ProjectionReplay) → Option Nat
  | .ok (token, replay) => if refuses replay.ack.outcome then none else some token
  | .error _ => none

/-- a call that returns no subscription leaves the subscribers and the store as they were -/
def NothingBehind (b : Broker) (request : ProjectionSubscribe) (atMs : Int) (capacity : Nat) : Prop :=
  accepted (Broker.subscribeWithCapacity request atMs capacity b).1 = none →
    (Broker.subscribeWithCapacity request atMs capacity b).2.subscribers = b.subscribers ∧
      (Broker.subscribeWithCapacity request atMs capacity b).2.world = b.world

/-- the key is valid, or the call ends before it registers -/
def Broker.settles (b : Broker) (request : ProjectionSubscribe) (capacity : Nat) : Bool :=
  b.turnsAway capacity || request.key.validate.isOk

/-- the broker and its handles: the accepted subscriptions that are neither dropped nor unsubscribed, with their keys -/
structure Desk where
  broker : Broker
  handles : OrdMap Nat ProjectionKey := ∅

namespace Desk

/-- a call of `subscribe_with_capacity` has returned -/
def subscribed (d : Desk) (key : ProjectionKey) (result : Except BrokerError (Nat × ProjectionReplay) × Broker) : Desk where
  broker := result.2
  handles := (accepted result.1).elim d.handles fun token => d.handles.insert token key

variable (env mint) in
/-- a call of the broker; dropping a handle removes its subscriber as `unsubscribe` does -/
def step (d : Desk) : BrokerCall → Desk
  | .op (.subscribe request atMs capacity) =>
    d.subscribed request.key (Broker.subscribeWithCapacity request atMs capacity d.broker)
  | .op (.unsubscribe token) => ⟨(Broker.unsubscribe token d.broker).2, d.handles.erase token⟩
  | call => { d with broker := (call.run env mint d.broker).2 }

/-- a step that subscribes does so with a valid key, or ends before it registers -/
def settled (d : Desk) : BrokerCall → Bool
  | .op (.subscribe request _ capacity) => d.broker.settles request capacity
  | _ => true

/-- what every run keeps -/
structure Orderly (d : Desk) : Prop where
  attended : d.broker.Attended
  journal : JournalSound d.broker.world
  /-- tokens are not given out twice -/
  fresh : ∀ token ≥ d.broker.nextSubscriptionToken,
    d.broker.subscribers[token]? = none ∧ d.broker.mailboxes[token]? = none ∧ d.handles[token]? = none

/-- the subscribers are the handles whose mailbox is open -/
def Exact (d : Desk) : Prop :=
  ∀ token : Nat, d.broker.subscribers[token]? = d.handles[token]?.filter fun _ => d.broker.isOpen token

variable {d : Desk}

theorem Orderly.fans (h : d.Orderly) (hfans : Fans d.broker b') : Orderly { d with broker := b' } := by
  refine ⟨hfans.attended h.attended, hfans.journal h.journal, fun token htoken => ?_⟩
  obtain ⟨hsubscriber, hmailbox, hhandle⟩ := h.fresh token (hfans.next ▸ htoken)
  exact ⟨hfans.unregistered token hsubscriber, hfans.fresh token hmailbox, hhandle⟩

theorem Exact.fans (h : d.Exact) (horderly : d.Orderly) (hfans : Fans d.broker b') : Exact { d with broker := b' } := by
  intro token
  rw [hfans.registered horderly.attended token, h token]
  cases d.handles[token]? with
  | none => rfl
  | some key =>
    cases hopen : b'.isOpen token with
    | true => simp [hfans.fewer token hopen, Option.filter]
    | false => cases h : d.broker.isOpen token <;> simp [Option.filter]

theorem isOpen_registered {capacity : Nat} : (b.registered key capacity).isOpen token =
    if b.nextSubscriptionToken = token then true else b.isOpen token := by
  unfold Broker.isOpen Broker.registered
  rw [OrdMap.get_insert]
  split_ifs <;> rfl

/-- the new token has an open mailbox, whatever becomes of the call -/
theorem Orderly.registered (h : d.Orderly) (key : ProjectionKey) (capacity : Nat) {subscribers handles : OrdMap Nat ProjectionKey}
    (hsubscribers : ∀ token : Nat, subscribers[token]? = d.broker.subscribers[token]? ∨ token = d.broker.nextSubscriptionToken)
    (hhandles : ∀ token : Nat, handles[token]? = d.handles[token]? ∨ token = d.broker.nextSubscriptionToken) :
    Orderly ⟨{ d.broker.registered key capacity with subscribers := subscribers }, handles⟩ := by
  refine ⟨fun token key' hkey => ?_, h.journal.congr rfl, fun token htoken => ?_⟩
  · change (d.broker.registered key capacity).isOpen token = true
    rw [isOpen_registered]
    split_ifs with heq
    · rfl
    · refine h.attended token key' ?_
      rcases hsubscribers token with hsame | hnew
      · exact hsame ▸ hkey
      · exact absurd hnew.symm heq
  · have hlt : d.broker.nextSubscriptionToken < token := htoken
    obtain ⟨hsubscriber, hmailbox, hhandle⟩ := h.fresh token hlt.le
    have hne : token ≠ d.broker.nextSubscriptionToken := hlt.ne'
    refine ⟨((hsubscribers token).resolve_right hne).trans hsubscriber, ?_, ((hhandles token).resolve_right hne).trans hhandle⟩
    change (d.broker.mailboxes.insert d.broker.nextSubscriptionToken _)[token]? = none
    rw [OrdMap.get_insert, if_neg hne.symm]
    exact hmailbox

theorem get_registered (key : ProjectionKey) (capacity token : Nat) :
    (b.registered key capacity).subscribers[token]? = b.subscribers[token]? ∨ token = b.nextSubscriptionToken := by
  change (b.subscribers.insert b.nextSubscriptionToken key)[token]? = _ ∨ _
  rw [OrdMap.get_insert]
  split_ifs with heq
  · exact .inr heq.symm
  · exact .inl rfl

/-- registering and taking back leaves the subscribers as they were -/
theorem Orderly.erase_registered (h : d.Orderly) (key : ProjectionKey) (capacity : Nat) :
    (d.broker.registered key capacity).subscribers.erase d.broker.nextSubscriptionToken = d.broker.subscribers := by
  refine OrdMap.ext_get fun token => ?_
  rw [OrdMap.get_erase]
  split_ifs with heq
  · rw [← heq, (h.fresh _ le_rfl).1]
  · exact (get_registered key capacity token).resolve_right (Ne.symm heq)

section

variable {request : ProjectionSubscribe} {atMs : Int} {capacity : Nat}

theorem Orderly.subscribed (h : d.Orderly) :
    (d.subscribed request.key (Broker.subscribeWithCapacity request atMs capacity d.broker)).Orderly := by
  cases haway : d.broker.turnsAway capacity with
  | true =>
    obtain ⟨e, he⟩ := subscribe_turnedAway request atMs haway
    rw [he]
    exact h
  | false =>
    rw [subscribe_eq haway]
    cases d.broker.world.store.projections.replay request atMs with
    | error e => exact h.registered request.key capacity (get_registered request.key capacity) fun _ => .inl rfl
    | ok replay =>
      cases hrefuses : refuses replay.ack.outcome with
      | true =>
        simp only [Broker.replayed, Desk.subscribed, accepted, hrefuses, if_true, Option.elim_none, h.erase_registered]
        exact h.registered request.key capacity (fun _ => .inl rfl) fun _ => .inl rfl
      | false =>
        simp only [Broker.replayed, Desk.subscribed, accepted, hrefuses, Bool.false_eq_true, if_false, Option.elim_some]
        refine h.registered request.key capacity (get_registered request.key capacity) fun token => ?_
        rw [OrdMap.get_insert]
        split_ifs with heq
        · exact .inr heq.symm
        · exact .inl rfl

/-- the subscribers stay exact where the key is valid -/
theorem Exact.subscribed (h : d.Exact) (horderly : d.Orderly) (hsettles : d.broker.settles request capacity = true) :
    (d.subscribed request.key (Broker.subscribeWithCapacity request atMs capacity d.broker)).Exact := by
  cases haway : d.broker.turnsAway capacity with
  | true =>
    obtain ⟨e, he⟩ := subscribe_turnedAway request atMs haway
    rw [he]
    exact h
  | false =>
    have hkey : request.key.validate = .ok () := by
      rw [Broker.settles, haway, Bool.false_or] at hsettles
      cases hvalid : request.key.validate with
      | ok => rfl
      | error e => simp [hvalid, Except.isOk, Except.toBool] at hsettles
    obtain ⟨replay, hreplay⟩ := replay_ok atMs horderly.journal hkey
    rw [subscribe_eq haway, hreplay]
    intro token
    have hfresh := horderly.fresh d.broker.nextSubscriptionToken le_rfl
    cases hrefuses : refuses replay.ack.outcome with
    | true =>
      simp only [Broker.replayed, Desk.subscribed, accepted, hrefuses, if_true, Option.elim_none, horderly.erase_registered]
      change d.broker.subscribers[token]? = d.handles[token]?.filter fun _ =>
        (d.broker.registered request.key capacity).isOpen token
      rw [h token, isOpen_registered]
      split_ifs with heq
      · rw [← heq, hfresh.2.2]
        rfl
      · rfl
    | false =>
      simp only [Broker.replayed, Desk.subscribed, accepted, hrefuses, Bool.false_eq_true, if_false, Option.elim_some]
      change (d.broker.subscribers.insert _ _)[token]? = (d.handles.insert _ _)[token]?.filter fun _ =>
        (d.broker.registered request.key capacity).isOpen token
      rw [OrdMap.get_insert, OrdMap.get_insert, isOpen_registered]
      split_ifs with heq
      · rfl
      · exact h token

theorem Orderly.nothingBehind_iff (h : d.Orderly) :
    NothingBehind d.broker request atMs capacity ↔ d.broker.settles request capacity = true := by
  unfold NothingBehind
  cases haway : d.broker.turnsAway capacity with
  | true =>
    obtain ⟨e, he⟩ := subscribe_turnedAway request atMs haway
    simp [he, Broker.settles, haway]
  | false =>
    rw [subscribe_eq haway, Broker.settles, haway, Bool.false_or]
    cases hvalid : request.key.validate with
    | error e =>
      simp only [ProjectionJournal.replay, hvalid]
      refine iff_of_false (fun hsame => ?_) (by simp [Except.isOk, Except.toBool])
      have hregistered : (d.broker.registered request.key capacity).subscribers = d.broker.subscribers := (hsame rfl).1
      have hnew : (d.broker.registered request.key capacity).subscribers[d.broker.nextSubscriptionToken]? = some request.key :=
        OrdMap.get_insert_self _ _ _
      rw [hregistered, (h.fresh _ le_rfl).1] at hnew
      cases hnew
    | ok =>
      obtain ⟨replay, hreplay⟩ := replay_ok atMs h.journal hvalid
      rw [hreplay]
      refine iff_of_true (fun hnone => ?_) rfl
      cases hrefuses : refuses replay.ack.outcome with
      | true =>
        simp only [Broker.replayed, hrefuses, if_true, h.erase_registered]
        exact ⟨trivial, rfl⟩
      | false => simp [Broker.replayed, accepted, hrefuses] at hnone

end

/-! ## Whole runs -/

theorem Orderly.unsubscribed (h : d.Orderly) (token : Nat) :
    Orderly ⟨(Broker.unsubscribe token d.broker).2, d.handles.erase token⟩ := by
  have herase : ∀ {m : OrdMap Nat ProjectionKey} {other : Nat}, m[other]? = none → (m.erase token)[other]? = none := by
    intro m other hnone
    rw [OrdMap.get_erase, hnone, ite_self]
  refine ⟨fun other key hkey => ?_, h.journal.congr rfl, fun other hother => ?_⟩
  · change (d.broker.subscribers.erase token)[other]? = some key at hkey
    rw [OrdMap.get_erase] at hkey
    split_ifs at hkey
    exact h.attended other key hkey
  · obtain ⟨hsubscriber, hmailbox, hhandle⟩ := h.fresh other hother
    exact ⟨herase hsubscriber, hmailbox, herase hhandle⟩

theorem Exact.unsubscribed (h : d.Exact) (token : Nat) :
    Exact ⟨(Broker.unsubscribe token d.broker).2, d.handles.erase token⟩ := by
  intro other
  change (d.broker.subscribers.erase token)[other]? = (d.handles.erase token)[other]?.filter fun _ => d.broker.isOpen other
  rw [OrdMap.get_erase, OrdMap.get_erase]
  split_ifs
  · rfl
  · exact h other

/-- a call that neither adds nor ends a subscription -/
def fansOut : BrokerCall → Bool
  | .op op => op.fansOut
  | .setAuthenticatedReachability .. => true

variable (env mint) in
theorem step_fans (h : fansOut call = true) : ∃ b', step env mint d call = { d with broker := b' } ∧
    Fans d.broker b' := by
  cases call with
  | setAuthenticatedReachability reachability atMs =>
    exact ⟨_, rfl, ((set_fans reachability atMs d.broker).bind (W := fun _ _ => True) fun _ _ _ _ => Moves.pure trivial).moved⟩
  | op op =>
    refine ⟨(op.run env mint d.broker).2, ?_, (op_fans op h).moved⟩
    cases op <;> first | rfl | cases h

theorem orderly_step (h : d.Orderly) (call : BrokerCall) : (step env mint d call).Orderly := by
  cases hfans : fansOut call with
  | true =>
    obtain ⟨b', heq, hb'⟩ := step_fans env mint (d := d) hfans
    rw [heq]
    exact h.fans hb'
  | false =>
    cases call with
    | setAuthenticatedReachability reachability atMs => cases hfans
    | op op =>
      cases op with
      | subscribe request atMs capacity => exact h.subscribed
      | unsubscribe token => exact h.unsubscribed token
      | _ => cases hfans

theorem exact_step (h : d.Exact) (horderly : d.Orderly) (hsettled : d.settled call = true) :
    (step env mint d call).Exact := by
  cases hfans : fansOut call with
  | true =>
    obtain ⟨b', heq, hb'⟩ := step_fans env mint (d := d) hfans
    rw [heq]
    exact h.fans horderly hb'
  | false =>
    cases call with
    | setAuthenticatedReachability reachability atMs => cases hfans
    | op op =>
      cases op with
      | subscribe request atMs capacity => exact h.subscribed horderly hsettled
      | unsubscribe token => exact h.unsubscribed token
      | _ => cases hfans

/-- a broker that was just opened or loaded: nobody is subscribed, and its journal was read from the files -/
structure Starts (env : Env) (b : Broker) : Prop where
  subscribers : b.subscribers = ∅
  mailboxes : b.mailboxes = ∅
  store : readJournal env b.world.disk = .ok b.world.store.projections ∨ ∃ w, State.load env w = (.ok (), b.world)

theorem Starts.orderly (h : Starts env b) : Orderly { broker := b } := by
  refine ⟨fun token key hkey => ?_, ?_, fun token _ => ⟨?_, ?_, ?_⟩⟩
  · rw [h.subscribers] at hkey
    simp at hkey
  · rcases h.store with hopened | ⟨w, hloaded⟩
    · exact readJournal_sound hopened
    · exact load_journalSound hloaded
  · rw [h.subscribers]
    simp
  · rw [h.mailboxes]
    simp
  · simp

theorem Starts.exact (h : Starts env b) : Exact { broker := b } := by
  intro token
  rw [h.subscribers]
  simp

end Desk

/--
**Subscribers are handles.** After every run of a broker from its start, a call of `subscribe_with_capacity` that returns no
subscription leaves the subscribers and the store as they were exactly if its key is valid or it ends before it registers. In a
run whose calls all do so, the subscribers are exactly the accepted subscriptions that are neither dropped nor unsubscribed and
whose mailbox has not overflowed, each with the key of its request.
-/
theorem subscribers_are_handles (env : Env) (mint : String → CommandId) (start : Broker) (hstart : Desk.Starts env start)
    (calls : List BrokerCall) :
    (∀ request atMs capacity, NothingBehind (runFrom (Desk.step env mint) { broker := start } calls).broker request atMs capacity ↔
      (runFrom (Desk.step env mint) { broker := start } calls).broker.settles request capacity = true) ∧
    (Along (Desk.step env mint) (fun d call => d.settled call = true) { broker := start } calls →
      (runFrom (Desk.step env mint) { broker := start } calls).Exact) := by
  have horderly : (runFrom (Desk.step env mint) { broker := start } calls).Orderly :=
    run_inv_all (I := Desk.Orderly) (fun _ call h => Desk.orderly_step h call) hstart.orderly calls
  refine ⟨fun request atMs capacity => horderly.nothingBehind_iff, fun hrun => ?_⟩
  exact (run_inv (I := fun d : Desk => d.Orderly ∧ d.Exact)
    (fun d call h hsettled => ⟨Desk.orderly_step h.1 call, Desk.exact_step h.2 h.1 hsettled⟩)
    ⟨hstart.orderly, hstart.exact⟩ hrun).2

/-- a broker over empty files -/
def idleBroker : Broker := { hostId := ⟨"host"⟩ }

theorem idleBroker_starts (env : Env) : Desk.Starts env idleBroker := ⟨rfl, rfl, .inl rfl⟩

/-- a subscription that the journal refuses, for it has no view of the key, and one that is unsubscribed -/
def sampleCalls : List BrokerCall := [.op (.subscribe ⟨.projectIndex ⟨"host"⟩, none⟩ 0 1), .op (.unsubscribe 1)]

theorem subscribers_are_handles_sample :
    Along (Desk.step sampleEnv fun seed => ⟨seed⟩) (fun d call => d.settled call = true) { broker := idleBroker } sampleCalls ∧
      (runFrom (Desk.step sampleEnv fun seed => ⟨seed⟩) { broker := idleBroker } sampleCalls).Exact := by
  have hrun : Along (Desk.step sampleEnv fun seed => ⟨seed⟩) (fun d call => d.settled call = true) { broker := idleBroker }
      sampleCalls := by decide +kernel
  exact ⟨hrun, (subscribers_are_handles sampleEnv (fun seed => ⟨seed⟩) idleBroker (idleBroker_starts sampleEnv) sampleCalls).2 hrun⟩

/-- a subscription to a key without an identifier -/
def namelessRequest : ProjectionSubscribe := ⟨.projectIndex ⟨""⟩, none⟩

/-- the call fails, and its subscriber stays registered without a handle -/
theorem failed_replay_stays_registered :
    accepted (Broker.subscribeWithCapacity namelessRequest 0 1 idleBroker).1 = none ∧
    (Broker.subscribeWithCapacity namelessRequest 0 1 idleBroker).2.subscribers[1]? = some namelessRequest.key ∧
    idleBroker.subscribers[1]? = none := by
  decide +kernel

end Kaleido.Hostd
