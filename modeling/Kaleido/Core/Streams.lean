/-
The views of one connection (`kaleido-core`, `mobile.rs`; `kaleido-proto`, `projection.rs`): a host sends every subscription its
own stream, and all subscriptions of a key share one cached view.

`Streams` follows, beside the worker, the cursor that each subscription of the connection is owed next. `Table` says that what
a subscription is owed is what the worker takes: the view it was promised, or the one after the cached view. That needs the
subscriptions of a connection to have different keys (`Alone`): with two of one key, the view of the first moves the cursor of
the second, and the second is refused (`second_subscription_refused`). With it, every view is taken and shown
(`streams_accepted`).
-/
import Kaleido.Core.Steps

namespace Kaleido.Core

open Check Prog Proto Transport ProjectionCache

variable {subscriptionId ticket id requestId : Nat} {w₁ : Worker} {envelope : ProjectionEnvelope}
  {ack : ProjectionSubscribeAck} {origin : Origin} {input : Input} {frame : Frame}

/-- the subscription whose acknowledgement the worker waits for under these numbers -/
def Worker.awaited (w : Worker) (requestId subscriptionId : Nat) : Option ProjectionSubscribe :=
  match w.activity with
  | .waiting (.subscribeAck request subscription subscribe) _ =>
    if request = requestId ∧ subscription = subscriptionId then some subscribe else none
  | _ => none

/-- the worker, and what its host has let it know: the cursor that each subscription of the present connection is owed next,
and for every key a bound below which no view is retained -/
structure Streams where
  worker : Worker
  due : OrdMap Nat Nat := ∅
  gone : ProjectionKey → Nat := fun _ => 0

namespace Streams

/-- an acknowledgement starts a stream, and every view is followed by the next -/
def owed (s : Streams) : Input → OrdMap Nat Nat
  | .frame (.control (.ok (.projectionEnvelopeFrame subscriptionId envelope))) =>
    if s.worker.activity.reads then s.due.insert subscriptionId (envelope.cursor.seq + 1) else s.due
  | .frame (.control (.ok (.projectionSubscribeAckFrame requestId subscriptionId ack))) =>
    match s.worker.awaited requestId subscriptionId, ack.outcome with
    | some _, .resumed cursor | some _, .currentFollows cursor => s.due.insert subscriptionId cursor.seq
    | _, _ => s.due
  | _ => s.due

/-- a host that sends the current view retains the one after the caller's cursor no longer -/
def learned (s : Streams) : Input → ProjectionKey → Nat
  | .frame (.control (.ok (.projectionSubscribeAckFrame requestId subscriptionId ack))), key =>
    match s.worker.awaited requestId subscriptionId, ack.outcome with
    | some ⟨asked, some cursor⟩, .currentFollows _ => if asked = key then max (s.gone key) (cursor.seq + 2) else s.gone key
    | _, _ => s.gone key
  | _, key => s.gone key

/-- the streams of a connection end with it -/
def step (env : WorkerEnv) (s : Streams) (input : Input) : Streams where
  worker := s.worker.step env input
  due := if (s.worker.step env input).activity = .offline then ∅ else s.owed input
  gone := s.learned input

/-- what a host sends to the active subscriptions: their next views, and no resumption from a view that it let go; the
identifiers of subscriptions are drawn once -/
def Conforms (s : Streams) : Input → Prop
  | .frame (.control (.ok (.projectionEnvelopeFrame subscriptionId envelope))) => s.worker.activity.reads →
    s.worker.callbacks[subscriptionId]? = some envelope.key ∧ s.due[subscriptionId]? = some envelope.cursor.seq ∧
      Sendable envelope ∧ envelope.cursor.seq ≤ u64Max
  | .frame (.control (.ok (.projectionSubscribeAckFrame requestId subscriptionId ack))) =>
    ∀ subscribe cursor, s.worker.awaited requestId subscriptionId = some subscribe → ack.outcome = .resumed cursor →
      s.gone subscribe.key ≤ cursor.seq
  | .command _ (.subscribe subscriptionId _) => s.worker.callbacks[subscriptionId]? = none ∧
    s.worker.currentSnapshots[subscriptionId]? = none ∧ s.due[subscriptionId]? = none
  | _ => True

/-- a subscription that the worker starts is the only one of its key, from the cursor that is cached -/
def Alone (s : Streams) : Input → Prop
  | .command _ (.subscribe _ subscribe) => s.worker.activity = .idle →
    (∀ other : Nat, s.worker.callbacks[other]? ≠ some subscribe.key) ∧ s.worker.cache.since subscribe.key = subscribe.since
  | _ => True

end Streams

/-! ## What a subscription is owed -/

/-- the view that is due is the promised one, or the one after the cached view -/
def AtPlace (w : Worker) (subscriptionId : Nat) (key : ProjectionKey) (due : Nat) : Prop :=
  w.currentSnapshots[subscriptionId]? = some ⟨due⟩ ∧ (∀ cursor, w.cache.since key = some cursor → cursor.seq < due) ∨
    w.currentSnapshots[subscriptionId]? = none ∧ ∃ cursor, w.cache.since key = some cursor ∧ cursor.seq + 1 = due

/-- the subscriptions have different keys, each is owed what the worker takes, and a promise, also one of an earlier
connection, is of a key whose cached view the host cannot resume from -/
structure Table (due : OrdMap Nat Nat) (gone : ProjectionKey → Nat) (w : Worker) : Prop where
  distinct : ∀ (id other : Nat) (key : ProjectionKey), w.callbacks[id]? = some key → w.callbacks[other]? = some key → id = other
  next : ∀ (id : Nat) (key : ProjectionKey) (d : Nat), w.callbacks[id]? = some key → due[id]? = some d → AtPlace w id key d
  promises : ∀ (id : Nat) (key : ProjectionKey) (promised : Cursor), w.callbacks[id]? = some key →
    w.currentSnapshots[id]? = some promised → ∀ cursor, w.cache.since key = some cursor → cursor.seq + 1 < gone key

/-- a subscription that is asked for has no stream yet, and neither have those that `resubscribe_all` comes to later -/
structure Asking (due : OrdMap Nat Nat) (w : Worker) : Prop where
  asks : ∀ (requestId id : Nat) (subscribe : ProjectionSubscribe) (origin : Origin),
    w.activity = .waiting (.subscribeAck requestId id subscribe) origin →
      due[id]? = none ∧ ∀ key : ProjectionKey, w.callbacks[id]? = some key →
        key = subscribe.key ∧ w.cache.since key = subscribe.since
  rests : ∀ (waiting : Waiting) (rest : List Nat), w.activity = .waiting waiting (.reconnect rest) →
    rest.Nodup ∧ (∀ id ∈ rest, due[id]? = none) ∧
      ∀ requestId id subscribe, waiting = .subscribeAck requestId id subscribe → id ∉ rest

structure Ready (due : OrdMap Nat Nat) (gone : ProjectionKey → Nat) (w : Worker) : Prop where
  table : Table due gone w
  asking : Asking due w

/-- subscriptions, promises and streams have only gone -/
structure Fewer (due due' : OrdMap Nat Nat) (w w' : Worker) : Prop where
  cache : w'.cache = w.cache
  callbacks : ∀ (id : Nat) (key : ProjectionKey), w'.callbacks[id]? = some key → w.callbacks[id]? = some key
  promises : ∀ (id : Nat) (key : ProjectionKey) (promised : Cursor), w'.callbacks[id]? = some key →
    w'.currentSnapshots[id]? = some promised → w.currentSnapshots[id]? = some promised
  due : ∀ (id : Nat) (key : ProjectionKey) (d : Nat), w'.callbacks[id]? = some key → due'[id]? = some d →
    due[id]? = some d ∧ w'.currentSnapshots[id]? = w.currentSnapshots[id]?

section

variable {due due' : OrdMap Nat Nat} {gone gone' : ProjectionKey → Nat} {w w' : Worker}

theorem Table.fewer (h : Table due gone w) (hfewer : Fewer due due' w w') (hgone : ∀ key, gone key ≤ gone' key) :
    Table due' gone' w' where
  distinct id other key hid hother := h.distinct id other key (hfewer.callbacks id key hid) (hfewer.callbacks other key hother)
  next id key d hid hd := by
    obtain ⟨hdue, hsnapshot⟩ := hfewer.due id key d hid hd
    unfold AtPlace
    rw [hsnapshot, hfewer.cache]
    exact h.next id key d (hfewer.callbacks id key hid) hdue
  promises id key promised hid hpromised cursor hcursor := by
    rw [hfewer.cache] at hcursor
    exact (h.promises id key promised (hfewer.callbacks id key hid) (hfewer.promises id key promised hid hpromised) cursor
      hcursor).trans_le (hgone key)

/-- the worker without its connection, or with the same streams -/
theorem Fewer.of_eq (hcache : w'.cache = w.cache) (hcallbacks : w'.callbacks = w.callbacks)
    (hsnapshots : w'.currentSnapshots = w.currentSnapshots) (hdue : due' = due ∨ due' = ∅) : Fewer due due' w w' where
  cache := hcache
  callbacks id key h := hcallbacks ▸ h
  promises id key promised _ h := hsnapshots ▸ h
  due id key d _ h := by
    rcases hdue with rfl | rfl
    · exact ⟨h, by rw [hsnapshots]⟩
    · simp at h

/-- one subscription is taken out -/
theorem Fewer.of_withdrawn (hcache : w'.cache = w.cache)
    (hcallbacks : ∀ other : Nat, w'.callbacks[other]? = if subscriptionId = other then none else w.callbacks[other]?)
    (hsnapshots : ∀ other : Nat, subscriptionId ≠ other → w'.currentSnapshots[other]? = w.currentSnapshots[other]?)
    (hdue : ∀ other : Nat, subscriptionId ≠ other → due'[other]? = due[other]? ∨ due'[other]? = none) :
    Fewer due due' w w' := by
  have hother : ∀ (id : Nat) (key : ProjectionKey), w'.callbacks[id]? = some key →
      subscriptionId ≠ id ∧ w.callbacks[id]? = some key := by
    intro id key h
    rw [hcallbacks] at h
    split_ifs at h with heq
    exact ⟨heq, h⟩
  refine ⟨hcache, fun id key h => (hother id key h).2, fun id key promised h hpromised => ?_, fun id key d h hd => ?_⟩
  · rwa [hsnapshots id (hother id key h).1] at hpromised
  · have hne := (hother id key h).1
    rcases hdue id hne with heq | heq
    · exact ⟨heq ▸ hd, hsnapshots id hne⟩
    · rw [heq] at hd
      cases hd

theorem Asking.of_not_waiting (h : w.activity = .idle ∨ w.activity = .offline ∨ w.activity = .stopped ∨
    w.activity = .resubscribed) : Asking due w := by
  constructor
  · intro requestId id subscribe origin heq
    rw [heq] at h
    rcases h with h | h | h | h <;> cases h
  · intro waiting rest heq
    rw [heq] at h
    rcases h with h | h | h | h <;> cases h

/-- a call that waits for no acknowledgement of a subscription -/
theorem Asking.of_call {waiting : Waiting} (h : w.activity = .waiting waiting (.call ticket))
    (hother : ∀ requestId id subscribe, waiting ≠ .subscribeAck requestId id subscribe) : Asking due w := by
  constructor
  · intro requestId id subscribe origin heq
    rw [h] at heq
    cases heq
    exact absurd rfl (hother _ _ _)
  · intro waiting' rest heq
    rw [h] at heq
    cases heq

/-- a wait that goes on while streams end or go on -/
theorem Asking.mono (h : Asking due w) (hactivity : w'.activity = w.activity)
    (hdue : ∀ id : Nat, due[id]? = none → due'[id]? = none)
    (hkept : ∀ (id : Nat) (key : ProjectionKey), due[id]? = none → w'.callbacks[id]? = some key →
      w.callbacks[id]? = some key ∧ w'.cache.since key = w.cache.since key) : Asking due' w' := by
  constructor
  · intro requestId id subscribe origin heq
    obtain ⟨hnone, hkeys⟩ := h.asks requestId id subscribe origin (hactivity ▸ heq)
    refine ⟨hdue id hnone, fun key hkey => ?_⟩
    obtain ⟨hkey', hsince⟩ := hkept id key hnone hkey
    rw [hsince]
    exact hkeys key hkey'
  · intro waiting rest heq
    obtain ⟨hnodup, hnone, hown⟩ := h.rests waiting rest (hactivity ▸ heq)
    exact ⟨hnodup, fun id hid => hdue id (hnone id hid), hown⟩

theorem Asking.fewer (h : Asking due w) (hactivity : w'.activity = w.activity) (hfewer : Fewer due due' w w')
    (hdue : ∀ id : Nat, due[id]? = none → due'[id]? = none) : Asking due' w' :=
  h.mono hactivity hdue fun id key _ hkey => ⟨hfewer.callbacks id key hkey, by rw [hfewer.cache]⟩

/-- a turn of `resubscribe_all` -/
theorem Ready.loop {rest : List Nat} (htable : Table due gone w₁) (hnodup : rest.Nodup)
    (hnone : ∀ id ∈ rest, due[id]? = none) (hloop : Loop w₁ rest w') :
    Ready (if w'.activity = .offline then ∅ else due) gone w' := by
  cases hloop with
  | finished _ => exact ⟨htable.fewer (.of_eq rfl rfl rfl (.inl rfl)) fun _ => le_rfl, .of_not_waiting (by simp)⟩
  | @asked subscriptionId later key writes hsuffix hkey =>
    refine ⟨htable.fewer (.of_eq rfl rfl rfl (.inl rfl)) fun _ => le_rfl, ?_, ?_⟩
    · rintro _ _ _ _ ⟨⟩
      refine ⟨hnone subscriptionId (hsuffix.subset List.mem_cons_self), fun other hother => ?_⟩
      have hsame : other = key := Option.some.inj (hother.symm.trans hkey)
      exact ⟨hsame, by rw [hsame]; rfl⟩
    · rintro _ _ ⟨⟩
      obtain ⟨hnotin, hlater⟩ := List.nodup_cons.mp (hsuffix.sublist.nodup hnodup)
      refine ⟨hlater, fun id hid => hnone id (hsuffix.subset (List.mem_cons_of_mem _ hid)), ?_⟩
      rintro _ _ _ ⟨⟩
      exact hnotin
  | failed writes _ => exact ⟨htable.fewer (.of_eq rfl rfl rfl (.inr rfl)) fun _ => le_rfl, .of_not_waiting (by simp)⟩

theorem since_persist (cache : ProjectionCache) (envelope : ProjectionEnvelope) (key : ProjectionKey) :
    (cache.persist envelope).since key = if envelope.key = key then some envelope.cursor else cache.since key := by
  rw [ProjectionCache.since, cached_persist]
  split_ifs <;> rfl

/-- the view that is due is taken -/
theorem Table.offer (h : Table due gone w) (hkey : w.callbacks[id]? = some envelope.key)
    (hdue : due[id]? = some envelope.cursor.seq) (hsend : Sendable envelope) (hmax : envelope.cursor.seq ≤ u64Max) :
    w.offer id envelope = .ok (.applied, w.cache.persist envelope) := by
  unfold Worker.offer
  rcases h.next id envelope.key _ hkey hdue with ⟨hpromised, -⟩ | ⟨hnone, cursor, hsince, hnext⟩
  · rw [hpromised]
    exact applyCurrent_promised hsend
  · rw [hnone]
    obtain ⟨previous, hcached, rfl⟩ := Option.map_eq_some_iff.mp hsince
    refine apply_next hsend hcached ?_
    rw [Cursor.next, if_pos (by omega), hnext]

/-- a view of one subscription leaves the others where they are -/
theorem Table.show (h : Table due gone w) (hkey : w.callbacks[id]? = some envelope.key) :
    Table (due.insert id (envelope.cursor.seq + 1)) gone (w.show id envelope (w.cache.persist envelope)) := by
  have hsame : ∀ other key, w.callbacks[other]? = some key → id ≠ other → envelope.key ≠ key := by
    rintro other key hother hne rfl
    exact hne (h.distinct id other _ hkey hother)
  have hsnapshot : ∀ other : Nat, (w.show id envelope (w.cache.persist envelope)).currentSnapshots[other]? =
      if id = other then none else w.currentSnapshots[other]? := fun other => OrdMap.get_erase _ _ _
  have hsince : ∀ key, (w.show id envelope (w.cache.persist envelope)).cache.since key =
      if envelope.key = key then some envelope.cursor else w.cache.since key := since_persist w.cache envelope
  refine ⟨h.distinct, fun other key d hother hd => ?_, fun other key promised hother hpromised cursor hcursor => ?_⟩
  · unfold AtPlace
    rw [OrdMap.get_insert] at hd
    rw [hsnapshot, hsince]
    by_cases heq : id = other
    · subst heq
      obtain rfl : envelope.key = key := Option.some.inj (hkey.symm.trans hother)
      rw [if_pos rfl] at hd
      obtain rfl := Option.some.inj hd
      rw [if_pos rfl, if_pos rfl]
      exact .inr ⟨rfl, _, rfl, rfl⟩
    · rw [if_neg heq] at hd
      rw [if_neg heq, if_neg (hsame other key hother heq)]
      exact h.next other key d hother hd
  · rw [hsnapshot] at hpromised
    rw [hsince] at hcursor
    split_ifs at hpromised with heq
    rw [if_neg (hsame other key hother heq)] at hcursor
    exact h.promises other key promised hother hpromised cursor hcursor

/-- the cursor that a stream starts with -/
def firstDue : ProjectionSubscribeOutcome → Option Nat
  | .resumed cursor | .currentFollows cursor => some cursor.seq
  | .rejected _ => none

theorem validateFor_resumed {subscribe : ProjectionSubscribe} {cursor : Cursor} (h : ack.validateFor subscribe = .ok ())
    (houtcome : ack.outcome = .resumed cursor) :
    ∃ since, subscribe.since = some since ∧ since.seq + 1 = cursor.seq := by
  simp only [ProjectionSubscribeAck.validateFor, seq_eq_ok, houtcome] at h
  cases hsince : subscribe.since with
  | none => simp [hsince] at h
  | some since =>
    simp only [hsince, bind_eq_ok, ensure_eq_ok] at h
    obtain ⟨-, -, -, expected, hexpected, rfl⟩ := h
    refine ⟨since, rfl, ?_⟩
    unfold Cursor.next at hexpected
    split_ifs at hexpected
    rw [← Except.ok.inj hexpected]

/-- an acknowledgement that is accepted starts the stream where the worker stands -/
theorem Table.promise (h : Table due gone w) {d : Nat} {subscribe : ProjectionSubscribe}
    (hasks : ∀ key : ProjectionKey, w.callbacks[id]? = some key → key = subscribe.key ∧ w.cache.since key = subscribe.since)
    (hvalid : ack.validateFor subscribe = .ok ()) (hfirst : firstDue ack.outcome = some d)
    (hresumed : ∀ cursor, ack.outcome = .resumed cursor → gone subscribe.key ≤ cursor.seq) (hgone : ∀ key, gone key ≤ gone' key)
    (hcurrent : ∀ since cursor, subscribe.since = some since → ack.outcome = .currentFollows cursor →
      since.seq + 1 < gone' subscribe.key) : Table (due.insert id d) gone' (w.promise id ack.outcome) := by
  have hcallbacks : (w.promise id ack.outcome).callbacks = w.callbacks := by rw [promise_eq]
  have hcache : (w.promise id ack.outcome).cache = w.cache := by rw [promise_eq]
  have hothers : ∀ other : Nat, id ≠ other →
      (w.promise id ack.outcome).currentSnapshots[other]? = w.currentSnapshots[other]? := fun other hne =>
    promise_snapshots id ack.outcome hne
  -- the promise of this subscription, or none: a host does not resume from a view that it let go
  have hown : ∀ key : ProjectionKey, w.callbacks[id]? = some key → AtPlace (w.promise id ack.outcome) id key d ∧
      ∀ promised, (w.promise id ack.outcome).currentSnapshots[id]? = some promised →
        ∀ cursor, w.cache.since key = some cursor → cursor.seq + 1 < gone' key := by
    intro key hkey
    obtain ⟨rfl, hsince⟩ := hasks key hkey
    unfold AtPlace
    rw [hcache, hsince]
    cases houtcome : ack.outcome with
    | resumed cursor =>
      rw [houtcome] at hfirst
      obtain rfl : cursor.seq = d := Option.some.inj hfirst
      obtain ⟨since, hasked, hnext⟩ := validateFor_resumed hvalid houtcome
      have hnone : w.currentSnapshots[id]? = none := by
        cases hpromised : w.currentSnapshots[id]? with
        | none => rfl
        | some promised =>
          have := h.promises id _ promised hkey hpromised since (hsince.trans hasked)
          have := hresumed cursor houtcome
          omega
      refine ⟨.inr ⟨hnone, since, hasked, hnext⟩, fun promised hpromised => ?_⟩
      rw [show w.currentSnapshots[id]? = some promised from hpromised] at hnone
      cases hnone
    | currentFollows cursor =>
      rw [houtcome] at hfirst
      obtain rfl : cursor.seq = d := Option.some.inj hfirst
      refine ⟨.inl ⟨?_, fun since hasked => ?_⟩, fun _ _ since hasked => ?_⟩
      · exact (OrdMap.get_insert w.currentSnapshots id id cursor).trans (if_pos rfl)
      · simp only [ProjectionSubscribeAck.validateFor, seq_eq_ok, houtcome, hasked, ensure_eq_ok] at hvalid
        exact hvalid.2.2.2
      · exact hcurrent since cursor hasked houtcome
    | rejected error =>
      rw [houtcome] at hfirst
      cases hfirst
  refine ⟨fun _ _ _ => hcallbacks ▸ h.distinct _ _ _, fun other key d' hother hd => ?_,
    fun other key promised hother hpromised cursor hcursor => ?_⟩
  · rw [hcallbacks] at hother
    rw [OrdMap.get_insert] at hd
    by_cases heq : id = other
    · subst heq
      rw [if_pos rfl] at hd
      obtain rfl := Option.some.inj hd
      exact (hown key hother).1
    · rw [if_neg heq] at hd
      unfold AtPlace
      rw [hothers other heq, hcache]
      exact h.next other key d' hother hd
  · rw [hcallbacks] at hother
    rw [hcache] at hcursor
    by_cases heq : id = other
    · subst heq
      exact (hown key hother).2 promised hpromised cursor hcursor
    · rw [hothers other heq] at hpromised
      exact (h.promises other key promised hother hpromised cursor hcursor).trans_le (hgone key)

/-- a subscription of a new key -/
theorem Table.subscribe (h : Table due gone w) {key : ProjectionKey} (hcallbacks : w'.callbacks = w.callbacks.insert id key)
    (hcache : w'.cache = w.cache) (hsnapshots : w'.currentSnapshots = w.currentSnapshots)
    (halone : ∀ other : Nat, w.callbacks[other]? ≠ some key) (hfresh : w.currentSnapshots[id]? = none)
    (hnone : due[id]? = none) :
    Table due gone w' := by
  have hget : ∀ (other : Nat) (key' : ProjectionKey), w'.callbacks[other]? = some key' →
      id = other ∧ key = key' ∨ id ≠ other ∧ w.callbacks[other]? = some key' := by
    intro other key' hother
    rw [hcallbacks, OrdMap.get_insert] at hother
    split_ifs at hother with heq
    · exact .inl ⟨heq, Option.some.inj hother⟩
    · exact .inr ⟨heq, hother⟩
  refine ⟨fun one other key' hone hother => ?_, fun other key' d hother hd => ?_,
    fun other key' promised hother hpromised cursor hcursor => ?_⟩
  · rcases hget one key' hone with ⟨rfl, rfl⟩ | ⟨-, hone⟩ <;> rcases hget other _ hother with ⟨rfl, heq⟩ | ⟨-, hother⟩
    · rfl
    · exact absurd hother (halone other)
    · subst heq
      exact absurd hone (halone one)
    · exact h.distinct one other key' hone hother
  · rcases hget other key' hother with ⟨rfl, rfl⟩ | ⟨-, hother⟩
    · rw [hnone] at hd
      cases hd
    · unfold AtPlace
      rw [hsnapshots, hcache]
      exact h.next other key' d hother hd
  · rw [hsnapshots] at hpromised
    rw [hcache] at hcursor
    rcases hget other key' hother with ⟨rfl, rfl⟩ | ⟨-, hother⟩
    · rw [hfresh] at hpromised
      cases hpromised
    · exact h.promises other key' promised hother hpromised cursor hcursor

theorem Fewer.withdraw (subscriptionId : Nat) (hcache : w'.cache = w.cache)
    (hcallbacks : w'.callbacks = w.callbacks.erase subscriptionId)
    (hsnapshots : w'.currentSnapshots = w.currentSnapshots.erase subscriptionId) : Fewer due due w w' :=
  .of_withdrawn hcache (fun other => by rw [hcallbacks, OrdMap.get_erase])
    (fun other hne => by rw [hsnapshots, OrdMap.get_erase, if_neg hne]) fun _ _ => .inl rfl

theorem Fewer.withdrawn (h : Withdrawn subscriptionId ticket w w') : Fewer due due w w' :=
  .of_withdrawn h.cache h.callbacks (fun other hne => (h.snapshots other).trans (if_neg hne)) fun _ _ => .inl rfl

theorem awaited_eq {subscribe : ProjectionSubscribe}
    (h : w.activity = .waiting (.subscribeAck requestId subscriptionId subscribe) origin) :
    w.awaited requestId subscriptionId = some subscribe := by
  simp only [Worker.awaited, h, and_self, if_true]

end

/-! ## Steps -/

section

variable {env : WorkerEnv} {s : Streams} {w' : Worker}

theorem learned_le (s : Streams) (input : Input) (key : ProjectionKey) : s.gone key ≤ s.learned input key := by
  unfold Streams.learned
  split
  · split
    · split_ifs
      · exact le_max_left _ _
      · exact le_rfl
    · exact le_rfl
  · exact le_rfl

/-- only views and the acknowledgement that is waited for count -/
theorem owed_eq
    (hview : ∀ id envelope, input = reading (.projectionEnvelopeFrame id envelope) → s.worker.activity.reads = false)
    (hack : ∀ requestId id ack, input = reading (.projectionSubscribeAckFrame requestId id ack) →
      s.worker.awaited requestId id = none) : s.owed input = s.due := by
  unfold Streams.owed
  split
  · rw [if_neg (by rw [hview _ _ rfl]; exact Bool.false_ne_true)]
  · rw [hack _ _ _ rfl]
  · rfl

theorem awaited_none {w : Worker} (h : ∀ requestId id subscribe origin,
      w.activity ≠ .waiting (.subscribeAck requestId id subscribe) origin) (requestId id : Nat) : w.awaited requestId id = none := by
  unfold Worker.awaited
  split
  · rename_i hw
    exact absurd hw (h _ _ _ _)
  · rfl

/-- a frame that nobody waits for and that is no view -/
theorem owed_unsolicited
    (h : s.worker.activity = .idle ∨
      ∃ waiting origin, s.worker.activity = .waiting waiting origin ∧ waiting.selectFrame frame = none)
    (hview : ∀ id envelope, frame ≠ .control (.ok (.projectionEnvelopeFrame id envelope))) :
    s.owed (.frame frame) = s.due := by
  refine owed_eq ?_ ?_
  · rintro id envelope ⟨⟩
    exact absurd rfl (hview id envelope)
  · rintro requestId id ack ⟨⟩
    rcases h with h | ⟨waiting, origin, h, hselect⟩
    · exact awaited_none (by rw [h]; rintro _ _ _ _ ⟨⟩) requestId id
    · unfold Worker.awaited
      rw [h]
      split
      · rename_i heq
        cases heq
        split_ifs with hmatch
        · obtain ⟨rfl, rfl⟩ := hmatch
          simp [Waiting.selectFrame, Waiting.select] at hselect
        · rfl
      · rfl

/-- the answer to something else than a subscription -/
theorem owed_answer {waiting : Waiting} {frame : ControlFrame} {value : Found}
    (h : s.worker.activity = .waiting waiting origin) (hselect : waiting.select frame = some value)
    (hother : ∀ requestId id subscribe, waiting ≠ .subscribeAck requestId id subscribe) :
    s.owed (reading frame) = s.due := by
  refine owed_eq ?_ fun requestId id ack _ => awaited_none ?_ requestId id
  · rintro id envelope ⟨⟩
    cases waiting <;> cases hselect
  · intro r i subscribe origin' heq
    rw [h] at heq
    cases heq
    exact hother _ _ _ rfl

/-- the worker is ready for what is owed after an input -/
abbrev Streams.ReadyFor (s : Streams) (input : Input) (w' : Worker) : Prop :=
  Ready (if w'.activity = .offline then ∅ else s.owed input) (s.learned input) w'

/-- after a step that only takes subscriptions out -/
theorem Ready.fewer (h : Ready s.due s.gone s.worker) (hfewer : Fewer s.due (s.owed input) s.worker w')
    (hactivity : s.owed input = s.due ∧ w'.activity = s.worker.activity ∨ w'.activity = .idle ∨ w'.activity = .offline ∨
      w'.activity = .stopped ∨ w'.activity = .resubscribed) :
    s.ReadyFor input w' := by
  have hended : Fewer s.due (if w'.activity = .offline then ∅ else s.owed input) s.worker w' := by
    split_ifs
    · exact ⟨hfewer.cache, hfewer.callbacks, hfewer.promises, fun id key d _ hd => by simp at hd⟩
    · exact hfewer
  refine ⟨h.table.fewer hended (learned_le s input), ?_⟩
  rcases hactivity with ⟨howed, hsame⟩ | hother
  · refine h.asking.fewer hsame hended fun id hnone => ?_
    split_ifs
    · simp
    · rw [howed]
      exact hnone
  · exact .of_not_waiting hother

/-- the connection goes: the streams end, and promises may stay -/
theorem Ready.offline (h : Ready s.due s.gone s.worker) (hactivity : w'.activity = .offline)
    (hcache : w'.cache = s.worker.cache) (hcallbacks : w'.callbacks = s.worker.callbacks)
    (hpromises : ∀ (id : Nat) (promised : Cursor), w'.currentSnapshots[id]? = some promised →
      s.worker.currentSnapshots[id]? = some promised) :
    s.ReadyFor input w' := by
  rw [Streams.ReadyFor, if_pos hactivity]
  refine ⟨h.table.fewer ⟨hcache, fun id key hkey => hcallbacks ▸ hkey, fun id key promised _ => hpromises id promised, ?_⟩
    (learned_le s input), .of_not_waiting (.inr (.inl hactivity))⟩
  intro id key d _ hd
  simp at hd

/-- the thread ends -/
theorem Ready.stopped (h : Ready s.due s.gone s.worker) (hactivity : w'.activity = .stopped)
    (hcache : w'.cache = s.worker.cache) (hcallbacks : w'.callbacks = ∅) :
    s.ReadyFor input w' := by
  have hnone : ∀ (id : Nat) (key : ProjectionKey), w'.callbacks[id]? ≠ some key := by simp [hcallbacks]
  refine h.fewer ⟨hcache, ?_, ?_, ?_⟩ (.inr (.inr (.inr (.inl hactivity))))
  · exact fun id key hkey => absurd hkey (hnone id key)
  · exact fun id key promised hkey => absurd hkey (hnone id key)
  · exact fun id key d hkey => absurd hkey (hnone id key)

theorem Fewer.trans {due due' due'' : OrdMap Nat Nat} {w w'' : Worker} (h : Fewer due due' w w')
    (h' : Fewer due' due'' w' w'') : Fewer due due'' w w'' where
  cache := h'.cache.trans h.cache
  callbacks id key hkey := h.callbacks id key (h'.callbacks id key hkey)
  promises id key promised hkey hpromised :=
    h.promises id key promised (h'.callbacks id key hkey) (h'.promises id key promised hkey hpromised)
  due id key d hkey hd := by
    obtain ⟨hd', hsnapshot'⟩ := h'.due id key d hkey hd
    obtain ⟨hd'', hsnapshot⟩ := h.due id key d (h'.callbacks id key hkey) hd'
    exact ⟨hd'', hsnapshot'.trans hsnapshot⟩

theorem Fewer.giveUp (due : OrdMap Nat Nat) (w : Worker) (waiting : Waiting) (origin : Origin) (error : MobileClientError) :
    Fewer due due w (w.giveUp waiting origin error) := by
  unfold Worker.giveUp
  split
  · exact .of_eq rfl rfl rfl (.inl rfl)
  · split
    · exact .withdraw _ rfl rfl rfl
    · exact .withdraw _ rfl rfl rfl
    · exact .of_eq rfl rfl rfl (.inl rfl)

/-- a wait that is given up -/
theorem Ready.giveUp (h : Ready s.due s.gone s.worker) (howed : s.owed input = s.due)
    (hfewer : Fewer s.due s.due s.worker w₁) (waiting : Waiting) (origin : Origin) (error : MobileClientError) :
    s.ReadyFor input (w₁.giveUp waiting origin error) := by
  refine h.fewer (howed.symm ▸ hfewer.trans (Fewer.giveUp _ _ _ _ _)) (.inr ?_)
  rcases giveUp_activity w₁ waiting origin error with hidle | hoffline
  · exact .inl hidle
  · exact .inr (.inl hoffline)

/-- `resubscribe_all` goes on from a state with fewer subscriptions -/
theorem Ready.loopOn (h : Ready s.due s.gone s.worker) {rest : List Nat} (hloop : Loop w₁ rest w')
    (howed : s.owed input = s.due) (hfewer : Fewer s.due s.due s.worker w₁) (hnodup : rest.Nodup)
    (hnone : ∀ id ∈ rest, s.due[id]? = none) :
    s.ReadyFor input w' := by
  rw [Streams.ReadyFor, howed]
  exact Ready.loop (h.table.fewer hfewer (learned_le s input)) hnodup hnone hloop

/-- a view that is due is not refused -/
theorem Ready.not_refused (h : Ready s.due s.gone s.worker) (hconforms : s.Conforms (.frame frame))
    (hreads : s.worker.activity.reads) (hrefused : Refused env s.worker frame w') (id : Nat) (envelope : ProjectionEnvelope) :
    frame ≠ .control (.ok (.projectionEnvelopeFrame id envelope)) := by
  rintro rfl
  obtain ⟨hkey, hdue, hsend, hmax⟩ := hconforms hreads
  exact hrefused.view id envelope rfl hkey _ (h.table.offer hkey hdue hsend hmax)

theorem Refused.fewer (hrefused : Refused env s.worker frame w')
    (hview : ∀ id envelope, frame ≠ .control (.ok (.projectionEnvelopeFrame id envelope))) :
    Fewer s.due s.due s.worker w' := by
  obtain ⟨hcache, hcallbacks, hsnapshots⟩ := hrefused.same hview
  exact .of_eq hcache hcallbacks hsnapshots (.inl rfl)

/-- an acknowledgement that is accepted or that is lost with the connection -/
theorem Ready.promised (h : Ready s.due s.gone s.worker) {subscribe : ProjectionSubscribe}
    (hactivity : s.worker.activity = .waiting (.subscribeAck requestId id subscribe) origin)
    (hconforms : s.Conforms (reading (.projectionSubscribeAckFrame requestId id ack)))
    (hvalid : ack.validateFor subscribe = .ok ()) {d : Nat} (hfirst : firstDue ack.outcome = some d) :
    Table (s.due.insert id d) (s.learned (reading (.projectionSubscribeAckFrame requestId id ack)))
        (s.worker.promise id ack.outcome) ∧
      s.owed (reading (.projectionSubscribeAckFrame requestId id ack)) = s.due.insert id d := by
  have hawaited := awaited_eq hactivity
  refine ⟨h.table.promise (h.asking.asks requestId id subscribe origin hactivity).2 hvalid hfirst
    (fun cursor => hconforms subscribe cursor hawaited) (learned_le s _) ?_, ?_⟩
  · intro since cursor hsince houtcome
    simp only [Streams.learned, reading, hawaited, houtcome]
    obtain ⟨key, rfl⟩ : ∃ key, subscribe = ⟨key, some since⟩ := ⟨subscribe.key, by rw [← hsince]⟩
    simp only [if_true]
    omega
  · simp only [Streams.owed, reading, hawaited]
    cases houtcome : ack.outcome with
    | resumed cursor | currentFollows cursor =>
      rw [houtcome] at hfirst
      obtain rfl : cursor.seq = d := Option.some.inj hfirst
      rfl
    | rejected error =>
      rw [houtcome] at hfirst
      cases hfirst

theorem firstDue_accepted {outcome : ProjectionSubscribeOutcome} (h : ∀ error, outcome ≠ .rejected error) :
    ∃ d, firstDue outcome = some d := by
  cases outcome with
  | resumed cursor | currentFollows cursor => exact ⟨cursor.seq, rfl⟩
  | rejected error => exact absurd rfl (h error)

/-- an acknowledgement counts for its own subscription only -/
theorem owed_ack (s : Streams) (requestId : Nat) {other : Nat} (ack : ProjectionSubscribeAck) (h : id ≠ other) :
    (s.owed (reading (.projectionSubscribeAckFrame requestId id ack)))[other]? = s.due[other]? := by
  unfold Streams.owed reading
  dsimp only
  split
  · rw [OrdMap.get_insert, if_neg h]
  · rw [OrdMap.get_insert, if_neg h]
  · rfl

/-- a promise that is lost with its connection -/
theorem Ready.ackLost (h : Ready s.due s.gone s.worker) {subscribe : ProjectionSubscribe}
    (hconforms : s.Conforms (reading (.projectionSubscribeAckFrame requestId id ack)))
    (hw : s.worker.activity = .waiting (.subscribeAck requestId id subscribe) origin) {snapshots : OrdMap Nat Cursor}
    (hsnapshots : snapshots = s.worker.currentSnapshots ∨
      ack.validateFor subscribe = .ok () ∧ snapshots = (s.worker.promise id ack.outcome).currentSnapshots)
    (hactivity : w'.activity = .offline) (hcache : w'.cache = s.worker.cache) (hcallbacks : w'.callbacks = s.worker.callbacks)
    (hlost : w'.currentSnapshots = snapshots) :
    s.ReadyFor (reading (.projectionSubscribeAckFrame requestId id ack)) w' := by
  have hkept (heq : snapshots = s.worker.currentSnapshots) :
      s.ReadyFor (reading (.projectionSubscribeAckFrame requestId id ack)) w' :=
    h.offline hactivity hcache hcallbacks fun other promised hpromised => by rwa [hlost, heq] at hpromised
  rcases hsnapshots with heq | ⟨hvalid, heq⟩
  · exact hkept heq
  · by_cases haccepted : ∀ error, ack.outcome ≠ .rejected error
    · obtain ⟨d, hfirst⟩ := firstDue_accepted haccepted
      obtain ⟨htable, -⟩ := h.promised hw hconforms hvalid hfirst
      rw [Streams.ReadyFor, if_pos hactivity]
      refine ⟨htable.fewer (.of_eq ?_ ?_ (hlost.trans heq) (.inr rfl)) fun _ => le_rfl, .of_not_waiting (.inr (.inl hactivity))⟩
      · rw [hcache, promise_eq]
      · rw [hcallbacks, promise_eq]
    · obtain ⟨error, houtcome⟩ := not_forall_not.mp haccepted
      rw [houtcome] at heq
      exact hkept heq

/-- a frame that came unasked and was taken -/
theorem Ready.taken (h : Ready s.due s.gone s.worker) (hconforms : s.Conforms (.frame frame))
    (hw : s.worker.activity = .idle ∨
      ∃ waiting origin, s.worker.activity = .waiting waiting origin ∧ waiting.selectFrame frame = none)
    (htaken : Taken s.worker frame w') :
    s.ReadyFor (.frame frame) w' := by
  cases htaken with
  | @view id envelope cache hkey hoffer =>
    have hreads : s.worker.activity.reads := by rcases hw with hw | ⟨waiting, origin, hw, -⟩ <;> rw [hw] <;> rfl
    have hoffline : ¬ (s.worker.show id envelope cache).activity = .offline := by
      intro heq
      rw [show s.worker.activity = .offline from heq] at hreads
      cases hreads
    obtain ⟨-, hdue, hsend, hmax⟩ := hconforms hreads
    obtain rfl : s.worker.cache.persist envelope = cache := by
      have hsame := (h.table.offer hkey hdue hsend hmax).symm.trans hoffer
      simpa using hsame
    have howed : s.owed (.frame (.control (.ok (.projectionEnvelopeFrame id envelope)))) =
        s.due.insert id (envelope.cursor.seq + 1) := by
      simp only [Streams.owed, hreads, if_true]
    rw [Streams.ReadyFor, if_neg hoffline, howed]
    refine ⟨(h.table.show hkey).fewer (.of_eq rfl rfl rfl (.inl rfl)) (learned_le s _), h.asking.mono rfl ?_ ?_⟩
    -- the subscription that was shown a view has a stream, so it is none that is asked for
    · intro other hnone
      rw [OrdMap.get_insert, if_neg]
      · exact hnone
      · rintro rfl
        rw [hdue] at hnone
        cases hnone
    · intro other key hnone hother
      refine ⟨hother, (since_persist _ _ _).trans (if_neg ?_)⟩
      rintro rfl
      obtain rfl := h.table.distinct id other _ hkey hother
      rw [hdue] at hnone
      cases hnone
  | closed hgap hactive => exact h.fewer (.withdraw _ rfl rfl rfl) (.inl ⟨rfl, rfl⟩)
  | ping requestId nonce writes => exact h.fewer (.of_eq rfl rfl rfl (.inl rfl)) (.inl ⟨rfl, rfl⟩)

/-- a subscription that the worker starts -/
theorem Ready.subscribes (h : Ready s.due s.gone s.worker) {subscribe : ProjectionSubscribe}
    (hconforms : s.Conforms (.command ticket (.subscribe id subscribe)))
    (halone : s.Alone (.command ticket (.subscribe id subscribe))) (hw : s.worker.activity = .idle) (writes : Nat)
    (frames : List Frame) (requestId : Nat) :
    Ready s.due s.gone (Worker.ask { s.worker with callbacks := s.worker.callbacks.insert id subscribe.key } writes frames
      (.subscribeAck requestId id subscribe) (.call ticket)) := by
  obtain ⟨-, hfresh, hnone⟩ := hconforms
  obtain ⟨hothers, hsince⟩ := halone hw
  refine ⟨h.table.subscribe rfl rfl rfl hothers hfresh hnone, ?_, ?_⟩
  · rintro _ _ _ _ ⟨⟩
    refine ⟨hnone, fun key hkey => ?_⟩
    obtain rfl : subscribe.key = key := by
      have hget : (s.worker.callbacks.insert id subscribe.key)[id]? = some key := hkey
      rw [OrdMap.get_insert_self] at hget
      exact Option.some.inj hget
    exact ⟨rfl, hsince⟩
  · rintro _ _ ⟨⟩

theorem Ready.step (h : Ready s.due s.gone s.worker) (hended : s.worker.activity = .offline → s.due = ∅)
    (hconforms : s.Conforms input) (halone : s.Alone input) :
    Ready (s.step env input).due (s.step env input).gone (s.step env input).worker := by
  have houtcome : Outcome env s.worker input (s.worker.step env input) := step_outcome s.worker input
  unfold Streams.step
  dsimp only
  generalize s.worker.step env input = w' at houtcome
  have hsame : Fewer s.due s.due s.worker s.worker := .of_eq rfl rfl rfl (.inl rfl)
  cases houtcome with
  | ignored hignored =>
    have howed : s.owed input = s.due := by
      refine owed_eq (fun id envelope heq => hignored _ heq) fun requestId id ack heq => awaited_none ?_ requestId id
      intro _ _ _ _ hw
      have hreads := hignored _ heq
      rw [hw] at hreads
      cases hreads
    exact h.fewer (howed.symm ▸ hsame) (.inl ⟨howed, rfl⟩)
  | connected hw hloop =>
    refine h.loopOn hloop rfl (.of_eq rfl rfl rfl (.inl rfl)) Std.ExtTreeMap.nodup_keys fun id _ => ?_
    rw [hended hw]
    simp
  | published current hw =>
    refine h.fewer (.of_eq rfl rfl rfl (.inl rfl)) (.inr ?_)
    cases current
    · exact .inr (.inl rfl)
    · exact .inl rfl
  | taken hw htaken => exact h.taken hconforms hw htaken
  | dropped hw hrefused =>
    have hview := h.not_refused hconforms (by rw [hw]; rfl) hrefused
    obtain ⟨hcache, hcallbacks, -⟩ := hrefused.same hview
    exact h.offline rfl hcache hcallbacks (fun _ _ hnone => by simp [Worker.disconnect] at hnone)
  | refused error hw hselect hrefused =>
    have hview := h.not_refused hconforms (by rw [hw]; rfl) hrefused
    exact h.giveUp (owed_unsolicited (.inr ⟨_, _, hw, hselect⟩) hview) (hrefused.fewer hview) _ _ error
  | acked writes hw hvalid haccepted =>
    obtain ⟨d, hfirst⟩ := firstDue_accepted haccepted
    obtain ⟨htable, howed⟩ := h.promised hw hconforms hvalid hfirst
    have hoffline : ∀ w₁ : Worker, ∀ frames waiting origin, (w₁.ask writes frames waiting origin).activity ≠ .offline := by
      rintro _ _ _ _ ⟨⟩
    rw [if_neg (hoffline _ _ _ _), howed]
    refine ⟨htable.fewer (.of_eq rfl rfl rfl (.inl rfl)) fun _ => le_rfl, by rintro _ _ _ _ ⟨⟩, ?_⟩
    rintro _ rest ⟨⟩
    obtain ⟨hnodup, hnone, hown⟩ := h.asking.rests _ rest hw
    refine ⟨hnodup, fun other hother => ?_, by rintro _ _ _ ⟨⟩⟩
    rw [OrdMap.get_insert, if_neg]
    · exact hnone other hother
    · rintro rfl
      exact hown _ _ _ rfl hother
  | ackRejected hw hrejected hloop =>
    obtain ⟨hnodup, hnone, -⟩ := h.asking.rests _ _ hw
    refine h.loopOn hloop ?_ (.withdraw _ rfl rfl rfl) hnodup hnone
    simp only [Streams.owed, reading, awaited_eq hw, hrejected]
  | ackFailed hw hcause hwithdrawn =>
    refine h.fewer ?_ (.inr (.inl hwithdrawn.activity))
    exact .of_withdrawn hwithdrawn.cache hwithdrawn.callbacks
      (fun other hne => (hwithdrawn.snapshots other).trans (if_neg hne)) fun other hne => .inl (owed_ack s _ _ hne)
  | ackLost writes hw hnext hsnapshots => exact h.ackLost hconforms hw hsnapshots rfl rfl rfl rfl
  | synced | requestFailed => exact h.fewer (.of_eq rfl rfl rfl (.inl rfl)) (.inr (.inl rfl))
  | resynced hw hsince hvalid hloop =>
    obtain ⟨hnodup, hnone, -⟩ := h.asking.rests _ _ hw
    exact h.loopOn hloop rfl hsame hnodup hnone
  | unsynced error hw hinvalid => exact h.giveUp rfl hsame _ _ error
  | unsubscribed hw => exact h.fewer (.withdraw _ rfl rfl rfl) (.inr (.inl rfl))
  | answered hw hselect hplain =>
    have howed : s.owed _ = s.due := owed_answer hw hselect (by rcases hplain with h | h | h <;> rw [h] <;> rintro _ _ _ ⟨⟩)
    exact h.fewer (howed.symm ▸ .of_eq rfl rfl rfl (.inl rfl)) (.inr (.inl rfl))
  | misplaced error hw hselect hother => exact h.giveUp (owed_answer hw hselect hother.1) hsame _ _ error
  | gaveUp hw hinput =>
    have howed : s.owed input = s.due := by rcases hinput with rfl | rfl <;> rfl
    exact h.giveUp howed hsame _ _ _
  | disconnected hw hinput => exact h.offline rfl rfl rfl fun _ _ hnone => by simp [Worker.disconnect] at hnone
  | stopped | exhausted => exact h.stopped rfl rfl rfl
  | @offlineCommand ticket command hw =>
    refine h.fewer ?_ (.inl ⟨rfl, ?_⟩)
    · cases command with
      | unsubscribe id => exact .withdraw id rfl rfl rfl
      | subscribe _ _ | submitCommand _ | writeContent _ _ | readContent _ => exact .of_eq rfl rfl rfl (.inl rfl)
    · cases command <;> rfl
  | @subscribes ticket id subscribe writes hw =>
    rw [if_neg (by rintro ⟨⟩)]
    exact h.subscribes hconforms halone hw writes _ _
  | subscribeFailed hw htrouble hwithdrawn => exact h.fewer (.withdrawn hwithdrawn) (.inr (.inl hwithdrawn.activity))
  | requests writes hw hrequest =>
    rw [if_neg (by rintro ⟨⟩)]
    refine ⟨h.table.fewer (.of_eq rfl rfl rfl (.inl rfl)) fun _ => le_rfl, .of_call rfl ?_⟩
    cases hrequest <;> rintro _ _ _ ⟨⟩

/-- a view is taken, and its callback is told -/
def Accepted (env : WorkerEnv) (w : Worker) (id : Nat) (envelope : ProjectionEnvelope) : Prop :=
  ∃ w' promised, handleUnsolicited env (.control (.ok (.projectionEnvelopeFrame id envelope))) w = (.ok (), w') ∧
    applyProjection env id envelope w = (.ok (), w') ∧
    (w.step env (reading (.projectionEnvelopeFrame id envelope))).told = w.told ++ [(id, .onProjection envelope promised)]

/-- the worker takes the view that is due, whether it waits or not -/
theorem Ready.accepted (h : Ready s.due s.gone s.worker)
    (hconforms : s.Conforms (reading (.projectionEnvelopeFrame id envelope))) (hreads : s.worker.activity.reads) :
    Accepted env s.worker id envelope := by
  obtain ⟨hkey, hdue, hsend, hmax⟩ := hconforms hreads
  have hoffer := h.table.offer hkey hdue hsend hmax
  rcases applyProjection_cases env id envelope s.worker with ⟨cache, -, -, hrun⟩ | ⟨error, w', -, hrefused⟩
  · refine ⟨_, s.worker.currentSnapshots[id]?.isSome, hrun, hrun, ?_⟩
    cases hactivity : s.worker.activity with
    | idle =>
      have hstep : s.worker.step env (reading (.projectionEnvelopeFrame id envelope)) = s.worker.show id envelope cache := by
        simp only [Worker.step, reading, hactivity, handleUnsolicited, hrun]
      rw [hstep]
      rfl
    | waiting waiting origin =>
      have hselect : waiting.selectFrame (.control (.ok (.projectionEnvelopeFrame id envelope))) = none := by
        cases waiting <;> rfl
      have hstep : s.worker.step env (reading (.projectionEnvelopeFrame id envelope)) =
          { s.worker.show id envelope cache with activity := .waiting waiting origin } := by
        simp only [Worker.step, reading, hactivity, waitTurn, hselect, handleUnsolicited]
        exact resume_map hrun
      rw [hstep]
      rfl
    | offline | resubscribed | stopped =>
      rw [hactivity] at hreads
      cases hreads
  · exact absurd hoffer (hrefused.view id envelope rfl hkey _)

/-- **Streams are taken.** In a run with a conforming host in which the worker starts every subscription as the only one of
its key, from the cursor that is cached, every view that is read is taken and told to the callback of its subscription. -/
theorem streams_accepted (env : WorkerEnv) (cache : ProjectionCache) (events : List Input)
    (hrun : Along (Streams.step env) (fun s input => s.Conforms input ∧ s.Alone input) ⟨{ cache := cache }, ∅, fun _ => 0⟩
      events) :
    Along (Streams.step env) (fun s input => ∀ id envelope, input = reading (.projectionEnvelopeFrame id envelope) →
      s.worker.activity.reads → Accepted env s.worker id envelope) ⟨{ cache := cache }, ∅, fun _ => 0⟩ events := by
  refine Along.of_inv (I := fun s : Streams =>
    Ready s.due s.gone s.worker ∧ (s.worker.activity = .offline → s.due = ∅)) ?_ ?_ ⟨⟨⟨?_, ?_, ?_⟩, ?_⟩, fun h => by cases h⟩ hrun
  · rintro s input ⟨hready, hended⟩ ⟨hconforms, halone⟩
    refine ⟨hready.step hended hconforms halone, fun hoffline => ?_⟩
    exact if_pos hoffline
  · rintro s input ⟨hready, -⟩ ⟨hconforms, -⟩ id envelope rfl hreads
    exact hready.accepted hconforms hreads
  · simp
  · simp
  · simp
  · exact .of_not_waiting (.inl rfl)

/-! ## Two subscriptions of one key -/

def queueKey : ProjectionKey := .inputQueue ⟨"ses_a"⟩

def queueView (cursor : Nat) : ProjectionEnvelope :=
  ⟨projectionVersion, queueKey, ⟨cursor⟩, .inputQueue ⟨⟨"ses_a"⟩, [], cursor % 2 = 0, false⟩⟩

theorem queueView_sendable (cursor : Nat) : Sendable (queueView cursor) := ⟨rfl, rfl⟩

/-- a subscription of the queue, from the current view on -/
def firstRun : List Input := [
  .command 1 (.subscribe 1 ⟨queueKey, none⟩),
  reading (.projectionSubscribeAckFrame 4 1 ⟨queueKey, .currentFollows ⟨1⟩⟩),
  reading (.projectionEnvelopeFrame 1 (queueView 1)),
  reading (.pong 5 5)]

/-- a second one of the same key, and the next view for both -/
def secondRun : List Input := firstRun ++ [
  .command 2 (.subscribe 2 ⟨queueKey, some ⟨1⟩⟩),
  reading (.projectionSubscribeAckFrame 6 2 ⟨queueKey, .resumed ⟨2⟩⟩),
  reading (.pong 7 7),
  reading (.projectionEnvelopeFrame 1 (queueView 2)),
  reading (.projectionEnvelopeFrame 2 (queueView 2))]

/-- nothing is known of the host, and nothing is cached -/
def quiet : Streams := ⟨{}, ∅, fun _ => 0⟩

theorem firstRun_conforms : Along (Streams.step allWrites) (fun s input => s.Conforms input ∧ s.Alone input) quiet firstRun := by
  refine ⟨⟨?_, ?_⟩, ⟨?_, trivial⟩, ⟨fun _ => ⟨?_, ?_, queueView_sendable 1, by decide⟩, trivial⟩, ⟨trivial, trivial⟩, trivial⟩
  · exact ⟨by decide +kernel, by decide +kernel, by decide +kernel⟩
  · intro _
    refine ⟨fun other => ?_, by decide +kernel⟩
    simp [quiet]
  · rintro _ _ _ ⟨⟩
  · decide +kernel
  · decide +kernel

theorem firstRun_accepted :
    (runFrom (Streams.step allWrites) quiet firstRun).worker.shown = [(1, queueView 1, true)] ∧
      Along (Streams.step allWrites) (fun s input => ∀ id envelope, input = reading (.projectionEnvelopeFrame id envelope) →
        s.worker.activity.reads → Accepted allWrites s.worker id envelope) quiet firstRun :=
  ⟨by decide +kernel, streams_accepted allWrites {} firstRun firstRun_conforms⟩

/-- the host sends both subscriptions their own streams; the view of the second is refused, and the connection goes -/
theorem second_subscription_refused :
    Along (Streams.step allWrites) (fun s input => s.Conforms input) quiet secondRun ∧
      (runFrom (Streams.step allWrites) quiet secondRun).worker.shown = [(1, queueView 1, true), (1, queueView 2, false)] ∧
      (runFrom (Streams.step allWrites) quiet secondRun).worker.activity = .offline ∧
      ¬ Along (Streams.step allWrites) (fun s input => ∀ id envelope, input = reading (.projectionEnvelopeFrame id envelope) →
        s.worker.activity.reads → Accepted allWrites s.worker id envelope) quiet secondRun := by
  refine ⟨?_, by decide +kernel, by decide +kernel, fun haccepted => ?_⟩
  · refine along_append.mpr ⟨firstRun_conforms.imp fun _ _ _ h => h.1, ⟨?_, ?_, trivial, fun _ => ?_, fun _ => ?_, trivial⟩⟩
    · exact ⟨by decide +kernel, by decide +kernel, by decide +kernel⟩
    · rintro subscribe cursor hawaited ⟨⟩
      obtain rfl : ⟨queueKey, some ⟨1⟩⟩ = subscribe := by
        have heq : some (⟨queueKey, some ⟨1⟩⟩ : ProjectionSubscribe) = some subscribe := by
          rw [← hawaited]
          decide +kernel
        exact Option.some.inj heq
      decide +kernel
    · exact ⟨by decide +kernel, by decide +kernel, queueView_sendable 2, by decide⟩
    · exact ⟨by decide +kernel, by decide +kernel, queueView_sendable 2, by decide⟩
  · have hlast := (along_append.mp haccepted).2.2.2.2.2.1 2 (queueView 2) rfl (by decide +kernel)
    obtain ⟨w', promised, -, -, htold⟩ := hlast
    have hcount := congrArg List.length htold
    rw [List.length_append, List.length_singleton] at hcount
    revert hcount
    decide +kernel

end

end Kaleido.Core
