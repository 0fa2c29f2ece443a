/-
The reachability latch of the broker (`kaleido-hostd`, `broker.rs`).

The broker remembers which path its authenticated connections use, and `apply_effect` writes that value into every host it
stores. The other writers pass effects to the store as they are, and a start takes the host from the log next to a latch
that is offline again. `reachability_follows_latch` says for which runs the stored host still agrees with the latch;
`restart_forgets_latch` is a run in which it does not.
-/
import Kaleido.Lib.Moves
import Kaleido.State.Growth
import Kaleido.Hostd.Broker

namespace Kaleido.Hostd

open Check LineFile Prog Proto State State.CanonicalState

/-! ## The broker's operations -/

/-- the operations of the broker, the latch itself apart -/
inductive BrokerOp where
  | applyEffect (effect : StateEffect) (atMs : Int)
  | applyEffects (effects : List StateEffect) (atMs : Int)
  | admitDeviceCommand (deviceId : DeviceId) (request : DeviceCommandRequest) (nowMs : Int)
  | claimQueueDelivery (entryId : QueueEntryId) (atMs : Int)
  | finishQueueDelivery (entryId : QueueEntryId) (effects : List StateEffect) (atMs : Int)
  | claimDispatch (ticket : DispatchTicket) (atMs : Int)
  | rejectReadyDispatch (ticket : DispatchTicket) (atMs : Int)
  | finishDispatch (ticket : DispatchTicket) (effects : List StateEffect) (atMs : Int)
  | writeContent (deviceId : DeviceId) (request : ContentWriteRequest) (bytes : List UInt8) (nowMs : Int)
  | subscribe (request : ProjectionSubscribe) (atMs : Int) (capacity : Nat)
  | recv (token : Nat)
  | unsubscribe (token : Nat)

variable (env : Env) (mint : String → CommandId)

/-- the operation, without the value that it returns -/
def BrokerOp.run : BrokerOp → BrokerM Unit
  | .applyEffect effect atMs => do let _ ← Broker.applyEffect env effect atMs
  | .applyEffects effects atMs => do let _ ← Broker.applyEffects env effects atMs
  | .admitDeviceCommand deviceId request nowMs => do let _ ← Broker.admitDeviceCommand env mint deviceId request nowMs
  | .claimQueueDelivery entryId atMs => do let _ ← Broker.claimQueueDelivery env entryId atMs
  | .finishQueueDelivery entryId effects atMs => do let _ ← Broker.finishQueueDelivery env entryId effects atMs
  | .claimDispatch ticket atMs => do let _ ← Broker.claimDispatch env ticket atMs
  | .rejectReadyDispatch ticket atMs => do let _ ← Broker.rejectReadyDispatch env ticket atMs
  | .finishDispatch ticket effects atMs => do let _ ← Broker.finishDispatch env ticket effects atMs
  | .writeContent deviceId request bytes nowMs => do
    let _ ← onStore (writeContentForDevice env deviceId request bytes nowMs)
  | .subscribe request atMs capacity => do let _ ← Broker.subscribeWithCapacity request atMs capacity
  | .recv token => do let _ ← Broker.recv token
  | .unsubscribe token => Broker.unsubscribe token

/-- `Broker::load`: the store is loaded, a host of another identity is refused, and nobody is connected yet -/
def Broker.load (hostId : HostId) (w : World) : Except BrokerError Broker × World :=
  match State.load env w with
  | (.error e, w) => (.error (.state e), w)
  | (.ok (), w) =>
    if w.store.state.hosts.vals.any fun host => host.id ≠ hostId then (.error .hostIdentityMismatch, w)
    else (.ok { world := w, hostId := hostId }, w)

/-! ## What an operation does to the latch -/

/-- the broker keeps its identity and its latch -/
structure SameLatch (b b' : Broker) : Prop where
  hostId : b'.hostId = b.hostId
  latch : b'.authenticatedReachability = b.authenticatedReachability

instance : Std.Refl SameLatch := ⟨fun _ => ⟨rfl, rfl⟩⟩

instance : IsTrans Broker SameLatch := ⟨fun _ _ _ h h' => ⟨h'.hostId.trans h.hostId, h'.latch.trans h.latch⟩⟩

/-- hosts are stored under their identifiers, and the host has the reachability -/
structure HostsFollow (hostId : HostId) (reachability : HostReachability) (s : CanonicalState) : Prop where
  keyed : ∀ (k : HostId) host, s.hosts[k]? = some host → host.id = k
  follows : ∀ host, s.hosts[hostId]? = some host → host.reachability = reachability

/-- the stored host follows the latch -/
def Broker.Follows (b : Broker) : Prop := HostsFollow b.hostId b.authenticatedReachability b.world.store.state

/-- the operation keeps the latch, and under the condition `P` on its effects a host that follows it still does -/
structure Kept (P : Prop) (b b' : Broker) : Prop extends SameLatch b b' where
  follows : P → b.Follows → b'.Follows

instance (P : Prop) : Std.Refl (Kept P) := ⟨fun _ => ⟨⟨rfl, rfl⟩, fun _ => id⟩⟩

instance (P : Prop) : IsTrans Broker (Kept P) := ⟨fun _ _ _ h h' =>
  ⟨IsTrans.trans _ _ _ h.toSameLatch h'.toSameLatch, fun hP hb => h'.follows hP (h.follows hP hb)⟩⟩

variable {hostId : HostId} {reachability : HostReachability} {s next : CanonicalState} {e : StateEffect}

theorem HostsFollow.insert {host : Host} (hkeyed : ∀ (k : HostId) host, s.hosts[k]? = some host → host.id = k)
    (hhost : host.id = hostId → host.reachability = reachability)
    (hother : host.id ≠ hostId → ∀ host, s.hosts[hostId]? = some host → host.reachability = reachability)
    (happly : s.apply (.hostUpserted host) = .ok next) : HostsFollow hostId reachability next := by
  have hhosts : next.hosts = s.hosts.insert host.id host := apply_hosts happly
  refine ⟨hhosts ▸ OrdMap.forall_insert hkeyed rfl, fun stored hk => ?_⟩
  rcases OrdMap.of_get_insert (hhosts ▸ hk) with ⟨heq, rfl⟩ | ⟨heq, hk⟩
  · exact hhost heq
  · exact hother heq stored hk

theorem HostsFollow.congr (h : HostsFollow hostId reachability s) (heq : next.hosts = s.hosts) :
    HostsFollow hostId reachability next := by
  refine ⟨fun k host hk => ?_, fun host hk => ?_⟩ <;> rw [heq] at hk
  · exact h.keyed k host hk
  · exact h.follows host hk

/-- the effect does not give the host another reachability -/
def Honest (hostId : HostId) (reachability : HostReachability) (e : StateEffect) : Prop :=
  ∀ host, e = .hostUpserted host → host.id = hostId → host.reachability = reachability

theorem HostsFollow.step (h : HostsFollow hostId reachability s) (he : Honest hostId reachability e)
    (happly : s.apply e = .ok next) : HostsFollow hostId reachability next := by
  cases e with
  | hostUpserted host => exact .insert h.keyed (he host rfl) (fun _ => h.follows) happly
  | _ => exact h.congr (apply_hosts happly)

theorem hostsFollow_stable : Stable fun w : World => HostsFollow hostId reachability w.store.state := fun _ _ hs _ h => by
  change HostsFollow _ _ _
  rw [hs]
  exact h

/-- the walk of a host that follows its latch -/
def latchWalk (hostId : HostId) (reachability : HostReachability) : Walk env :=
  hostsFollow_stable.walkOn env (Honest hostId reachability) (fun _ _ he => by cases he) (fun _ _ he => by cases he)
    fun _ _ _ he h happly _ => h.step he happly

variable {env} {mint} {α : Type} {b : Broker} {p : StoreM α} {P : Prop}

/-- publishing reaches the mailboxes only -/
theorem publish_core (envelopes : List ProjectionEnvelope) (atMs : Int) (b : Broker) :
    (publish envelopes atMs b).world = b.world ∧ SameLatch b (publish envelopes atMs b) := by
  let core : Broker × List Nat → Prop := fun c => c.1.world = b.world ∧ SameLatch b c.1
  have hone : ∀ c envelope, core c → core (publishOne atMs c envelope) := by
    intro c envelope hc
    refine List.foldlRecOn (motive := core) _ _ hc fun c hc p _ => ?_
    split
    · exact hc
    · exact ⟨hc.1, hc.2.hostId, hc.2.latch⟩
  obtain ⟨hworld, hsame⟩ : core (envelopes.foldl (publishOne atMs) (b, [])) :=
    List.foldlRecOn (motive := core) _ _ ⟨rfl, rfl, rfl⟩ fun c hc envelope _ => hone c envelope hc
  exact ⟨hworld, hsame.hostId, hsame.latch⟩

section

variable {R : Broker → Broker → Prop} [Std.Refl R]

omit [Std.Refl R] in
/-- an operation of the store moves the broker as it moves the store -/
theorem onStore_moves (h : R b { b with world := (p b.world).2 }) : Moves R (fun _ _ => True) (onStore p) b := by
  refine ⟨?_, fun _ _ => trivial⟩
  unfold onStore
  generalize p b.world = r at h
  obtain ⟨_ | _, w⟩ := r <;> exact h

variable [IsTrans Broker R]

theorem publishing_moves (h : R b { b with world := (p b.world).2 })
    (hpublish : ∀ envelopes atMs b, R b (publish envelopes atMs b)) {projections : α → List ProjectionEnvelope} {atMs : Int} :
    Moves R (fun _ _ => True) (publishing p projections atMs) b :=
  (onStore_moves h).bind fun _ b' _ _ => (Moves.modify (hpublish _ atMs b')).bind fun _ _ _ _ => Moves.pure trivial

/-- the effects that an operation passes on as they are -/
def BrokerOp.passes : BrokerOp → List StateEffect
  | .finishQueueDelivery _ effects _ | .finishDispatch _ effects _ => effects
  | _ => []

/-- the operation is about mailboxes only -/
def BrokerOp.ofMailbox : BrokerOp → Bool
  | .subscribe .. | .recv _ | .unsubscribe _ => true
  | _ => false

theorem mailbox_moves (h : ∀ b b' : Broker, b'.world = b.world → SameLatch b b' → R b b') {op : BrokerOp}
    (hop : op.ofMailbox = true) : Moves R (fun _ _ => True) (op.run env mint) b := by
  cases op with
  | subscribe request atMs capacity =>
    refine Moves.bind (V := fun _ _ => True) ?_ fun _ _ _ _ => Moves.pure trivial
    refine Moves.require.bind fun _ _ _ _ => Moves.read.bind fun _ _ _ _ => Moves.require.bind fun _ b₁ _ _ => ?_
    refine (Moves.modify (h _ _ rfl ⟨rfl, rfl⟩)).bind fun _ _ _ _ => Moves.read.bind fun b₂ _ _ _ => ?_
    split
    · exact Moves.fail
    · split
      · exact (Moves.modify (h _ _ rfl ⟨rfl, rfl⟩)).bind fun _ _ _ _ => Moves.pure trivial
      · exact Moves.pure trivial
  | recv token =>
    refine Moves.bind (V := fun _ _ => True) ⟨?_, fun _ _ => trivial⟩ fun _ _ _ _ => Moves.pure trivial
    unfold Broker.recv
    split <;> exact h _ _ rfl ⟨rfl, rfl⟩
  | unsubscribe token => exact (Moves.modify (h _ _ rfl ⟨rfl, rfl⟩)).mono fun _ _ _ _ => trivial
  | _ => cases hop

/-- **An operation** moves the broker along `R`, if what the walk of the broker takes does, under the condition `P`, and so do
publications and operations on mailboxes. -/
theorem op_moves (W : Broker → Walk env)
    (hstore : ∀ {α : Type} {p : StoreM α} (b : Broker), (P → (W b).Preserves p) → R b { b with world := (p b.world).2 })
    (hpublish : ∀ envelopes atMs b, R b (publish envelopes atMs b))
    (hown : ∀ b effect e, ownEffect b effect = .ok e → (W b).effect e) (hcommand : ∀ b envelope, (W b).command envelope)
    {op : BrokerOp} (hpasses : P → ∀ e ∈ op.passes, (W b).effect e)
    (hmailbox : op.ofMailbox = true → Moves R (fun _ _ => True) (op.run env mint) b) :
    Moves R (fun _ _ => True) (op.run env mint) b := by
  have hdiscard : ∀ {β : Type} {q : BrokerM β}, Moves R (fun _ _ => True) q b →
      Moves R (fun _ _ => True) (do let _ ← q) b := fun hq => hq.bind fun _ _ _ _ => Moves.pure trivial
  have hpublished : ∀ {β : Type} {q : StoreM β} {projections : β → List ProjectionEnvelope} {atMs : Int} (b : Broker),
      (P → (W b).Preserves q) → Moves R (fun _ _ => True) (publishing q projections atMs) b := fun b hq =>
    publishing_moves (hstore b hq) hpublish
  have happly : ∀ effect atMs b, Moves R (fun _ _ => True) (Broker.applyEffect env effect atMs) b := by
    refine fun effect atMs b => Moves.read.bind fun b' _ _ ⟨hb, hb'⟩ => Moves.liftExcept.bind fun e _ _ ⟨hsame, hok⟩ => ?_
    subst hb' hb hsame
    exact (hpublished _ fun _ => Walk.preserves_applyCommit (hown _ _ _ hok)).bind fun _ _ _ _ => Moves.pure trivial
  cases op with
  | applyEffect effect atMs => exact hdiscard (happly effect atMs b)
  | applyEffects effects atMs =>
    exact hdiscard ((Moves.forEach (fun effect => happly effect atMs) (fun _ _ _ _ _ => trivial) effects b).bind
      fun _ _ _ _ => Moves.pure trivial)
  | admitDeviceCommand deviceId request nowMs =>
    refine hdiscard (Moves.liftExcept.bind fun envelope _ _ ⟨hsame, _⟩ => ?_)
    exact hpublished _ fun _ => Walk.preserves_admitDeviceCommand (hcommand _ _) deviceId request nowMs
  | claimQueueDelivery entryId atMs => exact hdiscard (hpublished b fun _ => (W b).parts.claimQueueDelivery entryId atMs)
  | finishQueueDelivery entryId effects atMs =>
    exact hdiscard (hpublished b fun hP => (W b).parts.finishQueueDelivery entryId (hpasses hP))
  | claimDispatch ticket atMs => exact hdiscard (hpublished b fun _ => (W b).parts.claimDispatch ticket)
  | rejectReadyDispatch ticket atMs => exact hdiscard (hpublished b fun _ => (W b).parts.rejectReadyDispatch ticket atMs)
  | finishDispatch ticket effects atMs => exact hdiscard (hpublished b fun hP => (W b).parts.finishDispatch ticket (hpasses hP))
  | writeContent deviceId request bytes nowMs =>
    exact hdiscard (onStore_moves (hstore b fun _ =>
      (W b).parts.of_content (writeContentForDevice_world env deviceId request bytes nowMs)))
  | subscribe | recv | unsubscribe => exact hmailbox rfl

end

/-- whatever is published, the world is the one that the store's operation left -/
theorem publishing_world {projections : α → List ProjectionEnvelope} {atMs : Int} :
    (publishing p projections atMs b).2.world = (p b.world).2 := by
  rw [publishing]
  generalize hr : p b.world = r
  obtain ⟨_ | a, w⟩ := r
  · rw [run_bind_error (show onStore p b = _ by rw [onStore, hr])]
  · rw [run_bind (show onStore p b = _ by rw [onStore, hr])]
    exact (publish_core (projections a) atMs { b with world := w }).1

theorem ownEffect_honest {effect : StateEffect} (h : ownEffect b effect = .ok e) :
    Honest b.hostId b.authenticatedReachability e := by
  rintro host rfl hid
  cases effect with
  | hostUpserted given =>
    rw [ownEffect] at h
    split_ifs at h
    cases h
    rfl
  | _ => cases h

/-- the effect leaves the host's reachability to the latch -/
def honestEffect (b : Broker) : StateEffect → Bool
  | .hostUpserted host => host.id ≠ b.hostId || host.reachability = b.authenticatedReachability
  | _ => true

theorem honest_of_honestEffect (h : honestEffect b e = true) : Honest b.hostId b.authenticatedReachability e := by
  rintro host rfl hid
  simpa [honestEffect, hid] using h

/-- so do the effects that the operation passes on as they are -/
def BrokerOp.honest (b : Broker) : BrokerOp → Bool
  | .finishQueueDelivery _ effects _ | .finishDispatch _ effects _ => effects.all (honestEffect b)
  | _ => true

/-- **An operation** keeps the latch, and the host that follows it. -/
theorem op_kept (op : BrokerOp) (h : P → op.honest b = true) : Moves (Kept P) (fun _ _ => True) (op.run env mint) b := by
  have hsame : ∀ b b' : Broker, b'.world = b.world → SameLatch b b' → Kept P b b' := by
    refine fun b b' hworld hlatch => ⟨hlatch, fun _ hb => ?_⟩
    rw [Broker.Follows, hworld, hlatch.hostId, hlatch.latch]
    exact hb
  refine op_moves (fun b => latchWalk env b.hostId b.authenticatedReachability)
    (fun b hp => ⟨⟨rfl, rfl⟩, fun hP hb => Keeps.final (hp hP) hb⟩)
    (fun envelopes atMs b => hsame _ _ (publish_core envelopes atMs b).1 (publish_core envelopes atMs b).2)
    (fun _ _ _ hown => ownEffect_honest hown) (fun _ _ => trivial) (fun hP e he => ?_) (mailbox_moves hsame)
  have hhonest := h hP
  cases op <;> first | exact honest_of_honestEffect (List.all_eq_true.1 hhonest e he) | cases he

/-- no operation but its own changes the latch -/
theorem op_same (op : BrokerOp) : SameLatch b (op.run env mint b).2 :=
  (op_kept (P := False) op False.elim).moved.toSameLatch

/-! ## Setting the latch -/

/-- the host that `set_authenticated_reachability` would store -/
def Broker.reachableHost (b : Broker) (reachability : HostReachability) (atMs : Int) : Option Host :=
  (b.world.store.state.hosts.vals.find? fun host => host.id = b.hostId).map fun host =>
    { host with reachability := reachability, lastSeenAtMs := atMs }

/-- the store takes the effect: it is writable, the effect passes its checks, and neither the cursor of its stream nor the
timestamps are used up -/
def takes (s : Store) (effect : StateEffect) : Bool :=
  !s.recoveryRequired && (match plan s.state effect with
    | .ok p => (s.nextCursor p.stream).isOk
    | .error _ => false) && s.lastAppendedAtMs < i64Max

/-- a commit that the store takes is applied, unless the append of its record fails -/
theorem commit_applied (hio : env.Reliable) {w : World} (h : takes w.store e = true) :
    w.store.state.apply e = .ok (applyTrustedCommit env e w).2.store.state := by
  simp only [takes, Bool.and_eq_true, Bool.not_eq_true', decide_eq_true_eq] at h
  obtain ⟨⟨hflag, hplan⟩, htime⟩ := h
  split at hplan
  · rename_i p hp
    obtain ⟨cursor, hcursor⟩ : ∃ cursor, w.store.nextCursor p.stream = .ok cursor := by
      cases hc : w.store.nextCursor p.stream with
      | error _ => rw [hc] at hplan; cases hplan
      | ok cursor => exact ⟨cursor, rfl⟩
    have hstate : (applyTrustedCommit env e w).2.store.state = p.next := by
      refine wp_final (I := fun w' : World => w'.store.state = p.next) (?_ : wp World.disk (fun _ => True) _ _ _ w)
      refine wp_bind (wp_bind (wp_read (wp_require (fun _ => ?_) fun hne => absurd hflag hne)))
      refine wp_bind (wp_read (wp_bind (wp_liftExcept (fun p' hp' => ?_) fun _ herr => by rw [hp] at herr; cases herr)))
      obtain rfl : p = p' := by rw [hp] at hp'; exact Except.ok.inj hp'
      refine wp_bind (wp_liftExcept (fun _ _ => ?_) fun _ herr => by rw [hcursor] at herr; cases herr)
      refine wp_bind (wp_nextTimestamp (fun _ _ _ => ?_) fun _ hover => absurd htime (not_lt.2 hover))
      refine wp_bind (wp_appendEntry hio.tolerant ⟨trivial, wp_bind (wp_modify rfl (wp_bind ?_))⟩
        (fun hne => absurd hio hne) fun hne _ => absurd hio hne)
      have hview : ∀ c : ProjectionKey × ProjectionPayload, Keeps World.disk (fun _ => True)
          (fun w' : World => w'.store.state = p.next) (fun w' => w'.store.state = p.next)
          (blockOnError (recordProjection env c.1 c.2)) := fun c =>
        Keeps.onError (fun _ => rfl) (fun _ hv => hv) (keeps_recordProjection env (fun _ hv => hv)
          (fun _ _ => keeps_appendEntry env (fun _ _ _ hv => hv) _ _) (fun _ _ hv => hv) _ _)
      exact wp_post (Keeps.forEach hview p.candidates _ rfl) (fun _ _ hv => wp_pure hv) fun _ _ hE => hE
    rw [hstate]
    exact (plan_eq_ok.1 hp).2.2.1
  · cases hplan

/-- a commit whose projections are published and returned -/
def publishCommit (p : StoreM StateCommit) (atMs : Int) : BrokerM (List ProjectionEnvelope) := do
  let commit ← publishing p (·.projections) atMs
  return commit.projections

theorem publishCommit_core (p : StoreM StateCommit) (atMs : Int) (b : Broker) :
    (publishCommit p atMs b).2.world = (p b.world).2 ∧ SameLatch b (publishCommit p atMs b).2 := by
  rw [publishCommit, run_bind_snd fun _ _ => rfl]
  refine ⟨publishing_world, (publishing_moves ⟨rfl, rfl⟩ fun envelopes atMs b => ?_).moved⟩
  exact (publish_core envelopes atMs b).2

/-- `set_authenticated_reachability`, without the shortcut for a latch that is set already -/
theorem set_eq (env : Env) (reachability : HostReachability) (atMs : Int) (b : Broker) :
    Broker.setAuthenticatedReachability env reachability atMs b =
      if b.authenticatedReachability = reachability then (.ok [], b)
      else match b.reachableHost reachability atMs with
        | none => (.ok [], { b with authenticatedReachability := reachability })
        | some host => publishCommit (applyCommit env (.hostUpserted host)) atMs
            { b with authenticatedReachability := reachability } := by
  unfold Broker.setAuthenticatedReachability Broker.reachableHost
  rw [run_bind (show Prog.read id b = (.ok b, b) from rfl)]
  split_ifs
  · rfl
  · rw [run_bind (p := Prog.modify _) (a := ()) rfl]
    cases b.world.store.state.hosts.vals.find? fun host => host.id = b.hostId <;> rfl

/-- setting the latch sets it, whether or not the host could be stored -/
theorem set_latch (env : Env) (reachability : HostReachability) (atMs : Int) (b : Broker) :
    (Broker.setAuthenticatedReachability env reachability atMs b).2.authenticatedReachability = reachability ∧
      (Broker.setAuthenticatedReachability env reachability atMs b).2.hostId = b.hostId := by
  rw [set_eq]
  split_ifs with heq
  · exact ⟨heq, rfl⟩
  · split
    · exact ⟨rfl, rfl⟩
    · rename_i host _
      have hsame := (publishCommit_core (applyCommit env (.hostUpserted host)) atMs
        { b with authenticatedReachability := reachability }).2
      exact ⟨hsame.latch, hsame.hostId⟩

/-- the latch stays as it is, or no host is stored, or the store takes the host with its new reachability -/
def Broker.settable (b : Broker) (reachability : HostReachability) (atMs : Int) : Bool :=
  b.authenticatedReachability = reachability || match b.reachableHost reachability atMs with
    | none => true
    | some host => takes b.world.store (.hostUpserted host)

/-- a host that follows the latch follows the new one -/
theorem set_follows (hio : env.Reliable) {atMs : Int} (hset : b.settable reachability atMs = true) (h : b.Follows) :
    (Broker.setAuthenticatedReachability env reachability atMs b).2.Follows := by
  rw [set_eq]
  rw [Broker.settable, Bool.or_eq_true, decide_eq_true_eq] at hset
  split_ifs with heq
  · exact h
  · replace hset := hset.resolve_left heq
    split
    · rename_i hnone
      rw [Broker.reachableHost, Option.map_eq_none_iff, List.find?_eq_none] at hnone
      refine ⟨h.keyed, fun host hk => absurd ?_ (hnone host (OrdMap.mem_vals_of_get hk))⟩
      simpa using h.keyed _ host hk
    · rename_i host hhost
      rw [hhost] at hset
      obtain ⟨old, hold, rfl⟩ := Option.map_eq_some_iff.1 hhost
      have hid : old.id = b.hostId := by simpa using List.find?_some hold
      obtain ⟨hworld, hsame⟩ := publishCommit_core (applyCommit env (.hostUpserted
        { old with reachability := reachability, lastSeenAtMs := atMs })) atMs
        { b with authenticatedReachability := reachability }
      rw [Broker.Follows, hworld, hsame.latch, hsame.hostId]
      -- the commit applies the host, whatever becomes of its views
      refine .insert h.keyed ?_ ?_ (commit_applied hio hset)
      · exact fun _ => rfl
      · exact fun hne => absurd hid hne

/-! ## Starting -/

/-- the host as the log has it last -/
def lastHost (hostId : HostId) (records : List LogRecord) : Option Host :=
  records.foldl (fun last record => match record.effect with
    | .hostUpserted host => if host.id = hostId then some host else last
    | _ => last) none

/-- the log ends with the host offline, or does not know it -/
def loggedOffline (hostId : HostId) (disk : Disk) : Bool :=
  match readAll disk with
  | .ok records => (lastHost hostId records).all fun host => host.reachability = .offline
  | .error _ => true

/-- a replayed state has the host as the log has it last -/
theorem replay_hosts {records : List LogRecord} {r : Replayed} (h : replay {} records = .ok r) (hostId : HostId) :
    (∀ (k : HostId) host, r.state.hosts[k]? = some host → host.id = k) ∧ r.state.hosts[hostId]? = lastHost hostId records := by
  have hstart : (∀ (k : HostId) host, ({} : CanonicalState).hosts[k]? = some host → host.id = k) ∧
      ({} : CanonicalState).hosts[hostId]? = lastHost hostId [] := ⟨by simp, by simp [lastHost]⟩
  refine replay_inv (J := fun s log => (∀ (k : HostId) host, s.hosts[k]? = some host → host.id = k) ∧
    s.hosts[hostId]? = lastHost hostId log) (fun s log record next hJ happly => ?_) hstart h
  have hhosts := apply_hosts happly
  have hlast : lastHost hostId (log ++ [record]) = match record.effect with
    | .hostUpserted host => if host.id = hostId then some host else lastHost hostId log
    | _ => lastHost hostId log := by rw [lastHost, List.foldl_append]; rfl
  rw [hlast, hhosts]
  obtain ⟨_, _, _, effect⟩ := record
  cases effect with
  | hostUpserted host =>
    exact ⟨OrdMap.forall_insert hJ.1 rfl, by rw [OrdMap.get_insert, hJ.2]⟩
  | _ => exact hJ

/-- a start on a log that ends with the host offline agrees with the latch of a new broker -/
theorem load_follows {w : World} (h : loggedOffline hostId w.disk = true) {b : Broker}
    (hload : (Broker.load env hostId w).1 = .ok b) : b.Follows := by
  have hwp := Walk.load_keeps (W := latchWalk env hostId .offline) (w := w) hostsFollow_stable fun store expected hread => by
    simp only [readStore, bind_eq_ok, pure_eq_ok] at hread
    obtain ⟨-, -, -, -, records, hrecords, r, hr, rfl, -⟩ := hread
    obtain ⟨hkeyed, hlast⟩ := replay_hosts hr hostId
    refine ⟨hkeyed, fun host hk => ?_⟩
    rw [loggedOffline, hrecords] at h
    simp only [← hlast] at h
    simpa [show r.state.hosts[hostId]? = some host from hk] using h
  unfold Broker.load at hload
  split at hload
  · cases hload
  · rename_i w' heq
    split_ifs at hload
    cases hload
    exact wp_ok hwp heq

/-! ## Runs of the broker -/

/-- a call of the broker -/
inductive BrokerCall where
  | op (operation : BrokerOp)
  | setAuthenticatedReachability (reachability : HostReachability) (atMs : Int)

variable (env mint) in
def BrokerCall.run : BrokerCall → BrokerM Unit
  | .op operation => operation.run env mint
  | .setAuthenticatedReachability reachability atMs => do
    let _ ← Broker.setAuthenticatedReachability env reachability atMs

/-- the broker's process; one that is down has its files only -/
structure BrokerMachine where
  broker : Broker
  up : Bool := true

inductive BrokerEvent where
  | call (call : BrokerCall)
  /-- the process is killed during the call, after its first appends -/
  | crash (call : BrokerCall) (survive : Nat)
  /-- `Broker::load` -/
  | start
  /-- the process is killed during a start -/
  | crashStart (survive : Nat)

namespace BrokerMachine

/-- the process is gone: the first `survive` chunks appended since `before` are on disk -/
def killed (before : Broker) (survive : Nat) (after : World) : BrokerMachine where
  broker := { world := (Machine.killed before.world.disk survive after).world, hostId := before.hostId }
  up := false

variable (env mint) in
def step (m : BrokerMachine) : BrokerEvent → BrokerMachine
  | .call call => if m.up then { m with broker := (call.run env mint m.broker).2 } else m
  | .crash call survive => if m.up then killed m.broker survive (call.run env mint m.broker).2.world else m
  | .start =>
    if m.up then m
    else match Broker.load env m.broker.hostId m.broker.world with
      | (.ok b, _) => { broker := b }
      | (.error _, w) => { broker := { world := { w with store := {} }, hostId := m.broker.hostId }, up := false }
  | .crashStart survive =>
    if m.up then m
    else killed m.broker survive { (State.load env m.broker.world).2 with content := m.broker.world.content }

/-- when a step may be taken: dispatch and delivery results leave the host's reachability to the latch, the latch is set
only where the store takes the host, and a start finds the host offline in the log -/
def steady (m : BrokerMachine) : BrokerEvent → Bool
  | .call (.op operation) => operation.honest m.broker
  | .call (.setAuthenticatedReachability reachability atMs) => m.broker.settable reachability atMs
  | .start => m.up || loggedOffline m.broker.hostId m.broker.world.disk
  | .crash _ _ | .crashStart _ => true

/-- if the canonical state holds the broker's host, its reachability is the latch -/
def FollowsLatch (b : Broker) : Prop :=
  ∀ host ∈ b.world.store.state.hosts.vals, host.id = b.hostId → host.reachability = b.authenticatedReachability

instance (b : Broker) : Decidable (FollowsLatch b) :=
  inferInstanceAs (Decidable (∀ host ∈ b.world.store.state.hosts.vals, host.id = b.hostId →
    host.reachability = b.authenticatedReachability))

theorem Follows.latch (h : b.Follows) : FollowsLatch b := by
  intro host hmem hid
  obtain ⟨k, hk⟩ := OrdMap.mem_vals.1 hmem
  exact h.follows host (by rw [← hid, h.keyed k host hk]; exact hk)

theorem step_follows (hio : env.Reliable) {m : BrokerMachine} {event : BrokerEvent}
    (h : m.up = true → m.broker.Follows) (hsteady : m.steady event = true) :
    (m.step env mint event).up = true → (m.step env mint event).broker.Follows := by
  cases event with
  | call call =>
    by_cases hup : m.up = true
    · simp only [step, hup, if_true]
      intro _
      cases call with
      | op operation => exact (op_kept operation fun _ => hsteady).moved.follows trivial (h hup)
      | setAuthenticatedReachability reachability atMs =>
        rw [BrokerCall.run, run_bind_snd fun _ _ => rfl]
        exact set_follows hio hsteady (h hup)
    · simp only [step, hup]
      exact h
  | crash call survive =>
    by_cases hup : m.up = true
    · simp [step, hup, killed]
    · simp only [step, hup]
      exact h
  | start =>
    by_cases hup : m.up = true
    · simp only [step, hup, if_true]
      exact fun _ => h hup
    · have hlog : loggedOffline m.broker.hostId m.broker.world.disk = true := by simpa [steady, hup] using hsteady
      have hload : ∀ b, (Broker.load env m.broker.hostId m.broker.world).1 = .ok b → b.Follows := fun b => load_follows hlog
      simp only [step, hup, Bool.false_eq_true, if_false]
      generalize Broker.load env m.broker.hostId m.broker.world = r at hload ⊢
      obtain ⟨_ | b, w⟩ := r
      · simp
      · exact fun _ => hload b rfl
  | crashStart survive =>
    by_cases hup : m.up = true
    · simp only [step, hup, if_true]
      exact fun _ => h hup
    · simp [step, hup, killed]

/-- **The stored host follows the latch** in every run whose steps are steady: after every step the host's reachability is
the one that the broker has authenticated. -/
theorem reachability_follows_latch (env : Env) (hio : env.Reliable) (mint : String → CommandId) (hostId : HostId)
    (events : List BrokerEvent)
    (hrun : Along (step env mint) (fun m event => m.steady event = true) { broker := { hostId := hostId } } events) :
    let m := runFrom (step env mint) { broker := { hostId := hostId } } events
    m.up = true → FollowsLatch m.broker := by
  intro m hup
  refine Follows.latch (run_inv (I := fun m => m.up = true → m.broker.Follows)
    (fun m event h hsteady => step_follows hio h hsteady) (fun _ => ⟨by simp, by simp⟩) hrun hup)

/-- the sample host, and a device that reaches it directly -/
def connected : List BrokerEvent :=
  [.call (.op (.applyEffect (.hostUpserted sampleHost) 5)), .call (.setAuthenticatedReachability .lanDirect 10)]

/-- the process is killed, and started again -/
def restarted : List BrokerEvent := [.crash (.op (.unsubscribe 0)) 0, .start]

/-- the run of a broker for the sample host -/
abbrev sampleRun (events : List BrokerEvent) : BrokerMachine :=
  runFrom (step sampleEnv fun _ => ⟨"cmd_a"⟩) { broker := { hostId := ⟨"hst_a"⟩ } } events

theorem closed_before_restart :
    (sampleRun (connected ++ [.call (.setAuthenticatedReachability .offline 20)] ++ restarted)).broker.world.store.state.hosts.vals.map
      (·.reachability) = [.offline] ∧
    FollowsLatch (sampleRun (connected ++ [.call (.setAuthenticatedReachability .offline 20)] ++ restarted)).broker := by
  have hrun : Along (step sampleEnv fun _ => ⟨"cmd_a"⟩) (fun m event => m.steady event = true)
        { broker := { hostId := ⟨"hst_a"⟩ } } (connected ++ [.call (.setAuthenticatedReachability .offline 20)] ++ restarted) ∧
      (sampleRun (connected ++ [.call (.setAuthenticatedReachability .offline 20)] ++ restarted)).up = true ∧
      (sampleRun (connected ++ [.call (.setAuthenticatedReachability .offline 20)] ++ restarted)).broker.world.store.state.hosts.vals.map
        (·.reachability) = [.offline] := by decide +kernel
  exact ⟨hrun.2.2, reachability_follows_latch sampleEnv (fun _ _ => rfl) _ _ _ hrun.1 hrun.2.1⟩

/-- **A restart forgets the latch.** The log still has the host as reachable, and nobody is connected. -/
theorem restart_forgets_latch : (sampleRun (connected ++ restarted)).up = true ∧
    ¬ FollowsLatch (sampleRun (connected ++ restarted)).broker := by decide +kernel

end BrokerMachine

end Kaleido.Hostd
