/-
The queue pump of the runtime supervisor (`kaleido-hostd`, `runtime.rs`).

Every connection thread may pump: it reads the deliveries that are due under the broker's lock, lets go of the lock, and
then claims them one by one and hands each claim to the worker of its session. Between two of these steps the broker may
serve any other caller, and a worker may finish a delivery. `claims_single_flight` says when a claim finds its session free:
if a pump runs alone and starts only when no session has both a pending and a claimed entry. `second_pump_claims` is a pump
that starts before the first delivery is finished.
-/
import Kaleido.State.Delivery

namespace Kaleido.Hostd

open Check LineFile Prog Proto State State.CanonicalState

variable {entries : List QueueEntry} {store : Store} {h : Supervisor}

/-! ## The supervisor -/

/-- `RuntimeSupervisor`, as far as queued inputs go: the broker's store, the worker that each session is routed to, what
waits in the workers' channels, and what each thread's pump has still to claim -/
structure Supervisor where
  world : World := {}
  sessionRoutes : OrdMap SessionId SessionId := ∅
  workers : OrdMap SessionId (List QueueDeliveryClaim) := ∅
  pumps : OrdMap Nat (List QueueEntry) := ∅

inductive SupervisorEvent where
  /-- a runtime was started: a worker for its primary session, and routes for all its sessions -/
  | register (primary : SessionId) (sessions : List SessionId)
  /-- `pump_pending_queue` reads the deliveries that are due -/
  | pump (thread : Nat)
  /-- `pump_pending_queue` goes on with the next of them -/
  | claimNext (thread : Nat) (nowMs : Int)
  /-- a worker takes the next claim to its runtime, which answers with effects or fails -/
  | deliver (primary : SessionId) (effects : Option (List StateEffect))
  /-- any other caller of the broker -/
  | broker (op : Op)

namespace Supervisor

variable (env : Env)

/-- the closure of `pump_pending_queue` for one entry: route, worker, claim, send -/
def claimEntry (h : Supervisor) (entry : QueueEntry) (nowMs : Int) : Supervisor :=
  match h.sessionRoutes[entry.sessionId]? with
  | none => h
  | some primary => match h.workers[primary]? with
    | none => h
    | some channel => match claimQueueDelivery env entry.id nowMs h.world with
      | (.ok claim, w) => { h with world := w, workers := h.workers.insert primary (channel ++ [claim]) }
      | (.error _, w) => { h with world := w }

def step (h : Supervisor) : SupervisorEvent → Supervisor
  | .register primary sessions => { h with
      sessionRoutes := (primary :: sessions).foldl (fun routes sessionId => routes.insert sessionId primary) h.sessionRoutes
      workers := h.workers.insert primary [] }
  | .pump thread => match h.pumps[thread]? with
    | some (_ :: _) => h
    | _ => { h with pumps := h.pumps.insert thread (h.world.store.pendingQueueDeliveries.map fun p => p.1) }
  | .claimNext thread nowMs => match h.pumps[thread]? with
    | some (entry :: rest) => claimEntry env { h with pumps := h.pumps.insert thread rest } entry nowMs
    | _ => h
  | .deliver primary effects => match h.workers[primary]? with
    | some (claim :: rest) =>
      let h := { h with workers := h.workers.insert primary rest }
      match effects with
      | some effects => { h with world := (finishQueueDelivery env claim.entry.id effects h.world).2 }
      | none => h
    | _ => h
  | .broker op => { h with world := (op.run env h.world).2 }

end Supervisor

/-! ## States that the store reaches -/

/-- entries are stored under their identifiers, and so are sessions, with the active turn derived from the turns -/
structure Derived (s : CanonicalState) : Prop where
  queue : ∀ (k : QueueEntryId) entry, s.queue[k]? = some entry → entry.id = k
  sessions : ∀ (k : SessionId) session, s.sessions[k]? = some session →
    session.id = k ∧ session.activeTurnId = s.activeTurnOf k

variable {env : Env} {s next : CanonicalState} {e : StateEffect} {entry : QueueEntry}

theorem derived_step (hs : Derived s) (happly : s.apply e = .ok next) : Derived next := by
  refine ⟨apply_queue_ids hs.queue happly, fun k session hk => ?_⟩
  obtain ⟨t, ht, rfl⟩ := apply_iff.1 happly
  rw [get_recomputed_session] at hk
  obtain ⟨old, hold, rfl⟩ := Option.map_eq_some_iff.1 hk
  refine ⟨?_, rfl⟩
  cases ht with
  | session session hlive =>
    rcases OrdMap.of_get_insert hold with ⟨heq, rfl⟩ | ⟨-, hold⟩
    · unfold mergeSession
      split <;> exact heq
    · exact (hs.sessions k old hold).1
  | _ => exact (hs.sessions k old hold).1

theorem derived_stable : Stable fun w : World => Derived w.store.state := fun _ _ hs _ h => by
  change Derived _
  rw [hs]
  exact h

variable (env) in
def derivedWalk : Walk env :=
  derived_stable.walk env fun _ _ _ h happly _ => derived_step h happly

/-! ## Free sessions -/

/-- a claimed entry -/
def isSubmitting : QueueState → Bool
  | .submitting _ => true
  | _ => false

/-- the session has no claimed entry and no active turn -/
structure Free (s : CanonicalState) (sessionId : SessionId) : Prop where
  queue : ∀ (k : QueueEntryId) other, s.queue[k]? = some other → other.sessionId = sessionId → isSubmitting other.state = false
  turn : ∀ session, s.sessions[sessionId]? = some session → session.activeTurnId = none

/-- an entry that the pump read: it belongs to its session still, which is free -/
structure Due (s : CanonicalState) (entry : QueueEntry) : Prop where
  session : ∀ current, s.queue[entry.id]? = some current → current.sessionId = entry.sessionId
  free : Free s entry.sessionId

/-- what a pump has still to claim -/
structure Selected (s : CanonicalState) (entries : List QueueEntry) : Prop where
  distinct : entries.Pairwise fun a b => a.sessionId ≠ b.sessionId
  due : ∀ entry ∈ entries, Due s entry

theorem Selected.nil : Selected s [] := ⟨List.Pairwise.nil, by simp⟩

theorem Selected.tail (h : Selected s (entry :: entries)) : Selected s entries :=
  ⟨(List.pairwise_cons.1 h.distinct).2, fun e he => h.due e (List.mem_cons_of_mem _ he)⟩

/-- writing an entry of another session leaves a session free -/
theorem Free.upsert {sessionId : SessionId} (h : Free s sessionId) (hs : Derived s)
    (happly : s.apply (.queueEntryUpserted entry) = .ok next) (hne : entry.sessionId ≠ sessionId) : Free next sessionId := by
  refine ⟨fun k other hk hsession => ?_, fun session hk => ?_⟩
  · rw [apply_queue happly] at hk
    rcases OrdMap.of_get_insert hk with ⟨-, rfl⟩ | ⟨-, hk⟩
    · exact absurd hsession hne
    · exact h.queue k other hk hsession
  · obtain ⟨t, ht, rfl⟩ := apply_iff.1 happly
    cases ht
    rw [get_recomputed_session] at hk
    obtain ⟨old, hold, rfl⟩ := Option.map_eq_some_iff.1 hk
    change s.activeTurnOf sessionId = none
    rw [← (hs.sessions sessionId old hold).2]
    exact h.turn old hold

/-- what a claim does to the state: nothing, or its entry is claimed -/
def ClaimedIn (entryId : QueueEntryId) (s s' : CanonicalState) : Prop :=
  s' = s ∨ ∃ old claimed, s.queue[entryId]? = some old ∧ claimed.id = old.id ∧ claimed.sessionId = old.sessionId ∧
    s.apply (.queueEntryUpserted claimed) = .ok s'

theorem claim_state (env : Env) (entryId : QueueEntryId) (atMs : Int) (w : World) :
    ClaimedIn entryId w.store.state (claimQueueDelivery env entryId atMs w).2.store.state := by
  refine wp_final (I := fun w' : World => ClaimedIn _ _ w'.store.state) (?_ : wp World.disk (fun _ => True) _ _ _ w)
  refine wp_bind (wp_bind (wp_read (wp_require (fun _ => wp_bind (wp_read ?_)) fun _ => .inl rfl)))
  split
  · exact wp_fail (.inl rfl)
  · rename_i old hold
    split
    · exact wp_fail (.inl rfl)
    · obtain ⟨hget, -⟩ := Option.filter_eq_some_iff.1 hold
      refine wp_bind (wp_read (wp_bind (wp_bind (wp_bind (wp_require (fun _ => ?_) fun _ => .inl rfl)))))
      refine wp_mono (wp_commit env _ w) (fun _ _ _ => trivial) (fun _ w' hc => wp_pure (wp_bind (wp_read (wp_pure ?_))))
        fun _ w' hE => ?_
      · exact .inr ⟨old, { old with state := .submitting _, editable := false, updatedAtMs := atMs }, hget, rfl, rfl, hc.state⟩
      · rcases hE.2 with ⟨-, happly, -⟩ | ⟨hsame, -⟩
        · exact .inr ⟨old, { old with state := .submitting _, editable := false, updatedAtMs := atMs }, hget, rfl, rfl, happly⟩
        · exact .inl (by rw [hsame])

/-- claiming one entry leaves the sessions of the others free -/
theorem Selected.claim {old claimed : QueueEntry} (h : Selected s (entry :: entries)) (hs : Derived s)
    (hold : s.queue[entry.id]? = some old) (hid : claimed.id = old.id) (hsession : claimed.sessionId = old.sessionId)
    (happly : s.apply (.queueEntryUpserted claimed) = .ok next) : Selected next entries := by
  have holdSession := (h.due entry List.mem_cons_self).session old hold
  refine ⟨h.tail.distinct, fun other hother => ?_⟩
  have hne : entry.sessionId ≠ other.sessionId := (List.pairwise_cons.1 h.distinct).1 other hother
  have hdue := h.tail.due other hother
  refine ⟨fun current hk => ?_, hdue.free.upsert hs happly (by rwa [hsession, holdSession])⟩
  rw [apply_queue happly] at hk
  rcases OrdMap.of_get_insert hk with ⟨heq, -⟩ | ⟨-, hk⟩
  · have hsame : other.id = entry.id := by rw [← heq, hid, hs.queue _ old hold]
    exact absurd (holdSession.symm.trans (hdue.session old (hsame ▸ hold))) hne
  · exact hdue.session current hk

/-- no session has a pending and a claimed entry -/
def unmixed (s : CanonicalState) : Bool :=
  s.queue.vals.all fun a => !a.state.isPending ||
    s.queue.vals.all fun b => b.sessionId ≠ a.sessionId || !isSubmitting b.state

/-- an offered entry belongs to a known session without an active turn -/
theorem offered_session {commandId : CommandId} (h : (entry, commandId) ∈ store.pendingQueueDeliveries) :
    ∃ (k : SessionId) (session : Session), store.state.sessions[k]? = some session ∧ session.id = entry.sessionId ∧
      session.activeTurnId = none := by
  obtain ⟨_, hoffer, hcommand⟩ := List.mem_filterMap.1 h
  obtain ⟨session, hsession, hfind⟩ := List.mem_filterMap.1 hoffer
  obtain ⟨_, -, heq⟩ := Option.map_eq_some_iff.1 hcommand
  cases heq
  obtain ⟨hmem, hturn⟩ := List.mem_filter.1 hsession
  obtain ⟨k, hk⟩ := OrdMap.mem_vals.1 hmem
  exact ⟨k, session, hk, (mem_queueOf.1 (List.mem_of_find?_eq_some hfind)).2.symm, Option.isNone_iff_eq_none.1 hturn⟩

/-- what a pump reads while no session has a pending and a claimed entry: one entry for each of some free sessions -/
theorem selected_pending (hs : Derived store.state) (hmix : unmixed store.state = true) :
    Selected store.state (store.pendingQueueDeliveries.map fun p => p.1) := by
  constructor
  · have hkeys : store.state.sessions.vals.Pairwise fun a b => a.id ≠ b.id :=
      OrdMap.pairwise_vals fun k k' a b ha hb hne => by
        rwa [(hs.sessions k a ha).1, (hs.sessions k' b hb).1]
    unfold Store.pendingQueueDeliveries
    rw [List.map_filterMap]
    refine List.Pairwise.filterMap (R := fun a b : QueueEntry => a.sessionId ≠ b.sessionId) _
      (fun a b hne a' ha b' hb => ?_) (List.Pairwise.filterMap _ (fun a b hne a' ha b' hb => ?_) (hkeys.filter _))
    · simp only [Option.map_map, Function.comp_def, Option.map_eq_some_iff] at ha hb
      obtain ⟨_, -, rfl⟩ := ha
      obtain ⟨_, -, rfl⟩ := hb
      exact hne
    · rw [(mem_queueOf.1 (List.mem_of_find?_eq_some ha)).2, (mem_queueOf.1 (List.mem_of_find?_eq_some hb)).2]
      exact hne
  · intro entry hmem
    obtain ⟨⟨_, commandId⟩, hoffer, rfl⟩ := List.mem_map.1 hmem
    obtain ⟨hqueue, hpending, -⟩ := offered hoffer
    obtain ⟨⟨k, hk⟩, -⟩ := mem_queueOf.1 hqueue
    have hkey := hs.queue k _ hk
    refine ⟨fun current hcurrent => ?_, fun k' other hk' hsession => ?_, fun session hsession => ?_⟩
    · rw [hkey, hk] at hcurrent
      cases hcurrent
      rfl
    · have hall := List.all_eq_true.1 hmix _ (OrdMap.mem_vals_of_get hk)
      rw [hpending] at hall
      have hother := List.all_eq_true.1 hall other (OrdMap.mem_vals_of_get hk')
      simpa [hsession] using hother
    · obtain ⟨k', session', hk', hid, hturn⟩ := offered_session hoffer
      rw [← hid, (hs.sessions k' session' hk').1, hk'] at hsession
      cases hsession
      exact hturn

/-! ## Runs -/

namespace Supervisor

/-- no pump has anything left to claim -/
def quiet (h : Supervisor) : Bool := h.pumps.vals.all List.isEmpty

/-- when a step may be taken: a pump starts, a worker delivers and the broker serves other callers only while no pump has
anything left to claim, and a pump starts only while no session has both a pending and a claimed entry -/
def calm (h : Supervisor) : SupervisorEvent → Bool
  | .pump _ => h.quiet && unmixed h.world.store.state
  | .deliver _ _ | .broker _ => h.quiet
  | .claimNext _ _ | .register _ _ => true

/-- an entry that the step claims belongs to a session that was free -/
def SingleFlight (h h' : Supervisor) : Prop :=
  ∀ (k : QueueEntryId) claimed, h'.world.store.state.queue[k]? = some claimed → isSubmitting claimed.state = true →
    (∀ old, h.world.store.state.queue[k]? = some old → isSubmitting old.state = false) →
    Free h.world.store.state claimed.sessionId

variable (env) in
/-- the claim of a pump finds its session free -/
def ClaimsAlone (h : Supervisor) (event : SupervisorEvent) : Prop :=
  match event with
  | .claimNext _ _ => SingleFlight h (h.step env event)
  | _ => True

/-- at most one pump has something left to claim, in free sessions -/
structure Pumping (h : Supervisor) : Prop where
  derived : Derived h.world.store.state
  selected : ∃ thread : Nat, (∀ (other : Nat) entries, h.pumps[other]? = some entries → other ≠ thread → entries = []) ∧
    ∀ entries, h.pumps[thread]? = some entries → Selected h.world.store.state entries

theorem quiet_iff : h.quiet = true ↔ ∀ (thread : Nat) entries, h.pumps[thread]? = some entries → entries = [] := by
  simp only [quiet, List.all_eq_true, OrdMap.mem_vals, List.isEmpty_iff]
  constructor
  · intro hall thread entries hk
    exact hall entries ⟨thread, hk⟩
  · rintro hall entries ⟨thread, hk⟩
    exact hall thread entries hk

theorem Pumping.of_quiet (hs : Derived h.world.store.state) (hq : h.quiet = true) : h.Pumping :=
  ⟨hs, 0, fun other entries hk _ => quiet_iff.1 hq other entries hk, fun entries hk => by
    rw [quiet_iff.1 hq 0 entries hk]
    exact Selected.nil⟩

variable (env) in
theorem claimEntry_world (h : Supervisor) (entry : QueueEntry) (nowMs : Int) :
    (h.claimEntry env entry nowMs).pumps = h.pumps ∧ ((h.claimEntry env entry nowMs).world = h.world ∨
      (h.claimEntry env entry nowMs).world = (claimQueueDelivery env entry.id nowMs h.world).2) := by
  unfold claimEntry
  split
  · exact ⟨rfl, .inl rfl⟩
  · split
    · exact ⟨rfl, .inl rfl⟩
    · split <;> rename_i heq <;> exact ⟨rfl, .inr (by rw [heq])⟩

theorem SingleFlight.same {h' : Supervisor} (heq : h'.world.store.state = h.world.store.state) : SingleFlight h h' :=
  fun k claimed hk hclaimed hold => by
    rw [heq] at hk
    rw [hold claimed hk] at hclaimed
    cases hclaimed

/-- **A claim** of the first selected entry finds its session free, and leaves the sessions of the others free. -/
theorem claimEntry_alone (env : Env) (hs : Derived h.world.store.state)
    (hsel : Selected h.world.store.state (entry :: entries)) (nowMs : Int) :
    Derived (h.claimEntry env entry nowMs).world.store.state ∧
      Selected (h.claimEntry env entry nowMs).world.store.state entries ∧
      SingleFlight h (h.claimEntry env entry nowMs) := by
  rcases (claimEntry_world env h entry nowMs).2 with hw | hw
  · rw [hw]
    exact ⟨hs, hsel.tail, .same (by rw [hw])⟩
  · rcases claim_state env entry.id nowMs h.world with hsame | ⟨old, claimed, hold, hid, hsession, happly⟩
    · rw [← hw] at hsame
      rw [hsame]
      exact ⟨hs, hsel.tail, .same hsame⟩
    · rw [← hw] at happly
      refine ⟨derived_step hs happly, hsel.claim hs hold hid hsession happly, fun k new hk hnew hbefore => ?_⟩
      rw [apply_queue happly] at hk
      rcases OrdMap.of_get_insert hk with ⟨-, rfl⟩ | ⟨-, hk⟩
      · have hdue := hsel.due entry List.mem_cons_self
        rw [hsession, hdue.session old hold]
        exact hdue.free
      · rw [hbefore new hk] at hnew
        cases hnew

/-- a pump goes on -/
theorem Pumping.claimNext (hp : h.Pumping) (thread : Nat) (nowMs : Int) :
    (h.step env (.claimNext thread nowMs)).Pumping ∧ SingleFlight h (h.step env (.claimNext thread nowMs)) := by
  simp only [Supervisor.step]
  split
  · rename_i entry rest hentries
    obtain ⟨selecting, hothers, hsel⟩ := hp.selected
    obtain rfl : thread = selecting := by
      by_contra hne
      cases hothers thread _ hentries hne
    obtain ⟨hs', hsel', hflight⟩ := claimEntry_alone env (h := { h with pumps := h.pumps.insert thread rest })
      hp.derived (hsel _ hentries) nowMs
    refine ⟨⟨hs', thread, fun other entries hk hne => ?_, fun entries hk => ?_⟩, hflight⟩
    · rw [(claimEntry_world env _ entry nowMs).1, OrdMap.get_insert, if_neg (Ne.symm hne)] at hk
      exact hothers other entries hk hne
    · rw [(claimEntry_world env _ entry nowMs).1, OrdMap.get_insert_self] at hk
      cases hk
      exact hsel'
  · exact ⟨hp, .same rfl⟩

theorem Pumping.step (hp : h.Pumping) (event : SupervisorEvent) (hcalm : h.calm event = true) :
    (h.step env event).Pumping := by
  cases event with
  | register primary sessions => exact ⟨hp.derived, hp.selected⟩
  | pump thread =>
    obtain ⟨hquiet, hmix⟩ := Bool.and_eq_true_iff.1 hcalm
    simp only [Supervisor.step]
    split
    · exact hp
    · refine ⟨hp.derived, thread, fun other entries hk hne => ?_, fun entries hk => ?_⟩
      · rw [OrdMap.get_insert, if_neg (Ne.symm hne)] at hk
        exact quiet_iff.1 hquiet other entries hk
      · rw [OrdMap.get_insert_self] at hk
        cases hk
        exact selected_pending hp.derived hmix
  | claimNext thread nowMs => exact (hp.claimNext thread nowMs).1
  | deliver primary effects =>
    simp only [Supervisor.step]
    split
    · split
      · rename_i effects
        exact .of_quiet (((derivedWalk env).parts.finishQueueDelivery _ fun _ _ => trivial).final hp.derived)
          hcalm
      · exact .of_quiet hp.derived hcalm
    · exact hp
  | broker op =>
    refine .of_quiet ((Walk.op_keeps (W := derivedWalk env) ?_).final hp.derived) hcalm
    cases op <;> simp [Walk.Admits, derivedWalk, Stable.walk, Stable.walkOn]

/-- **Single flight.** In every run of the supervisor in which a pump starts only while no session has both a pending and a
claimed entry, and no other pump, delivery or broker call comes between its reading and its last claim, an entry is claimed
only while its session has no claimed entry and no active turn. -/
theorem claims_single_flight (env : Env) (events : List SupervisorEvent)
    (hrun : Along (Supervisor.step env) (fun h event => h.calm event = true) {} events) :
    Along (Supervisor.step env) (ClaimsAlone env) {} events := by
  refine Along.of_inv (I := Pumping) (fun h event hp hcalm => hp.step event hcalm) (fun h event hp _ => ?_) ?_ hrun
  · cases event with
    | claimNext thread nowMs => exact (hp.claimNext thread nowMs).2
    | _ => trivial
  · exact .of_quiet ⟨by simp, by simp⟩ (by decide)

/-- a device queues two inputs, and a pump claims the first -/
def firstPump : List SupervisorEvent :=
  [.broker (.apply (.hostUpserted sampleHost)), .broker (.apply (.sessionUpserted sampleSession)), .broker uploadInput,
    .register ⟨"ses_a"⟩ [], .broker (deviceInput "cmd_a" 50), .broker (deviceInput "cmd_b" 60), .pump 0, .claimNext 0 70]

/-- the first input is delivered before the next pump -/
def patientPumps : List SupervisorEvent :=
  firstPump ++ [.deliver ⟨"ses_a"⟩ (some (inputDelivered "cmd_a" 0 50)), .pump 1, .claimNext 1 90]

/-- the state of an input's entry -/
def entryState (h : Supervisor) (name : String) : Option QueueState :=
  (h.world.store.state.queue[queueEntryId queueEnv ⟨name⟩]?).map (·.state)

theorem patient_pumps_alone :
    entryState (runFrom (Supervisor.step queueEnv) {} patientPumps) "cmd_b" = some (.submitting ⟨"cmd_b"⟩) ∧
    Along (Supervisor.step queueEnv) (ClaimsAlone queueEnv) {} patientPumps := by
  have hrun : Along (Supervisor.step queueEnv) (fun h event => h.calm event = true) {} patientPumps ∧
      entryState (runFrom (Supervisor.step queueEnv) {} patientPumps) "cmd_b" = some (.submitting ⟨"cmd_b"⟩) := by
    decide +kernel
  exact ⟨hrun.2, claims_single_flight queueEnv patientPumps hrun.1⟩

/-- **The next pump claims too.** While the first input waits for its worker there is no active turn yet, so the pump of
another thread claims the second one. -/
theorem second_pump_claims :
    ¬ Along (Supervisor.step queueEnv) (ClaimsAlone queueEnv) {} (firstPump ++ [.pump 1, .claimNext 1 80]) := by
  have hbefore : entryState (runFrom (Supervisor.step queueEnv) {} (firstPump ++ [.pump 1])) "cmd_b" = some .pending ∧
      ((runFrom (Supervisor.step queueEnv) {} (firstPump ++ [.pump 1])).world.store.state.queue[
        queueEntryId queueEnv ⟨"cmd_a"⟩]?.map fun entry => (entry.sessionId, isSubmitting entry.state)) =
        some (⟨"ses_a"⟩, true) ∧
      (((runFrom (Supervisor.step queueEnv) {} (firstPump ++ [.pump 1])).step queueEnv (.claimNext 1 80)).world.store.state.queue[
        queueEntryId queueEnv ⟨"cmd_b"⟩]?.map fun entry => (entry.sessionId, isSubmitting entry.state)) =
        some (⟨"ses_a"⟩, true) := by decide +kernel
  rw [show firstPump ++ [SupervisorEvent.pump 1, .claimNext 1 80] = (firstPump ++ [.pump 1]) ++ [.claimNext 1 80] by simp,
    along_append]
  generalize runFrom (Supervisor.step queueEnv) {} (firstPump ++ [.pump 1]) = h at hbefore ⊢
  rintro ⟨-, hclaims, -⟩
  obtain ⟨hb, ha, hclaimed⟩ := hbefore
  obtain ⟨claimed, hget, heq⟩ := Option.map_eq_some_iff.1 hclaimed
  obtain ⟨first, hfirst, heq'⟩ := Option.map_eq_some_iff.1 ha
  simp only [Prod.mk.injEq] at heq heq'
  have hfree := hclaims _ claimed hget heq.2 fun old hold => by
    rw [entryState, hold] at hb
    cases hb' : old.state <;> simp_all [isSubmitting]
  have := hfree.queue _ first hfirst (heq'.1.trans heq.1.symm)
  rw [heq'.2] at this
  cases this

end Supervisor

end Kaleido.Hostd
