/-
The authenticated gateway (`kaleido-hostd`, `gateway.rs`) under concurrent revocations.

Every operation of the gateway takes the lock of the device registry, looks the device up, and keeps the lock while the
broker performs the operation; a revocation takes the same lock. A thread is a call and how far it has come; an event lets a
thread start, take the lock or take its next step, so a list of events is an interleaving. `revocation_linearises_gateway`
says what a revocation does to the other calls: nothing of the revoked device reaches the broker after the commit, what
starts later is refused, and what is not refused goes as in the run without the revocation and the refused calls. The
device's refused calls have to be left out as well: `refused_input_shows` is a run in which another device sees that an
input of the revoked device is missing.
-/
import Kaleido.State.Machine
import Kaleido.Hostd.Broker
import Kaleido.Transport.Registry

namespace Kaleido.Hostd

open Check Prog Proto State Transport

/-- `GatewayError` -/
inductive GatewayError where
  | deviceRevoked | broker
  deriving DecidableEq

/-- an operation of the gateway -/
inductive GatewayCall where
  | subscribe (request : ProjectionSubscribe)
  | writeContent (request : ContentWriteRequest) (body : List UInt8)
  | readContent (request : ContentReadRequest)
  | admitCommand (request : DeviceCommandRequest)
  deriving DecidableEq

/-- what an operation of the gateway returns -/
inductive GatewayReply where
  | subscribed (token : Nat) (replay : ProjectionReplay)
  | written (response : ContentWriteResponse)
  | read (response : ContentReadResponse)
  | admitted (admission : DeviceCommandAdmission)
  deriving DecidableEq

def defaultSubscriptionCapacity : Nat := 32

section

variable (env : Env) (mint : String → CommandId)

/-- `read_content` -/
def Broker.readContent (deviceId : DeviceId) (request : ContentReadRequest) (nowMs : Int) : BrokerM ContentReadResponse :=
  onStore do
    let w ← Prog.read id
    liftExcept (w.readContentForDevice env deviceId request nowMs)

/-- the operation of the broker behind an operation of the gateway -/
def Broker.perform (deviceId : DeviceId) (atMs : Int) : GatewayCall → BrokerM GatewayReply
  | .subscribe request => do
    let (token, replay) ← Broker.subscribeWithCapacity request atMs defaultSubscriptionCapacity
    return .subscribed token replay
  | .writeContent request body => GatewayReply.written <$> onStore (writeContentForDevice env deviceId request body atMs)
  | .readContent request => GatewayReply.read <$> Broker.readContent env deviceId request atMs
  | .admitCommand request => GatewayReply.admitted <$> Broker.admitDeviceCommand env mint deviceId request atMs

end

namespace Gateway

/-! ## Threads -/

/-- what a thread was started for: an operation of the gateway, or a revocation whose commit ends as given -/
inductive Request where
  | gateway (deviceId : DeviceId) (call : GatewayCall) (atMs : Int)
  | revoke (deviceId : DeviceId) (revokedAtMs : Int) (result : CommitResult)
  deriving DecidableEq

inductive Reply where
  | gateway (reply : Except GatewayError GatewayReply)
  | revoke (reply : Except TransportError Unit)
  deriving DecidableEq

/-- the answer of `authorize` to a device it does not admit -/
def refused : Reply := .gateway (.error .deviceRevoked)

/-- how far a thread has come: before the lock, with the lock, with the lock and an admitted device, with the lock and a
result, and without the lock again -/
inductive Phase where
  | arrived | holding | authorized
  | finished (reply : Reply)
  | returned (reply : Reply)
  deriving DecidableEq

structure Thread where
  request : Request
  phase : Phase
  deriving DecidableEq

/-- the registry and the broker, who holds the registry's lock, and the threads -/
structure System where
  registry : SecurityStore
  broker : Broker
  holder : Option Nat := none
  threads : OrdMap Nat Thread := ∅

inductive Event where
  | call (thread : Nat) (request : Request)
  | acquire (thread : Nat)
  | advance (thread : Nat)
  deriving DecidableEq

/-- whose event it is -/
def Event.thread : Event → Nat
  | .call t _ | .acquire t | .advance t => t

def Phase.isReturned : Phase → Bool
  | .returned _ => true
  | _ => false

variable (env : Env) (mint : String → CommandId)

/-- the next step of a thread that holds the lock: `authorize`, the operation of the broker or the revocation, and the
release of the lock -/
def advanced (request : Request) (phase : Phase) (registry : SecurityStore) (broker : Broker) :
    Phase × SecurityStore × Broker :=
  match phase, request with
  | .holding, .gateway deviceId _ _ => match registry.deviceForAuth deviceId with
    | .error _ => (.returned refused, registry, broker)
    | .ok _ => (.authorized, registry, broker)
  | .authorized, .gateway deviceId call atMs =>
    let (reply, broker) := Broker.perform env mint deviceId atMs call broker
    (.finished (.gateway (reply.mapError fun _ => .broker)), registry, broker)
  | .holding, .revoke deviceId revokedAtMs result =>
    let (reply, registry) := registry.revokeAndThen deviceId revokedAtMs result
    (.finished (.revoke reply), registry, broker)
  | .finished reply, _ => (.returned reply, registry, broker)
  | phase, _ => (phase, registry, broker)

def step (S : System) : Event → System
  | .call t request => { S with threads := S.threads.insert t ⟨request, .arrived⟩ }
  | .acquire t => match S.threads[t]? with
    | none => S
    | some thread => { S with holder := some t, threads := S.threads.insert t { thread with phase := .holding } }
  | .advance t => match S.threads[t]? with
    | none => S
    | some thread =>
      let (phase, registry, broker) := advanced env mint thread.request thread.phase S.registry S.broker
      { registry := registry, broker := broker, holder := if phase.isReturned then none else S.holder
        threads := S.threads.insert t { thread with phase := phase } }

/-- a thread starts once, takes the lock when it is free, and goes on while it holds it -/
def Enabled (S : System) : Event → Prop
  | .call t _ => S.threads[t]?.isNone = true
  | .acquire t => S.holder = none ∧ S.threads[t]?.map (·.phase) = some .arrived
  | .advance t => S.holder = some t

instance (S : System) (e : Event) : Decidable (Enabled S e) := by
  cases e <;> unfold Enabled <;> infer_instance

/-- before any call -/
def start (registry : SecurityStore) (broker : Broker) : System := { registry := registry, broker := broker }

abbrev run (S : System) (events : List Event) : System := runFrom (step env mint) S events

/-! ## One step -/

section

variable {env : Env} {mint : String → CommandId} {S : System} {e : Event} {t : Nat} {request : Request} {phase : Phase}
  {registry : SecurityStore} {broker : Broker} {d : DeviceId} {call : GatewayCall} {atMs : Int}

/-- an event is about its own thread only -/
theorem step_other (ht : e.thread ≠ t) : (step env mint S e).threads[t]? = S.threads[t]? := by
  cases e with
  | call t' request =>
    simp only [step, OrdMap.get_insert]
    exact if_neg ht
  | acquire | advance =>
    simp only [step]
    split
    · rfl
    · rw [OrdMap.get_insert]
      exact if_neg ht

/-- the registry changes by revocations -/
theorem advanced_registry (env : Env) (mint : String → CommandId) (request : Request) (phase : Phase)
    (registry : SecurityStore) (broker : Broker) :
    (advanced env mint request phase registry broker).2.1 = registry ∨
    ∃ d revokedAtMs result, request = .revoke d revokedAtMs result ∧
      (advanced env mint request phase registry broker).2.1 = (registry.revokeAndThen d revokedAtMs result).2 := by
  unfold advanced
  split
  · split <;> exact .inl rfl
  · exact .inl rfl
  · rename_i d revokedAtMs result
    exact .inr ⟨d, revokedAtMs, result, rfl, rfl⟩
  · exact .inl rfl
  · exact .inl rfl

/-- the broker changes by admitted operations -/
theorem advanced_broker (h : ∀ d call atMs, request = .gateway d call atMs → phase ≠ .authorized) :
    (advanced env mint request phase registry broker).2.2 = broker := by
  unfold advanced
  split
  · split <;> rfl
  · rename_i d call atMs
    exact absurd rfl (h d call atMs rfl)
  · rfl
  · rfl
  · rfl

/-- a revoked device stays revoked -/
theorem step_revoked (h : S.registry.revoked d = true) : (step env mint S e).registry.revoked d = true := by
  cases e with
  | call t request => exact h
  | acquire t =>
    simp only [step]
    split <;> exact h
  | advance t =>
    simp only [step]
    split
    · exact h
    · rename_i thread _
      rcases advanced_registry env mint thread.request thread.phase S.registry S.broker with hr | ⟨d', revokedAtMs, result, -, hr⟩
      · simp only [hr]
        exact h
      · simp only [hr]
        exact SecurityStore.revokeAndThen_revoked h

/-- an operation becomes admitted when the registry knows its device and does not know it as revoked -/
theorem advanced_authorized
    (h : (advanced env mint (.gateway d call atMs) phase registry broker).1 = .authorized) :
    (advanced env mint (.gateway d call atMs) phase registry broker).2.1.revoked d = false := by
  unfold advanced at h ⊢
  cases phase with
  | arrived | authorized | finished | returned => cases h
  | holding =>
    simp only at h ⊢
    cases hauth : registry.deviceForAuth d with
    | error e =>
      rw [hauth] at h
      cases h
    | ok device =>
      cases hrevoked : registry.revoked d with
      | false => rfl
      | true =>
        rw [SecurityStore.deviceForAuth_revoked hrevoked] at hauth
        cases hauth

/-! ## Admitted operations -/

/-- an admitted operation holds the lock, and its device is not revoked -/
def Vetted (S : System) : Prop := ∀ t d call atMs, S.threads[t]? = some ⟨.gateway d call atMs, .authorized⟩ →
  S.holder = some t ∧ S.registry.revoked d = false

theorem step_vetted (h : Vetted S) (he : Enabled S e) : Vetted (step env mint S e) := by
  intro t d call atMs ht
  by_cases hte : e.thread = t
  · subst hte
    cases e with
    | call t request => simp [step, Event.thread] at ht
    | acquire t =>
      simp only [step, Event.thread] at ht
      split at ht
      · rename_i hnone
        simp [hnone] at ht
      · simp at ht
    | advance t =>
      simp only [step, Event.thread] at ht ⊢
      split at ht
      · rename_i hnone
        simp [hnone] at ht
      · rename_i thread hthread
        obtain ⟨request, phase⟩ := thread
        simp only [OrdMap.get_insert, if_true, Option.some.injEq, Thread.mk.injEq] at ht
        obtain ⟨rfl, hphase⟩ := ht
        refine ⟨?_, advanced_authorized hphase⟩
        simp only [hphase]
        exact he
  · -- an admitted thread holds the lock, so the event is one that leaves lock and registry alone
    rw [step_other hte] at ht
    obtain ⟨hholder, hrevoked⟩ := h t d call atMs ht
    cases e with
    | call t' request => exact ⟨hholder, hrevoked⟩
    | acquire t' => exact absurd he.1 (by simp [hholder])
    | advance t' => exact absurd (Option.some.inj (he.symm.trans hholder)) hte

theorem run_vetted {events : List Event} (hrun : Along (step env mint) Enabled (start registry broker) events) :
    Vetted (run env mint (start registry broker) events) :=
  run_inv (I := Vetted) (fun _ _ h he => step_vetted h he) (by intro t d call atMs h; simp [start] at h) hrun

/-! ## The life of one thread -/

/-- what the steps of a thread preserve, an event preserves -/
theorem step_thread {P : Phase → Prop} (hlock : P .arrived → P .holding)
    (hadv : ∀ phase, P phase → P (advanced env mint request phase S.registry S.broker).1) (he : Enabled S e)
    (h : ∃ phase, S.threads[t]? = some ⟨request, phase⟩ ∧ P phase) :
    ∃ phase, (step env mint S e).threads[t]? = some ⟨request, phase⟩ ∧ P phase := by
  obtain ⟨phase, ht, hP⟩ := h
  by_cases hte : e.thread = t
  · subst hte
    cases e with
    | call t request' =>
      have hnew : S.threads[t]? = none := Option.isNone_iff_eq_none.1 he
      simp [Event.thread, hnew] at ht
    | acquire t =>
      simp only [Event.thread] at ht ⊢
      obtain rfl : phase = .arrived := by simpa [ht] using he.2
      exact ⟨.holding, by simp [step, ht], hlock hP⟩
    | advance t =>
      simp only [Event.thread] at ht ⊢
      exact ⟨(advanced env mint request phase S.registry S.broker).1, by simp [step, ht], hadv phase hP⟩
  · exact ⟨phase, by rw [step_other hte, ht], hP⟩

theorem run_thread {P : Phase → Prop} {events : List Event} (hlock : P .arrived → P .holding)
    (hadv : ∀ phase registry broker, P phase → P (advanced env mint request phase registry broker).1)
    (hrun : Along (step env mint) Enabled S events) (h : ∃ phase, S.threads[t]? = some ⟨request, phase⟩ ∧ P phase) :
    ∃ phase, (run env mint S events).threads[t]? = some ⟨request, phase⟩ ∧ P phase :=
  run_inv (I := fun S => ∃ phase, S.threads[t]? = some ⟨request, phase⟩ ∧ P phase)
    (fun S _ hS he => step_thread hlock (fun phase => hadv phase S.registry S.broker) he hS) h hrun

/-- an operation that was admitted, or that ended without having been refused -/
def Phase.admitted : Phase → Prop
  | .arrived | .holding => False
  | .authorized => True
  | .finished reply | .returned reply => reply ≠ refused

theorem advanced_admitted (h : phase.admitted) :
    (advanced env mint (.gateway d call atMs) phase registry broker).1.admitted := by
  cases phase with
  | arrived | finished | returned => exact h
  | holding => exact h.elim
  | authorized =>
    simp only [advanced, Phase.admitted, refused]
    rcases Broker.perform env mint d atMs call broker with ⟨_ | _, _⟩ <;> simp [Except.mapError]

/-- an operation of a revoked device that was not admitted before -/
def Phase.refusing (phase : Phase) : Prop := phase = .arrived ∨ phase = .holding ∨ phase = .returned refused

theorem advanced_holding_revoked (h : registry.revoked d = true) :
    (advanced env mint (.gateway d call atMs) .holding registry broker).1 = .returned refused := by
  simp only [advanced, SecurityStore.deviceForAuth_revoked h]

theorem advanced_refusing (h : registry.revoked d = true) (hphase : phase.refusing) :
    (advanced env mint (.gateway d call atMs) phase registry broker).1.refusing := by
  rcases hphase with rfl | rfl | rfl
  · exact .inl rfl
  · exact .inr (.inr (advanced_holding_revoked h))
  · exact .inr (.inr rfl)

/-- a thread that starts when its device is revoked is refused -/
structure Refusing (t : Nat) (d : DeviceId) (call : GatewayCall) (atMs : Int) (S : System) : Prop where
  revoked : S.registry.revoked d = true
  thread : ∃ phase, S.threads[t]? = some ⟨.gateway d call atMs, phase⟩ ∧ phase.refusing

theorem step_refusing (h : Refusing t d call atMs S) (he : Enabled S e) : Refusing t d call atMs (step env mint S e) where
  revoked := step_revoked h.revoked
  thread := step_thread (fun _ => .inr (.inl rfl)) (fun _ hphase => advanced_refusing h.revoked hphase) he h.thread

/-- a thread that is refused leaves the broker alone -/
theorem Refusing.keeps_broker (h : Refusing t d call atMs S) (hte : e.thread = t) :
    (step env mint S e).broker = S.broker := by
  obtain ⟨phase, ht, hphase⟩ := h.thread
  subst hte
  cases e with
  | call t request => rfl
  | acquire t =>
    simp only [step]
    split <;> rfl
  | advance t =>
    simp only [Event.thread] at ht
    simp only [step, ht]
    refine advanced_broker ?_
    rintro d call atMs - rfl
    rcases hphase with h | h | h <;> cases h

/-! ## Leaving out a revocation -/

/-- the threads to leave out: revocations of the device, and the device's operations that were refused -/
def erased (d : DeviceId) (S : System) (t : Nat) : Bool :=
  match S.threads[t]? with
  | some ⟨.revoke d' _ _, _⟩ => d' = d
  | some ⟨.gateway d' _ _, phase⟩ => d' = d && phase = .returned refused
  | none => false

/-- a run beside the run without the threads of `out`: the same broker and the same other threads, and registries that
differ at most in the revocation of the device -/
structure Beside (d : DeviceId) (out : Nat → Bool) (S S' : System) : Prop where
  broker : S'.broker = S.broker
  others : SecurityStore.AgreesBut d S.registry S'.registry
  device : S.registry.revoked d = true ∨ S.registry.snapshot.devices[d]? = S'.registry.snapshot.devices[d]?
  holder : S'.holder = S.holder.filter fun t => !out t
  threads : ∀ t, S'.threads[t]? = if out t then none else S.threads[t]?

variable {out : Nat → Bool} {S' : System} {events : List Event}

/-- a thread that is left out revokes the device, or is an operation of the device that is not admitted -/
theorem request_of_erased (hrun : Along (step env mint) Enabled S events) (ht : S.threads[t]? = some ⟨request, phase⟩)
    (hout : erased d (run env mint S events) t = true) :
    (∃ revokedAtMs result, request = .revoke d revokedAtMs result) ∨
    ∃ call atMs, request = .gateway d call atMs ∧ ¬ phase.admitted := by
  obtain ⟨phase', ht', -⟩ := run_thread (P := fun _ => True) (fun _ => trivial) (fun _ _ _ _ => trivial) hrun
    ⟨phase, ht, trivial⟩
  cases request with
  | revoke d' revokedAtMs result =>
    obtain rfl : d' = d := by simpa [erased, ht'] using hout
    exact .inl ⟨revokedAtMs, result, rfl⟩
  | gateway d' call atMs =>
    obtain ⟨rfl, hphase'⟩ : d' = d ∧ phase' = .returned refused := by simpa [erased, ht'] using hout
    refine .inr ⟨call, atMs, rfl, fun hadmitted => ?_⟩
    -- an admitted operation never ends refused
    obtain ⟨phase'', ht'', hadmitted⟩ := run_thread (P := Phase.admitted) False.elim
      (fun _ _ _ h => advanced_admitted h) hrun ⟨phase, ht, hadmitted⟩
    obtain rfl : phase' = phase'' := by simpa [ht'] using ht''
    rw [hphase'] at hadmitted
    exact hadmitted rfl

/-- a revocation that is kept is of another device -/
theorem revoke_of_kept {d' : DeviceId} {revokedAtMs : Int} {result : CommitResult}
    (hrun : Along (step env mint) Enabled S events) (ht : S.threads[t]? = some ⟨.revoke d' revokedAtMs result, phase⟩)
    (hout : erased d (run env mint S events) t = false) : d' ≠ d := by
  obtain ⟨phase', ht', -⟩ := run_thread (P := fun _ => True) (fun _ => trivial) (fun _ _ _ _ => trivial) hrun
    ⟨phase, ht, trivial⟩
  simpa [erased, ht'] using hout

/-- an operation of the device that is kept was not refused -/
theorem gateway_of_kept (hrun : Along (step env mint) Enabled S events)
    (hout : erased d (run env mint S events) t = false) :
    S.threads[t]? ≠ some ⟨.gateway d call atMs, .returned refused⟩ := by
  intro ht
  obtain ⟨phase', ht', rfl⟩ := run_thread (P := fun phase => phase = .returned refused) (fun h => by cases h)
    (fun _ _ _ h => by rw [h]; rfl) hrun ⟨_, ht, rfl⟩
  simp [erased, ht'] at hout

/-- a step of a thread that is kept: the result, the broker and the registries go on side by side -/
theorem advanced_beside (env : Env) (mint : String → CommandId) (request : Request) (phase : Phase) (broker : Broker)
    {registry' : SecurityStore} (hothers : SecurityStore.AgreesBut d registry registry')
    (hdevice : registry.revoked d = true ∨ registry.snapshot.devices[d]? = registry'.snapshot.devices[d]?)
    (hrevoke : ∀ d' revokedAtMs result, request = .revoke d' revokedAtMs result → d' ≠ d)
    (hgateway : ∀ call atMs, request = .gateway d call atMs →
      (advanced env mint request phase registry broker).1 ≠ .returned refused) :
    let out := advanced env mint request phase registry broker
    let out' := advanced env mint request phase registry' broker
    out'.1 = out.1 ∧ out'.2.2 = out.2.2 ∧ SecurityStore.AgreesBut d out.2.1 out'.2.1 ∧
      (out.2.1.revoked d = true ∨ out.2.1.snapshot.devices[d]? = out'.2.1.snapshot.devices[d]?) := by
  cases phase with
  | arrived | finished | returned => exact ⟨rfl, rfl, hothers, hdevice⟩
  | holding =>
    cases request with
    | gateway d' call atMs =>
      have hauth : registry'.deviceForAuth d' = registry.deviceForAuth d' := by
        by_cases hd : d' = d
        · subst hd
          rcases hdevice with hrevoked | hsame
          · exact absurd (advanced_holding_revoked hrevoked) (hgateway call atMs rfl)
          · unfold SecurityStore.deviceForAuth
            rw [hsame]
        · exact (hothers.deviceForAuth hd).symm
      simp only [advanced, hauth]
      split <;> exact ⟨rfl, rfl, hothers, hdevice⟩
    | revoke d' revokedAtMs result =>
      have hd := hrevoke d' revokedAtMs result rfl
      obtain ⟨hreply, hagrees⟩ := hothers.revokeAndThen hd revokedAtMs result
      refine ⟨?_, rfl, hagrees, ?_⟩
      · simp only [advanced, hreply]
      · rcases hdevice with hrevoked | hsame
        · exact .inl (SecurityStore.revokeAndThen_revoked hrevoked)
        · refine .inr ?_
          simp only [advanced]
          rw [← SecurityStore.revokeAndThen_agreesBut d (Ne.symm hd), hsame,
            SecurityStore.revokeAndThen_agreesBut d (Ne.symm hd)]
  | authorized => cases request <;> exact ⟨rfl, rfl, hothers, hdevice⟩

/-- a step of a thread that is left out: it does not reach the broker, and may revoke the device -/
theorem advanced_left_out (env : Env) (mint : String → CommandId) (registry : SecurityStore) (broker : Broker)
    (h : (∃ revokedAtMs result, request = .revoke d revokedAtMs result) ∨
      ∃ call atMs, request = .gateway d call atMs ∧ ¬ phase.admitted) :
    (advanced env mint request phase registry broker).2.2 = broker ∧
    SecurityStore.AgreesBut d registry (advanced env mint request phase registry broker).2.1 ∧
    ((advanced env mint request phase registry broker).2.1.revoked d = true ∨
      (advanced env mint request phase registry broker).2.1.snapshot = registry.snapshot) := by
  rcases h with ⟨revokedAtMs, result, rfl⟩ | ⟨call, atMs, rfl, hphase⟩
  · refine ⟨advanced_broker (fun _ _ _ h => by cases h), ?_⟩
    rcases advanced_registry env mint (.revoke d revokedAtMs result) phase registry broker with hr | ⟨d', revokedAtMs', result', heq, hr⟩
    · rw [hr]
      exact ⟨fun _ _ => rfl, .inr rfl⟩
    · cases heq
      rw [hr]
      refine ⟨SecurityStore.revokeAndThen_agreesBut, ?_⟩
      rcases SecurityStore.revokeAndThen_snapshot registry d revokedAtMs result with hs | ⟨device, hrevoked, hs⟩
      · exact .inr hs
      · refine .inl ?_
        simp only [SecurityStore.revoked, hs, OrdMap.get_insert, if_true]
        exact hrevoked
  · refine ⟨advanced_broker ?_, ?_⟩
    · rintro _ _ _ - rfl
      exact hphase trivial
    · rcases advanced_registry env mint (.gateway d call atMs) phase registry broker with hr | ⟨_, _, _, heq, -⟩
      · rw [hr]
        exact ⟨fun _ _ => rfl, .inr rfl⟩
      · cases heq

/-- the threads beside, when the thread that is left out takes a step -/
theorem threads_left_out {thread : Thread} (h : Beside d out S S') (hout : out t = true) (k : Nat) :
    S'.threads[k]? = if out k then none else (S.threads.insert t thread)[k]? := by
  rw [h.threads k, OrdMap.get_insert]
  by_cases hk : t = k
  · subst hk
    simp [hout]
  · rw [if_neg hk]

theorem step_left_out (h : Beside d out S S') (he : Enabled S e) (hout : out e.thread = true)
    (hthread : ∀ request phase, S.threads[e.thread]? = some ⟨request, phase⟩ →
      (∃ revokedAtMs result, request = .revoke d revokedAtMs result) ∨
      ∃ call atMs, request = .gateway d call atMs ∧ ¬ phase.admitted) :
    Beside d out (step env mint S e) S' := by
  cases e with
  | call t request => exact { h with threads := threads_left_out h hout }
  | acquire t =>
    simp only [step]
    split
    · exact h
    · exact { h with
        holder := by
          rw [h.holder, he.1]
          simp [Option.filter, show out t = true from hout]
        threads := threads_left_out h hout }
  | advance t =>
    simp only [step]
    split
    · exact h
    · rename_i thread ht
      obtain ⟨hbroker, hothers, hdevice⟩ := advanced_left_out env mint S.registry S.broker
        (hthread thread.request thread.phase ht)
      refine ⟨h.broker.trans hbroker.symm, fun other hne => (hothers other hne).symm.trans (h.others other hne), ?_, ?_,
        threads_left_out h hout⟩
      · rcases hdevice with hrevoked | hsame
        · exact .inl hrevoked
        · simp only [SecurityStore.revoked, hsame]
          exact h.device
      · rw [h.holder, he]
        split <;> simp [Option.filter, show out t = true from hout]

/-- the threads beside, when a thread that is kept takes a step -/
theorem threads_kept {thread : Thread} (h : Beside d out S S') (hout : out t = false) (k : Nat) :
    (S'.threads.insert t thread)[k]? = if out k then none else (S.threads.insert t thread)[k]? := by
  rw [OrdMap.get_insert, OrdMap.get_insert]
  by_cases hk : t = k
  · subst hk
    simp [hout]
  · rw [if_neg hk, if_neg hk, h.threads k]

theorem enabled_kept (h : Beside d out S S') (he : Enabled S e) (hout : out e.thread = false) : Enabled S' e := by
  have ht : S'.threads[e.thread]? = S.threads[e.thread]? := by rw [h.threads, hout]; rfl
  cases e with
  | call t request =>
    simp only [Event.thread] at ht
    simpa only [Enabled, ht] using he
  | acquire t =>
    simp only [Event.thread] at ht
    refine ⟨?_, ht ▸ he.2⟩
    rw [h.holder, he.1]
    rfl
  | advance t =>
    show S'.holder = some t
    rw [h.holder, he]
    simp [Option.filter, show out t = false from hout]

theorem step_kept (h : Beside d out S S') (he : Enabled S e) (hout : out e.thread = false)
    (hrevoke : ∀ d' revokedAtMs result phase, S.threads[e.thread]? = some ⟨.revoke d' revokedAtMs result, phase⟩ → d' ≠ d)
    (hgateway : ∀ call atMs, (step env mint S e).threads[e.thread]? ≠ some ⟨.gateway d call atMs, .returned refused⟩) :
    Beside d out (step env mint S e) (step env mint S' e) := by
  have ht : S'.threads[e.thread]? = S.threads[e.thread]? := by rw [h.threads, hout]; rfl
  cases e with
  | call t request => exact { h with threads := threads_kept h hout }
  | acquire t =>
    simp only [Event.thread] at ht
    simp only [step, ht]
    split
    · exact h
    · exact { h with
        holder := by simp [Option.filter, show out t = false from hout]
        threads := threads_kept h hout }
  | advance t =>
    simp only [Event.thread] at ht hrevoke hgateway
    cases hthread : S.threads[t]? with
    | none =>
      simp only [step, ht, hthread]
      exact h
    | some thread =>
      obtain ⟨hphase, hbroker, hothers, hdevice⟩ := advanced_beside env mint thread.request thread.phase
        S.broker h.others h.device
        (fun d' revokedAtMs result hreq => hrevoke d' revokedAtMs result thread.phase (by rw [hthread, ← hreq]))
        (fun call atMs hreq hreturned => hgateway call atMs (by simp [step, hthread, hreturned, ← hreq]))
      simp only [step, ht, hthread, h.broker]
      refine ⟨hbroker, hothers, hdevice, ?_, ?_⟩
      · simp only [hphase, h.holder]
        split <;> simp [Option.filter]
      · rw [hphase]
        exact threads_kept h hout

/-- the run without the threads that are left out goes beside -/
theorem run_beside (h : Beside d out S S') (hrun : Along (step env mint) Enabled S events)
    (hout : ∀ t, out t = erased d (run env mint S events) t) :
    Along (step env mint) Enabled S' (events.filter fun e => !out e.thread) ∧
    Beside d out (run env mint S events) (run env mint S' (events.filter fun e => !out e.thread)) := by
  induction events generalizing S S' with
  | nil => exact ⟨trivial, h⟩
  | cons e rest ih =>
    cases he : out e.thread with
    | true =>
      simp only [List.filter_cons, he, Bool.not_true, Bool.false_eq_true, if_false]
      have hthread := fun (request : Request) (phase : Phase) (ht : S.threads[e.thread]? = some ⟨request, phase⟩) =>
        request_of_erased hrun ht ((hout e.thread).symm.trans he)
      exact ih (step_left_out h hrun.1 he hthread) hrun.2 hout
    | false =>
      simp only [List.filter_cons, he, Bool.not_false, if_true]
      have hkept := (hout e.thread).symm.trans he
      have hstep := step_kept h hrun.1 he (fun _ _ _ _ ht => revoke_of_kept hrun ht hkept)
        (fun call atMs => gateway_of_kept hrun.2 hkept)
      obtain ⟨halong, hbeside⟩ := ih hstep hrun.2 hout
      exact ⟨⟨enabled_kept h hrun.1 he, halong⟩, hbeside⟩

/-! ## Revocation -/

/-- a revocation of the device is not among the events that are kept -/
theorem revoke_left_out {revokedAtMs : Int} {result : CommitResult} (hrun : Along (step env mint) Enabled S events)
    (hcall : Event.call t (.revoke d revokedAtMs result) ∈ events) : erased d (run env mint S events) t = true := by
  obtain ⟨before, rest, rfl⟩ := List.append_of_mem hcall
  obtain ⟨-, -, hrest⟩ := along_append.1 hrun
  have harrived : ∃ phase, (step env mint (run env mint S before) (.call t (.revoke d revokedAtMs result))).threads[t]? =
      some ⟨.revoke d revokedAtMs result, phase⟩ ∧ True := ⟨.arrived, by simp [step], trivial⟩
  obtain ⟨phase, ht, -⟩ := run_thread (P := fun _ => True) (fun _ => trivial) (fun _ _ _ _ => trivial) hrest harrived
  rw [run, runFrom_append, runFrom_cons]
  simp [erased, ht]

/-- **Revocation and the gateway.** In every interleaving: once the registry has committed the revocation of a device, none
of its operations is performed by the broker; an operation that starts later leaves the broker alone and returns
`DeviceRevoked` when it has the lock; and without the revocation and the operations of the device that were refused, every
other thread goes the same way, to the same broker. -/
theorem revocation_linearises_gateway (env : Env) (mint : String → CommandId) (registry : SecurityStore) (broker : Broker)
    (d : DeviceId) (events : List Event)
    (hrun : Along (step env mint) Enabled (start registry broker) events) :
    (∀ before middle t rest, events = before ++ middle ++ .advance t :: rest →
      (run env mint (start registry broker) before).registry.revoked d = true → ∀ call atMs,
      (run env mint (start registry broker) (before ++ middle)).threads[t]? ≠ some ⟨.gateway d call atMs, .authorized⟩) ∧
    (∀ before t call atMs middle rest, events = before ++ .call t (.gateway d call atMs) :: middle ++ rest →
      (run env mint (start registry broker) before).registry.revoked d = true →
      let S := run env mint (start registry broker) (before ++ .call t (.gateway d call atMs) :: middle)
      (∃ phase, S.threads[t]? = some ⟨.gateway d call atMs, phase⟩ ∧
        (phase = .arrived ∨ phase = .holding ∨ phase = .returned (.gateway (.error .deviceRevoked)))) ∧
      (∀ e, e.thread = t → (step env mint S e).broker = S.broker) ∧
      (S.threads[t]? = some ⟨.gateway d call atMs, .holding⟩ → (step env mint S (.advance t)).threads[t]? =
        some ⟨.gateway d call atMs, .returned (.gateway (.error .deviceRevoked))⟩)) ∧
    let last := run env mint (start registry broker) events
    let kept := events.filter fun e => !erased d last e.thread
    (∀ t revokedAtMs result, Event.call t (.revoke d revokedAtMs result) ∉ kept) ∧
    Along (step env mint) Enabled (start registry broker) kept ∧
    (run env mint (start registry broker) kept).broker = last.broker ∧
    ∀ t, erased d last t = false → (run env mint (start registry broker) kept).threads[t]? = last.threads[t]? := by
  refine ⟨?_, ?_, ?_, ?_⟩
  · rintro before middle t rest rfl hrevoked call atMs ht
    obtain ⟨hbefore, -⟩ := along_append.1 hrun
    have hlater : (run env mint (start registry broker) (before ++ middle)).registry.revoked d = true := by
      rw [run, runFrom_append]
      exact run_inv (I := fun S => S.registry.revoked d = true) (fun _ _ h _ => step_revoked h) hrevoked
        (along_append.1 hbefore).2
    rw [(run_vetted hbefore t d call atMs ht).2] at hlater
    cases hlater
  · rintro before t call atMs middle rest rfl hrevoked
    obtain ⟨hbefore, hmiddle⟩ := along_append.1 (along_append.1 hrun).1
    have hrefusing : Refusing t d call atMs
        (run env mint (start registry broker) (before ++ .call t (.gateway d call atMs) :: middle)) := by
      rw [run, runFrom_append, runFrom_cons]
      exact run_inv (I := Refusing t d call atMs) (fun _ _ h he => step_refusing h he)
        ⟨hrevoked, .arrived, by simp [step], .inl rfl⟩ hmiddle.2
    refine ⟨hrefusing.thread, fun e he => hrefusing.keeps_broker he, fun hholding => ?_⟩
    simp only [step, hholding, advanced_holding_revoked hrefusing.revoked, OrdMap.get_insert, if_true, refused]
  · intro t revokedAtMs result hmem
    obtain ⟨hcall, hkept⟩ := List.mem_filter.1 hmem
    simp only [Event.thread, revoke_left_out hrun hcall] at hkept
    cases hkept
  · have hstart : Beside d (erased d (run env mint (start registry broker) events)) (start registry broker)
        (start registry broker) := ⟨rfl, fun _ _ => rfl, .inr rfl, rfl, fun t => by simp [start]⟩
    obtain ⟨halong, hbeside⟩ := run_beside hstart hrun fun _ => rfl
    refine ⟨halong, hbeside.broker, ?_⟩
    intro t ht
    rw [hbeside.threads t, ht]
    rfl

end

/-! ## Two phones -/

def otherDevice : DeviceId := ⟨"dev_b"⟩

/-- a registry that knows two devices -/
def phones : SecurityStore :=
  let snapshot : RegistrySnapshot := { devices := ([sampleDevice, otherDevice].map fun deviceId =>
    (deviceId, (⟨deviceId, [], "phone", 1, none⟩ : DeviceRecord))).foldl (fun m p => m.insert p.1 p.2) ∅ }
  ⟨snapshot, snapshot⟩

/-- the text that the first phone has uploaded -/
def uploaded : ContentRef :=
  ⟨⟨sampleDigest (utf8 "go")⟩, .plainText, 2, "sha256:" ++ sampleDigest (utf8 "go"), none, .sensitive, .stored⟩

/-- a broker with a host, a session and the upload -/
def phonesBroker : Broker :=
  (do
    let _ ← Broker.applyEffects sampleEnv [.hostUpserted sampleHost, .sessionUpserted sampleSession] 10
    let _ ← onStore (writeContentForDevice sampleEnv sampleDevice ⟨.plainText, 2, uploaded.digest⟩ (utf8 "go") 20)
    : BrokerM Unit) { hostId := ⟨"hst_a"⟩ } |>.2

def mintSample : String → CommandId := fun _ => ⟨"cmd_a"⟩

/-- the first phone queues its text -/
def enqueueRequest : Request := .gateway sampleDevice (.admitCommand ⟨"key", none, .enqueueInput ⟨"ses_a"⟩ uploaded .newTurn⟩) 50

/-- the second phone looks at the queue -/
def queueRequest : Request := .gateway otherDevice (.subscribe ⟨.inputQueue ⟨"ses_a"⟩, none⟩) 60

def revokeRequest : Request := .revoke sampleDevice 40 .committed

/-- a thread from its call to its return, in `steps` steps under the lock -/
def whole (t : Nat) (request : Request) (steps : Nat) : List Event :=
  .call t request :: .acquire t :: List.replicate steps (.advance t)

/-- the events with which threads start and take the lock, without those of a device's revocations -/
def schedule (d : DeviceId) (S : System) (events : List Event) : List Event :=
  events.filter fun
    | .advance _ => false
    | .call t _ | .acquire t => match S.threads[t]? with
      | some ⟨.revoke d' _ _, _⟩ => d' ≠ d
      | _ => true

def lastReply (S : System) (t : Nat) : Option Reply :=
  S.threads[t]?.bind fun thread => match thread.phase with
    | .returned reply => some reply
    | _ => none

/-- a revocation of the device is called -/
def revokes (d : DeviceId) : Event → Bool
  | .call _ (.revoke d' _ _) => d' = d
  | _ => false

/-- the first phone is revoked before it queues its text -/
def revokedRun : List Event := whole 1 revokeRequest 2 ++ whole 2 enqueueRequest 1 ++ whole 3 queueRequest 3

/-- the same calls without the revocation -/
def unrevokedRun : List Event := whole 2 enqueueRequest 3 ++ whole 3 queueRequest 3

/-- The operations of other devices do not always return what they return without the revocation: what the revoked device
was not allowed to do is missing. -/
theorem refused_input_shows : ¬ ∀ (env : Env) (mint : String → CommandId) (registry : SecurityStore) (broker : Broker)
    (d : DeviceId) (events events' : List Event),
    Along (step env mint) Enabled (start registry broker) events →
    Along (step env mint) Enabled (start registry broker) events' →
    (∀ e ∈ events', revokes d e = false) →
    schedule d (run env mint (start registry broker) events') events' =
      schedule d (run env mint (start registry broker) events) events →
    ∀ (t : Nat) (d' : DeviceId) (call : GatewayCall) (atMs : Int) (reply reply' : Reply), d' ≠ d →
      (run env mint (start registry broker) events).threads[t]? = some ⟨.gateway d' call atMs, .returned reply⟩ →
      (run env mint (start registry broker) events').threads[t]? = some ⟨.gateway d' call atMs, .returned reply'⟩ →
      reply = reply' := by
  intro h
  have hruns : let S := run sampleEnv mintSample (start phones phonesBroker) revokedRun
      let S' := run sampleEnv mintSample (start phones phonesBroker) unrevokedRun
      Along (step sampleEnv mintSample) Enabled (start phones phonesBroker) revokedRun ∧
      Along (step sampleEnv mintSample) Enabled (start phones phonesBroker) unrevokedRun ∧
      schedule sampleDevice S' unrevokedRun = schedule sampleDevice S revokedRun ∧
      S.threads[3]? = some ⟨queueRequest, .returned ((lastReply S 3).getD refused)⟩ ∧
      S'.threads[3]? = some ⟨queueRequest, .returned ((lastReply S' 3).getD refused)⟩ ∧
      (lastReply S 3).getD refused ≠ (lastReply S' 3).getD refused := by
    decide +kernel
  obtain ⟨halong, halong', hschedule, hreply, hreply', hne⟩ := hruns
  exact hne (h sampleEnv mintSample phones phonesBroker sampleDevice revokedRun unrevokedRun halong halong' (by decide)
    hschedule 3 otherDevice _ _ _ _ (by decide) hreply hreply')

/-- a run with a revocation, whose registry then knows the device as revoked -/
theorem revocation_linearises_gateway_phones :
    let last := run sampleEnv mintSample (start phones phonesBroker) revokedRun
    let kept := revokedRun.filter fun e => !erased sampleDevice last e.thread
    Along (step sampleEnv mintSample) Enabled (start phones phonesBroker) revokedRun ∧
    last.registry.revoked sampleDevice = true ∧
    (run sampleEnv mintSample (start phones phonesBroker) kept).broker = last.broker := by
  have hrun : Along (step sampleEnv mintSample) Enabled (start phones phonesBroker) revokedRun ∧
      (run sampleEnv mintSample (start phones phonesBroker) revokedRun).registry.revoked sampleDevice = true := by
    decide +kernel
  exact ⟨hrun.1, hrun.2, (revocation_linearises_gateway sampleEnv mintSample phones phonesBroker sampleDevice revokedRun
    hrun.1).2.2.2.2.1⟩

end Gateway

end Kaleido.Hostd
