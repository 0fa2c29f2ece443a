/-
Runs of the store: a process that performs operations one after another, may be killed at any point, and is started
again on what its files hold.

A crash falls between two appends. Since an operation only ever appends, what a crash during it leaves is the disk before
it together with some first part of what it appended. A process that is down starts with `load`; a start may crash too.
-/
import Kaleido.Lib.Run
import Kaleido.State.Load

namespace Kaleido.State

open Prog Proto

/-- the operations of the store -/
inductive Op where
  | apply (effect : StateEffect)
  | applyAll (effects : List StateEffect)
  | submitCommand (envelope : CommandEnvelope) (nowMs : Int)
  | admitDeviceCommand (authenticatedDevice : DeviceId) (envelope : CommandEnvelope) (request : DeviceCommandRequest)
      (nowMs : Int)
  | claimDispatch (ticket : DispatchTicket)
  | rejectReadyDispatch (ticket : DispatchTicket) (atMs : Int)
  | finishDispatch (ticket : DispatchTicket) (effects : List StateEffect)
  | claimQueueDelivery (entryId : QueueEntryId) (atMs : Int)
  | finishQueueDelivery (entryId : QueueEntryId) (effects : List StateEffect)
  | writeContentForDevice (deviceId : DeviceId) (request : ContentWriteRequest) (bytes : List UInt8) (nowMs : Int)
  | storeContent (kind : ContentKind) (sensitivity : Sensitivity) (bytes : List UInt8)

/-- what an operation returns -/
inductive Reply where
  | records (records : List LogRecord)
  | ack (ack : CommandAck)
  | admission (admission : DeviceCommandAdmission)
  | claim (claim : DispatchClaim)
  | projections (projections : List ProjectionEnvelope)
  | delivery (claim : QueueDeliveryClaim)
  | written (response : ContentWriteResponse)
  | stored (reference : ContentRef)
  deriving DecidableEq

variable (env : Env)

def Op.run : Op → StoreM Reply
  | .apply effect => Reply.records <$> State.apply env effect
  | .applyAll effects => Reply.records <$> State.applyAll env effects
  | .submitCommand envelope nowMs => Reply.ack <$> State.submitCommand env envelope nowMs
  | .admitDeviceCommand device envelope request nowMs =>
    Reply.admission <$> State.admitDeviceCommand env device envelope request nowMs
  | .claimDispatch ticket => Reply.claim <$> State.claimDispatch env ticket
  | .rejectReadyDispatch ticket atMs => Reply.projections <$> State.rejectReadyDispatch env ticket atMs
  | .finishDispatch ticket effects => Reply.projections <$> State.finishDispatch env ticket effects
  | .claimQueueDelivery entryId atMs => Reply.delivery <$> State.claimQueueDelivery env entryId atMs
  | .finishQueueDelivery entryId effects => Reply.projections <$> State.finishQueueDelivery env entryId effects
  | .writeContentForDevice deviceId request bytes nowMs =>
    Reply.written <$> State.writeContentForDevice env deviceId request bytes nowMs
  | .storeContent kind sensitivity bytes => Reply.stored <$> State.storeContent env kind sensitivity bytes

/-- a process and its files -/
structure Machine where
  world : World := {}
  up : Bool := true

inductive Event where
  | call (op : Op)
  /-- the process is killed during the operation, after its first appends -/
  | crash (op : Op) (survive : Nat)
  | start
  /-- the process is killed during a start -/
  | crashStart (survive : Nat)

namespace Machine

/-- the process is gone: the first `survive` chunks appended since `before` are on disk -/
def killed (before : Disk) (survive : Nat) (w : World) : Machine where
  world := { w with store := {}, disk := before ++ (w.disk.drop before.length).take survive }
  up := false

/-- one event; a process that is down performs no operation, and one that is up is not started -/
def step (m : Machine) : Event → Machine
  | .call op => if m.up then { m with world := (op.run env m.world).2 } else m
  | .crash op survive => if m.up then killed m.world.disk survive (op.run env m.world).2 else m
  | .start =>
    if m.up then m
    else match load env m.world with
      | (.ok (), w) => { world := w, up := true }
      | (.error _, w) => { world := { w with store := {} }, up := false }
  | .crashStart survive =>
    if m.up then m
    else killed m.world.disk survive { (load env m.world).2 with content := m.world.content }

/-- what the event returned to its caller -/
def reply (m : Machine) : Event → Option (Except StateError Reply)
  | .call op => if m.up then some (op.run env m.world).1 else none
  | _ => none

abbrev run (m : Machine) (events : List Event) : Machine := runFrom (step env) m events

theorem step_call {m : Machine} {op : Op} (h : m.up = true) :
    m.step env (.call op) = { m with world := (op.run env m.world).2 } := by simp [step, h]

/-- an operation that returned was performed by a process that is up -/
theorem run_of_reply {m : Machine} {op : Op} {r : Except StateError Reply} (h : m.reply env (.call op) = some r) :
    m.up = true ∧ op.run env m.world = (r, (m.step env (.call op)).world) := by
  by_cases hup : m.up = true
  · refine ⟨hup, ?_⟩
    rw [step_call env hup]
    simp only [reply, hup, if_true, Option.some.injEq] at h
    rw [← h]
  · simp [reply, hup] at h

/-- a process that is down holds no store -/
def Down (m : Machine) : Prop := m.up = false → m.world.store = {}

theorem step_down {m : Machine} (h : m.Down) (e : Event) : (m.step env e).Down := by
  intro hd
  cases hup : m.up with
  | true =>
    cases e with
    | call op => rw [step_call env hup] at hd; simp [hup] at hd
    | crash op survive => simp [step, hup, killed]
    | start | crashStart => simp [step, hup] at hd
  | false =>
    cases e with
    | call | crash => simpa [step, hup] using h hup
    | start =>
      simp only [step, hup] at hd ⊢
      generalize load env m.world = r at hd ⊢
      obtain ⟨_ | _, w⟩ := r
      · rfl
      · simp at hd
    | crashStart survive => simp [step, hup, killed]

/-! ## Invariants of a run -/

/-- `C` holds of the files, and `I` of a process that is up -/
structure Holds (C : Disk → Prop) (I : World → Prop) (m : Machine) : Prop where
  files : C m.world.disk
  process : m.up = true → I m.world

variable {C : Disk → Prop} {I : World → Prop}

theorem killed_disk_prefix {before : Disk} {w : World} (h : before <+: w.disk) (survive : Nat) :
    before <+: (killed before survive w).world.disk ∧ (killed before survive w).world.disk <+: w.disk := by
  obtain ⟨t, ht⟩ := h
  refine ⟨List.prefix_append _ _, ?_⟩
  simp only [killed, ← ht, List.drop_left]
  exact (List.prefix_append_right_inj before).2 (List.take_prefix survive t)

/-- what a crash leaves satisfies what every log of the operation satisfies -/
theorem killed_files {α : Type} {Q : α → World → Prop} {E : StateError → World → Prop} {p : StoreM α} {w v : World}
    (hp : wp World.disk C Q E p w) (hv : v.disk = (p w).2.disk) (hC : C w.disk) (survive : Nat) :
    C (killed w.disk survive v).world.disk ∧ w.disk <+: (killed w.disk survive v).world.disk := by
  obtain ⟨hext, hcrash, -⟩ := hp
  obtain ⟨h₁, h₂⟩ := killed_disk_prefix (w := v) (hv ▸ hext) survive
  refine ⟨?_, h₁⟩
  by_cases heq : (killed w.disk survive v).world.disk = w.disk
  · rw [heq]; exact hC
  · exact hcrash _ h₁ (hv ▸ h₂) heq

/-- **One event.** If the operation (or the load) that the event performs keeps the invariant and passes through good
logs only, then the event keeps both, and it only extends the files. -/
theorem step_holds {m : Machine} {e : Event} (hI : ∀ w, I w → C w.disk) (h : Holds C I m)
    (hop : ∀ op, (e = .call op ∨ ∃ survive, e = .crash op survive) → m.up = true →
      wp World.disk C (fun _ => I) (fun _ => I) (op.run env) m.world)
    (hload : (e = .start ∨ ∃ survive, e = .crashStart survive) → m.up = false →
      wp World.disk C (fun _ => I) (fun _ w => C w.disk) (load env) m.world) :
    Holds C I (step env m e) ∧ m.world.disk <+: (step env m e).world.disk := by
  cases e with
  | call op =>
    by_cases hup : m.up = true
    · have hp := hop op (.inl rfl) hup
      have hpost : I (op.run env m.world).2 := by
        have := hp.2.2
        generalize op.run env m.world = r at this ⊢
        obtain ⟨_ | _, w⟩ := r <;> exact this
      simp only [step, hup, if_true]
      exact ⟨⟨hI _ hpost, fun _ => hpost⟩, hp.1⟩
    · simp only [step, hup]
      exact ⟨h, List.prefix_rfl⟩
  | crash op survive =>
    by_cases hup : m.up = true
    · simp only [step, hup, if_true]
      obtain ⟨hC, hext⟩ := killed_files (hop op (.inr ⟨survive, rfl⟩) hup) rfl h.files survive
      exact ⟨⟨hC, fun hf => by simp [killed] at hf⟩, hext⟩
    · simp only [step, hup]
      exact ⟨h, List.prefix_rfl⟩
  | start =>
    by_cases hup : m.up = true
    · simp only [step, hup, if_true]
      exact ⟨h, List.prefix_rfl⟩
    · obtain ⟨hext, -, hpost⟩ := hload (.inl rfl) (by simpa using hup)
      simp only [step, hup]
      generalize load env m.world = r at hext hpost ⊢
      obtain ⟨_ | _, w⟩ := r
      · exact ⟨⟨hpost, fun hf => by simp at hf⟩, hext⟩
      · exact ⟨⟨hI _ hpost, fun _ => hpost⟩, hext⟩
  | crashStart survive =>
    by_cases hup : m.up = true
    · simp only [step, hup, if_true]
      exact ⟨h, List.prefix_rfl⟩
    · simp only [step, hup]
      obtain ⟨hC, hext⟩ := killed_files (v := { (load env m.world).2 with content := m.world.content })
        (hload (.inr ⟨survive, rfl⟩) (by simpa using hup)) rfl h.files survive
      exact ⟨⟨hC, fun hf => by simp [killed] at hf⟩, hext⟩

end Machine

/-! ## A small installation

One host, one session and one device, in an environment with a stand-in for SHA-256; the witnesses of the later modules
run on it. -/

def hexDigit (n : Nat) : Char := if n < 10 then Char.ofNat (48 + n) else Char.ofNat (87 + n)

/-- the last `k` hexadecimal digits -/
def hexDigits : Nat → Nat → List Char
  | 0, _ => []
  | k + 1, n => hexDigits k (n / 16) ++ [hexDigit (n % 16)]

/-- 64 hexadecimal digits of a polynomial in the bytes -/
def sampleDigest (bytes : List UInt8) : String :=
  String.ofList (hexDigits 64 (bytes.foldl (fun h b => (h * 257 + b.toNat + 1) % 2 ^ 256) 7))

theorem length_hexDigits (k n : Nat) : (hexDigits k n).length = k := by
  induction k generalizing n with
  | zero => rfl
  | succ k ih => rw [hexDigits, List.length_append, ih, List.length_singleton]

theorem hexDigit_hex : ∀ n < 16, ((hexDigit n).isDigit || ('a' ≤ hexDigit n && hexDigit n ≤ 'f')) = true := by decide

theorem hexDigits_hex (k n : Nat) : ((hexDigits k n).all fun c => c.isDigit || ('a' ≤ c && c ≤ 'f')) = true := by
  induction k generalizing n with
  | zero => rfl
  | succ k ih =>
    rw [hexDigits, List.all_append, ih, Bool.true_and, List.all_cons, List.all_nil, Bool.and_true]
    exact hexDigit_hex _ (Nat.mod_lt _ (by decide))

theorem sampleDigest_valid (bytes : List UInt8) : validDigest (sampleDigest bytes) = true := by
  rw [validDigest, sampleDigest, String.toList_ofList, length_hexDigits, hexDigits_hex]
  rfl

def sampleEnv : Env where
  hexDigest := sampleDigest
  encodeRequest := fun ttlMs _ => utf8 (toString ttlMs)
  encodeKey := fun _ => []
  clock := fun n => 100 + n
  io := fun _ _ => none

def sampleHost : Host := ⟨⟨"hst_a"⟩, "host", .linux, .lanDirect, "1", 5⟩

def sampleSession : Session where
  id := ⟨"ses_a"⟩
  projectId := ⟨"prj_a"⟩
  projectBindingId := ⟨"bnd_a"⟩
  ownership := .brokerManaged
  historySource := ⟨.none, none, ⟨.absent, 0, none⟩⟩
  liveBinding := .notBound .neverStarted
  status := .idle
  title := none
  createdAtMs := 1
  updatedAtMs := 1
  lastActivityAtMs := 1
  activeTurnId := none
  queueDepth := 0
  openAttentionCount := 0
  archived := false
  bindingHandle := none

def sampleRuntime : ProviderRuntime :=
  ⟨⟨"run_a"⟩, ⟨"hst_a"⟩, .codex, none, .brokerLaunched, .connected 1, ⟨⟨"run_a"⟩, 1, []⟩, none⟩

/-- a handle of the sample runtime -/
def sampleHandle (kind : ProviderBindingKind) : ProviderBindingHandle :=
  ⟨⟨"bnd_00000000"⟩, ⟨"run_a"⟩, kind⟩

/-- the sample session, on the sample runtime -/
def sampleBoundSession : Session := { sampleSession with bindingHandle := some (sampleHandle .session) }

def sampleDevice : DeviceId := ⟨"dev_a"⟩

/-- a command of the sample device, issued at 50 without a lifetime -/
def sampleRequest (body : Command) : DeviceCommandRequest := ⟨"key", none, body⟩

def sampleEnvelope (body : Command) : CommandEnvelope := ⟨⟨"cmd_a"⟩, "key", .human sampleDevice, 50, none, body⟩

def sampleAdmission (body : Command) : Op :=
  .admitDeviceCommand sampleDevice (sampleEnvelope body) (sampleRequest body) 50

/-- the ticket of the sample device's command -/
def sampleTicket (body : Command) : DispatchTicket :=
  ticketFor sampleEnv (admissionRecord (deviceCommandKeyDigest sampleEnv sampleDevice "key")
    (deviceRequestDigest sampleEnv (sampleRequest body)) (sampleEnvelope body) ⟨⟨"cmd_a"⟩, .acceptedLocally none, 50⟩)

/-- the host and the session become known -/
def sampleSetup : List Event := [.call (.apply (.hostUpserted sampleHost)), .call (.apply (.sessionUpserted sampleSession))]

def sampleBody : ContentRef where
  contentId := ⟨"cnt_a"⟩
  kind := .markdown
  byteLen := 4
  digest := "sha256:" ++ String.ofList (List.replicate 64 '0')
  preview := none
  sensitivity := .sensitive
  availability := .stored

def sampleInterrupt : Command := .interruptTurn ⟨"ses_a"⟩ ⟨"trn_a"⟩

end Kaleido.State
