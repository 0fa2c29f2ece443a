/-
The outbox file reads back as the outbox of the process (`kaleido-state`, `command_outbox.rs`, `read_records`; `kaleido-hostd`,
`broker.rs`, `device_envelope`).

The reader derives the request, the digests and the time of the acknowledgement again from the envelope of each line, and
refuses the file if one of them differs or a status follows another out of order. `outbox_reads_back` says that a request is
recovered from the envelope that the broker makes of it, and that whatever operations the broker performs, on a fresh directory or
after any earlier runs with crashes, the file is accepted and read as the outbox in memory.
-/
import Kaleido.Hostd.Admission
import Kaleido.Hostd.Latch

namespace Kaleido.Hostd

open Check Prog Proto State

variable {env : Env} {mint : String → CommandId} {b : Broker}

/-! ## Operations of the broker and invariants of the store -/

/-- the invariant of the walk holds of the store afterwards if it held before -/
def OnWorld (W : Walk env) (b b' : Broker) : Prop := W.inv b.world → W.inv b'.world

instance (W : Walk env) : Std.Refl (OnWorld W) := ⟨fun _ => id⟩

instance (W : Walk env) : IsTrans Broker (OnWorld W) := ⟨fun _ _ _ h h' => h' ∘ h⟩

/-- a walk that every effect and every command may take, and that goes on after a failure -/
structure Unrestricted (W : Walk env) : Prop where
  effects : ∀ e, W.effect e
  commands : ∀ e, W.command e
  recovers : ∀ w, W.failed w → W.inv w

/-- **Every operation of the broker** keeps what every operation of the store keeps. -/
theorem op_onWorld {W : Walk env} (hW : Unrestricted W) (op : BrokerOp) :
    Moves (OnWorld W) (fun _ _ => True) (op.run env mint) b := by
  have hsame : ∀ b b' : Broker, b'.world = b.world → SameLatch b b' → OnWorld W b b' := by
    intro b b' hworld _ hb
    rw [hworld]
    exact hb
  refine op_moves (P := True) (fun _ => W) (fun b hp hb => ?_)
    (fun envelopes atMs b => hsame _ _ (publish_core envelopes atMs b).1 (publish_core envelopes atMs b).2)
    (fun _ _ e _ => hW.effects e) (fun _ envelope => hW.commands envelope) (fun _ e _ => hW.effects e) (mailbox_moves hsame)
  exact Keeps.final (I := W.inv) (fun w hw => wp_post (hp trivial w hw) (fun _ _ hq => hq) fun _ w' he => hW.recovers w' he) hb

/-! ## The outbox -/

variable (env mint) in
/-- the broker after one operation, whether it succeeded or failed -/
def Broker.after (b : Broker) (op : BrokerOp) : Broker := (op.run env mint b).2

theorem side_unrestricted (ht : env.Tolerant) (hd : env.HexDigests) : Unrestricted (sideWalk env ht hd) :=
  ⟨fun _ => trivial, fun _ => trivial, fun _ => id⟩

variable (mint) in
theorem ops_side (ht : env.Tolerant) (hd : env.HexDigests) (hb : SideInv env b.world) (ops : List BrokerOp) :
    SideInv env (runFrom (Broker.after env mint) b ops).world :=
  run_inv_all (I := fun b : Broker => SideInv env b.world)
    (fun b op h => (op_onWorld (b := b) (side_unrestricted ht hd) op).moved h) hb ops

/-- a broker over the store that earlier runs have left -/
def brokerAfter (env : Env) (hostId : HostId) (events : List Event) : Broker where
  world := (Machine.run env {} events).world
  hostId := hostId

/-- **The outbox reads back.** A valid request is recovered from the envelope that the broker makes of it; and after any
operations of a broker the outbox file is accepted and read as the outbox in memory. -/
theorem outbox_reads_back (env : Env) (hio : env.Tolerant) (hdigest : env.HexDigests) (mint : String → CommandId) :
    (∀ device request nowMs envelope, request.validate = .ok () →
      deviceEnvelope mint device request nowMs = .ok envelope → requestFromEnvelope envelope = some request) ∧
    ∀ hostId events ops, (Machine.run env {} events).up = true →
      readRecords env (runFrom (Broker.after env mint) (brokerAfter env hostId events) ops).world.disk =
        .ok (runFrom (Broker.after env mint) (brokerAfter env hostId events) ops).world.store.deviceOutbox := by
  refine ⟨fun device request nowMs envelope hvalid henvelope => ?_, fun hostId events ops hup => ?_⟩
  · exact (requestFromEnvelope_eq hvalid (deviceEnvelope_ok henvelope).1).1
  · have hside := ops_side mint hio hdigest (b := brokerAfter env hostId events)
      ((run_side hio hdigest events).process hup) ops
    rw [readRecords_eq hside.files, hside.outbox.memory]

/-- the broker admits an interrupt with a lifetime at a time before the epoch, and hands it out -/
def interruptOps : List BrokerOp :=
  let request := requestAgain (some 5)
  let record := admissionRecord (deviceCommandKeyDigest admissionEnv sampleDevice "key") (deviceRequestDigest admissionEnv request)
    ⟨sampleMint (deviceSeed sampleDevice "key"), "key", .human sampleDevice, -7, some (-2), sampleInterrupt⟩
    ⟨sampleMint (deviceSeed sampleDevice "key"), .acceptedLocally none, -7⟩
  [.admitDeviceCommand sampleDevice request (-7), .claimDispatch (ticketFor admissionEnv record) 60]

theorem outbox_reads_back_sample :
    (runFrom (Broker.after admissionEnv sampleMint) (brokerAfter admissionEnv sampleHost.id sampleSetup)
      interruptOps).world.store.deviceOutbox.vals.map (·.status) = [.claimed] ∧
    readRecords admissionEnv (runFrom (Broker.after admissionEnv sampleMint) (brokerAfter admissionEnv sampleHost.id sampleSetup)
      interruptOps).world.disk = .ok (runFrom (Broker.after admissionEnv sampleMint)
        (brokerAfter admissionEnv sampleHost.id sampleSetup) interruptOps).world.store.deviceOutbox :=
  ⟨by decide +kernel, (outbox_reads_back admissionEnv (by intro n entry fault h; cases h) sampleDigest_valid sampleMint).2
    sampleHost.id sampleSetup interruptOps (by decide +kernel)⟩

end Kaleido.Hostd
