/-
Live control has provenance (`state.rs`, `store.rs`): a session under control and a runtime with live control each rest on
a runtime's acceptance of a command, and every such acceptance follows a local one that only `submit_command` and the
device admission write.

- `Provenanced` is the invariant of accepted effects; it holds of the state of every process (`provenanced_reached`).
- An operation appends a local acceptance only of the command it submits or admits (`op_adds`), whatever it is given.
- `live_control_provenance` puts both together for runs with crashes, failing appends and restarts.
-/
import Kaleido.State.Synced
import Kaleido.State.Growth
import Kaleido.State.Reached

namespace Kaleido.State

open Check LineFile Prog Proto CanonicalState

/-! ## The invariant of accepted effects -/

/-- the acknowledgement is the runtime's acceptance of a command for the session -/
def AcceptedFor (ack : CommandAck) (sessionId : SessionId) (runtimeId : ProviderRuntimeId) : Prop :=
  ∃ kind handle, ack.outcome = .acceptedByRuntime sessionId kind handle ∧ handle.runtimeId = runtimeId

/-- the runtime a session names itself -/
def ownRuntime (session : Session) : Option ProviderRuntimeId :=
  (session.bindingHandle.map (·.runtimeId)) <|> session.historySource.runtimeId

/-- every runtime acceptance in the list follows a local acceptance of its command -/
def Preceded (acks : List CommandAck) : Prop :=
  ∀ pre ack post, acks = pre ++ ack :: post → isRuntimeAcceptance ack.outcome = true →
    ∃ accepted ∈ pre, accepted.commandId = ack.commandId ∧ isAcceptedLocally accepted.outcome = true

structure Provenanced (s : CanonicalState) : Prop where
  runtimeIds : ∀ (k : ProviderRuntimeId) runtime, s.runtimes[k]? = some runtime → runtime.id = k
  sessionIds : ∀ (k : SessionId) session, s.sessions[k]? = some session → session.id = k
  controlling : ∀ (k : SessionId) session, s.sessions[k]? = some session → session.liveBinding.acceptsControl = true →
    ∃ runtimeId, ownRuntime session = some runtimeId ∧ s.runtimes.contains runtimeId = true ∧
      ∃ ack ∈ s.acks, AcceptedFor ack k runtimeId
  liveControl : ∀ (k : ProviderRuntimeId) runtime, s.runtimes[k]? = some runtime →
    runtime.capabilities.permits .liveControl = true → ∃ ack ∈ s.acks, ∃ sessionId, AcceptedFor ack sessionId k
  preceded : Preceded s.acks

variable {s t next : CanonicalState} {e : StateEffect}

theorem acceptedFor_of_session {ack : CommandAck} {runtimeId : ProviderRuntimeId} {session : Session}
    (h : s.acceptedRuntimeSession ack runtimeId = some session) :
    ∃ sessionId, s.sessions[sessionId]? = some session ∧ AcceptedFor ack sessionId runtimeId := by
  unfold acceptedRuntimeSession at h
  split at h
  · rename_i sessionId kind handle hout
    split_ifs at h with hid
    obtain ⟨hsession, -⟩ := Option.filter_eq_some_iff.1 h
    exact ⟨sessionId, hsession, kind, handle, hout, not_not.1 hid⟩
  · cases h

theorem checkLiveControl_eq_ok {capabilities : RuntimeCapabilities} {runtimeId : ProviderRuntimeId}
    (h : checkLiveControl s capabilities runtimeId = .ok ()) (hp : capabilities.permits .liveControl = true) :
    ∃ ack ∈ s.acks, ∃ sessionId, AcceptedFor ack sessionId runtimeId := by
  simp only [checkLiveControl, ensure_eq_ok, not_and, not_not] at h
  obtain ⟨ack, hmem, hsome⟩ := List.any_eq_true.1 (h hp)
  obtain ⟨session, hsession⟩ := Option.isSome_iff_exists.1 hsome
  obtain ⟨sessionId, -, hacc⟩ := acceptedFor_of_session hsession
  exact ⟨ack, hmem, sessionId, hacc⟩

/-- what a live binding needs: the runtime's capabilities, and a runtime acceptance if it controls -/
theorem checkLiveBinding_iff {session : Session} : checkLiveBinding s session = .ok () ↔
    (session.liveBinding.isLive = true → ∃ runtime, s.liveRuntimeOf session = .ok runtime ∧
      session.liveBinding.validateAgainst runtime.capabilities = .ok ()) ∧
    (session.liveBinding.acceptsControl = true → ∃ runtime, s.liveRuntimeOf session = .ok runtime ∧
      ∃ ack ∈ s.acks, ∃ accepted, s.acceptedRuntimeSession ack runtime.id = some accepted ∧ accepted.id = session.id) := by
  unfold checkLiveBinding
  by_cases hlive : session.liveBinding.isLive = true <;> by_cases hcontrol : session.liveBinding.acceptsControl = true <;>
    simp only [hlive, hcontrol, if_true, Bool.false_eq_true, if_false, true_implies, false_implies, and_true, true_and,
      bind_eq_ok, pure_eq_ok, contract_eq_ok, ensure_eq_ok, List.any_eq_true, Option.any_eq_true, decide_eq_true_eq,
      Unique.exists_iff, PUnit.default_eq_unit]
  -- both checks read the same runtime
  constructor
  · rintro ⟨runtime, hruntime, hvalid, hrest⟩
    exact ⟨⟨runtime, hruntime, hvalid⟩, hrest⟩
  · rintro ⟨⟨runtime, hruntime, hvalid⟩, hrest⟩
    exact ⟨runtime, hruntime, hvalid, hrest⟩

/-- a controlling session names a known runtime, which accepted a command for it -/
theorem checkLiveBinding_controlling (hs : Provenanced s) {session : Session} (h : checkLiveBinding s session = .ok ())
    (hc : session.liveBinding.acceptsControl = true) : ∃ runtimeId, ownRuntime session = some runtimeId ∧
      s.runtimes.contains runtimeId = true ∧ ∃ ack ∈ s.acks, AcceptedFor ack session.id runtimeId := by
  obtain ⟨runtime, hruntime, ack, hmem, accepted, haccepted, hid⟩ := (checkLiveBinding_iff.1 h).2 hc
  obtain ⟨sessionId, hsession, hacc⟩ := acceptedFor_of_session haccepted
  unfold liveRuntimeOf at hruntime
  split at hruntime
  · cases hruntime
  · rename_i runtimeId hown
    split at hruntime
    · cases hruntime
    · rename_i found hfound
      cases hruntime
      refine ⟨runtimeId, hown, ?_, ack, hmem, ?_⟩
      · rw [Std.ExtTreeMap.contains_eq_isSome_getElem?, hfound]
        rfl
      · rw [← hid, hs.sessionIds sessionId accepted hsession, ← hs.runtimeIds runtimeId runtime hfound]
        exact hacc

theorem preceded_append {acks : List CommandAck} {ack : CommandAck} (h : Preceded acks)
    (hnew : isRuntimeAcceptance ack.outcome = true →
      ∃ accepted ∈ acks, accepted.commandId = ack.commandId ∧ isAcceptedLocally accepted.outcome = true) :
    Preceded (acks ++ [ack]) := by
  intro pre ack' post heq hacc
  rcases List.eq_nil_or_concat post with rfl | ⟨post', last, rfl⟩
  · obtain ⟨rfl, hlast⟩ := List.append_inj' heq rfl
    cases hlast
    exact hnew hacc
  · rw [List.concat_eq_append, ← List.cons_append, ← List.append_assoc] at heq
    obtain ⟨heq, -⟩ := List.append_inj' heq rfl
    exact h pre ack' post' heq hacc

theorem provenanced_empty : Provenanced {} :=
  ⟨by simp, by simp, by simp, by simp, fun pre ack post h => by simp at h⟩

/-- the acknowledgements only grow, so what rests on them stays -/
theorem Provenanced.of_sessions (hs : Provenanced s) (hr : t.runtimes = s.runtimes) (ha : t.acks = s.acks)
    (hsessions : ∀ (k : SessionId) session, t.sessions[k]? = some session → ∃ old, s.sessions[k]? = some old ∧
      session.id = old.id ∧ session.liveBinding = old.liveBinding ∧ ownRuntime session = ownRuntime old) :
    Provenanced t := by
  refine ⟨hr ▸ hs.runtimeIds, fun k session hk => ?_, fun k session hk hc => ?_, ?_, ha ▸ hs.preceded⟩
  · obtain ⟨old, hold, hid, -⟩ := hsessions k session hk
    exact hid.trans (hs.sessionIds k old hold)
  · obtain ⟨old, hold, -, hlive, hown⟩ := hsessions k session hk
    rw [hr, ha, hown]
    exact hs.controlling k old hold (hlive ▸ hc)
  · rw [hr, ha]
    exact hs.liveControl

/-- a runtime that replaces another keeps what rests on acknowledgements -/
theorem Provenanced.insert_runtime (hs : Provenanced s) {runtime : ProviderRuntime} {k : ProviderRuntimeId}
    (hid : runtime.id = k) (hlive : runtime.capabilities.permits .liveControl = true →
      ∃ ack ∈ s.acks, ∃ sessionId, AcceptedFor ack sessionId k) :
    Provenanced { s with runtimes := s.runtimes.insert k runtime } := by
  refine ⟨OrdMap.forall_insert hs.runtimeIds hid, hs.sessionIds, fun k' session hk hc => ?_,
    OrdMap.forall_insert hs.liveControl hlive, hs.preceded⟩
  obtain ⟨runtimeId, hown, hknown, hack⟩ := hs.controlling k' session hk hc
  exact ⟨runtimeId, hown, by rw [Std.ExtTreeMap.contains_insert, hknown, Bool.or_true], hack⟩

theorem provenanced_transition (hs : Provenanced s) (h : Transitioned s e t) : Provenanced t := by
  cases h with
  | runtime runtime hhost hlive => exact hs.insert_runtime rfl (checkLiveControl_eq_ok hlive)
  | capabilities capabilities runtime hlive hr =>
    exact hs.insert_runtime (show runtime.id = _ from hs.runtimeIds _ _ hr) (checkLiveControl_eq_ok hlive)
  | session session hlive =>
    have hmerged : ∀ existing : Option Session, (mergeSession existing session).id = session.id ∧
        (mergeSession existing session).liveBinding = session.liveBinding ∧
        ownRuntime (mergeSession existing session) = ownRuntime session := by
      rintro (_ | _) <;> exact ⟨rfl, rfl, rfl⟩
    obtain ⟨hid, hbinding, hown⟩ := hmerged s.sessions[session.id]?
    refine ⟨hs.runtimeIds, OrdMap.forall_insert hs.sessionIds hid, OrdMap.forall_insert hs.controlling fun hc => ?_,
      hs.liveControl, hs.preceded⟩
    rw [hown]
    exact checkLiveBinding_controlling hs hlive (hbinding ▸ hc)
  | ack ack hack =>
    have hold : ∀ {ack'}, ack' ∈ s.acks → ack' ∈ s.acks ++ [ack] := fun hmem => List.mem_append_left _ hmem
    refine ⟨hs.runtimeIds, hs.sessionIds, fun k session hk hc => ?_, fun k runtime hk hp => ?_,
      preceded_append hs.preceded fun hacc => ?_⟩
    · obtain ⟨runtimeId, hown, hknown, ack', hmem, hacc⟩ := hs.controlling k session hk hc
      exact ⟨runtimeId, hown, hknown, ack', hold hmem, hacc⟩
    · obtain ⟨ack', hmem, hacc⟩ := hs.liveControl k runtime hk hp
      exact ⟨ack', hold hmem, hacc⟩
    · obtain ⟨sessionId, kind, handle, hout⟩ := of_isRuntimeAcceptance hacc
      obtain ⟨⟨accepted, hmem, hcmd, note, hlocal⟩, -⟩ := checkRuntimeAcknowledgement_accepted hout hack
      exact ⟨accepted, hmem, hcmd, by rw [hlocal]; rfl⟩
  | _ => exact hs.of_sessions rfl rfl fun k session hk => ⟨session, hk, rfl, rfl, rfl⟩

/-- **Accepted effects** keep the provenance of live control. -/
theorem provenanced_step (hs : Provenanced s) (h : s.apply e = .ok next) : Provenanced next := by
  obtain ⟨t, ht, rfl⟩ := apply_iff.1 h
  refine (provenanced_transition hs ht).of_sessions rfl rfl fun k session hk => ?_
  rw [get_recomputed_session] at hk
  obtain ⟨old, hold, rfl⟩ := Option.map_eq_some_iff.1 hk
  exact ⟨old, hold, rfl, rfl, rfl⟩

theorem provenanced_reached (h : Reached s) : Provenanced s :=
  h.inv provenanced_empty fun _ _ _ hs happly => provenanced_step hs happly

/-! ## The state of a process -/

variable {env : Env}

/-- the local acceptances among the records of the log -/
def localAcceptances (disk : Disk) : List CommandAck :=
  (acknowledgements ((logRecords disk).map (·.effect))).filter fun ack => isAcceptedLocally ack.outcome

theorem acknowledgements_append (l l' : List StateEffect) :
    acknowledgements (l ++ l') = acknowledgements l ++ acknowledgements l' := List.filterMap_append

theorem localAcceptances_append (disk disk' : Disk) :
    localAcceptances (disk ++ disk') = localAcceptances disk ++ localAcceptances disk' := by
  simp [localAcceptances, acknowledgements_append]

/-- the state is reached by accepted effects, and its acknowledgements are in the log -/
structure Sourced (w : World) : Prop where
  reached : Reached w.store.state
  logged : ∀ ack ∈ w.store.state.acks, ack ∈ acknowledgements ((logRecords w.disk).map (·.effect))

theorem sourced_stable : Stable Sourced := fun w w' hstate hdisk h => by
  refine ⟨hstate ▸ h.reached, fun ack hmem => ?_⟩
  obtain ⟨added, hadded⟩ : logRecords w.disk <+: logRecords w'.disk := recordsOf_prefix hdisk
  rw [hstate] at hmem
  rw [← hadded, List.map_append, acknowledgements_append]
  exact List.mem_append_left _ (h.logged ack hmem)

theorem apply_acks_eq (h : s.apply e = .ok next) : next.acks = s.acks ++ acknowledgements [e] := by
  rw [apply_acks h]
  cases e <;> rfl

variable (env) in
/-- the state of a process stays reached, and its acknowledgements stay in the log -/
def sourcedWalk : Walk env := sourced_stable.walk env fun e w w' h happly hlogged => by
  refine ⟨h.reached.step happly, fun ack hmem => ?_⟩
  obtain ⟨record, rfl, hlog⟩ := hlogged.log
  rw [apply_acks_eq happly] at hmem
  rw [hlog, List.map_append, acknowledgements_append]
  exact (List.mem_append.1 hmem).elim (fun hold => List.mem_append_left _ (h.logged ack hold)) (List.mem_append_right _)

/-- what is read back from the streams was appended to them -/
theorem mem_of_readAll {disk : Disk} {records : List LogRecord} (h : readAll disk = .ok records) {record : LogRecord}
    (hmem : record ∈ records) : record ∈ logRecords disk := by
  obtain ⟨perStream, hstreams, hsorted⟩ := bind_eq_ok.1 h
  cases hsorted
  obtain ⟨l, hl, hrecord⟩ := List.mem_flatten.1 ((List.perm_insertionSort _ _).mem_iff.1 hmem)
  obtain ⟨name, -, hname⟩ := Sorting.exists_of_mem_mapM hstreams hl
  obtain ⟨l', hread, hverified⟩ := bind_eq_ok.1 hname
  rw [seq_eq_ok, pure_eq_ok] at hverified
  rw [← hverified.2] at hrecord
  obtain ⟨c, hc, rfl⟩ := List.mem_map.1 (eq_of_readFile hread ▸ hrecord)
  rw [logRecords, ← map_entry_chunksOf]
  exact List.mem_map_of_mem (List.mem_of_mem_filter hc)

theorem replay_sourced {disk : Disk} {records : List LogRecord} {r : Replayed} (hread : readAll disk = .ok records)
    (hr : replay {} records = .ok r) :
    Reached r.state ∧ ∀ ack ∈ r.state.acks, ack ∈ acknowledgements ((logRecords disk).map (·.effect)) := by
  have hall : Reached r.state ∧ r.state.acks = acknowledgements (records.map (·.effect)) := by
    have hstart : Reached {} ∧ ({} : CanonicalState).acks = acknowledgements (([] : List LogRecord).map (·.effect)) :=
      ⟨.empty, rfl⟩
    refine replay_inv (J := fun s log => Reached s ∧ s.acks = acknowledgements (log.map (·.effect)))
      (fun s log record next h happly => ⟨h.1.step happly, ?_⟩) hstart hr
    rw [apply_acks_eq happly, h.2, List.map_append, acknowledgements_append]
    rfl
  refine ⟨hall.1, fun ack hmem => ?_⟩
  rw [hall.2] at hmem
  obtain ⟨e, he, hack⟩ := List.mem_filterMap.1 hmem
  obtain ⟨record, hrecord, rfl⟩ := List.mem_map.1 he
  exact List.mem_filterMap.2 ⟨_, List.mem_map_of_mem (mem_of_readAll hread hrecord), hack⟩

/-- a start leaves a sourced process, if any -/
theorem load_sourced (w : World) :
    wp World.disk (fun _ => True) (fun _ => Sourced) (fun _ _ => True) (load env) w := by
  refine Walk.load_keeps (W := sourcedWalk env) sourced_stable fun store expected hread => ?_
  simp only [readStore, bind_eq_ok, pure_eq_ok] at hread
  obtain ⟨_, -, _, -, records, hrecords, r, hr, rfl, -⟩ := hread
  exact ⟨(replay_sourced hrecords hr).1, (replay_sourced hrecords hr).2⟩

/-- in every run the state of a process that is up is reached by accepted effects -/
theorem machine_sourced (env : Env) (events : List Event) :
    Machine.Holds (fun _ => True) Sourced (Machine.run env {} events) := by
  refine run_inv_all (fun m e h => ?_) ⟨trivial, fun _ => ⟨.empty, by simp⟩⟩ events
  exact (Machine.step_holds env (fun _ _ => trivial) h
    (fun op _ hup => Walk.op_keeps (W := sourcedWalk env) (by cases op <;> simp [Walk.Admits, sourcedWalk, Stable.walk, Stable.walkOn])
      m.world (h.process hup)) fun _ _ => load_sourced m.world).1

/-! ## Who writes local acceptances -/

/-- the disk was extended by local acceptances that satisfy `P`, and by other records -/
def Adds (P : CommandAck → Prop) (disk disk' : Disk) : Prop :=
  ∃ added, disk' = disk ++ added ∧ ∀ ack ∈ localAcceptances added, P ack

variable {P : CommandAck → Prop} {disk : Disk}

theorem Adds.refl (P : CommandAck → Prop) (disk : Disk) : Adds P disk disk :=
  ⟨[], by simp, by simp [localAcceptances, acknowledgements]⟩

theorem Adds.append {disk' : Disk} (h : Adds P disk disk') {c : Chunk Entry}
    (hc : ∀ record ack, c.entry = .stream record → record.effect = .commandAcknowledged ack →
      isAcceptedLocally ack.outcome = true → P ack) : Adds P disk (disk' ++ [c]) := by
  obtain ⟨added, rfl, hadded⟩ := h
  refine ⟨added ++ [c], by rw [List.append_assoc], fun ack hmem => ?_⟩
  rw [localAcceptances_append, List.mem_append] at hmem
  rcases hmem with hmem | hmem
  · exact hadded ack hmem
  · obtain ⟨hack, hlocal⟩ := List.mem_filter.1 hmem
    obtain ⟨e, he, hsome⟩ := List.mem_filterMap.1 hack
    obtain ⟨record, hrecord, rfl⟩ := List.mem_map.1 he
    rw [logRecords, recordsOf_single, Option.mem_toList] at hrecord
    obtain ⟨entry, extent⟩ := c
    cases entry <;> simp only [Entry.stream?, reduceCtorEq, Option.some.injEq] at hrecord
    rename_i record'
    subst hrecord
    cases heffect : record'.effect <;> rw [heffect] at hsome <;> simp only [reduceCtorEq, Option.some.injEq] at hsome
    subst hsome
    exact hc record' _ rfl heffect hlocal

/-- the program adds local acceptances that satisfy `P` only -/
abbrev KeepsAdds {α : Type} (P : CommandAck → Prop) (disk : Disk) (p : StoreM α) : Prop :=
  Keeps World.disk (Adds P disk) (fun w => Adds P disk w.disk) (fun w => Adds P disk w.disk) p

theorem keepsAdds_appendEntry {path : String} {entry : Entry}
    (hc : ∀ record ack, entry = .stream record → record.effect = .commandAcknowledged ack →
      isAcceptedLocally ack.outcome = true → P ack) : KeepsAdds P disk (appendEntry env path entry) := fun _ h =>
  wp_appendEntry_any (fun _ => h.append hc) (h.append hc) h fun _ _ => h.append hc

theorem keepsAdds_appendOutbox (record : OutboxRecord) : KeepsAdds P disk (appendOutbox env record) :=
  Keeps.bind (keepsAdds_appendEntry (by simp)) fun _ => Keeps.modify (fun _ => rfl) fun _ h => h

theorem keepsAdds_commit (hc : ∀ ack, e = .commandAcknowledged ack → isAcceptedLocally ack.outcome = true → P ack) :
    KeepsAdds P disk (applyTrustedCommit env e) :=
  keeps_applyTrustedCommit env (fun _ h => h) (fun _ h => h) (fun _ h => h)
    (fun _ record hr => keepsAdds_appendEntry fun record' ack heq he hl => by cases heq; exact hc ack (hr ▸ he) hl)
    (fun _ _ => keepsAdds_appendEntry (by simp)) fun _ _ h _ _ => h

theorem keepsAdds_applyTrusted (hc : ∀ ack, e = .commandAcknowledged ack → isAcceptedLocally ack.outcome = true → P ack) :
    KeepsAdds P disk (applyTrusted env e) := Keeps.bind (keepsAdds_commit hc) fun _ => Keeps.pure

/-- `apply` refuses local acceptances -/
theorem keepsAdds_apply : KeepsAdds P disk (apply env e) := by
  refine Keeps.bind (fun w h => wp_bind (wp_require (fun hlocal => ?_) fun _ => h)) fun _ => Keeps.pure
  refine keepsAdds_commit (fun ack he hl => ?_) w h
  unfold isLocalAcceptance at hlocal
  cases hout : ack.outcome <;> simp_all [isAcceptedLocally]

theorem keepsAdds_recordIdempotency (key : String) (commandId : CommandId) :
    KeepsAdds P disk (recordIdempotency env key commandId) :=
  Keeps.bind (Keeps.modify (fun _ => rfl) fun _ h => h) fun _ => keepsAdds_appendEntry (by simp)

/-- a command is acknowledged under its own identifier -/
theorem keepsAdds_submitCommand (envelope : CommandEnvelope) (nowMs : Int)
    (hP : ∀ ack : CommandAck, ack.commandId = envelope.commandId → P ack) :
    KeepsAdds P disk (submitCommand env envelope nowMs) := by
  intro w h
  refine wp_submit (K := fun v => Adds P disk v.disk) (fun _ => h) (fun _ _ => h) (fun _ _ _ _ => keepsAdds_apply w h)
    (fun _ _ _ => h) fun v hv => ?_
  exact (Keeps.bind (keepsAdds_applyTrusted fun ack he _ => hP ack (by cases he; rfl)) fun _ =>
    .bind (keepsAdds_recordIdempotency _ _) fun _ => .pure) v hv

theorem addsParts (env : Env) (P : CommandAck → Prop) (disk : Disk) :
    Parts env (Adds P disk) (fun w => Adds P disk w.disk) (fun w => Adds P disk w.disk) fun _ => True where
  weaken _ h := h
  block _ h := h
  content _ _ h := h
  apply _ _ := keepsAdds_apply
  unavailable _ _ := trivial
  claimed _ _ _ _ _ _ _ := trivial
  claim := (keeps_outbox (fun _ => id) keepsAdds_appendOutbox).2.1
  complete := (keeps_outbox (fun _ => id) keepsAdds_appendOutbox).2.2

/-- the command an operation may accept locally -/
def Op.accepts : Op → Option CommandId
  | .submitCommand envelope _ | .admitDeviceCommand _ envelope _ _ => some envelope.commandId
  | _ => none

/-- **Only submissions and admissions** append local acceptances, and only of their own command. -/
theorem op_adds (env : Env) (op : Op) : KeepsAdds (fun ack => op.accepts = some ack.commandId) disk (op.run env) := by
  refine (addsParts env _ disk).run (fun _ _ => trivial) ?_ ?_
  · rintro envelope nowMs rfl
    exact keepsAdds_submitCommand envelope nowMs fun _ h => congrArg some h.symm
  · rintro device envelope request nowMs rfl
    exact (addsParts env _ disk).admitDeviceCommand (fun r _ => (keeps_outbox (fun _ => id) keepsAdds_appendOutbox).1 r)
      (keepsAdds_submitCommand envelope nowMs fun _ h => congrArg some h.symm) fun ack hack =>
      keepsAdds_applyTrusted fun ack' he _ => by cases he; exact congrArg some hack.symm

/-! ## Repairs -/

/-- a command of the outbox -/
def AdmittedOn (disk : Disk) (commandId : CommandId) : Prop := ∃ r ∈ outboxRecords disk, r.envelope.commandId = commandId

/-- the records read back are lines of the file, and acknowledge their own command -/
theorem of_readRecords {boxes : Outbox} (h : readRecords env disk = .ok boxes) {k : String} {r : OutboxRecord}
    (hk : boxes[k]? = some r) : r ∈ outboxRecords disk ∧ r.admissionAck.commandId = r.envelope.commandId := by
  obtain ⟨records, hread, hfrom⟩ := bind_eq_ok.1 h
  obtain ⟨hchecked, -, rfl⟩ := readOutboxFrom_eq_ok.1 hfrom
  have hmem : r ∈ records := by
    rcases mem_of_boxesFrom hk with hmem | hnone
    · exact hmem
    · simp at hnone
  obtain ⟨i, hi, hget⟩ := List.getElem_of_mem hmem
  have hline := hchecked (r, 1 + i) (List.mk_add_mem_zipIdx_iff_getElem?.2 (by rw [List.getElem?_eq_getElem hi, hget]))
  refine ⟨?_, ?_⟩
  · rw [outboxRecords, ← map_entry_chunksOf]
    exact eq_of_readFile hread ▸ hmem
  · simp only [checkRecord, seq_eq_ok] at hline
    have hlast := hline.2.2.2
    split at hlast
    · rw [ensure_eq_ok] at hlast; exact hlast.1
    · cases hlast

theorem keepsAdds_recoverAdmission {recovery : AdmissionRecovery}
    (hack : recovery.admissionAck.commandId = recovery.envelope.commandId)
    (hP : ∀ ack : CommandAck, ack.commandId = recovery.envelope.commandId → P ack) :
    KeepsAdds P disk (recoverAdmission env recovery) := by
  have hidem : KeepsAdds P disk (ensureCommandIdempotency env recovery.envelope) := by
    refine Keeps.bind Keeps.read fun _ => ?_
    split
    · exact Keeps.require fun _ h => h
    · exact keepsAdds_recordIdempotency _ _
  exact (addsParts env P disk).recoverAdmission hidem (keepsAdds_submitCommand _ _ hP)
    (keepsAdds_applyTrusted fun ack he _ => by cases he; exact hP _ hack)

/-- **A start** appends local acceptances of admitted commands only. -/
theorem load_adds (env : Env) (w : World) :
    wp World.disk (Adds (fun ack => AdmittedOn w.disk ack.commandId) w.disk)
      (fun _ w' => Adds (fun ack => AdmittedOn w.disk ack.commandId) w.disk w'.disk)
      (fun _ w' => Adds (fun ack => AdmittedOn w.disk ack.commandId) w.disk w'.disk) (load env) w := by
  refine wp_bind (wp_read (wp_bind (wp_liftExcept (fun read hread => ?_) fun _ _ => Adds.refl _ _)))
  obtain ⟨store, expected⟩ := read
  have hboxes : readRecords env w.disk = .ok store.deviceOutbox := by
    simp only [readStore, bind_eq_ok] at hread
    obtain ⟨_, -, boxes, hb, _, -, _, -, h⟩ := hread
    cases h
    exact hb
  -- the recoveries are those of the outbox as it was read
  have hloop : ∀ w' : World, w'.store.deviceOutbox = store.deviceOutbox →
      KeepsAdds (fun ack => AdmittedOn w.disk ack.commandId) w.disk
        (forEach (recoverOne env) (w'.store.deviceOutbox.admissionRecoveries env)) := by
    intro w' hw'
    refine Keeps.forEach_of_mem _ fun recovery hmem => ?_
    obtain ⟨r, hr, rfl⟩ := List.mem_map.1 hmem
    obtain ⟨k, hk⟩ := OrdMap.mem_vals.1 (List.mem_of_mem_filter hr)
    obtain ⟨hline, hack⟩ := of_readRecords hboxes (hw' ▸ hk)
    exact Keeps.bind (keepsAdds_recoverAdmission hack fun ack h => ⟨r, hline, h.symm⟩) fun _ =>
      .ite (fun _ => (addsParts env _ _).complete _) fun _ => .pure
  refine wp_bind (wp_modify rfl (wp_bind ?_))
  have hreconcile : Keeps World.disk (Adds (fun ack => AdmittedOn w.disk ack.commandId) w.disk)
      (fun v => Adds (fun ack => AdmittedOn w.disk ack.commandId) w.disk v.disk ∧
        v.store.deviceOutbox = store.deviceOutbox)
      (fun v => Adds (fun ack => AdmittedOn w.disk ack.commandId) w.disk v.disk) (reconcile env expected) :=
    keeps_reconcile env (fun _ h => h.1) (fun _ _ v h => wp_appendEntry_any (fun _ => h.1.append (by simp))
      ⟨h.1.append (by simp), h.2⟩ h.1 fun _ _ => h.1.append (by simp)) (fun _ _ h => h) expected
  refine wp_post (hreconcile { w with store := store } ⟨Adds.refl _ _, rfl⟩) (fun _ v hv => ?_)
    fun _ _ he => he
  refine wp_bind (wp_liftExcept (fun table _ => wp_bind (wp_modify rfl (wp_bind (wp_bind (wp_read ?_))))) fun _ _ => hv.1)
  refine wp_seq (hloop _ hv.2 _ hv.1) (fun _ _ hq => wp_pure ?_) fun _ _ he => he
  exact (Keeps.bind (Keeps.of_log_eq (fun _ h => h) (fun _ => rfl) fun _ h => h) fun _ =>
    Keeps.modify (fun _ => rfl) fun _ h => h : KeepsAdds _ _ (collectContent env)) _ hq

/-! ## Runs -/

/-- the commands an event may accept locally: its own, or those of the outbox it starts on -/
def Event.accepts (disk : Disk) (commandId : CommandId) : Event → Prop
  | .call op | .crash op _ => op.accepts = some commandId
  | .start | .crashStart _ => AdmittedOn disk commandId

/-- the event appended the local acceptance, of a command that it submits, admits or finds admitted -/
def Machine.Wrote (env : Env) (m : Machine) (e : Event) (ack : CommandAck) : Prop :=
  (∃ added, (m.step env e).world.disk = m.world.disk ++ added ∧ ack ∈ localAcceptances added) ∧
    e.accepts m.world.disk ack.commandId

theorem step_adds (env : Env) (m : Machine) (e : Event) :
    Adds (fun ack => e.accepts m.world.disk ack.commandId) m.world.disk (m.step env e).world.disk := by
  have hsame : ∀ P, Adds P m.world.disk m.world.disk := fun P => Adds.refl P _
  cases e with
  | call op =>
    by_cases hup : m.up = true
    · rw [Machine.step_call env hup]
      exact (op_adds env op).final (s := m.world) (hsame _)
    · simp only [Machine.step, hup]
      exact hsame _
  | crash op survive =>
    by_cases hup : m.up = true
    · simp only [Machine.step, hup, if_true]
      exact (Machine.killed_files (op_adds env op m.world (hsame _)) rfl (hsame _) survive).1
    · simp only [Machine.step, hup]
      exact hsame _
  | start =>
    by_cases hup : m.up = true
    · simp only [Machine.step, hup, if_true]
      exact hsame _
    · have hpost := (load_adds env m.world).2.2
      simp only [Machine.step, hup]
      generalize load env m.world = r at hpost
      obtain ⟨_ | _, w⟩ := r <;> exact hpost
  | crashStart survive =>
    by_cases hup : m.up = true
    · simp only [Machine.step, hup, if_true]
      exact hsame _
    · simp only [Machine.step, hup]
      exact (Machine.killed_files (v := { (load env m.world).2 with content := m.world.content })
        (load_adds env m.world) rfl (hsame _) survive).1

/-- every local acceptance in the log was there at the start or was written by a step of the run -/
theorem run_wrote {m : Machine} {events : List Event} {ack : CommandAck}
    (h : ack ∈ localAcceptances (Machine.run env m events).world.disk) :
    ack ∈ localAcceptances m.world.disk ∨
      ∃ pre e post, events = pre ++ e :: post ∧ (Machine.run env m pre).Wrote env e ack := by
  induction events generalizing m with
  | nil => exact .inl h
  | cons e events ih =>
    rcases ih h with hstep | ⟨pre, e', post, rfl, hwrote⟩
    · obtain ⟨added, hadded, hP⟩ := step_adds env m e
      rw [hadded, localAcceptances_append, List.mem_append] at hstep
      rcases hstep with hold | hnew
      · exact .inl hold
      · exact .inr ⟨[], e, events, rfl, ⟨added, hadded, hnew⟩, hP ack hnew⟩
    · exact .inr ⟨e :: pre, e', post, rfl, hwrote⟩

/-- **Live control has provenance.** In every run, with crashes, failing appends and restarts, the state of the process is
such that a controlling session has an acceptance by its runtime that names it; a runtime with live control has accepted a
command; every runtime acceptance follows a local acceptance of its command; and every local acceptance was written by a
submission or an admission of its command, or by a start that found the command admitted. -/
theorem live_control_provenance (env : Env) (events : List Event) :
    let s := (Machine.run env {} events).world.store.state
    (∀ (k : SessionId) session, s.sessions[k]? = some session → session.liveBinding.acceptsControl = true →
      ∃ runtime, s.runtimeOf session = some runtime ∧ ∃ ack ∈ s.acks, AcceptedFor ack session.id runtime.id) ∧
    (∀ (k : ProviderRuntimeId) runtime, s.runtimes[k]? = some runtime →
      runtime.capabilities.permits .liveControl = true → ∃ ack ∈ s.acks, ∃ sessionId, AcceptedFor ack sessionId runtime.id) ∧
    (∀ pre ack post, s.acks = pre ++ ack :: post → isRuntimeAcceptance ack.outcome = true →
      ∃ accepted ∈ pre, accepted.commandId = ack.commandId ∧ isAcceptedLocally accepted.outcome = true) ∧
    ∀ ack ∈ s.acks, isAcceptedLocally ack.outcome = true →
      ∃ pre e post, events = pre ++ e :: post ∧ (Machine.run env {} pre).Wrote env e ack := by
  intro s
  have hsourced : Sourced (Machine.run env {} events).world := by
    cases hup : (Machine.run env {} events).up with
    | true => exact (machine_sourced env events).process hup
    | false =>
      have hdown : Machine.Down (Machine.run env {} events) :=
        run_inv_all (I := Machine.Down) (fun m e h => Machine.step_down env h e) (fun h => by cases h) events
      have hstore := hdown hup
      exact ⟨by rw [hstore]; exact .empty, by rw [hstore]; simp⟩
  have hs : Provenanced s := provenanced_reached hsourced.reached
  refine ⟨fun k session hk hc => ?_, fun k runtime hk hp => ?_, hs.preceded, fun ack hmem hlocal => ?_⟩
  · obtain ⟨runtimeId, hown, hknown, ack, hmem, hacc⟩ := hs.controlling k session hk hc
    rw [Std.ExtTreeMap.contains_eq_isSome_getElem?, Option.isSome_iff_exists] at hknown
    obtain ⟨runtime, hruntime⟩ := hknown
    have hid : s.runtimeIdOf session = some runtimeId := by
      unfold ownRuntime at hown
      unfold runtimeIdOf
      cases hb : session.bindingHandle <;> simp_all
    refine ⟨runtime, by rw [runtimeOf, hid]; exact hruntime, ack, hmem, ?_⟩
    rw [hs.sessionIds k session hk, hs.runtimeIds runtimeId runtime hruntime]
    exact hacc
  · rw [hs.runtimeIds k runtime hk]
    exact hs.liveControl k runtime hk hp
  · have hlogged : ack ∈ localAcceptances (Machine.run env {} events).world.disk :=
      List.mem_filter.2 ⟨hsourced.logged ack hmem, hlocal⟩
    rcases run_wrote hlogged with hnone | hwrote
    · simp [localAcceptances, acknowledgements] at hnone
    · exact hwrote

end Kaleido.State
