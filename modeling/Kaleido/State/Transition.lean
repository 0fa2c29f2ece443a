/-
What an accepted effect does to the canonical state: `Transitioned` lists, for each of the sixteen effects, the conditions
under which `transition` accepts it and the state it leads to (`transition_iff`), and `apply_iff` adds the recomputation
of the derived fields. Facts about single fields follow by cases.
-/
import Kaleido.State.Canonical

namespace Kaleido.State.CanonicalState

open Check Proto

variable {s t : CanonicalState} {e : StateEffect}

/-- a turn that lists an item -/
def listItem (turn : Turn) (itemId : ItemId) : Turn :=
  { turn with itemIds := if itemId ∈ turn.itemIds then turn.itemIds else turn.itemIds ++ [itemId] }

/-- the accepted transitions -/
inductive Transitioned (s : CanonicalState) : StateEffect → CanonicalState → Prop
  | host (host : Host) : Transitioned s (.hostUpserted host) { s with hosts := s.hosts.insert host.id host }
  | runtime (runtime : ProviderRuntime)
      (hhost : ¬ s.runtimes[runtime.id]?.any fun existing => existing.hostId ≠ runtime.hostId)
      (hlive : checkLiveControl s runtime.capabilities runtime.id = .ok ()) :
      Transitioned s (.runtimeUpserted runtime) { s with runtimes := s.runtimes.insert runtime.id runtime }
  | capabilities (capabilities : RuntimeCapabilities) (runtime : ProviderRuntime)
      (hlive : checkLiveControl s capabilities capabilities.runtimeId = .ok ())
      (hr : s.runtimes[capabilities.runtimeId]? = some runtime) :
      Transitioned s (.capabilitiesUpdated capabilities)
        { s with runtimes := s.runtimes.insert capabilities.runtimeId { runtime with capabilities := capabilities } }
  | project (project : Project) : Transitioned s (.projectUpserted project)
      { s with projects := s.projects.insert project.id (mergeProject s.projects[project.id]? project) }
  | session (session : Session) (hlive : checkLiveBinding s session = .ok ()) :
      Transitioned s (.sessionUpserted session)
        { s with sessions := s.sessions.insert session.id (mergeSession s.sessions[session.id]? session) }
  | status (sessionId : SessionId) (status : SessionStatus) (hs : s.sessions.contains sessionId = true) :
      Transitioned s (.sessionStatusChanged sessionId status)
        { s with reportedStatus := s.reportedStatus.insert sessionId status }
  | turn (turn merged : Turn) (hremote : checkRemoteCommand s turn = .ok ())
      (hmerge : mergeTurn s.turns[turn.id]? turn = .ok merged) (hvalid : merged.validate = .ok ()) :
      Transitioned s (.turnUpserted turn) { s with
        turnOrder := if turn.id ∈ s.turnOrder then s.turnOrder else s.turnOrder ++ [turn.id]
        turns := s.turns.insert turn.id merged }
  | item (item : Item) (turn : Turn) (ht : s.turns[item.turnId]? = some turn)
      (hvalid : (listItem turn item.id).validate = .ok ()) :
      Transitioned s (.itemUpserted item)
        { s with turns := s.turns.insert item.turnId (listItem turn item.id), items := s.items.insert item.id item }
  | queueEntry (entry : QueueEntry) :
      Transitioned s (.queueEntryUpserted entry) { s with queue := s.queue.insert entry.id entry }
  | queueReordered (sessionId : SessionId) (order : List QueueEntryId) :
      Transitioned s (.queueReordered sessionId order) { s with queue := reorderQueue sessionId s.queue order }
  | attention (item : AttentionItem) : Transitioned s (.attentionUpserted item) { s with
      attentionOrder := if item.id ∈ s.attentionOrder then s.attentionOrder else s.attentionOrder ++ [item.id]
      attention := s.attention.insert item.id item }
  | ack (ack : CommandAck) (hack : checkRuntimeAcknowledgement s ack = .ok ()) :
      Transitioned s (.commandAcknowledged ack) { s with acks := s.acks ++ [ack] }
  | diagnostic (diagnostic : DiagnosticRecord) : Transitioned s (.diagnosticRecorded diagnostic)
      { s with diagnostics := s.diagnostics.insert (diagnosticKey diagnostic) diagnostic }
  | workflow (workflow : Workflow) :
      Transitioned s (.workflowUpserted workflow) { s with workflows := s.workflows.insert workflow.id workflow }
  | step (step : Step) : Transitioned s (.stepUpserted step) { s with steps := s.steps.insert step.id step }
  | artifact (artifact : Artifact) :
      Transitioned s (.artifactUpserted artifact) { s with artifacts := s.artifacts.insert artifact.id artifact }

theorem transitioned_of_ok (h : s.transition e = .ok t) : Transitioned s e t := by
  cases e with
  | hostUpserted host => cases h; exact .host host
  | runtimeUpserted runtime =>
    simp only [transition, seq_eq_ok, ensure_eq_ok, pure_eq_ok] at h
    obtain ⟨hhost, hlive, rfl⟩ := h
    exact .runtime runtime hhost hlive
  | capabilitiesUpdated capabilities =>
    simp only [transition, seq_eq_ok] at h
    obtain ⟨hlive, h⟩ := h
    split at h
    · cases h
    · rename_i runtime hr
      cases h
      exact .capabilities capabilities runtime hlive hr
  | projectUpserted project => cases h; exact .project project
  | sessionUpserted session =>
    simp only [transition, seq_eq_ok, pure_eq_ok] at h
    obtain ⟨hlive, rfl⟩ := h
    exact .session session hlive
  | sessionStatusChanged sessionId status =>
    simp only [transition, seq_eq_ok, ensure_eq_ok, pure_eq_ok] at h
    obtain ⟨hs, rfl⟩ := h
    exact .status sessionId status hs
  | turnUpserted turn =>
    rw [transition, seq_eq_ok] at h
    obtain ⟨hremote, h⟩ := h
    obtain ⟨merged, hmerge, h⟩ := bind_eq_ok.1 h
    rw [seq_eq_ok, contract_eq_ok, pure_eq_ok] at h
    obtain ⟨hvalid, rfl⟩ := h
    exact .turn turn merged hremote hmerge hvalid
  | itemUpserted item =>
    simp only [transition] at h
    split at h
    · cases h
    · rename_i turn ht
      rw [seq_eq_ok, contract_eq_ok, pure_eq_ok] at h
      obtain ⟨hvalid, rfl⟩ := h
      exact .item item turn ht hvalid
  | queueEntryUpserted entry => cases h; exact .queueEntry entry
  | queueReordered sessionId order => cases h; exact .queueReordered sessionId order
  | attentionUpserted item => cases h; exact .attention item
  | commandAcknowledged ack =>
    simp only [transition, seq_eq_ok, pure_eq_ok] at h
    obtain ⟨hack, rfl⟩ := h
    exact .ack ack hack
  | diagnosticRecorded diagnostic => cases h; exact .diagnostic diagnostic
  | workflowUpserted workflow => cases h; exact .workflow workflow
  | stepUpserted step => cases h; exact .step step
  | artifactUpserted artifact => cases h; exact .artifact artifact

theorem Transitioned.transition_eq (h : Transitioned s e t) : s.transition e = .ok t := by
  cases h with
  | runtime runtime hhost hlive => simp only [transition, seq_eq_ok, ensure_eq_ok, pure_eq_ok]; exact ⟨hhost, hlive, trivial⟩
  | capabilities capabilities runtime hlive hr => simp only [transition, seq_eq_ok, hr]; exact ⟨hlive, rfl⟩
  | session session hlive => simp only [transition, seq_eq_ok, pure_eq_ok]; exact ⟨hlive, trivial⟩
  | status sessionId status hs => simp only [transition, seq_eq_ok, ensure_eq_ok, pure_eq_ok]; exact ⟨hs, trivial⟩
  | turn turn merged hremote hmerge hvalid =>
    rw [transition, seq_eq_ok, bind_eq_ok]
    refine ⟨hremote, merged, hmerge, ?_⟩
    rw [seq_eq_ok, contract_eq_ok, pure_eq_ok]
    exact ⟨hvalid, rfl⟩
  | item item turn ht hvalid =>
    simp only [transition, ht]
    rw [seq_eq_ok, contract_eq_ok, pure_eq_ok]
    exact ⟨hvalid, rfl⟩
  | ack ack hack => simp only [transition, seq_eq_ok, pure_eq_ok]; exact ⟨hack, trivial⟩
  | _ => rfl

theorem apply_iff {next : CanonicalState} :
    s.apply e = .ok next ↔ ∃ t, Transitioned s e t ∧ next = t.recomputeDerived := by
  unfold apply
  cases h : s.transition e with
  | error err =>
    constructor
    · intro h'
      cases h'
    · rintro ⟨t, ht, -⟩
      rw [ht.transition_eq] at h
      cases h
  | ok t =>
    constructor
    · intro h'
      cases h'
      exact ⟨t, transitioned_of_ok h, rfl⟩
    · rintro ⟨t', ht', rfl⟩
      rw [ht'.transition_eq] at h
      cases h
      rfl

/-! ## Fields an effect may change -/

theorem get_recomputed_session (t : CanonicalState) (sessionId : SessionId) :
    t.recomputeDerived.sessions[sessionId]? = t.sessions[sessionId]?.map (t.recomputeSession sessionId) :=
  OrdMap.get_map _ _ _

/-- hosts are changed by their own effect only -/
theorem apply_hosts {next : CanonicalState} (h : s.apply e = .ok next) : next.hosts = match e with
    | .hostUpserted host => s.hosts.insert host.id host
    | _ => s.hosts := by
  obtain ⟨t, ht, rfl⟩ := apply_iff.1 h
  cases ht <;> rfl

/-- an acknowledgement is appended; nothing else touches the acknowledgements -/
theorem apply_acks {next : CanonicalState} (h : s.apply e = .ok next) : next.acks = s.acks ++ match e with
    | .commandAcknowledged ack => [ack]
    | _ => [] := by
  obtain ⟨t, ht, rfl⟩ := apply_iff.1 h
  cases ht <;> simp [recomputeDerived]

/-- a reordering changes positions only -/
theorem map_reorderQueue {β : Type} (f : QueueEntry → β) (hf : ∀ entry position, f { entry with position := position } = f entry)
    (sessionId : SessionId) (queue : OrdMap QueueEntryId QueueEntry) (order : List QueueEntryId) (k : QueueEntryId) :
    (reorderQueue sessionId queue order)[k]?.map f = queue[k]?.map f := by
  unfold reorderQueue
  generalize order.zipIdx = pairs
  induction pairs generalizing queue with
  | nil => rfl
  | cons p rest ih =>
    rw [List.foldl_cons, ih, OrdMap.get_adjust]
    split_ifs
    · cases queue[k]? with
      | none => rfl
      | some entry =>
        simp only [Option.map_some, Option.some.injEq]
        split_ifs
        · exact hf entry p.2
        · rfl
    · rfl

theorem mem_queueOf {sessionId : SessionId} {entry : QueueEntry} : entry ∈ s.queueOf sessionId ↔
    (∃ k : QueueEntryId, s.queue[k]? = some entry) ∧ entry.sessionId = sessionId := by
  rw [queueOf, sortByKey, List.mem_insertionSort, List.mem_filter, OrdMap.mem_vals, decide_eq_true_iff]

theorem pairwise_queueOf (s : CanonicalState) (sessionId : SessionId) :
    (s.queueOf sessionId).Pairwise fun a b => a.position ≤ b.position :=
  List.pairwise_insertionSort (fun a b : QueueEntry => a.position ≤ b.position) _

/-- the queue is changed by its own effects only -/
theorem apply_queue {next : CanonicalState} (h : s.apply e = .ok next) : next.queue = match e with
    | .queueEntryUpserted entry => s.queue.insert entry.id entry
    | .queueReordered sessionId order => reorderQueue sessionId s.queue order
    | _ => s.queue := by
  obtain ⟨t, ht, rfl⟩ := apply_iff.1 h
  cases ht <;> rfl

/-- entries stay under their identifiers -/
theorem apply_queue_ids {next : CanonicalState} (hids : ∀ (k : QueueEntryId) entry, s.queue[k]? = some entry → entry.id = k)
    (h : s.apply e = .ok next) (k : QueueEntryId) (entry : QueueEntry) (hk : next.queue[k]? = some entry) : entry.id = k := by
  rw [apply_queue h] at hk
  cases e with
  | queueEntryUpserted new => exact OrdMap.forall_insert hids rfl k entry hk
  | queueReordered sessionId order =>
    have hmap := map_reorderQueue (fun entry => entry.id) (fun _ _ => rfl) sessionId s.queue order k
    rw [hk] at hmap
    obtain ⟨old, hold, hid⟩ := Option.map_eq_some_iff.1 hmap.symm
    exact hid.symm.trans (hids k old hold)
  | _ => exact hids k entry hk

end Kaleido.State.CanonicalState
