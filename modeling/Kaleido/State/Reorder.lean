/-
Reordering a queue (`kaleido-proto`, `queue.rs`, `reorderable_entries` and `validate_queue_reorder`; `kaleido-state`,
`state.rs`, `QueueReordered`).

On a state that effects lead to, the validator accepts an order when it lists the pending entries of the session, each once
(`validateQueueReorder_queueOf`). The positions that `QueueReordered` then assigns are the indices of the order
(`pending_reordered`). `queue_reorder_permutes` is the result.
-/
import Kaleido.State.Idempotent

namespace Kaleido.State

open Check Proto CanonicalState Upsert

/-- `reorderable_entries` -/
def reorderableEntries (entries : List QueueEntry) : List QueueEntryId :=
  (sortByKey (·.position) (entries.filter fun entry => entry.state.isPending)).map (·.id)

/-- a pending entry of the session is stored under the identifier -/
def PendingAt (s : CanonicalState) (sessionId : SessionId) (k : QueueEntryId) : Prop :=
  ∃ entry, s.queue[k]? = some entry ∧ entry.sessionId = sessionId ∧ entry.state.isPending = true

/-- entries are stored under their identifiers -/
theorem queue_ids_reached {s : CanonicalState} (hs : Reached s) :
    ∀ (k : QueueEntryId) entry, s.queue[k]? = some entry → entry.id = k :=
  hs.inv (by simp) fun _ _ _ hids happly => apply_queue_ids hids happly

variable {s next : CanonicalState} {sessionId : SessionId} {order : List QueueEntryId}

theorem nodup_queueOf (hs : Reached s) : ((s.queueOf sessionId).map (·.id)).Nodup := by
  rw [queueOf, sortByKey, ((List.perm_insertionSort _ _).map _).nodup_iff]
  refine List.Nodup.sublist (List.filter_sublist.map _) (List.pairwise_map.2 (OrdMap.pairwise_vals ?_))
  intro k k' entry entry' hk hk' hne
  rwa [queue_ids_reached hs k entry hk, queue_ids_reached hs k' entry' hk']

/-- the order lists the pending entries of the session, each once -/
theorem validateQueueReorder_queueOf (hs : Reached s) : validateQueueReorder sessionId order (s.queueOf sessionId) = .ok () ↔
    order.Nodup ∧ ∀ k, k ∈ order ↔ PendingAt s sessionId k := by
  have hfind : ∀ k entry, (s.queueOf sessionId).find? (fun candidate => candidate.id = k) = some entry ↔
      s.queue[k]? = some entry ∧ entry.sessionId = sessionId := by
    intro k entry
    rw [← lookup, lookup_iff (nodup_queueOf hs), mem_queueOf]
    constructor
    · rintro ⟨⟨⟨k', hk'⟩, hsession⟩, hid⟩
      obtain rfl : k' = k := (queue_ids_reached hs k' entry hk').symm.trans hid
      exact ⟨hk', hsession⟩
    · rintro ⟨hk, hsession⟩
      exact ⟨⟨⟨k, hk⟩, hsession⟩, queue_ids_reached hs k entry hk⟩
  simp only [validateQueueReorder, seq_eq_ok, checkFresh_eq_ok, ensure_eq_ok, List.map_id, true_and, List.not_mem_nil,
    not_false_eq_true, List.any_eq_true, Bool.and_eq_true, decide_eq_true_eq, not_exists, not_and, not_not]
  constructor
  · rintro ⟨⟨hlisted, hnodup⟩, hmissing⟩
    refine ⟨hnodup, fun k => ⟨fun hk => ?_, ?_⟩⟩
    · have hcheck := hlisted k hk
      split at hcheck
      · cases hcheck
      · rename_i entry hfound
        rw [seq_eq_ok, ensure_eq_ok, ensure_eq_ok] at hcheck
        exact ⟨entry, ((hfind k entry).1 hfound).1, hcheck⟩
    · rintro ⟨entry, hk, hsession, hpending⟩
      rw [← queue_ids_reached hs k entry hk]
      exact hmissing entry (mem_queueOf.2 ⟨⟨k, hk⟩, hsession⟩) ⟨hsession, hpending⟩
  · rintro ⟨hnodup, hlisted⟩
    refine ⟨⟨fun k hk => ?_, hnodup⟩, fun entry hmem hpending => ?_⟩
    · obtain ⟨entry, hk, hsession, hpending⟩ := (hlisted k).1 hk
      simp [(hfind k entry).2 ⟨hk, hsession⟩, hsession, hpending, ensure]
    · obtain ⟨⟨k, hk⟩, -⟩ := mem_queueOf.1 hmem
      rw [queue_ids_reached hs k entry hk, hlisted k]
      exact ⟨entry, hk, hpending⟩

/-- the position that an order without repetitions assigns is the index -/
theorem positionIn_zipIdx (hnodup : order.Nodup) {k : QueueEntryId} {i : Nat} :
    positionIn order.zipIdx k = some i ↔ (k, i) ∈ order.zipIdx := by
  have hkeys : (order.zipIdx.reverse.map Prod.fst).Nodup := by simpa
  rw [positionIn, ← lookup, Option.map_eq_some_iff]
  simp [lookup_iff hkeys]

/-- the reordering keeps who is pending -/
theorem pendingAt_reordered (hqueue : next.queue = reorderQueue sessionId s.queue order) {k : QueueEntryId} :
    PendingAt next sessionId k ↔ PendingAt s sessionId k := by
  have hmap := map_reorderQueue (fun entry => (entry.sessionId, entry.state)) (fun _ _ => rfl) sessionId s.queue order k
  unfold PendingAt
  cases hnew : next.queue[k]? <;> cases hold : s.queue[k]? <;> simp_all

/-- the pending entries of the session have the positions of the order -/
theorem pending_reordered (hnext : Reached next) (hnodup : order.Nodup)
    (hlisted : ∀ k, k ∈ order ↔ PendingAt next sessionId k) (hqueue : next.queue = reorderQueue sessionId s.queue order) :
    (((next.queueOf sessionId).filter fun entry => entry.state.isPending).map fun entry => (entry.id, entry.position)) =
      order.zipIdx := by
  have hposition : ∀ {k i entry}, (k, i) ∈ order.zipIdx → next.queue[k]? = some entry → entry.sessionId = sessionId →
      entry.position = i := by
    intro k i entry hi hk hsession
    rw [hqueue, get_reorderQueue, (positionIn_zipIdx hnodup).2 hi, Option.map_eq_some_iff] at hk
    obtain ⟨old, -, rfl⟩ := hk
    unfold placed at hsession ⊢
    split_ifs at hsession ⊢ with hold
    · rfl
    · exact absurd hsession hold
  have hmem : ∀ pair, pair ∈ ((next.queueOf sessionId).filter fun entry => entry.state.isPending).map
      (fun entry => (entry.id, entry.position)) ↔ pair ∈ order.zipIdx := by
    rintro ⟨k, i⟩
    simp only [List.mem_map, List.mem_filter, mem_queueOf, Prod.mk.injEq]
    constructor
    · rintro ⟨entry, ⟨⟨⟨k', hk⟩, hsession⟩, hpending⟩, rfl, rfl⟩
      rw [queue_ids_reached hnext k' entry hk]
      obtain ⟨i, hi⟩ := List.mem_iff_getElem?.1 ((hlisted k').2 ⟨entry, hk, hsession, hpending⟩)
      rw [← List.mk_mem_zipIdx_iff_getElem?] at hi
      rwa [hposition hi hk hsession]
    · intro hi
      obtain ⟨entry, hk, hsession, hpending⟩ := (hlisted k).1 (List.fst_mem_of_mem_zipIdx hi)
      exact ⟨entry, ⟨⟨⟨k, hk⟩, hsession⟩, hpending⟩, queue_ids_reached hnext k entry hk, hposition hi hk hsession⟩
  have hindices : order.zipIdx.Pairwise fun a b => a.2 ≤ b.2 := by
    rw [← List.pairwise_map (R := (· ≤ ·)), List.zipIdx_map_snd]
    exact List.pairwise_le_range' _
  have hperm := (List.perm_ext_iff_of_nodup ?_ ?_).2 hmem
  · refine hperm.eq_of_pairwise (fun a b ha hb hle hge => ?_) (List.pairwise_map.2 ((pairwise_queueOf _ _).filter _)) hindices
    -- an index is the position of one entry
    have ha' := List.mem_zipIdx_iff_getElem?.1 ((hmem a).1 ha)
    rw [Nat.le_antisymm hle hge, List.mem_zipIdx_iff_getElem?.1 hb] at ha'
    exact Prod.ext (Option.some.inj ha').symm (Nat.le_antisymm hle hge)
  · refine List.Nodup.of_map Prod.fst ?_
    rw [List.map_map]
    exact (nodup_queueOf hnext).sublist (List.filter_sublist.map _)
  · exact List.Nodup.of_map Prod.fst (by simpa)

/-- **A reordering is a permutation.** An order that `validate_queue_reorder` accepts for the queue of a session becomes the
order of its pending entries, at the positions from zero on; every other entry stays, and the new order is accepted again. -/
theorem queue_reorder_permutes (hs : Reached s) (h : validateQueueReorder sessionId order (s.queueOf sessionId) = .ok ()) :
    ∃ next, s.apply (.queueReordered sessionId order) = .ok next ∧
      reorderableEntries (next.queueOf sessionId) = order ∧
      (((next.queueOf sessionId).filter fun entry => entry.state.isPending).map (·.position)) = List.range order.length ∧
      (∀ (k : QueueEntryId) entry, s.queue[k]? = some entry → entry.state.isPending = false ∨ entry.sessionId ≠ sessionId →
        next.queue[k]? = some entry) ∧
      validateQueueReorder sessionId (reorderableEntries (next.queueOf sessionId)) (next.queueOf sessionId) = .ok () := by
  obtain ⟨hnodup, hlisted⟩ := (validateQueueReorder_queueOf hs).1 h
  obtain ⟨next, happly⟩ : ∃ next, s.apply (.queueReordered sessionId order) = .ok next := ⟨_, rfl⟩
  have hqueue := apply_queue happly
  have hnext := hs.step happly
  have hlisted' := fun k => (hlisted k).trans (pendingAt_reordered hqueue).symm
  have hpairs := pending_reordered hnext hnodup hlisted' hqueue
  have hids := congrArg (List.map Prod.fst) hpairs
  have hpositions := congrArg (List.map Prod.snd) hpairs
  rw [List.map_map, List.zipIdx_map_fst] at hids
  rw [List.map_map, List.zipIdx_map_snd, ← List.range_eq_range'] at hpositions
  have hsorted : reorderableEntries (next.queueOf sessionId) = order := by
    rw [← hids, reorderableEntries, sortByKey, List.Pairwise.insertionSort_eq ((pairwise_queueOf _ _).filter _)]
    rfl
  refine ⟨next, happly, hsorted, hpositions, fun k entry hk hother => ?_, ?_⟩
  · rw [hqueue, get_reorderQueue, hk, Option.map_some, placed]
    split_ifs with hsession
    · -- an entry that is not pending is not listed
      have hnot : k ∉ order := by
        rw [hlisted]
        rintro ⟨entry', hk', -, hpending⟩
        obtain rfl := Option.some.inj (hk.symm.trans hk')
        simp [hpending, hsession] at hother
      have hnone : positionIn order.zipIdx k = none := Option.eq_none_iff_forall_ne_some.2 fun i hi =>
        hnot (List.fst_mem_of_mem_zipIdx ((positionIn_zipIdx hnodup).1 hi))
      rw [hnone]
      rfl
    · rfl
  · rw [hsorted, validateQueueReorder_queueOf hnext]
    exact ⟨hnodup, hlisted'⟩

/-- an input of the session -/
def queuedInput (name : String) (position : Nat) (state : QueueState) : StateEffect :=
  .queueEntryUpserted ⟨⟨name⟩, ⟨"s1"⟩, position, .newTurn, sampleBody, state, true, 1, 1⟩

/-- two inputs that wait behind a cancelled one -/
def waitingInputs : List StateEffect :=
  [queuedInput "q0" 0 (.cancelled 2), queuedInput "q1" 1 .pending, queuedInput "q2" 2 .pending]

theorem queue_reorder_permutes_sample : ∃ next,
    (reachedBy {} waitingInputs).apply (.queueReordered ⟨"s1"⟩ [⟨"q2"⟩, ⟨"q1"⟩]) = .ok next ∧
      reorderableEntries (next.queueOf ⟨"s1"⟩) = [⟨"q2"⟩, ⟨"q1"⟩] := by
  have happly : applyEach {} waitingInputs = .ok (reachedBy {} waitingInputs) := applyEach_reachedBy (by decide +kernel)
  have hvalid : validateQueueReorder ⟨"s1"⟩ [⟨"q2"⟩, ⟨"q1"⟩] ((reachedBy {} waitingInputs).queueOf ⟨"s1"⟩) = .ok () := by
    decide +kernel
  obtain ⟨next, hnext, horder, -⟩ := queue_reorder_permutes (Reached.empty.applyEach happly) hvalid
  exact ⟨next, hnext, horder⟩

end Kaleido.State
