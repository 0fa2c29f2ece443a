/-
The journal of a process is sound (`kaleido-state`, `projection_journal.rs`, `store.rs`): its histories are verified and it
retains something.

Every entry is recorded after the history of its key, whether or not the operation that records it fails later, so every
operation keeps the journal sound (`journalWalk`); a start reads verified histories and completes them with what the log
replays to (`load_journalSound`). A store serves its subscribers after every run (`run_serves`).
-/
import Kaleido.State.Growth
import Kaleido.State.Resume

namespace Kaleido.State

open Check LineFile Prog Proto

/-- the histories are verified, and something of each is retained -/
structure ProjectionJournal.Sound (j : ProjectionJournal) : Prop where
  verified : j.Verified
  retains : 1 ≤ j.retentionEntries

theorem ProjectionJournal.sound_empty : ProjectionJournal.Sound {} := ⟨fun _ => rfl, by decide⟩

/-- a request with a valid key is answered as the client asks -/
theorem ProjectionJournal.Sound.served {j : ProjectionJournal} (hj : j.Sound) {request : ProjectionSubscribe} (atMs : Int)
    (hkey : request.key.validate = .ok ()) : ∃ replay, j.replay request atMs = .ok replay ∧ j.Served request replay := by
  cases hlast : j.current request.key with
  | none => exact ⟨_, replay_unknown hkey hlast, served_unknown hkey hlast⟩
  | some last =>
    obtain ⟨floor, hfloor, hwindow, hreplay⟩ := replay_eq hj.verified hj.retains hkey hlast
    exact ⟨_, hreplay, served_known hj.verified hkey hlast hfloor hwindow rfl⟩

def JournalSound (w : World) : Prop := w.store.projections.Sound

variable {env : Env} {w w' : World}

theorem JournalSound.congr (h : JournalSound w) (heq : w'.store.projections = w.store.projections) : JournalSound w' := by
  rw [JournalSound, heq]
  exact h

abbrev KeepsJournal {α : Type} (p : StoreM α) : Prop := Keeps World.disk (fun _ => True) JournalSound JournalSound p

/-! ## Operations -/

theorem keepsJournal_appendEntry (path : String) (entry : Entry) : KeepsJournal (appendEntry env path entry) := fun _ h =>
  wp_appendEntry_any (fun _ => trivial) (h.congr rfl) (h.congr rfl) fun _ _ => h.congr rfl

theorem keepsJournal_appendOutbox (record : OutboxRecord) : KeepsJournal (appendOutbox env record) :=
  Keeps.bind (keepsJournal_appendEntry _ _) fun _ => Keeps.modify (fun _ => rfl) fun _ h => h.congr rfl

/-- an entry that is recorded follows the history of its key -/
theorem keepsJournal_recordProjection (key : ProjectionKey) (payload : ProjectionPayload) :
    KeepsJournal (recordProjection env key payload) := by
  intro w h
  refine wp_bind (wp_read (wp_bind (wp_liftExcept (fun entry hentry => ?_) fun _ _ => h)))
  cases entry with
  | none => exact wp_pure h
  | some envelope =>
    obtain ⟨hkey, hsucceeds⟩ := ProjectionJournal.next_eq_some hentry
    refine wp_bind (wp_appendEntry_any (fun _ => trivial) ?_ (h.congr rfl) fun _ _ => h.congr rfl)
    exact wp_bind (wp_modify rfl (wp_pure ⟨ProjectionJournal.verified_push h.verified hkey hsucceeds, h.retains⟩))

theorem keepsJournal_nextTimestamp : KeepsJournal (nextTimestamp env) := by
  refine Keeps.bind (fun _ h => wp_of_log_eq rfl (h.congr rfl)) fun _ => Keeps.bind Keeps.read fun _ => ?_
  exact Keeps.ite (fun _ => Keeps.pure) fun _ => Keeps.bind (Keeps.require fun _ h => h) fun _ => Keeps.pure

theorem keepsJournal_applyTrustedCommit (effect : StateEffect) : KeepsJournal (applyTrustedCommit env effect) := by
  refine Keeps.bind (Keeps.bind Keeps.read fun _ => Keeps.require fun _ h => h) fun _ => Keeps.bind Keeps.read fun _ => ?_
  refine Keeps.bind (Keeps.liftExcept fun _ h => h) fun _ => Keeps.bind (Keeps.liftExcept fun _ h => h) fun _ => ?_
  refine Keeps.bind keepsJournal_nextTimestamp fun _ => Keeps.bind (keepsJournal_appendEntry _ _) fun _ => ?_
  refine Keeps.bind (Keeps.modify (fun _ => rfl) fun _ h => h.congr rfl) fun _ => ?_
  refine Keeps.bind (Keeps.forEach (fun candidate => ?_) _) fun _ => Keeps.pure
  exact Keeps.onError (fun _ => rfl) (fun _ h => h.congr rfl) (keepsJournal_recordProjection _ _)

variable (env) in
/-- every operation keeps the journal sound -/
def journalWalk : Walk env where
  files _ := True
  inv := JournalSound
  failed := JournalSound
  effect _ := True
  command _ := True
  record _ := True
  envelope _ := True
  weaken _ h := h
  block _ h := h.congr rfl
  tick _ h := h.congr rfl
  content _ _ h := h.congr rfl
  acks _ := trivial
  queued _ _ _ _ _ := trivial
  claimed _ _ _ _ _ _ _ := trivial
  admitted _ _ _ _ _ _ _ := trivial
  submitted _ _ := trivial
  recovered _ _ _ _ := trivial
  commit e _ := keepsJournal_applyTrustedCommit e
  idempotency _ _ _ h _ := wp_bind (wp_modify rfl (keepsJournal_appendEntry _ _ _ (h.congr rfl)))
  insert r _ := (keeps_outbox (fun _ => id) keepsJournal_appendOutbox).1 r
  claim := (keeps_outbox (fun _ => id) keepsJournal_appendOutbox).2.1
  complete := (keeps_outbox (fun _ => id) keepsJournal_appendOutbox).2.2

/-! ## A start -/

/-- the histories that a start reads are verified -/
theorem readJournal_sound {disk : Disk} {j : ProjectionJournal} (h : readJournal env disk = .ok j) : j.Sound := by
  simp only [readJournal, seq_eq_ok, pure_eq_ok, checkAll_eq_ok] at h
  obtain ⟨hkeys, rfl⟩ := h
  refine ⟨fun key => ?_, show 1 ≤ defaultRetentionEntries by decide⟩
  let chunks := chunksOf Entry.projection? disk
  have hentries : (chunks.map (·.entry)).filter (fun entry => entry.key = key) =
      (chunks.filter fun c => c.entry.key = key).map (·.entry) := by
    rw [List.filter_map]
    rfl
  change verifyHistory none ((chunks.map (·.entry)).filter fun entry => entry.key = key) = .ok ()
  by_cases hmem : key ∈ (chunks.map (·.entry.key)).dedup
  · obtain ⟨history, hread, hverified⟩ := bind_eq_ok.1 (hkeys key hmem)
    rw [hentries, ← eq_of_readFile hread]
    exact hverified
  · have hnone : (chunks.filter fun c => c.entry.key = key) = [] := by
      refine List.filter_eq_nil_iff.2 fun c hc hkey => hmem ?_
      rw [List.mem_dedup, ← of_decide_eq_true hkey]
      exact List.mem_map_of_mem hc
    rw [hentries, hnone]
    rfl

/-- a part of the expected histories is recorded, and the rest follows -/
structure Completing (expected : ProjectionJournal) (remaining : List ProjectionEnvelope) (w : World) : Prop where
  retains : 1 ≤ w.store.projections.retentionEntries
  journal : ∀ key, w.store.projections.entriesOf key ++ (remaining.filter fun envelope => envelope.key = key) =
    expected.entriesOf key

theorem Completing.sound {expected : ProjectionJournal} {remaining : List ProjectionEnvelope} (hexpected : expected.Verified)
    (h : Completing expected remaining w) : JournalSound w := by
  refine ⟨fun key => ?_, h.retains⟩
  have hverified := hexpected key
  rw [← h.journal key, verifyHistory_append] at hverified
  exact hverified.1

theorem reconcile_journalSound {expected : ProjectionJournal} (hexpected : expected.Verified) (h : JournalSound w) :
    wp World.disk (fun _ => True) (fun _ => JournalSound) (fun _ _ => True) (reconcile env expected) w := by
  refine wp_bind (wp_read ?_)
  split
  · exact wp_fail trivial
  · rename_i hdiv
    have hstart : Completing expected (w.store.projections.missing expected) w :=
      ⟨h.retains, append_missing (prefix_of_not_diverges hdiv)⟩
    refine wp_seq (wp_forEach (Completing expected) (fun envelope rest v hv => ?_) hstart)
      (fun _ v hv => wp_pure (hv.sound hexpected)) fun _ _ hE => hE
    refine wp_bind (wp_appendEntry_any (fun _ => trivial) (wp_modify rfl ⟨hv.retains, fun key => ?_⟩) trivial fun _ _ => trivial)
    rw [← hv.journal key, ProjectionJournal.entriesOf_push, List.filter_cons]
    by_cases hkey : envelope.key = key <;> simp [hkey]

theorem wp_load_journalSound : wp World.disk (fun _ => True) (fun _ => JournalSound) (fun _ _ => True) (load env) w := by
  refine (journalWalk env).start_keeps (fun _ _ => trivial) (fun _ _ => trivial) trivial (fun store expected hread => ?_)
    fun _ _ h => h.congr rfl
  simp only [readStore, bind_eq_ok, pure_eq_ok] at hread
  obtain ⟨projections, hprojections, _, -, _, -, replayed, hreplay, hread⟩ := hread
  cases hread
  exact reconcile_journalSound (replay_facts hreplay).verified (readJournal_sound hprojections)

/-- **A start that succeeds** has a sound journal. -/
theorem load_journalSound {w' : World} (h : load env w = (.ok (), w')) : JournalSound w' := wp_ok wp_load_journalSound h

/-! ## Runs -/

theorem run_journalSound (env : Env) (events : List Event) : (Machine.run env {} events).Holds (fun _ => True) JournalSound := by
  refine run_inv_all (I := Machine.Holds (fun _ => True) JournalSound) (s := {}) (fun m e hm => ?_)
    ⟨trivial, fun _ => ProjectionJournal.sound_empty⟩ events
  refine (Machine.step_holds env (fun _ _ => trivial) hm (fun op _ hup => ?_) fun _ _ => wp_load_journalSound).1
  exact Walk.op_keeps (W := journalWalk env) (by cases op <;> simp [Walk.Admits, journalWalk]) m.world (hm.process hup)

/-- **The store serves its subscribers.** After every run, through crashes and starts, a process that is up answers each request
for a valid key as the client asks. -/
theorem run_serves (env : Env) (events : List Event) : (Machine.run env {} events).Holds (fun _ => True) fun w =>
    ∀ (request : ProjectionSubscribe) (atMs : Int), request.key.validate = .ok () → ∃ replay,
      w.store.projections.replay request atMs = .ok replay ∧ w.store.projections.Served request replay :=
  ⟨trivial, fun hup _ atMs hkey => ((run_journalSound env events).process hup).served atMs hkey⟩

end Kaleido.State
