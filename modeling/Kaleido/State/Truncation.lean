/-
Records that are missing from a stream file.

A start notices a missing record in two ways: the cursors left in the file have a gap, or the projection journal holds more
than the log implies. `truncation_detected` gives three cases in which one of them happens, and the other side: when the
latest records of the log left nothing in the journal and are gone, a start yields the state before them. So the loss of an
acknowledgement goes unnoticed (`lost_acknowledgement_loads`).
-/
import Kaleido.State.Repair

namespace Kaleido.State

open Check LineFile Prog Proto Sorting

variable {env : Env} {w : World} {disk : Disk} {gone : LogRecord → Bool} {effects : List StateEffect} {r : Replayed}

/-! ## Files without some records -/

/-- the files without some records of the log -/
def withoutRecords (gone : LogRecord → Bool) (disk : Disk) : Disk := disk.filter fun c => !(c.entry.stream?.any gone)

theorem whole_withoutRecords (gone : LogRecord → Bool) (h : Whole disk) : Whole (withoutRecords gone disk) := whole_filter h _

theorem logRecords_withoutRecords :
    logRecords (withoutRecords gone disk) = (logRecords disk).filter fun record => !gone record := by
  induction disk with
  | nil => rfl
  | cons c disk ih =>
    obtain ⟨entry, extent⟩ := c
    unfold withoutRecords logRecords recordsOf at ih ⊢
    cases entry with
    | stream record => cases hgone : gone record <;> simp [hgone] at ih ⊢ <;> exact ih
    | idempotency _ | outbox _ | projection _ => simpa using ih

/-- the other files are as they were -/
theorem recordsOf_withoutRecords {β : Type} {select : Entry → Option β}
    (h : ∀ entry, (select entry).isSome = true → entry.stream? = none) :
    recordsOf select (withoutRecords gone disk) = recordsOf select disk := by
  unfold withoutRecords recordsOf
  rw [List.filterMap_filter]
  refine List.filterMap_congr fun c _ => ?_
  split_ifs with hkept
  · rfl
  · cases hselect : select c.entry with
    | none => rfl
    | some b => simp [-Entry.stream?, h c.entry (by rw [hselect]; rfl)] at hkept

theorem sideRecords_withoutRecords (gone : LogRecord → Bool) (disk : Disk) :
    recordsOf Entry.projection? (withoutRecords gone disk) = recordsOf Entry.projection? disk ∧
    outboxRecords (withoutRecords gone disk) = outboxRecords disk ∧
    recordsOf Entry.idempotency? (withoutRecords gone disk) = recordsOf Entry.idempotency? disk := by
  refine ⟨recordsOf_withoutRecords ?_, recordsOf_withoutRecords ?_, recordsOf_withoutRecords ?_⟩ <;>
    intro entry hentry <;> cases entry <;> first | rfl | cases hentry

/-! ## What a start reads -/

/-- a start fails when its files do not read back -/
theorem load_of_readStore_error {u : World} {e : StateError} (h : readStore env u.disk = .error e) :
    (load env u).1 = .error e := by
  unfold load
  rw [run_bind (p := read _) rfl, run_bind_error (run_liftExcept h u)]

/-- a stream that was read has no gap -/
theorem contiguous_of_readAll {l : List LogRecord} (hwhole : Whole disk)
    (hclean : ∀ record ∈ logRecords disk, CleanStream record.stream) (h : readAll disk = .ok l) (stream : StreamKey) :
    verifyContiguous ((logRecords disk).filter fun record => record.stream = stream) = .ok () := by
  cases hrecords : (logRecords disk).filter fun record => record.stream = stream with
  | nil => rfl
  | cons record rest =>
    have hmem : record ∈ (logRecords disk).filter fun record => record.stream = stream := by simp [hrecords]
    obtain ⟨hrecord, hstream⟩ := List.mem_filter.1 hmem
    obtain rfl : record.stream = stream := by simpa using hstream
    obtain ⟨perStream, hread, -⟩ := bind_eq_ok.1 h
    obtain ⟨records, hfile⟩ := exists_ok_of_mapM hread (mem_streamFileNames.2 ⟨record, hrecord, rfl⟩)
    rw [readFile_whole (whole_filter (chunksOf_whole hwhole) _), bind_eq_ok] at hfile
    obtain ⟨_, hlines, hverified⟩ := hfile
    cases hlines
    have hverify := contract_eq_ok.1 (seq_eq_ok.1 hverified).1
    have hsame : ((chunksOf Entry.stream? disk).filter fun c =>
        streamFileName c.entry.stream = streamFileName record.stream).map (·.entry) =
        (logRecords disk).filter fun other => other.stream = record.stream := by
      rw [logRecords, ← map_entry_chunksOf, List.filter_map]
      refine congrArg _ (List.filter_congr fun c hc => ?_)
      have hother : c.entry ∈ logRecords disk := by
        rw [logRecords, ← map_entry_chunksOf]
        exact List.mem_map_of_mem hc
      have hiff : streamFileName c.entry.stream = streamFileName record.stream ↔ c.entry.stream = record.stream :=
        ⟨fun heq => streamFileName_injective (hclean _ hother) (hclean _ hrecord) heq, fun heq => by rw [heq]⟩
      simp [hiff]
    rw [← hrecords, ← hsame]
    exact hverify

/-- **A start on damaged files.** If the records that are left have a gap, do not replay, or imply a journal that does not
reach as far as the one on disk, the start fails. -/
theorem load_truncated (hw : Produced env w r) {u : World} (hu : u.disk = withoutRecords gone w.disk)
    (h : ∀ r', (∀ stream, verifyContiguous ((logRecords u.disk).filter fun record => record.stream = stream) = .ok ()) →
      replay {} (logRecords u.disk) = .ok r' →
      ∃ key, ¬ w.store.projections.entriesOf key <+: r'.expected.entriesOf key) :
    ∃ e, (load env u).1 = .error e := by
  cases hread : readStore env u.disk with
  | error e => exact ⟨e, load_of_readStore_error hread⟩
  | ok read =>
    have hfacts := hread
    simp only [readStore, bind_eq_ok, pure_eq_ok] at hfacts
    obtain ⟨j, hj, boxes, -, records, hrecords, r', hr', rfl, rfl⟩ := hfacts
    have hstreams := hw.synced.log.files.streams
    have hsub : ∀ record ∈ logRecords u.disk, record ∈ logRecords w.disk := by
      rw [hu, logRecords_withoutRecords]
      exact fun record hrecord => List.mem_of_mem_filter hrecord
    have hwhole : Whole u.disk := hu ▸ whole_withoutRecords gone hstreams.whole
    have hclean : ∀ record ∈ logRecords u.disk, CleanStream record.stream := fun record hrecord =>
      hstreams.clean record (hsub record hrecord)
    have hcontiguous := contiguous_of_readAll hwhole hclean hrecords
    have hincreasing : (logRecords u.disk).Pairwise fun a b => a.appendedAtMs < b.appendedAtMs := by
      rw [hu, logRecords_withoutRecords]
      exact hstreams.increasing.filter _
    rw [readAll_eq ⟨hwhole, hclean, hincreasing, hcontiguous⟩] at hrecords
    cases hrecords
    obtain ⟨key, hkey⟩ := h r' hcontiguous hr'
    have hj' : j.entriesOf key = w.store.projections.entriesOf key := by
      rw [ProjectionJournal.entriesOf, readJournal_entries hj, hu, (sideRecords_withoutRecords gone w.disk).1, ← hw.agrees.entries]
      rfl
    obtain ⟨key', herror, -⟩ := load_diverged hread ⟨key, by rwa [hj']⟩
    exact ⟨_, herror⟩

/-! ## The latest records -/

/-- the journal of a shorter run is a first part of the journal -/
theorem applied_journal_prefix (ht : env.Tolerant) (hd : env.HexDigests) {early late : List StateEffect}
    (hclean : ∀ e ∈ early ++ late, CleanEffect e) (hok : Accepted env (early ++ late)) (key : ProjectionKey) :
    (applied env early).store.projections.entriesOf key <+: (applied env (early ++ late)).store.projections.entriesOf key := by
  induction late using List.reverseRecOn with
  | nil => rw [List.append_nil]
  | append_singleton late e ih =>
    rw [← List.append_assoc] at hclean hok ⊢
    have hsplit := hok
    rw [Accepted, List.map_append, along_append] at hsplit
    have hclean' : ∀ e' ∈ early ++ late, CleanEffect e' := fun e' he' => hclean e' (List.mem_append_left _ he')
    refine (ih hclean' hsplit.1).trans ?_
    obtain ⟨r, hr⟩ := produced_of_accepted ht hd hclean' hsplit.1
    obtain ⟨r', hr'⟩ := produced_of_accepted ht hd hclean hok
    have hext : (applied env (early ++ late)).disk <+: (applied env (early ++ late ++ [e])).disk := by
      rw [applied_snoc]
      exact (apply_keeps_synced ht hd (hclean e (by simp)) _ hr.synced).1
    rw [hr.agrees.journal, ← hr.agrees.journalOn, hr'.agrees.journal, ← hr'.agrees.journalOn]
    exact ( recordsOf_prefix hext).filter _

/-- the files after the latest records are gone hold the log of the shorter run -/
theorem syncedFiles_latest_lost (hw : Produced env w r) {v : World} {r' : Replayed} (hv : Produced env v r')
    (hlog : logRecords (withoutRecords gone w.disk) = logRecords v.disk)
    (hjournal : ∀ key, w.store.projections.entriesOf key = v.store.projections.entriesOf key) :
    SyncedFiles env (withoutRecords gone w.disk) ∧
    ∀ key, (journalOn (withoutRecords gone w.disk)).entriesOf key = r'.expected.entriesOf key := by
  obtain ⟨hprojection, hbox, hidem⟩ := sideRecords_withoutRecords gone w.disk
  have hwhole := whole_withoutRecords gone hw.synced.log.files.streams.whole
  have hviews : ∀ key, (journalOn (withoutRecords gone w.disk)).entriesOf key = r'.expected.entriesOf key := by
    intro key
    rw [← hv.agrees.journal, ← hjournal, hw.agrees.journal, ← hw.agrees.journalOn]
    simp only [ProjectionJournal.entriesOf, hprojection]
  refine ⟨⟨⟨hv.synced.log.files.streams.same hlog hwhole, ?_, ?_, ?_, fun _ => ?_⟩, hw.synced.side.files.congr hbox hidem hwhole⟩,
    hviews⟩
  · rw [hlog]
    exact hv.synced.log.files.effects
  · rw [hlog]
    exact hv.synced.log.files.counted
  · rw [hlog]
    exact hv.synced.log.files.stamped
  · rw [hlog]
    exact ⟨r', hv.agrees.replayed, fun key => by rw [hviews]⟩

/-- **Missing records.** After any run of accepted effects whose identifiers `stream_file_name` leaves unchanged, `load` on
the files without some records of the log fails when the records left of a stream have a gap, when a key has more journal
entries than records are left, or when the missing records are the latest ones and one of them left a journal entry. When
the latest records are missing and none of them did, `load` yields the state before them. -/
theorem truncation_detected (env : Env) (hio : env.Reliable) (hdigest : env.HexDigests) (effects : List StateEffect)
    (hclean : ∀ e ∈ effects, CleanEffect e) (hok : Accepted env effects) (gone : LogRecord → Bool) :
    let w := applied env effects
    let u : World := { w with disk := withoutRecords gone w.disk }
    ((∃ stream, verifyContiguous ((logRecords u.disk).filter fun record => record.stream = stream) ≠ .ok ()) ∨
      (∃ key, (logRecords u.disk).length < (w.store.projections.entriesOf key).length) ∨
      (∃ early late key, effects = early ++ late ∧ logRecords u.disk = logRecords (applied env early).disk ∧
        (applied env early).store.projections.entriesOf key ≠ w.store.projections.entriesOf key) →
      ∃ e, (load env u).1 = .error e) ∧
    ∀ early late, effects = early ++ late → logRecords u.disk = logRecords (applied env early).disk →
      (∀ key, (applied env early).store.projections.entriesOf key = w.store.projections.entriesOf key) →
      ∃ u', load env u = (.ok (), u') ∧ u'.store.state = (applied env early).store.state := by
  intro w u
  obtain ⟨r, hr⟩ := produced_of_accepted hio.tolerant hdigest hclean hok
  have hearly : ∀ early late, effects = early ++ late → ∃ r', Produced env (applied env early) r' := by
    rintro early late rfl
    rw [Accepted, List.map_append, along_append] at hok
    exact produced_of_accepted hio.tolerant hdigest (fun e he => hclean e (List.mem_append_left _ he)) hok.1
  constructor
  · intro hcases
    refine load_truncated (u := u) hr rfl fun r' hcontiguous hr' => ?_
    rcases hcases with ⟨stream, hgap⟩ | ⟨key, hcount⟩ | ⟨early, late, key, heq, hlog, hne⟩
    · exact absurd (hcontiguous stream) hgap
    · refine ⟨key, fun hpre => ?_⟩
      have hlength := (replay_facts hr').length key
      exact absurd (hcount.trans_le (hpre.length_le.trans hlength)) (lt_irrefl _)
    · -- the journal of the shorter run is a first part of the one on disk, and not all of it
      obtain ⟨r₀, hr₀⟩ := hearly early late heq
      rw [hlog, hr₀.agrees.replayed] at hr'
      cases hr'
      subst heq
      have hpart := applied_journal_prefix hio.tolerant hdigest hclean hok key
      refine ⟨key, fun hpre => hne ?_⟩
      rw [← hr₀.agrees.journal] at hpre
      exact hpart.eq_of_length_le hpre.length_le
  · intro early late heq hlog hsame
    obtain ⟨r₀, hr₀⟩ := hearly early late heq
    obtain ⟨hfiles, hviews⟩ := syncedFiles_latest_lost hr hr₀ hlog fun key => (hsame key).symm
    obtain ⟨u', hload, hstate, -⟩ := load_bare (w := u) hio hfiles ((sideRecords_withoutRecords gone w.disk).2.1.trans hr.outbox)
      (by rw [hlog]; exact hr₀.agrees.replayed) fun key => by rw [hviews]
    exact ⟨u', hload, hstate.trans hr₀.agrees.state.symm⟩

/-- the host becomes known, and a command is refused -/
def refusedRun : List StateEffect := [.hostUpserted sampleHost, .commandAcknowledged (unavailableAck ⟨"cmd_a"⟩ 70)]

def isAcknowledgement (record : LogRecord) : Bool :=
  match record.effect with
  | .commandAcknowledged _ => true
  | _ => false

/-- An acknowledgement leaves no journal entry: without its record the store loads, to a state that does not know it. -/
theorem lost_acknowledgement_loads : ¬ ∀ (env : Env) (effects : List StateEffect) (gone : LogRecord → Bool) (name : String),
    env.Reliable → env.HexDigests → Accepted env effects →
    (∀ record ∈ logRecords (applied env effects).disk, gone record = true → streamFileName record.stream = name) →
    (∃ record ∈ logRecords (applied env effects).disk, gone record = true) →
    ∀ u', load env { applied env effects with disk := withoutRecords gone (applied env effects).disk } = (.ok (), u') →
      u'.store.state = (applied env effects).store.state := by
  intro h
  have hrun : Accepted sampleEnv refusedRun ∧
      (∀ record ∈ logRecords (applied sampleEnv refusedRun).disk, isAcknowledgement record = true →
        streamFileName record.stream = "host-hst_a.jsonl") ∧
      (∃ record ∈ logRecords (applied sampleEnv refusedRun).disk, isAcknowledgement record = true) ∧
      (load sampleEnv { applied sampleEnv refusedRun with
        disk := withoutRecords isAcknowledgement (applied sampleEnv refusedRun).disk }).1 = .ok () ∧
      (load sampleEnv { applied sampleEnv refusedRun with
        disk := withoutRecords isAcknowledgement (applied sampleEnv refusedRun).disk }).2.store.state.acks ≠
        (applied sampleEnv refusedRun).store.state.acks := by
    decide +kernel
  obtain ⟨hok, hfile, hsome, hload, hne⟩ := hrun
  have hstate := h sampleEnv refusedRun isAcknowledgement "host-hst_a.jsonl" (fun _ _ => rfl) sampleDigest_valid hok hfile
    hsome _ (Prod.ext hload rfl)
  exact hne (congrArg CanonicalState.acks hstate)

/-- the host and a session become known -/
def sessionRun : List StateEffect := [.hostUpserted sampleHost] ++ [.sessionUpserted sampleSession]

def isSessionRecord (record : LogRecord) : Bool := record.stream = .session sampleSession.id

/-- the loss of the last session is noticed -/
theorem truncation_detected_session :
    Accepted sampleEnv sessionRun ∧ ∃ e, (load sampleEnv { applied sampleEnv sessionRun with
      disk := withoutRecords isSessionRecord (applied sampleEnv sessionRun).disk }).1 = .error e := by
  have hrun : Accepted sampleEnv sessionRun ∧
      logRecords (withoutRecords isSessionRecord (applied sampleEnv sessionRun).disk) =
        logRecords (applied sampleEnv [.hostUpserted sampleHost]).disk ∧
      (applied sampleEnv [.hostUpserted sampleHost]).store.projections.entriesOf (.sessionIndex sampleSession.projectId) ≠
        (applied sampleEnv sessionRun).store.projections.entriesOf (.sessionIndex sampleSession.projectId) := by
    decide +kernel
  obtain ⟨hok, hlog, hne⟩ := hrun
  have hlatest : ∃ early late key, sessionRun = early ++ late ∧
      logRecords (withoutRecords isSessionRecord (applied sampleEnv sessionRun).disk) =
        logRecords (applied sampleEnv early).disk ∧
      (applied sampleEnv early).store.projections.entriesOf key ≠
        (applied sampleEnv sessionRun).store.projections.entriesOf key :=
    ⟨[.hostUpserted sampleHost], [.sessionUpserted sampleSession], _, rfl, hlog, hne⟩
  refine ⟨hok, ?_⟩
  obtain ⟨hdetected, -⟩ := truncation_detected sampleEnv (fun _ _ => rfl) sampleDigest_valid sessionRun clean_sample hok
    isSessionRecord
  simp only at hdetected
  exact hdetected (.inr (.inr hlatest))

end Kaleido.State
