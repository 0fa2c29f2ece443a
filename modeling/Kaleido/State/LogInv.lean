/-
The log and the projection journal agree.

`LogFiles` is what holds of the files after every single append: the stream files read back in order, and the projection
files hold, for every key, a first part of the history that replaying the log yields. `LogInv` is what holds of a process:
its state, heads and journal are the replayed ones unless it has been blocked. `keepsLog_applyTrustedCommit` shows that
committing an effect keeps both, whatever append of it fails; a start restores `LogInv` from `LogFiles`
(`wp_readStore`, `wp_reconcile`).
-/
import Kaleido.State.LogFile
import Kaleido.State.JournalFile

namespace Kaleido.State

open Check LineFile Prog Proto

variable {env : Env}

variable {w : World} {r : Replayed} {disk : Disk} {entry : Entry} {expected : ProjectionJournal}

/-! ## The files -/

/-- the log replays, and the journal files are a first part of what it yields; neither its cursors nor its timestamps run
ahead of its length, and no history uses up its cursors while the log is no longer than that -/
structure LogFiles (env : Env) (disk : Disk) : Prop where
  streams : StreamFiles disk
  effects : ∀ record ∈ logRecords disk, CleanEffect record.effect
  counted : ∀ record ∈ logRecords disk, record.cursor.seq < (logRecords disk).length
  stamped : ∀ bound, (∀ n, env.clock n ≤ bound) → ∀ record ∈ logRecords disk,
    record.appendedAtMs ≤ max bound i64Min + (logRecords disk).length
  replays : (logRecords disk).length ≤ u64Max → ∃ r, replay {} (logRecords disk) = .ok r ∧
    ∀ key, (journalOn disk).entriesOf key <+: r.expected.entriesOf key

/-- a process whose memory is what the log on disk yields -/
structure Agrees (w : World) (r : Replayed) : Prop where
  replayed : replay {} (logRecords w.disk) = .ok r
  state : w.store.state = r.state
  cursors : w.store.cursors = r.cursors
  last : w.store.lastAppendedAtMs = r.lastAppendedAtMs
  entries : w.store.projections.entries = recordsOf Entry.projection? w.disk
  journal : ∀ key, w.store.projections.entriesOf key = r.expected.entriesOf key

structure LogInv (env : Env) (w : World) : Prop where
  files : LogFiles env w.disk
  clean : CleanState w.store.state
  agrees : w.store.recoveryRequired = false → ∃ r, Agrees w r

theorem Agrees.journalOn (h : Agrees w r) (key : ProjectionKey) :
    (journalOn w.disk).entriesOf key = r.expected.entriesOf key := by
  rw [← h.journal, ProjectionJournal.entriesOf, ProjectionJournal.entriesOf, h.entries]

/-- a blocked process is bound by its files only -/
theorem LogInv.of_blocked (hf : LogFiles env w.disk) (hc : CleanState w.store.state) (hb : w.store.recoveryRequired = true) :
    LogInv env w :=
  ⟨hf, hc, fun h => by rw [hb] at h; cases h⟩

/-- the invariant looks at the log part of the store and of the disk only -/
theorem LogInv.congr {w' : World} (h : LogInv env w) (hd : w'.disk = w.disk) (hs : w'.store.state = w.store.state)
    (hcur : w'.store.cursors = w.store.cursors) (hlast : w'.store.lastAppendedAtMs = w.store.lastAppendedAtMs)
    (hj : w'.store.projections = w.store.projections) (hr : w'.store.recoveryRequired = w.store.recoveryRequired) :
    LogInv env w' := by
  refine ⟨hd ▸ h.files, hs ▸ h.clean, fun hflag => ?_⟩
  obtain ⟨r, hagree⟩ := h.agrees (hr ▸ hflag)
  exact ⟨r, hd ▸ hagree.replayed, hs ▸ hagree.state, hcur ▸ hagree.cursors, hlast ▸ hagree.last,
    by rw [hj, hd]; exact hagree.entries, fun key => by rw [hj]; exact hagree.journal key⟩

theorem StreamFiles.append_same (h : StreamFiles disk) (hlog : logRecords (disk ++ [⟨entry, .whole⟩]) = logRecords disk) :
    StreamFiles (disk ++ [⟨entry, .whole⟩]) :=
  ⟨whole_append_single h.whole, hlog ▸ h.clean, hlog ▸ h.increasing, hlog ▸ h.contiguous⟩

/-- an entry of the idempotency table or the outbox leaves the log alone -/
theorem LogFiles.append_other (h : LogFiles env disk) (hs : entry.stream? = none) (hp : entry.projection? = none) :
    LogFiles env (disk ++ [⟨entry, .whole⟩]) := by
  have hlog : logRecords (disk ++ [⟨entry, .whole⟩]) = logRecords disk := by simp [-Entry.stream?, hs]
  have hjournal : journalOn (disk ++ [⟨entry, .whole⟩]) = journalOn disk := by simp [-Entry.projection?, hp]
  refine ⟨h.streams.append_same hlog, ?_, ?_, ?_, ?_⟩
  · rw [hlog]; exact h.effects
  · rw [hlog]; exact h.counted
  · rw [hlog]; exact h.stamped
  · rw [hlog, hjournal]; exact h.replays

theorem LogInv.append_other (h : LogInv env w) (hs : entry.stream? = none) (hp : entry.projection? = none) :
    LogInv env (w.appended entry) := by
  have hlog : logRecords (w.appended entry).disk = logRecords w.disk := by simp [-Entry.stream?, hs]
  refine ⟨h.files.append_other hs hp, h.clean, fun hflag => ?_⟩
  obtain ⟨r, hagree⟩ := h.agrees hflag
  refine ⟨r, hlog ▸ hagree.replayed, hagree.state, hagree.cursors, hagree.last, ?_, hagree.journal⟩
  rw [show recordsOf Entry.projection? (w.appended entry).disk = recordsOf Entry.projection? w.disk by
    simp [-Entry.projection?, hp]]
  exact hagree.entries

/-! ## A record is appended to the log -/

theorem plan_eq_ok {s : CanonicalState} {e : StateEffect} {p : Plan} : plan s e = .ok p ↔
    e.validateForLog = .ok () ∧ streamFor s e = .ok p.stream ∧ s.apply e = .ok p.next ∧
      buildAll p.next (affectedKeys s p.next e) = .ok p.candidates := by
  unfold plan
  rw [seq_eq_ok, contract_eq_ok]
  refine and_congr_right fun _ => ?_
  simp only [bind_eq_ok, pure_eq_ok]
  constructor
  · rintro ⟨stream, hs, next, hn, candidates, hb, rfl⟩
    exact ⟨hs, hn, hb⟩
  · rintro ⟨hs, hn, hb⟩
    exact ⟨_, hs, _, hn, _, hb, rfl⟩

/-- the record a plan appends, for a process that agrees with `r` -/
structure Follows (env : Env) (r : Replayed) (p : Plan) (record : LogRecord) : Prop where
  planned : plan r.state record.effect = .ok p
  stream : record.stream = p.stream
  cursor : match r.cursors p.stream with
    | some previous => previous.next = .ok record.cursor
    | none => record.cursor = Cursor.start
  later : r.lastAppendedAtMs < record.appendedAtMs
  stamp : ∀ bound, (∀ n, env.clock n ≤ bound) → record.appendedAtMs ≤ max bound (r.lastAppendedAtMs + 1)

section

variable {p : Plan} {record : LogRecord}

/-- what the log yields once the views of the record are recorded -/
def extended (r : Replayed) (p : Plan) (record : LogRecord) (expected : ProjectionJournal) : Replayed :=
  ⟨p.next, Function.update r.cursors record.stream (some record.cursor), record.appendedAtMs, expected⟩

theorem Follows.step (h : Follows env r p record) (he : r.expected.recordAll p.candidates = .ok expected) :
    r.step record = .ok (extended r p record expected) := by
  obtain ⟨-, -, hn, hb⟩ := plan_eq_ok.1 h.planned
  refine step_eq_ok.2 ⟨p.next, p.candidates, expected, hn, hb, he, ?_⟩
  rw [extended, max_eq_right h.later.le]

/-- the views are recorded whenever the log replays -/
theorem Follows.recordAll (h : Follows env r p record) {r' : Replayed} (hr : r.step record = .ok r') :
    r.expected.recordAll p.candidates = .ok r'.expected := by
  obtain ⟨-, -, hn, hb⟩ := plan_eq_ok.1 h.planned
  obtain ⟨next, candidates, expected, hn', hb', he, rfl⟩ := step_eq_ok.1 hr
  rw [hn] at hn'
  cases hn'
  rw [hb] at hb'
  cases hb'
  exact he

theorem StreamFiles.append_record (h : StreamFiles disk) (hr : replay {} (logRecords disk) = .ok r)
    (hf : Follows env r p record) (hc : CleanStream record.stream) : StreamFiles (disk ++ [⟨.stream record, .whole⟩]) := by
  have facts := replay_facts hr
  have hlog : logRecords (disk ++ [⟨.stream record, .whole⟩]) = logRecords disk ++ [record] := by
    simp
  refine ⟨whole_append_single h.whole, ?_, ?_, fun stream => ?_⟩
  · rw [hlog]
    exact List.forall_mem_append.2 ⟨h.clean, List.forall_mem_singleton.2 hc⟩
  · rw [hlog, List.pairwise_append]
    refine ⟨h.increasing, List.pairwise_singleton _ _, fun a ha b hb => ?_⟩
    rw [List.mem_singleton.1 hb]
    exact (facts.last a ha).trans_lt hf.later
  · rw [hlog, List.filter_append]
    by_cases hs : record.stream = stream
    · -- the cursor continues the one the store keeps for the stream
      have hcursor := hf.cursor
      rw [← hf.stream, facts.cursors, hs] at hcursor
      simp only [List.filter_singleton, hs, decide_true, cond_true]
      refine verifyContiguous_append.2 ⟨h.contiguous stream, fun last hlast => ?_⟩
      rw [hlast] at hcursor
      exact ⟨(by simpa using List.of_mem_filter (List.mem_of_getLast? hlast) : last.stream = stream).trans hs.symm, hcursor⟩
    · simpa [hs] using h.contiguous stream

/-- the cursor and the timestamp of the record do not run ahead of the length of the log -/
theorem Follows.counted (hf : Follows env r p record) (h : LogFiles env disk) (hr : replay {} (logRecords disk) = .ok r) :
    record.cursor.seq < (logRecords disk).length + 1 := by
  have hcursor := hf.cursor
  rw [(replay_facts hr).cursors] at hcursor
  cases hlast : ((logRecords disk).filter fun record => record.stream = p.stream).getLast? with
  | none =>
    rw [hlast] at hcursor
    rw [show record.cursor = Cursor.start from hcursor]
    exact Nat.succ_pos _
  | some last =>
    rw [hlast] at hcursor
    have hlt := h.counted last (List.mem_of_mem_filter (List.mem_of_getLast? hlast))
    have hnext : last.cursor.next = .ok record.cursor := hcursor
    rw [Cursor.next] at hnext
    split_ifs at hnext
    rw [← Except.ok.inj hnext]
    simpa using hlt

theorem Follows.stamped (hf : Follows env r p record) (h : LogFiles env disk) (hr : replay {} (logRecords disk) = .ok r)
    {bound : Int} (hb : ∀ n, env.clock n ≤ bound) :
    record.appendedAtMs ≤ max bound i64Min + ((logRecords disk).length + 1 : Nat) := by
  have hstamp := hf.stamp bound hb
  have hlast : r.lastAppendedAtMs ≤ max bound i64Min + (logRecords disk).length := by
    rcases (replay_facts hr).attained with hmin | ⟨record', hmem, heq⟩
    · rw [hmin]
      omega
    · rw [← heq]
      exact h.stamped bound hb record' hmem
  omega

theorem LogFiles.append_record (h : LogFiles env disk) (hr : replay {} (logRecords disk) = .ok r)
    (hj : ∀ key, (journalOn disk).entriesOf key = r.expected.entriesOf key) (hf : Follows env r p record)
    (hc : CleanStream record.stream) (he : CleanEffect record.effect) :
    LogFiles env (disk ++ [⟨.stream record, .whole⟩]) := by
  have facts := replay_facts hr
  have hlog : logRecords (disk ++ [⟨.stream record, .whole⟩]) = logRecords disk ++ [record] := by simp
  have hjournal : journalOn (disk ++ [⟨.stream record, .whole⟩]) = journalOn disk := by simp
  have hall : ∀ {P : LogRecord → Prop}, (∀ record' ∈ logRecords disk, P record') → P record →
      ∀ record' ∈ logRecords disk ++ [record], P record' := fun hold hnew =>
    List.forall_mem_append.2 ⟨hold, List.forall_mem_singleton.2 hnew⟩
  refine ⟨h.streams.append_record hr hf hc, ?_, ?_, fun bound hb => ?_, fun hsmall => ?_⟩
  · rw [hlog]
    exact hall h.effects he
  · rw [hlog, List.length_append, List.length_singleton]
    exact hall (fun record' hmem => (h.counted record' hmem).trans (Nat.lt_succ_self _)) (hf.counted h hr)
  · rw [hlog, List.length_append, List.length_singleton]
    refine hall (fun record' hmem => (h.stamped bound hb record' hmem).trans ?_) (hf.stamped h hr hb)
    omega
  · rw [hlog, List.length_append, List.length_singleton] at hsmall
    obtain ⟨-, -, -, hb⟩ := plan_eq_ok.1 hf.planned
    obtain ⟨hkeys, hviews⟩ := buildAll_eq_ok hb
    -- no history is longer than the log
    obtain ⟨expected, hexp⟩ := ProjectionJournal.recordAll_ok facts.verified (hkeys ▸ nodup_affectedKeys _ _ _)
      (fun c hmem => build_validateForKey (hviews c hmem)) fun c _ => (facts.length c.1).trans (by omega)
    refine ⟨extended r p record expected, ?_, fun key => ?_⟩
    · rw [hlog]
      exact replay_append.2 ⟨r, hr, replay_single.2 (hf.step hexp)⟩
    · rw [hjournal, hj]
      exact ProjectionJournal.recordAll_prefix hexp key

theorem LogFiles.append_envelope {envelope : ProjectionEnvelope} (h : LogFiles env disk)
    (hnew : ∀ r, replay {} (logRecords disk) = .ok r → ∀ key,
      ((journalOn disk).push envelope).entriesOf key <+: r.expected.entriesOf key) :
    LogFiles env (disk ++ [⟨.projection envelope, .whole⟩]) := by
  have hlog : logRecords (disk ++ [⟨.projection envelope, .whole⟩]) = logRecords disk := by
    simp
  have hjournal : journalOn (disk ++ [⟨.projection envelope, .whole⟩]) = (journalOn disk).push envelope := by
    simp [ProjectionJournal.push]
  refine ⟨h.streams.append_same hlog, ?_, ?_, ?_, fun hsmall => ?_⟩
  · rw [hlog]; exact h.effects
  · rw [hlog]; exact h.counted
  · rw [hlog]; exact h.stamped
  · rw [hlog] at hsmall ⊢
    obtain ⟨r, hr, -⟩ := h.replays hsmall
    exact ⟨r, hr, fun key => hjournal ▸ hnew r hr key⟩

end

/-! ## Committing an effect -/

theorem wp_nextTimestamp {C : Disk → Prop} {Q : Int → World → Prop} {E : StateError → World → Prop}
    (hok : ∀ atMs, w.store.lastAppendedAtMs < atMs →
      (∀ bound, (∀ n, env.clock n ≤ bound) → atMs ≤ max bound (w.store.lastAppendedAtMs + 1)) →
      Q atMs { w with ticks := w.ticks + 1 })
    (herr : ∀ e, i64Max ≤ w.store.lastAppendedAtMs → E e { w with ticks := w.ticks + 1 }) :
    wp World.disk C Q E (nextTimestamp env) w := by
  refine wp_bind (wp_of_log_eq rfl (wp_bind (wp_read ?_)))
  split_ifs with hnow
  · exact wp_pure (hok _ hnow fun bound hb => (hb _).trans (le_max_left _ _))
  · refine wp_bind (wp_require (fun _ => wp_pure (hok _ (lt_add_one _) fun bound _ => le_max_right _ _)) fun hover => ?_)
    exact herr _ (by change ¬ w.store.lastAppendedAtMs + 1 ≤ i64Max at hover; omega)

/-- a record has been appended to `log` and some of its views are still to be recorded -/
structure Recording (env : Env) (r : Replayed) (p : Plan) (record : LogRecord) (log : List LogRecord)
    (remaining : List (ProjectionKey × ProjectionPayload)) (w : World) : Prop where
  log_eq : logRecords w.disk = log ++ [record]
  files : LogFiles env w.disk
  clean : CleanState w.store.state
  state : w.store.state = p.next
  cursors : w.store.cursors = Function.update r.cursors record.stream (some record.cursor)
  last : w.store.lastAppendedAtMs = record.appendedAtMs
  entries : w.store.projections.entries = recordsOf Entry.projection? w.disk
  recorded : ∃ done e, p.candidates = done ++ remaining ∧ r.expected.recordAll done = .ok e ∧
    ∀ key, w.store.projections.entriesOf key = e.entriesOf key

section

variable {p : Plan} {record : LogRecord} {log : List LogRecord}

theorem Recording.blocked {remaining : List (ProjectionKey × ProjectionPayload)}
    (h : Recording env r p record log remaining w) : LogInv env { w with store := w.store.block } :=
  .of_blocked h.files h.clean rfl

/-- what the log yields goes on from the views recorded so far -/
theorem Recording.replay_views (hf : Follows env r p record) (hr : replay {} log = .ok r)
    {remaining done : List (ProjectionKey × ProjectionPayload)} {r' : Replayed} {e : ProjectionJournal}
    (h : Recording env r p record log remaining w) (hsplit : p.candidates = done ++ remaining)
    (hdone : r.expected.recordAll done = .ok e) (hr' : replay {} (logRecords w.disk) = .ok r') :
    e.recordAll remaining = .ok r'.expected := by
  rw [h.log_eq] at hr'
  obtain ⟨q, hq, hstep⟩ := replay_append.1 hr'
  rw [hr] at hq
  cases hq
  have hviews := hf.recordAll (replay_single.1 hstep)
  rw [hsplit] at hviews
  obtain ⟨e', he', hrest⟩ := ProjectionJournal.recordAll_append.1 hviews
  rw [hdone] at he'
  cases he'
  exact hrest

/-- recording one view; it fails only when an append does or when the log has used up its cursors -/
theorem wp_recordProjection (ht : env.Tolerant) (hf : Follows env r p record) (hr : replay {} log = .ok r)
    {c : ProjectionKey × ProjectionPayload} {rest : List (ProjectionKey × ProjectionPayload)}
    (h : Recording env r p record log (c :: rest) w) :
    wp World.disk (LogFiles env) (fun _ => Recording env r p record log rest)
      (fun _ w' => LogInv env { w' with store := w'.store.block } ∧ (log.length < u64Max → ¬ env.Reliable))
      (recordProjection env c.1 c.2) w := by
  obtain ⟨done, e, hsplit, hdone, hsame⟩ := h.recorded
  have hcongr : w.store.projections.next c.1 c.2 = e.next c.1 c.2 := ProjectionJournal.next_congr (hsame c.1)
  refine wp_bind (wp_read (wp_bind (wp_liftExcept (fun o ho => ?_) fun err herr => ⟨h.blocked, fun hsmall => ?_⟩)))
  · rw [hcongr] at ho
    have hall : r.expected.recordAll (done ++ [c]) = .ok (o.elim e e.push) :=
      ProjectionJournal.recordAll_append.2 ⟨e, hdone, ProjectionJournal.recordAll_cons.2
        ⟨_, ProjectionJournal.record_eq_ok.2 ⟨o, ho, rfl⟩, rfl⟩⟩
    have hsplit' : p.candidates = done ++ [c] ++ rest := by rw [hsplit, List.append_assoc]; rfl
    cases o with
    | none => exact wp_pure ⟨h.log_eq, h.files, h.clean, h.state, h.cursors, h.last, h.entries, _, _, hsplit', hall, hsame⟩
    | some envelope =>
      have hpush : ∀ key, ((journalOn w.disk).push envelope).entriesOf key = (e.push envelope).entriesOf key := fun key => by
        rw [ProjectionJournal.entriesOf_push, ProjectionJournal.entriesOf_push, ← hsame, ProjectionJournal.entriesOf,
          ProjectionJournal.entriesOf, h.entries]
      have hfiles : LogFiles env (w.appended (.projection envelope)).disk := by
        refine h.files.append_envelope fun r' hr' key => ?_
        have hviews := h.replay_views hf hr hsplit hdone hr'
        obtain ⟨e', he', hrest⟩ := ProjectionJournal.recordAll_cons.1 hviews
        rw [ProjectionJournal.record_eq_ok.2 ⟨_, ho, rfl⟩] at he'
        cases he'
        rw [hpush]
        exact ProjectionJournal.recordAll_prefix hrest key
      refine wp_bind (wp_appendEntry ht ⟨hfiles, wp_bind (wp_modify rfl (wp_pure ?_))⟩
        (fun hr => ⟨.of_blocked h.files h.clean rfl, fun _ => hr⟩) fun hr _ => ⟨.of_blocked hfiles h.clean rfl, fun _ => hr⟩)
      refine ⟨?_, hfiles, h.clean, h.state, h.cursors, h.last, ?_, _, _, hsplit', hall, fun key => ?_⟩
      · simpa using h.log_eq
      · simp [ProjectionJournal.push, h.entries]
      · change (w.store.projections.push envelope).entriesOf key = _
        rw [Option.elim_some, ProjectionJournal.entriesOf_push, ProjectionJournal.entriesOf_push, hsame]
  · -- a short log replays, and so the view can be recorded
    obtain ⟨r', hr', -⟩ := h.files.replays (by rw [h.log_eq, List.length_append]; exact hsmall)
    obtain ⟨e', he', -⟩ := ProjectionJournal.recordAll_cons.1 (h.replay_views hf hr hsplit hdone hr')
    obtain ⟨o, ho, -⟩ := ProjectionJournal.record_eq_ok.1 he'
    rw [hcongr, ho] at herr
    cases herr

theorem Recording.finish (hf : Follows env r p record) (hr : replay {} log = .ok r) (h : Recording env r p record log [] w) :
    LogInv env w := by
  refine ⟨h.files, h.clean, fun _ => ?_⟩
  obtain ⟨done, e, hsplit, hdone, hsame⟩ := h.recorded
  rw [List.append_nil] at hsplit
  refine ⟨extended r p record e, ?_, h.state, h.cursors, h.last, h.entries, hsame⟩
  rw [h.log_eq]
  exact replay_append.2 ⟨r, hr, replay_single.2 (hf.step (hsplit ▸ hdone))⟩

end

/-- the process can commit the effect: it is writable, the effect passes its checks, and neither the cursors nor the
timestamps are used up -/
structure Able (w : World) (e : StateEffect) : Prop where
  writable : w.store.recoveryRequired = false
  planned : ∃ p, plan w.store.state e = .ok p
  room : (logRecords w.disk).length < u64Max
  time : w.store.lastAppendedAtMs < i64Max

/-- the next cursor of a stream is there while the log is not longer than the cursors -/
theorem nextCursor_ok (h : LogFiles env w.disk) (hagree : Agrees w r) (hroom : (logRecords w.disk).length < u64Max)
    (stream : StreamKey) : ∃ c, w.store.nextCursor stream = .ok c := by
  unfold Store.nextCursor
  rw [hagree.cursors, (replay_facts hagree.replayed).cursors]
  cases hlast : ((logRecords w.disk).filter fun record => record.stream = stream).getLast? with
  | none => exact ⟨_, rfl⟩
  | some last =>
    have hlt := h.counted last (List.mem_of_mem_filter (List.mem_of_getLast? hlast))
    exact ⟨⟨last.cursor.seq + 1⟩, by simp [Cursor.next, show last.cursor.seq < u64Max by omega]⟩

/-- **Committing an effect** keeps the log and the journal in agreement, whichever of its appends fails; an effect that the
process can commit fails only when an append does. -/
theorem wp_commit_log (ht : env.Tolerant) {effect : StateEffect} (he : CleanEffect effect) (h : LogInv env w) :
    wp World.disk (LogFiles env) (fun _ => LogInv env)
      (fun _ w' => LogInv env w' ∧ (Able w effect → ¬ env.Reliable)) (applyTrustedCommit env effect) w := by
  refine wp_bind (wp_bind (wp_read (wp_require (fun hflag => ?_) fun hflag => ⟨h, fun ha => absurd ha.writable hflag⟩)))
  obtain ⟨r, hagree⟩ := h.agrees hflag
  refine wp_bind (wp_read (wp_bind (wp_liftExcept (fun p hplan => ?_) fun _ herr => ⟨h, fun ha => ?_⟩)))
  swap
  · obtain ⟨p, hp⟩ := ha.planned
    rw [hp] at herr
    cases herr
  refine wp_bind (wp_liftExcept (fun cursor hcursor => ?_) fun _ herr => ⟨h, fun ha => ?_⟩)
  swap
  · obtain ⟨c, hc⟩ := nextCursor_ok h.files hagree ha.room p.stream
    rw [hc] at herr
    cases herr
  have htick : LogInv env { w with ticks := w.ticks + 1 } := h.congr rfl rfl rfl rfl rfl rfl
  refine wp_bind (wp_nextTimestamp (fun atMs hlater hstamp => ?_) fun _ hover =>
    ⟨htick, fun ha => absurd ha.time (not_lt.2 hover)⟩)
  let record : LogRecord := ⟨cursor, p.stream, atMs, effect⟩
  have hf : Follows env r p record := by
    refine ⟨hagree.state ▸ hplan, rfl, ?_, hagree.last ▸ hlater, hagree.last ▸ hstamp⟩
    unfold Store.nextCursor at hcursor
    rw [hagree.cursors] at hcursor
    cases hc : r.cursors p.stream with
    | none => rw [hc] at hcursor; exact (Except.ok.inj hcursor).symm
    | some previous => rw [hc] at hcursor; exact contract_eq_ok.1 hcursor
  obtain ⟨-, hstream, hnext, -⟩ := plan_eq_ok.1 hplan
  have hfiles : LogFiles env (w.disk ++ [⟨.stream record, .whole⟩]) :=
    h.files.append_record hagree.replayed hagree.journalOn hf (streamFor_clean h.clean he hstream) he
  refine wp_bind (wp_appendEntry ht ⟨hfiles, wp_bind (wp_modify rfl (wp_bind ?_))⟩
    (fun hr => ⟨htick.congr rfl rfl rfl rfl rfl rfl, fun _ => hr⟩) fun _ hlate => by cases hlate)
  have hstart : Recording env r p record (logRecords w.disk) p.candidates { (({ w with ticks := w.ticks + 1 } : World).appended
      (.stream record)) with store := w.store.advance p.next record } := by
    refine ⟨by simp, hfiles, apply_clean h.clean he hnext, rfl, ?_, rfl,
      ?_, [], r.expected, rfl, rfl, hagree.journal⟩
    · simp [Store.advance, hagree.cursors]
    · simp [Store.advance, hagree.entries]
  have hview : ∀ c rest v, Recording env r p record (logRecords w.disk) (c :: rest) v → wp World.disk (LogFiles env)
      (fun _ => Recording env r p record (logRecords w.disk) rest)
      (fun _ w' => LogInv env w' ∧ ((logRecords w.disk).length < u64Max → ¬ env.Reliable))
      (blockOnError (recordProjection env c.1 c.2)) v := fun c rest v hrec =>
    wp_onError (fun _ => rfl) (wp_recordProjection ht hf hagree.replayed hrec)
  exact wp_post (wp_forEach (Recording env r p record (logRecords w.disk)) hview hstart)
    (fun _ v hrec => wp_pure (Recording.finish hf hagree.replayed hrec)) fun _ _ hE => ⟨hE.1, fun ha => hE.2 ha.room⟩

/-- the program keeps the log and the journal in agreement -/
abbrev KeepsLog {α : Type} (env : Env) (p : StoreM α) : Prop :=
  Keeps World.disk (LogFiles env) (LogInv env) (LogInv env) p

theorem keepsLog_applyTrustedCommit (ht : env.Tolerant) {effect : StateEffect} (he : CleanEffect effect) :
    KeepsLog env (applyTrustedCommit env effect) := fun _ h =>
  wp_post (wp_commit_log ht he h) (fun _ _ hq => hq) fun _ _ hE => hE.1

/-! ## The other files -/

theorem keepsLog_appendEntry (ht : env.Tolerant) {path : String} (hs : entry.stream? = none) (hp : entry.projection? = none) :
    KeepsLog env (appendEntry env path entry) := fun _ h =>
  wp_appendEntry ht ⟨h.files.append_other hs hp, h.append_other hs hp⟩ (fun _ => h.congr rfl rfl rfl rfl rfl rfl)
    fun _ _ => h.append_other hs hp

theorem keepsLog_recordIdempotency (ht : env.Tolerant) (key : String) (commandId : CommandId) :
    KeepsLog env (recordIdempotency env key commandId) :=
  Keeps.bind (Keeps.modify (fun _ => rfl) fun _ h => h.congr rfl rfl rfl rfl rfl rfl) fun _ =>
    keepsLog_appendEntry ht rfl rfl

theorem keepsLog_appendOutbox (ht : env.Tolerant) (record : OutboxRecord) :
    KeepsLog env (appendOutbox env record) :=
  Keeps.bind (keepsLog_appendEntry ht rfl rfl) fun _ =>
    Keeps.modify (fun _ => rfl) fun _ h => h.congr rfl rfl rfl rfl rfl rfl

/-! ## A start reads the log back -/

/-- a store that was read is what the log yields; its journal is the one on disk -/
structure ReadBack (disk : Disk) (store : Store) (expected : ProjectionJournal) (r : Replayed) : Prop where
  replayed : replay {} (logRecords disk) = .ok r
  expected_eq : expected = r.expected
  state : store.state = r.state
  cursors : store.cursors = r.cursors
  last : store.lastAppendedAtMs = r.lastAppendedAtMs
  entries : store.projections.entries = recordsOf Entry.projection? disk
  writable : store.recoveryRequired = false

theorem readJournal_entries {j : ProjectionJournal} (h : readJournal env disk = .ok j) :
    j.entries = recordsOf Entry.projection? disk := by
  simp only [readJournal] at h
  rw [seq_eq_ok, pure_eq_ok] at h
  rw [← h.2, map_entry_chunksOf]

theorem readStore_readBack {store : Store} (h : LogFiles env disk) (hread : readStore env disk = .ok (store, expected)) :
    ∃ r, ReadBack disk store expected r := by
  simp only [readStore, bind_eq_ok] at hread
  obtain ⟨j, hj, boxes, -, records, hrecords, r, hr, heq⟩ := hread
  rw [readAll_eq h.streams] at hrecords
  cases hrecords
  cases heq
  exact ⟨r, hr, rfl, rfl, rfl, rfl, readJournal_entries hj, rfl⟩

/-- the states that a log of clean effects reaches are clean -/
theorem replay_clean {log : List LogRecord} (hr : replay {} log = .ok r) (he : ∀ record ∈ log, CleanEffect record.effect) :
    CleanState r.state := by
  induction log using List.reverseRecOn generalizing r with
  | nil => cases hr; exact cleanState_empty
  | append_singleton log record ih =>
    obtain ⟨q, hq, hstep⟩ := replay_append.1 hr
    obtain ⟨next, candidates, expected, hn, -, -, rfl⟩ := step_eq_ok.1 (replay_single.1 hstep)
    exact apply_clean (ih hq fun record' hmem => he record' (List.mem_append_left _ hmem)) (he record (by simp)) hn

/-! ## A start completes the journal -/

section

variable {j : ProjectionJournal}

theorem mem_keys_iff {key : ProjectionKey} : key ∈ j.keys ↔ j.entriesOf key ≠ [] := by
  simp [ProjectionJournal.keys, ProjectionJournal.entriesOf, List.filter_eq_nil_iff]

/-- a journal that does not diverge holds a first part of every expected history -/
theorem prefix_of_not_diverges (h : j.diverges expected = none) (key : ProjectionKey) :
    j.entriesOf key <+: expected.entriesOf key := by
  by_cases hkey : key ∈ j.keys
  · simpa using List.find?_eq_none.1 h key hkey
  · rw [mem_keys_iff, not_not] at hkey
    rw [hkey]
    exact List.nil_prefix

theorem not_diverges_of_prefix (h : ∀ key, j.entriesOf key <+: expected.entriesOf key) : j.diverges expected = none :=
  List.find?_eq_none.2 fun key _ => by simpa using h key

/-- the missing entries complete every history -/
theorem append_missing (h : ∀ key, j.entriesOf key <+: expected.entriesOf key) (key : ProjectionKey) :
    j.entriesOf key ++ ((j.missing expected).filter fun envelope => envelope.key = key) = expected.entriesOf key := by
  let tail : ProjectionKey → List ProjectionEnvelope := fun k => (expected.entriesOf k).drop (j.entriesOf k).length
  have hown : ∀ k, ∀ envelope ∈ tail k, envelope.key = k := fun k envelope hmem =>
    ProjectionJournal.key_of_mem_entriesOf (List.mem_of_mem_drop hmem)
  -- the tail of one key, picked out of the tails of all keys
  have hpick : ∀ keys : List ProjectionKey, keys.Nodup → ((keys.flatMap tail).filter fun envelope => envelope.key = key) =
      if key ∈ keys then tail key else [] := by
    intro keys hd
    induction keys with
    | nil => rfl
    | cons k keys ih =>
      rw [List.nodup_cons] at hd
      rw [List.flatMap_cons, List.filter_append, ih hd.2]
      by_cases hk : k = key
      · subst hk
        rw [if_neg hd.1, if_pos List.mem_cons_self, List.append_nil]
        exact List.filter_eq_self.2 fun envelope hmem => by simpa using hown _ envelope hmem
      · have hnone : ((tail k).filter fun envelope => envelope.key = key) = [] :=
          List.filter_eq_nil_iff.2 fun envelope hmem => by simpa [hown k envelope hmem] using hk
        simp [hnone, Ne.symm hk]
  change j.entriesOf key ++ ((expected.keys.flatMap tail).filter fun envelope => envelope.key = key) = _
  rw [hpick expected.keys (List.nodup_dedup _)]
  split_ifs with hkey
  · exact List.prefix_iff_eq_append.1 (h key)
  · rw [mem_keys_iff, not_not] at hkey
    have := h key
    rw [hkey, List.prefix_nil] at this
    rw [this, hkey, List.append_nil]

end

/-- a start that has read the log back and is completing the journal -/
structure Reconciling (env : Env) (r : Replayed) (log : List LogRecord) (remaining : List ProjectionEnvelope) (w : World) : Prop where
  log_eq : logRecords w.disk = log
  files : LogFiles env w.disk
  state : w.store.state = r.state
  cursors : w.store.cursors = r.cursors
  last : w.store.lastAppendedAtMs = r.lastAppendedAtMs
  entries : w.store.projections.entries = recordsOf Entry.projection? w.disk
  journal : ∀ key, w.store.projections.entriesOf key ++ (remaining.filter fun envelope => envelope.key = key) =
    r.expected.entriesOf key

/-- **A start** completes the journal and leaves a process that agrees with its files; when the journal does not diverge
it fails only when an append does. -/
theorem wp_reconcile (ht : env.Tolerant) (hf : LogFiles env w.disk) (hb : ReadBack w.disk w.store expected r) :
    wp World.disk (LogFiles env) (fun _ w' => LogInv env w' ∧ logRecords w'.disk = logRecords w.disk)
      (fun _ w' => LogFiles env w'.disk ∧ (w.store.projections.diverges r.expected = none → ¬ env.Reliable))
      (reconcile env expected) w := by
  refine wp_bind (wp_read ?_)
  rw [hb.expected_eq]
  split
  · rename_i key hdiv
    exact wp_fail ⟨hf, fun hnone => by rw [hdiv] at hnone; cases hnone⟩
  · rename_i hdiv
    have hstart : Reconciling env r (logRecords w.disk) (w.store.projections.missing r.expected) w :=
      ⟨rfl, hf, hb.state, hb.cursors, hb.last, hb.entries, append_missing (prefix_of_not_diverges hdiv)⟩
    refine wp_seq (wp_forEach (Reconciling env r (logRecords w.disk)) (fun envelope rest v h => ?_) hstart) (fun _ v h => wp_pure ⟨?_, h.log_eq⟩) fun _ _ hE => hE
    · have hfiles : LogFiles env (v.appended (.projection envelope)).disk := by
        refine h.files.append_envelope fun r' hr' key => ?_
        rw [h.log_eq, hb.replayed] at hr'
        cases hr'
        rw [← h.journal key, ProjectionJournal.entriesOf_push, ProjectionJournal.entriesOf, ProjectionJournal.entriesOf,
          h.entries, List.filter_cons]
        by_cases hkey : envelope.key = key <;> simp [hkey]
      refine wp_bind (wp_appendEntry ht ⟨hfiles, wp_modify rfl ?_⟩ (fun hr => ⟨h.files, fun _ => hr⟩)
        fun hr _ => ⟨hfiles, fun _ => hr⟩)
      refine ⟨?_, hfiles, h.state, h.cursors, h.last, ?_, fun key => ?_⟩
      · simpa using h.log_eq
      · simp [ProjectionJournal.push, h.entries]
      · change (v.store.projections.push envelope).entriesOf key ++ _ = _
        rw [← h.journal key, ProjectionJournal.entriesOf_push, List.filter_cons]
        by_cases hkey : envelope.key = key <;> simp [hkey]
    · refine ⟨h.files, h.state ▸ replay_clean hb.replayed hf.effects, fun _ => ⟨r, ?_, h.state, h.cursors, h.last,
        h.entries, fun key => by simpa using h.journal key⟩⟩
      rw [h.log_eq]
      exact hb.replayed

end Kaleido.State
