/-
The stream files read back.

The log is written one record at a time to one file per stream, with timestamps that strictly increase over the whole
store; `read_all` verifies each file and sorts all records by timestamp. `readAll_eq` says that this restores the order
the records were appended in, when the stream identifiers are left unchanged by `stream_file_name`. An effect whose
identifiers are left unchanged goes to such a stream (`streamFor_clean`).
-/
import Kaleido.Lib.Sorting
import Kaleido.State.Transition
import Kaleido.State.Files

namespace Kaleido.State

open Check LineFile Sorting Proto

variable {a b record : LogRecord} {l : List LogRecord} {disk : Disk} {s : CanonicalState} {e : StateEffect}

/-! ## File names -/

/-- `stream_file_name` leaves the identifier unchanged -/
def cleanName (identifier : String) : Prop := identifier.toList.all keptInFileName = true

/-- the identifier of a stream is left unchanged by `stream_file_name` -/
def CleanStream : StreamKey → Prop
  | .host hostId => cleanName hostId.value
  | .project projectId => cleanName projectId.value
  | .session sessionId => cleanName sessionId.value
  | .workflow workflowId => cleanName workflowId.value

theorem map_kept_of_clean {identifier : String} (h : cleanName identifier) :
    String.ofList (identifier.toList.map fun c => if keptInFileName c then c else '_') = identifier := by
  have : (identifier.toList.map fun c => if keptInFileName c then c else '_') = identifier.toList := by
    conv_rhs => rw [← List.map_id identifier.toList]
    refine List.map_congr_left fun c hc => ?_
    simp [List.all_eq_true.1 h c hc]
  rw [this, String.ofList_toList]

/-- two streams with unchanged identifiers have different files -/
theorem streamFileName_injective {a b : StreamKey} (ha : CleanStream a) (hb : CleanStream b)
    (h : streamFileName a = streamFileName b) : a = b := by
  have key : ∀ {kind : String} {i j : String}, cleanName i → cleanName j →
      kind ++ "-" ++ String.ofList (i.toList.map fun c => if keptInFileName c then c else '_') ++ ".jsonl" =
        kind ++ "-" ++ String.ofList (j.toList.map fun c => if keptInFileName c then c else '_') ++ ".jsonl" → i = j := by
    intro kind i j hi hj hij
    rw [map_kept_of_clean hi, map_kept_of_clean hj] at hij
    have hlist := congrArg String.toList hij
    simp only [String.toList_append, List.append_cancel_right_eq, List.append_cancel_left_eq] at hlist
    exact String.toList_injective hlist
  -- the kinds start with different letters
  cases a <;> cases b <;> first
    | exact congrArg _ (Ident.ext (key ha hb h))
    | (exfalso; have := congrArg (fun s => s.toList.head?) h; simp [streamFileName] at this)

/-! ## Cursors of one stream -/

theorem verifyContiguous_cons_cons :
    verifyContiguous (a :: b :: l) = .ok () ↔
      a.stream = b.stream ∧ a.cursor.next = .ok b.cursor ∧ verifyContiguous (b :: l) = .ok () := by
  rw [verifyContiguous]
  simp only [bind_eq_ok, Unique.exists_iff, PUnit.default_eq_unit, ensure_eq_ok]
  constructor
  · rintro ⟨hs, expected, he, -, rfl, hl⟩
    exact ⟨hs, he, hl⟩
  · rintro ⟨hs, he, hl⟩
    refine ⟨hs, _, he, fun heq => ?_, rfl, hl⟩
    -- a cursor is not its own successor
    rw [heq, Cursor.next] at he
    split_ifs at he
    have := congrArg Cursor.seq (Except.ok.inj he)
    simp at this

theorem verifyContiguous_append :
    verifyContiguous (l ++ [record]) = .ok () ↔ verifyContiguous l = .ok () ∧
      ∀ last, l.getLast? = some last → last.stream = record.stream ∧ last.cursor.next = .ok record.cursor := by
  induction l with
  | nil => simp [verifyContiguous]
  | cons first rest ih =>
    cases rest with
    | nil =>
      rw [List.singleton_append, verifyContiguous_cons_cons]
      simp [verifyContiguous]
    | cons second rest =>
      rw [List.cons_append] at ih
      rw [List.cons_append, List.cons_append, verifyContiguous_cons_cons, ih, verifyContiguous_cons_cons,
        List.getLast?_cons_cons]
      tauto

/-! ## The order of the log -/

theorem appendedBefore_iff : appendedBefore a b = true ↔ a.appendedAtMs < b.appendedAtMs ∨
    a.appendedAtMs = b.appendedAtMs ∧ (streamFileName a.stream < streamFileName b.stream ∨
      streamFileName a.stream = streamFileName b.stream ∧ a.cursor.seq ≤ b.cursor.seq) := by
  unfold appendedBefore
  split_ifs with ht hn
  · simp only [decide_eq_true_eq, ht, false_and, or_false]
    exact ⟨fun h => lt_of_le_of_ne h ht, le_of_lt⟩
  · rw [not_not] at ht
    simp only [decide_eq_true_eq, ht, lt_irrefl, true_and, false_or, hn, false_and, or_false]
    exact ⟨fun h => lt_of_le_of_ne h hn, le_of_lt⟩
  · rw [not_not] at ht hn
    simp [ht, hn]

instance : Std.Total fun a b : LogRecord => appendedBefore a b = true where
  total a b := by
    simp only [appendedBefore_iff]
    rcases lt_trichotomy a.appendedAtMs b.appendedAtMs with h | h | h
    · exact .inl (.inl h)
    · rcases lt_trichotomy (streamFileName a.stream) (streamFileName b.stream) with h' | h' | h'
      · exact .inl (.inr ⟨h, .inl h'⟩)
      · rcases le_total a.cursor.seq b.cursor.seq with hc | hc
        · exact .inl (.inr ⟨h, .inr ⟨h', hc⟩⟩)
        · exact .inr (.inr ⟨h.symm, .inr ⟨h'.symm, hc⟩⟩)
      · exact .inr (.inr ⟨h.symm, .inl h'⟩)
    · exact .inr (.inl h)

instance : IsTrans LogRecord fun a b => appendedBefore a b = true where
  trans a b c hab hbc := by
    simp only [appendedBefore_iff] at hab hbc ⊢
    rcases hab with h | ⟨h, hn⟩ <;> rcases hbc with h' | ⟨h', hn'⟩
    · exact .inl (h.trans h')
    · exact .inl (h' ▸ h)
    · exact .inl (h ▸ h')
    · refine .inr ⟨h.trans h', ?_⟩
      rcases hn with k | ⟨k, hc⟩ <;> rcases hn' with k' | ⟨k', hc'⟩
      · exact .inl (k.trans k')
      · exact .inl (k' ▸ k)
      · exact .inl (k ▸ k')
      · exact .inr ⟨k.trans k', hc.trans hc'⟩

/-! ## Reading all streams -/

/-- the records of the log, in the order they were appended -/
abbrev logRecords (disk : Disk) : List LogRecord := recordsOf Entry.stream? disk

/-- the stream files are in order -/
structure StreamFiles (disk : Disk) : Prop where
  whole : Whole disk
  clean : ∀ record ∈ logRecords disk, CleanStream record.stream
  increasing : (logRecords disk).Pairwise fun a b => a.appendedAtMs < b.appendedAtMs
  contiguous : ∀ stream, verifyContiguous ((logRecords disk).filter fun record => record.stream = stream) = .ok ()

theorem filter_fileName_eq (h : StreamFiles disk) (hr : record ∈ logRecords disk) :
    ((logRecords disk).filter fun other => streamFileName other.stream = streamFileName record.stream) =
      (logRecords disk).filter fun other => other.stream = record.stream := by
  refine List.filter_congr fun other ho => ?_
  have : streamFileName other.stream = streamFileName record.stream ↔ other.stream = record.stream :=
    ⟨fun heq => streamFileName_injective (h.clean other ho) (h.clean record hr) heq, fun heq => by rw [heq]⟩
  simp [this]

theorem mem_streamFileNames {name : String} :
    name ∈ streamFileNames disk ↔ ∃ record ∈ logRecords disk, streamFileName record.stream = name := by
  have hmap : (chunksOf Entry.stream? disk).map (fun c => streamFileName c.entry.stream) =
      (logRecords disk).map fun record => streamFileName record.stream := by
    rw [logRecords, ← map_entry_chunksOf, List.map_map]
    rfl
  rw [streamFileNames, List.mem_insertionSort, List.mem_dedup, hmap]
  simp

theorem nodup_streamFileNames (disk : Disk) : (streamFileNames disk).Nodup :=
  (List.perm_insertionSort _ _).nodup_iff.2 (List.nodup_dedup _)

/-- every stream file reads back as the records of its stream -/
theorem readStreams_eq (h : StreamFiles disk) : readStreams disk =
    .ok ((streamFileNames disk).map fun name =>
      (logRecords disk).filter fun record => streamFileName record.stream = name) := by
  refine mapM_eq_ok fun name hname => ?_
  obtain ⟨record, hr, rfl⟩ := mem_streamFileNames.1 hname
  have hfile : readFile (streamFileName record.stream) ((chunksOf Entry.stream? disk).filter fun c =>
      streamFileName c.entry.stream = streamFileName record.stream) =
      .ok ((logRecords disk).filter fun other => streamFileName other.stream = streamFileName record.stream) := by
    rw [readFile_whole (whole_filter (chunksOf_whole h.whole) _), logRecords, ← map_entry_chunksOf, List.filter_map]
    rfl
  rw [hfile]
  simp only [bind, Except.bind, filter_fileName_eq h hr, h.contiguous, contract, Except.mapError]
  rfl

/-- **`read_all`** returns the log in the order it was appended. -/
theorem readAll_eq (h : StreamFiles disk) : readAll disk = .ok (logRecords disk) := by
  have hnames : ∀ record ∈ logRecords disk, streamFileName record.stream ∈ streamFileNames disk := fun record hr =>
    mem_streamFileNames.2 ⟨record, hr, rfl⟩
  have hperm := flatten_classes_perm (fun record : LogRecord => streamFileName record.stream)
    (nodup_streamFileNames disk) hnames
  have hsorted : (logRecords disk).Pairwise fun a b => appendedBefore a b = true :=
    h.increasing.imp fun hlt => appendedBefore_iff.2 (.inl hlt)
  -- timestamps are distinct, so records that are before each other are the same
  have hanti : ∀ a ∈ logRecords disk, ∀ b ∈ logRecords disk,
      appendedBefore a b = true → appendedBefore b a = true → a = b := by
    intro a ha b hb hab hba
    by_contra hne
    have hlt : a.appendedAtMs < b.appendedAtMs ∨ b.appendedAtMs < a.appendedAtMs := by
      rcases List.pairwise_iff_getElem.1 h.increasing with hp
      obtain ⟨i, hi, rfl⟩ := List.getElem_of_mem ha
      obtain ⟨j, hj, rfl⟩ := List.getElem_of_mem hb
      rcases lt_trichotomy i j with hij | rfl | hij
      · exact .inl (hp i j hi hj hij)
      · exact absurd rfl hne
      · exact .inr (hp j i hj hi hij)
    rw [appendedBefore_iff] at hab hba
    omega
  rw [readAll, readStreams_eq h]
  exact congrArg Except.ok (insertionSort_eq_of_perm hperm hsorted hanti)

/-! ## Clean effects -/

/-- the identifiers that decide an effect's stream are left unchanged by `stream_file_name` -/
def CleanEffect : StateEffect → Prop
  | .hostUpserted host => cleanName host.id.value
  | .runtimeUpserted runtime => cleanName runtime.hostId.value
  | .sessionUpserted session => cleanName session.id.value
  | .sessionStatusChanged sessionId _ | .queueReordered sessionId _ => cleanName sessionId.value
  | .turnUpserted turn => cleanName turn.sessionId.value
  | .itemUpserted item => cleanName item.sessionId.value
  | .queueEntryUpserted entry => cleanName entry.sessionId.value
  | .attentionUpserted item => ∀ sessionId, item.sessionId = some sessionId → cleanName sessionId.value
  | .diagnosticRecorded diagnostic => ∀ sessionId, diagnostic.sessionId = some sessionId → cleanName sessionId.value
  | .workflowUpserted workflow => cleanName workflow.id.value
  | .stepUpserted step => cleanName step.workflowId.value
  | .artifactUpserted artifact => cleanName artifact.workflowId.value
  | .capabilitiesUpdated _ | .projectUpserted _ | .commandAcknowledged _ => True

/-- the identifiers of the state from which the store derives streams are left unchanged by `stream_file_name` -/
structure CleanState (s : CanonicalState) : Prop where
  hosts : ∀ host ∈ s.hosts.vals, cleanName host.id.value
  sessions : ∀ (sessionId : SessionId) session, s.sessions[sessionId]? = some session → cleanName sessionId.value
  queue : ∀ (entryId : QueueEntryId) entry, s.queue[entryId]? = some entry → cleanName entry.sessionId.value
  queueIds : ∀ (entryId : QueueEntryId) entry, s.queue[entryId]? = some entry → entry.id = entryId

theorem cleanState_empty : CleanState {} := ⟨by simp, by simp, by simp, by simp⟩

/-- an accepted clean effect keeps the state clean -/
theorem apply_clean {next : CanonicalState} (hs : CleanState s) (he : CleanEffect e) (h : s.apply e = .ok next) :
    CleanState next := by
  obtain ⟨t, ht, rfl⟩ := CanonicalState.apply_iff.1 h
  have hderived : CleanState t → CleanState t.recomputeDerived := fun ht => by
    refine ⟨ht.hosts, fun sessionId session hsession => ?_, ht.queue, ht.queueIds⟩
    rw [CanonicalState.get_recomputed_session] at hsession
    obtain ⟨old, hold, -⟩ := Option.map_eq_some_iff.1 hsession
    exact ht.sessions sessionId old hold
  refine hderived ?_
  cases ht with
  | host host =>
    refine ⟨fun host' hmem => ?_, hs.sessions, hs.queue, hs.queueIds⟩
    rcases OrdMap.mem_vals_insert hmem with rfl | hmem
    · exact he
    · exact hs.hosts host' hmem
  | session session => exact ⟨hs.hosts, OrdMap.forall_insert hs.sessions he, hs.queue, hs.queueIds⟩
  | queueEntry entry =>
    exact ⟨hs.hosts, hs.sessions, OrdMap.forall_insert hs.queue he, OrdMap.forall_insert hs.queueIds rfl⟩
  | queueReordered sessionId order =>
    have hold : ∀ (entryId : QueueEntryId) entry,
        (CanonicalState.reorderQueue sessionId s.queue order)[entryId]? = some entry →
        ∃ old, s.queue[entryId]? = some old ∧ old.id = entry.id ∧ old.sessionId = entry.sessionId := by
      intro entryId entry hk
      have hmap := CanonicalState.map_reorderQueue (fun entry => (entry.id, entry.sessionId)) (fun _ _ => rfl) sessionId
        s.queue order entryId
      rw [hk] at hmap
      obtain ⟨old, hold, heq⟩ := Option.map_eq_some_iff.1 hmap.symm
      exact ⟨old, hold, congrArg Prod.fst heq, congrArg Prod.snd heq⟩
    refine ⟨hs.hosts, hs.sessions, fun entryId entry' hk => ?_, fun entryId entry' hk => ?_⟩
    all_goals obtain ⟨old, hold, hid, hsession⟩ := hold entryId entry' hk
    · exact hsession ▸ hs.queue entryId old hold
    · exact hid ▸ hs.queueIds entryId old hold
  | _ => exact ⟨hs.hosts, hs.sessions, hs.queue, hs.queueIds⟩

/-- a clean effect goes to a clean stream -/
theorem streamFor_clean {stream : StreamKey} (hs : CleanState s) (he : CleanEffect e) (h : streamFor s e = .ok stream) :
    CleanStream stream := by
  have hhost : hostStream s = .ok stream → CleanStream stream := by
    intro h
    unfold hostStream at h
    split at h
    · cases h
    · rename_i host _ heq
      cases h
      exact hs.hosts host (by rw [heq]; exact List.mem_cons_self)
  cases e with
  | attentionUpserted _ | diagnosticRecorded _ =>
    simp only [streamFor] at h
    split at h
    · rename_i sessionId hsession
      cases h
      exact he sessionId hsession
    · exact hhost h
  | capabilitiesUpdated _ | projectUpserted _ | commandAcknowledged _ => exact hhost h
  | _ => cases h; exact he

end Kaleido.State
