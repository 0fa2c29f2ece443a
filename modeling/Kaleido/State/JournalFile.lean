/-
Projection histories.

A journal only ever extends the history of a key, one entry at a time, and what it appends depends on that history alone
(`next_congr`): two journals with the same histories record the same entries. Histories kept this way read back
(`Verified`), and recording succeeds as long as no history has used up its cursors (`recordAll_ok`).

`replay_facts` says what replaying a log yields: the head of each stream, the last timestamp, verified histories no
longer than the log.
-/
import Kaleido.State.Load
import Kaleido.State.Files

namespace Kaleido.State

open Check LineFile Proto

variable {s : CanonicalState} {keys : List ProjectionKey} {r r' : Replayed}

/-! ## Reading a history back -/

/-- what an entry needs to follow another one, or to be the first -/
def Succeeds (previous : Option ProjectionEnvelope) (envelope : ProjectionEnvelope) : Prop :=
  envelope.validateForTransport = .ok () ∧ match previous with
    | some previous => envelope.key = previous.key ∧ previous.cursor.next = .ok envelope.cursor
    | none => envelope.cursor = Cursor.start

theorem cursor_next_ne {c c' : Cursor} (h : c.next = .ok c') : c' ≠ c := by
  rintro rfl
  rw [Cursor.next] at h
  split_ifs at h
  have := congrArg Cursor.seq (Except.ok.inj h)
  simp at this

theorem verifyHistory_cons {previous : Option ProjectionEnvelope} {envelope : ProjectionEnvelope}
    {rest : List ProjectionEnvelope} : verifyHistory previous (envelope :: rest) = .ok () ↔
      Succeeds previous envelope ∧ verifyHistory (some envelope) rest = .ok () := by
  cases previous with
  | none => simp [verifyHistory, Succeeds, and_assoc]
  | some previous =>
    simp only [verifyHistory, Succeeds, bind_eq_ok, Unique.exists_iff, PUnit.default_eq_unit, ensure_eq_ok, contract_eq_ok]
    constructor
    · rintro ⟨hv, hk, -, expected, he, rfl, hr⟩
      exact ⟨⟨hv, hk, he⟩, hr⟩
    · rintro ⟨⟨hv, hk, he⟩, hr⟩
      exact ⟨hv, hk, cursor_next_ne he, _, he, rfl, hr⟩

theorem verifyHistory_append {previous : Option ProjectionEnvelope} {l l' : List ProjectionEnvelope} :
    verifyHistory previous (l ++ l') = .ok () ↔
      verifyHistory previous l = .ok () ∧ verifyHistory (l.getLast?.or previous) l' = .ok () := by
  induction l generalizing previous with
  | nil => simp [verifyHistory]
  | cons a l ih =>
    rw [List.cons_append, verifyHistory_cons, ih, verifyHistory_cons, and_assoc]
    cases l with
    | nil => simp
    | cons b l => simp [List.getLast?_cons]

/-- the last cursor of a verified history counts its entries -/
theorem verifyHistory_last {l : List ProjectionEnvelope} (h : verifyHistory none l = .ok ()) {last : ProjectionEnvelope}
    (hl : l.getLast? = some last) : last.cursor.seq + 1 = l.length := by
  induction l using List.reverseRecOn generalizing last with
  | nil => simp at hl
  | append_singleton l a ih =>
    rw [verifyHistory_append, verifyHistory_cons] at h
    obtain ⟨hl', hs, -⟩ := h
    rw [List.getLast?_concat, Option.some.injEq] at hl
    subst hl
    cases hlast : l.getLast? with
    | none =>
      rw [hlast] at hs
      rw [List.getLast?_eq_none_iff.1 hlast, hs.2]
      rfl
    | some previous =>
      rw [hlast] at hs
      have hnext := hs.2.2
      rw [Cursor.next] at hnext
      split_ifs at hnext
      rw [← Except.ok.inj hnext, List.length_append, ← ih hl' hlast]
      rfl

namespace ProjectionJournal

variable {j j' e : ProjectionJournal} {key : ProjectionKey} {payload : ProjectionPayload} {envelope : ProjectionEnvelope}
  {candidates : List (ProjectionKey × ProjectionPayload)}

/-! ## Recording one view -/

theorem entriesOf_push : (j.push envelope).entriesOf key = j.entriesOf key ++ if envelope.key = key then [envelope] else [] := by
  by_cases h : envelope.key = key <;> simp [push, entriesOf, h]

/-- the entry a view becomes depends on the history of its key alone -/
theorem next_congr (h : j.entriesOf key = j'.entriesOf key) : j.next key payload = j'.next key payload := by
  simp only [next, nextCursor, head, current, h]
  rfl

/-- every history reads back -/
def Verified (j : ProjectionJournal) : Prop := ∀ key, verifyHistory none (j.entriesOf key) = .ok ()

theorem key_of_mem_entriesOf (h : envelope ∈ j.entriesOf key) : envelope.key = key := by
  simpa using List.of_mem_filter h

theorem nextCursor_eq_ok {cursor : Cursor} : j.nextCursor key = .ok cursor ↔ match (j.entriesOf key).getLast? with
    | some last => last.cursor.next = .ok cursor
    | none => cursor = Cursor.start := by
  unfold nextCursor head current
  cases (j.entriesOf key).getLast? with
  | none => simp [eq_comm]
  | some last => simp

/-- an entry that is recorded follows the history of its key -/
theorem next_eq_some (h : j.next key payload = .ok (some envelope)) :
    envelope.key = key ∧ Succeeds (j.entriesOf key).getLast? envelope := by
  simp only [next, seq_eq_ok] at h
  obtain ⟨-, h⟩ := h
  split_ifs at h
  · cases h
  · obtain ⟨cursor, hc, h⟩ := bind_eq_ok.1 h
    rw [seq_eq_ok, contract_eq_ok, pure_eq_ok, Option.some.injEq] at h
    obtain ⟨hv, rfl⟩ := h
    refine ⟨rfl, hv, ?_⟩
    rw [nextCursor_eq_ok] at hc
    cases hlast : (j.entriesOf key).getLast? with
    | none => rwa [hlast] at hc
    | some last =>
      rw [hlast] at hc
      exact ⟨(key_of_mem_entriesOf (List.mem_of_getLast? hlast)).symm, hc⟩

/-- recording fails only on a view that is not the key's own, or when the history has used up its cursors -/
theorem next_ok (hv : j.Verified) (hp : payload.validateForKey key = .ok ()) (hn : (j.entriesOf key).length ≤ u64Max) :
    ∃ o, j.next key payload = .ok o := by
  have hkey : key.validate = .ok () := by
    exact (seq_eq_ok.1 hp).1
  simp only [next, hp, contract, Except.mapError]
  by_cases hcur : (j.current key).any fun current => current.payload = payload
  · exact ⟨none, by rw [if_pos hcur]; rfl⟩
  · obtain ⟨cursor, hc⟩ : ∃ cursor, j.nextCursor key = .ok cursor := by
      cases hlast : (j.entriesOf key).getLast? with
      | none => exact ⟨Cursor.start, by rw [nextCursor_eq_ok, hlast]⟩
      | some last =>
        have hcount := verifyHistory_last (hv key) hlast
        exact ⟨⟨last.cursor.seq + 1⟩, by
          rw [nextCursor_eq_ok, hlast]
          simp [Cursor.next, show last.cursor.seq < u64Max by omega]⟩
    refine ⟨some ⟨projectionVersion, key, cursor, payload⟩, ?_⟩
    simp only [hcur, hc, ProjectionEnvelope.validateForTransport, hkey, hp]
    rfl

theorem record_eq_ok : j.record key payload = .ok e ↔
    ∃ o, j.next key payload = .ok o ∧ e = o.elim j j.push := by
  unfold record
  rw [bind_eq_ok]
  refine exists_congr fun o => and_congr_right fun _ => ?_
  cases o <;> exact pure_eq_ok.trans eq_comm

theorem verified_push (hv : j.Verified) (hk : envelope.key = key) (hs : Succeeds (j.entriesOf key).getLast? envelope) :
    (j.push envelope).Verified := by
  intro key'
  rw [entriesOf_push]
  split_ifs with h
  · obtain rfl : key = key' := hk.symm.trans h
    rw [verifyHistory_append, verifyHistory_cons]
    exact ⟨hv key, by simpa using hs, rfl⟩
  · simpa using hv key'

theorem record_verified (hv : j.Verified) (h : j.record key payload = .ok e) : e.Verified := by
  obtain ⟨o, ho, rfl⟩ := record_eq_ok.1 h
  cases o with
  | none => exact hv
  | some envelope => exact verified_push hv (next_eq_some ho).1 (next_eq_some ho).2

/-- only the history of the recorded key grows, by one entry at most -/
theorem record_entriesOf (h : j.record key payload = .ok e) (key' : ProjectionKey) :
    j.entriesOf key' <+: e.entriesOf key' ∧
      (e.entriesOf key').length ≤ (j.entriesOf key').length + if key = key' then 1 else 0 := by
  obtain ⟨o, ho, rfl⟩ := record_eq_ok.1 h
  cases o with
  | none => exact ⟨List.prefix_rfl, Nat.le_add_right _ _⟩
  | some envelope =>
    rw [Option.elim_some, entriesOf_push, (next_eq_some ho).1]
    rw [List.length_append]
    split_ifs <;> simp

/-! ## Recording several views -/

theorem recordAll_cons {p : ProjectionPayload} : j.recordAll ((key, p) :: candidates) = .ok e ↔
    ∃ j', j.record key p = .ok j' ∧ j'.recordAll candidates = .ok e := by rw [recordAll, bind_eq_ok]

theorem recordAll_append {l l' : List (ProjectionKey × ProjectionPayload)} : j.recordAll (l ++ l') = .ok e ↔
    ∃ j', j.recordAll l = .ok j' ∧ j'.recordAll l' = .ok e := by
  induction l generalizing j with
  | nil => simp [recordAll]
  | cons c l ih =>
    obtain ⟨key, p⟩ := c
    simp only [List.cons_append, recordAll_cons, ih]
    constructor
    · rintro ⟨j₁, h₁, j₂, h₂, h₃⟩; exact ⟨j₂, ⟨j₁, h₁, h₂⟩, h₃⟩
    · rintro ⟨j₂, ⟨j₁, h₁, h₂⟩, h₃⟩; exact ⟨j₁, h₁, j₂, h₂, h₃⟩

theorem recordAll_verified (hv : j.Verified) (h : j.recordAll candidates = .ok e) : e.Verified := by
  induction candidates generalizing j with
  | nil => cases h; exact hv
  | cons c l ih =>
    obtain ⟨j', h₁, h₂⟩ := recordAll_cons.1 h
    exact ih (record_verified hv h₁) h₂

theorem recordAll_prefix (h : j.recordAll candidates = .ok e) (key' : ProjectionKey) :
    j.entriesOf key' <+: e.entriesOf key' := by
  induction candidates generalizing j with
  | nil => cases h; exact List.prefix_rfl
  | cons c l ih =>
    obtain ⟨j', h₁, h₂⟩ := recordAll_cons.1 h
    exact (record_entriesOf h₁ key').1.trans (ih h₂)

theorem recordAll_length (hd : (candidates.map Prod.fst).Nodup) (h : j.recordAll candidates = .ok e)
    (key' : ProjectionKey) : (e.entriesOf key').length ≤
      (j.entriesOf key').length + if key' ∈ candidates.map Prod.fst then 1 else 0 := by
  induction candidates generalizing j with
  | nil => cases h; simp
  | cons c l ih =>
    obtain ⟨j', h₁, h₂⟩ := recordAll_cons.1 h
    rw [List.map_cons, List.nodup_cons] at hd
    have hrec := (record_entriesOf h₁ key').2
    have hrest := ih hd.2 h₂
    by_cases hk : c.1 = key'
    · subst hk
      rw [if_neg hd.1] at hrest
      simp only [List.map_cons, List.mem_cons, true_or, if_true] at hrec ⊢
      omega
    · simp only [hk, if_false, List.map_cons, List.mem_cons, Ne.symm hk, false_or] at hrec ⊢
      omega

/-- recording several views, at most one per key, succeeds while their histories have cursors left -/
theorem recordAll_ok (hv : j.Verified) (hd : (candidates.map Prod.fst).Nodup)
    (hp : ∀ c ∈ candidates, c.2.validateForKey c.1 = .ok ())
    (hn : ∀ c ∈ candidates, (j.entriesOf c.1).length ≤ u64Max) : ∃ e, j.recordAll candidates = .ok e := by
  induction candidates generalizing j with
  | nil => exact ⟨j, rfl⟩
  | cons c l ih =>
    rw [List.map_cons, List.nodup_cons] at hd
    obtain ⟨o, ho⟩ := next_ok hv (hp c List.mem_cons_self) (hn c List.mem_cons_self)
    have hrec : j.record c.1 c.2 = .ok (o.elim j j.push) := record_eq_ok.2 ⟨o, ho, rfl⟩
    obtain ⟨e, he⟩ := ih (record_verified hv hrec) hd.2 (fun c' h => hp c' (List.mem_cons_of_mem _ h)) fun c' h => by
      have hne : c.1 ≠ c'.1 := fun heq => hd.1 (heq ▸ List.mem_map_of_mem h)
      have hlen := (record_entriesOf hrec c'.1).2
      rw [if_neg hne] at hlen
      exact hlen.trans (hn c' (List.mem_cons_of_mem _ h))
    exact ⟨e, recordAll_cons.2 ⟨_, hrec, he⟩⟩

end ProjectionJournal

/-! ## The files of the journal -/

/-- the journal the projection files hold -/
abbrev journalOn (disk : Disk) : ProjectionJournal := { entries := recordsOf Entry.projection? disk }

/-- verified histories read back -/
theorem readJournal_eq {env : Env} {disk : Disk} (hw : Whole disk) (hv : (journalOn disk).Verified) :
    readJournal env disk = .ok (journalOn disk) := by
  have hfile : ∀ key, readFile (projectionFileName env key)
      ((chunksOf Entry.projection? disk).filter fun c => c.entry.key = key) = .ok ((journalOn disk).entriesOf key) := by
    intro key
    rw [readFile_whole (whole_filter (chunksOf_whole hw) _), ProjectionJournal.entriesOf, journalOn, ← map_entry_chunksOf,
      List.filter_map]
    rfl
  simp only [readJournal]
  rw [map_entry_chunksOf, seq_eq_ok, checkAll_eq_ok]
  refine ⟨fun key _ => ?_, rfl⟩
  rw [hfile, bind_eq_ok]
  exact ⟨_, rfl, hv key⟩

/-! ## The views of an effect -/

theorem build_validateForKey {key : ProjectionKey} {payload : ProjectionPayload} (h : build s key = .ok payload) :
    payload.validateForKey key = .ok () := by
  simp only [build, bind_eq_ok] at h
  obtain ⟨p, -, _, hv, hp⟩ := h
  cases hp
  exact contract_eq_ok.1 hv

theorem buildAll_eq_ok {candidates : List (ProjectionKey × ProjectionPayload)} (h : buildAll s keys = .ok candidates) :
    candidates.map Prod.fst = keys ∧ ∀ c ∈ candidates, build s c.1 = .ok c.2 := by
  induction keys generalizing candidates with
  | nil => cases h; simp
  | cons key keys ih =>
    simp only [buildAll, bind_eq_ok] at h
    obtain ⟨payload, hp, rest, hr, heq⟩ := h
    cases heq
    obtain ⟨hk, hb⟩ := ih hr
    exact ⟨by rw [List.map_cons, hk], by simpa [hp] using hb⟩

/-- the replay records the views the live path built -/
theorem expectAll_eq_ok {j e : ProjectionJournal} :
    expectAll s j keys = .ok e ↔ ∃ candidates, buildAll s keys = .ok candidates ∧ j.recordAll candidates = .ok e := by
  induction keys generalizing j with
  | nil => simp [expectAll, buildAll, ProjectionJournal.recordAll]
  | cons key keys ih =>
    simp only [expectAll, buildAll, bind_eq_ok, ih, pure_eq_ok]
    constructor
    · rintro ⟨payload, hp, j', hj, rest, hr, he⟩
      exact ⟨(key, payload) :: rest, ⟨payload, hp, rest, hr, rfl⟩, ProjectionJournal.recordAll_cons.2 ⟨j', hj, he⟩⟩
    · rintro ⟨_, ⟨payload, hp, rest, hr, rfl⟩, he⟩
      obtain ⟨j', hj, he⟩ := ProjectionJournal.recordAll_cons.1 he
      exact ⟨payload, hp, j', hj, rest, hr, he⟩

theorem nodup_foldl_pushUnique {l : List ProjectionKey} (h : keys.Nodup) : (l.foldl pushUnique keys).Nodup := by
  induction l generalizing keys with
  | nil => exact h
  | cons a l ih =>
    refine ih ?_
    unfold pushUnique
    split_ifs with hmem
    · exact h
    · rw [List.nodup_append_comm]
      simpa using ⟨hmem, h⟩

theorem nodup_affectedKeys (before after : CanonicalState) (effect : StateEffect) :
    (affectedKeys before after effect).Nodup := nodup_foldl_pushUnique List.nodup_nil

/-! ## Replaying a log -/

theorem step_eq_ok {record : LogRecord} : r.step record = .ok r' ↔
    ∃ next candidates expected, r.state.apply record.effect = .ok next ∧
      buildAll next (affectedKeys r.state next record.effect) = .ok candidates ∧
      r.expected.recordAll candidates = .ok expected ∧
      r' = ⟨next, Function.update r.cursors record.stream (some record.cursor),
        max r.lastAppendedAtMs record.appendedAtMs, expected⟩ := by
  simp only [Replayed.step, bind_eq_ok, expectAll_eq_ok, pure_eq_ok]
  constructor
  · rintro ⟨next, hn, expected, ⟨candidates, hb, hr⟩, rfl⟩
    exact ⟨next, candidates, expected, hn, hb, hr, rfl⟩
  · rintro ⟨next, candidates, expected, hn, hb, hr, rfl⟩
    exact ⟨next, hn, expected, ⟨candidates, hb, hr⟩, rfl⟩

theorem replay_append {l l' : List LogRecord} : replay r (l ++ l') = .ok r' ↔
    ∃ q, replay r l = .ok q ∧ replay q l' = .ok r' := by
  induction l generalizing r with
  | nil => simp [replay]
  | cons record l ih =>
    simp only [List.cons_append, replay, bind_eq_ok, ih]
    constructor
    · rintro ⟨q₁, h₁, q₂, h₂, h₃⟩; exact ⟨q₂, ⟨q₁, h₁, h₂⟩, h₃⟩
    · rintro ⟨q₂, ⟨q₁, h₁, h₂⟩, h₃⟩; exact ⟨q₁, h₁, q₂, h₂, h₃⟩

theorem replay_single {record : LogRecord} : replay r [record] = .ok r' ↔ r.step record = .ok r' := by
  simp [replay, bind_eq_ok]

/-- what a replayed log determines -/
structure ReplayFacts (log : List LogRecord) (r : Replayed) : Prop where
  cursors : ∀ stream, r.cursors stream = ((log.filter fun record => record.stream = stream).getLast?).map (·.cursor)
  last : ∀ record ∈ log, record.appendedAtMs ≤ r.lastAppendedAtMs
  attained : r.lastAppendedAtMs = i64Min ∨ ∃ record ∈ log, record.appendedAtMs = r.lastAppendedAtMs
  verified : r.expected.Verified
  length : ∀ key, (r.expected.entriesOf key).length ≤ log.length

theorem replay_facts {log : List LogRecord} (h : replay {} log = .ok r) : ReplayFacts log r := by
  induction log using List.reverseRecOn generalizing r with
  | nil =>
    cases h
    exact ⟨fun _ => rfl, by simp, .inl rfl, fun _ => rfl, fun _ => Nat.le_refl _⟩
  | append_singleton log record ih =>
    obtain ⟨q, hq, hstep⟩ := replay_append.1 h
    obtain ⟨next, candidates, expected, hn, hb, hr, rfl⟩ := step_eq_ok.1 (replay_single.1 hstep)
    have facts := ih hq
    refine ⟨fun stream => ?_, List.forall_mem_append.2 ⟨fun record' hold => (facts.last record' hold).trans (le_max_left _ _),
      List.forall_mem_singleton.2 (le_max_right _ _)⟩, ?_, ProjectionJournal.recordAll_verified facts.verified hr,
      fun key => ?_⟩
    · by_cases hs : record.stream = stream
      · simp [hs]
      · simp [hs, Function.update_of_ne (Ne.symm hs), facts.cursors]
    · rcases le_total q.lastAppendedAtMs record.appendedAtMs with hle | hle
      · exact .inr ⟨record, by simp, (max_eq_right hle).symm⟩
      · rw [max_eq_left hle]
        exact facts.attained.imp id fun ⟨record', hmem, heq⟩ => ⟨record', List.mem_append_left _ hmem, heq⟩
    · have hd : (candidates.map Prod.fst).Nodup := (buildAll_eq_ok hb).1 ▸ nodup_affectedKeys _ _ _
      have hnew := ProjectionJournal.recordAll_length hd hr key
      have hold := facts.length key
      change (expected.entriesOf key).length ≤ _
      rw [List.length_append, List.length_singleton]
      split_ifs at hnew <;> omega

end Kaleido.State
