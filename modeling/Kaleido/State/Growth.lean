/-
What a successful operation adds.

`Grew acks w w'` says that the step from `w` to `w'` added the acknowledgements `acks`, lost no idempotency key, left the
outbox alone and did not block the store. Committing an effect adds the acknowledgement it carries
(`wp_commit`), a list of effects adds theirs (`wp_applyAll`), and submitting a command adds its own acknowledgement and
its key, or finds the key taken and adds nothing (`wp_submitCommand`). Nothing is said about operations that fail.
-/
import Kaleido.State.LogInv
import Kaleido.State.Dispatch

namespace Kaleido.State

open Check LineFile Prog Proto

variable {env : Env} {α : Type}

variable {w : World} {e : StateEffect} {disk disk' : Disk} {extent : Extent} {I : World → Prop}

/-- if the program succeeds from `w`, its value and the world it reaches satisfy `Q` -/
abbrev Ends (p : StoreM α) (w : World) (Q : α → World → Prop) : Prop :=
  wp World.disk (fun _ => True) Q (fun _ _ => True) p w

theorem ends_mono {p : StoreM α} {Q Q' : α → World → Prop} (h : Ends p w Q) (hQ : ∀ a w', Q a w' → Q' a w') :
    Ends p w Q' := wp_mono h (fun _ _ _ => trivial) hQ fun _ _ _ => trivial

/-- the record of the effect was appended to the log; the outbox and the idempotency table are as they were -/
structure Logged (e : StateEffect) (disk disk' : Disk) : Prop where
  log : ∃ record : LogRecord, record.effect = e ∧ logRecords disk' = logRecords disk ++ [record]
  outbox : outboxRecords disk' = outboxRecords disk
  idempotency : recordsOf Entry.idempotency? disk' = recordsOf Entry.idempotency? disk

theorem logged_stream {record : LogRecord} (he : record.effect = e) :
    Logged e disk (disk ++ [⟨.stream record, extent⟩]) :=
  ⟨⟨record, he, by simp⟩, by simp [outboxRecords],
    by simp⟩

theorem Logged.append_view (h : Logged e disk disk') {envelope : ProjectionEnvelope} :
    Logged e disk (disk' ++ [⟨.projection envelope, extent⟩]) := by
  obtain ⟨⟨record, he, hlog⟩, hbox, hidem⟩ := h
  exact ⟨⟨record, he, by simpa using hlog⟩,
    by simpa [outboxRecords] using hbox,
    by simpa using hidem⟩

/-- the effects of the log -/
def effectsOf (disk : Disk) : List StateEffect := (logRecords disk).map (·.effect)

theorem Logged.effectsOf (h : Logged e disk disk') :
    effectsOf disk' = effectsOf disk ++ [e] := by
  obtain ⟨record, rfl, hlog⟩ := h.log
  rw [State.effectsOf, hlog, List.map_append]
  rfl

/-- an effect was committed -/
structure Committed (e : StateEffect) (w w' : World) : Prop where
  state : w.store.state.apply e = .ok w'.store.state
  logged : Logged e w.disk w'.disk
  writable : w'.store.recoveryRequired = false
  sides : w.SameSides w'

/-- **A commit.** Every log it passes through holds the record of its effect, which the state accepts; it applied the
effect, or it left the store as it was, or it blocked it. -/
theorem wp_commit (env : Env) (e : StateEffect) (w : World) :
    wp World.disk (fun d => Logged e w.disk d ∧ ∃ next, w.store.state.apply e = .ok next) (fun _ => Committed e w)
      (fun _ w' => w.SameSides w' ∧ (w'.store.recoveryRequired = true ∧ w.store.state.apply e = .ok w'.store.state ∧
        Logged e w.disk w'.disk ∨ w'.store = w.store ∧ (env.Tolerant → w'.disk = w.disk))) (applyTrustedCommit env e) w := by
  have hsides := applyTrustedCommit_sameSides env e w
  suffices h : wp World.disk (fun d => Logged e w.disk d ∧ ∃ next, w.store.state.apply e = .ok next)
      (fun _ w' => w.store.state.apply e = .ok w'.store.state ∧ w'.store.recoveryRequired = false ∧ Logged e w.disk w'.disk)
      (fun _ w' => w'.store.recoveryRequired = true ∧ w.store.state.apply e = .ok w'.store.state ∧
        Logged e w.disk w'.disk ∨ w'.store = w.store ∧ (env.Tolerant → w'.disk = w.disk)) (applyTrustedCommit env e) w by
    refine ⟨h.1, h.2.1, ?_⟩
    have hpost := h.2.2
    generalize applyTrustedCommit env e w = r at hpost hsides
    obtain ⟨_ | _, w'⟩ := r
    · exact ⟨hsides, hpost⟩
    · exact ⟨hpost.1, hpost.2.2, hpost.2.1, hsides⟩
  refine wp_bind (wp_bind (wp_read (wp_require (fun hflag => ?_) fun _ => .inr ⟨rfl, fun _ => rfl⟩)))
  refine wp_bind (wp_read (wp_bind (wp_liftExcept (fun p hplan => ?_) fun _ _ => .inr ⟨rfl, fun _ => rfl⟩)))
  refine wp_bind (wp_liftExcept (fun cursor _ => ?_) fun _ _ => .inr ⟨rfl, fun _ => rfl⟩)
  refine wp_bind (wp_nextTimestamp (fun atMs _ _ => ?_) fun _ _ => .inr ⟨rfl, fun _ => rfl⟩)
  have happly := (plan_eq_ok.1 hplan).2.2.1
  refine wp_bind (wp_appendEntry_any (fun _ => ⟨logged_stream rfl, p.next, happly⟩)
    (wp_bind (wp_modify rfl (wp_bind ?_))) (.inr ⟨rfl, fun _ => rfl⟩)
    fun extent hio => .inr ⟨rfl, fun ht => by cases extent <;> exact absurd (ht _ _ _ hio) (by simp [tolerable])⟩)
  -- what is left only records views
  let I : World → Prop := fun v => v.store.state = p.next ∧ v.store.recoveryRequired = false ∧ Logged e w.disk v.disk
  have hviews : ∀ c : ProjectionKey × ProjectionPayload,
      Keeps World.disk (fun d => Logged e w.disk d ∧ ∃ next, w.store.state.apply e = .ok next) I
      (fun v => v.store.recoveryRequired = true ∧ v.store.state = p.next ∧ Logged e w.disk v.disk)
      (blockOnError (recordProjection env c.1 c.2)) := by
    refine fun c => Keeps.onError (K := fun v => v.store.state = p.next ∧ Logged e w.disk v.disk) (fun _ => rfl)
      (fun _ hv => ⟨rfl, hv⟩) ?_
    refine keeps_recordProjection env (fun _ hv => ⟨hv.1, hv.2.2⟩) (fun _ _ v hv => ?_) (fun _ _ hv => hv) _ _
    exact wp_appendEntry_any (fun _ => ⟨hv.2.2.append_view, p.next, happly⟩) ⟨hv.1, hv.2.1, hv.2.2.append_view⟩
      ⟨hv.1, hv.2.2⟩ fun _ _ => ⟨hv.1, hv.2.2.append_view⟩
  exact wp_post (Keeps.forEach hviews p.candidates _ ⟨rfl, hflag, logged_stream rfl⟩)
    (fun _ v hv => wp_pure ⟨hv.1 ▸ happly, hv.2⟩) fun _ _ hE => .inl ⟨hE.1, hE.2.1 ▸ happly, hE.2.2⟩

theorem ends_commit (e : StateEffect) (w : World) : Ends (applyTrustedCommit env e) w fun _ => Committed e w :=
  wp_mono (wp_commit env e w) (fun _ _ _ => trivial) (fun _ _ h => h) fun _ _ _ => trivial

/-! ## Growth -/

/-- the acknowledgements of one command -/
def acksOf (s : CanonicalState) (commandId : CommandId) : List CommandAck :=
  s.acks.filter fun ack => ack.commandId = commandId

/-- local acceptance -/
def isAcceptedLocally : CommandOutcome → Bool
  | .acceptedLocally _ => true
  | _ => false

/-- the step added the acknowledgements, lost no key, left the outbox alone and did not block the store -/
structure Grew (acks : List CommandAck) (w w' : World) : Prop where
  acks : w'.store.state.acks = w.store.state.acks ++ acks
  idempotency : ∀ (k : String) c, w.store.idempotency[k]? = some c → w'.store.idempotency[k]? = some c
  boxes : w'.store.deviceOutbox = w.store.deviceOutbox
  writable : w.store.recoveryRequired = false → w'.store.recoveryRequired = false

theorem Grew.refl (w : World) : Grew [] w w := ⟨by simp, fun _ _ h => h, rfl, fun h => h⟩

theorem Grew.trans {a b : List CommandAck} {w₁ w₂ w₃ : World} (h : Grew a w₁ w₂) (h' : Grew b w₂ w₃) :
    Grew (a ++ b) w₁ w₃ :=
  ⟨by rw [h'.acks, h.acks, List.append_assoc], fun k c hk => h'.idempotency k c (h.idempotency k c hk),
    h'.boxes.trans h.boxes, fun hw => h'.writable (h.writable hw)⟩

theorem Committed.grew {w' : World} (h : Committed e w w') : Grew (acknowledgements [e]) w w' := by
  refine ⟨?_, fun k c hk => by rw [h.sides.idempotency]; exact hk, h.sides.deviceOutbox, fun _ => h.writable⟩
  rw [CanonicalState.apply_acks h.state]
  cases e <;> rfl

theorem wp_apply (e : StateEffect) (w : World) : Ends (apply env e) w fun _ => Committed e w :=
  wp_bind (wp_bind (wp_require (fun _ => ends_mono (ends_commit e w) fun _ _ h => wp_pure h) fun _ => trivial))

theorem acknowledgements_cons (e : StateEffect) (l : List StateEffect) :
    acknowledgements (e :: l) = acknowledgements [e] ++ acknowledgements l := by
  rw [← List.singleton_append, acknowledgements, List.filterMap_append]
  rfl

/-- an invariant that looks at the state only, and survives what is appended to the files -/
def Stable (I : World → Prop) : Prop :=
  ∀ w w', w'.store.state = w.store.state → w.disk <+: w'.disk → I w → I w'

theorem Stable.appendEntry (hI : Stable I) (path : String) (entry : Entry) :
    Keeps World.disk (fun _ => True) I I (appendEntry env path entry) := fun w h =>
  wp_appendEntry_any (fun _ => trivial) (hI w _ rfl (List.prefix_append _ _) h) (hI w _ rfl List.prefix_rfl h)
    fun _ _ => hI w _ rfl (List.prefix_append _ _) h

theorem Stable.appendOutbox (hI : Stable I) (record : OutboxRecord) :
    Keeps World.disk (fun _ => True) I I (appendOutbox env record) :=
  Keeps.bind (hI.appendEntry _ _) fun _ => Keeps.modify (fun _ => rfl) fun w h => hI w _ rfl List.prefix_rfl h

variable (env) in
/-- the walk of a stable invariant that the committed effects keep which satisfy `P`; acknowledgements and queue entries
always do -/
def Stable.walkOn {I : World → Prop} (hI : Stable I) (P : StateEffect → Prop) (hacks : ∀ ack, P (.commandAcknowledged ack))
    (hqueue : ∀ entry, P (.queueEntryUpserted entry))
    (hcommit : ∀ e w w', P e → I w → w.store.state.apply e = .ok w'.store.state → Logged e w.disk w'.disk → I w') :
    Walk env where
  files _ := True
  inv := I
  failed := I
  effect := P
  command _ := True
  record _ := True
  envelope _ := True
  weaken _ h := h
  block w h := hI w _ rfl List.prefix_rfl h
  tick w h := hI w _ rfl List.prefix_rfl h
  content w _ h := hI w _ rfl List.prefix_rfl h
  acks := hacks
  queued _ _ _ _ _ := hqueue _
  claimed _ _ _ _ _ _ _ := hqueue _
  admitted _ _ _ _ _ _ _ := trivial
  submitted _ _ := trivial
  recovered _ _ _ _ := trivial
  commit e he w h := by
    obtain ⟨hext, -, hpost⟩ := wp_commit env e w
    refine ⟨hext, fun _ _ _ _ => trivial, ?_⟩
    generalize applyTrustedCommit env e w = r at hext hpost
    obtain ⟨_ | _, w'⟩ := r
    · rcases hpost.2 with ⟨-, happly, hlogged⟩ | ⟨hsame, -⟩
      · exact hcommit e w w' he h happly hlogged
      · exact hI w w' (hsame ▸ rfl) hext h
    · exact hcommit e w w' he h hpost.state hpost.logged
  idempotency w _ _ h _ := wp_bind (wp_modify rfl (hI.appendEntry _ _ _ (hI w _ rfl List.prefix_rfl h)))
  insert r _ := (keeps_outbox (fun _ => id) hI.appendOutbox).1 r
  claim := (keeps_outbox (fun _ => id) hI.appendOutbox).2.1
  complete := (keeps_outbox (fun _ => id) hI.appendOutbox).2.2

variable (env) in
/-- the walk of a stable invariant that committed effects keep -/
def Stable.walk {I : World → Prop} (hI : Stable I)
    (hcommit : ∀ e w w', I w → w.store.state.apply e = .ok w'.store.state → Logged e w.disk w'.disk → I w') : Walk env :=
  hI.walkOn env (fun _ => True) (fun _ => trivial) (fun _ => trivial) fun e w w' _ => hcommit e w w'

/-- a start that succeeds leaves a process with the invariant, if what it reads has it -/
theorem Walk.load_keeps {W : Walk env} (hI : Stable W.inv)
    (hread : ∀ store expected, readStore env w.disk = .ok (store, expected) → W.inv { w with store := store }) :
    wp World.disk (fun _ => True) (fun _ => W.inv) (fun _ _ => True) (load env) w := by
  refine W.start_keeps (fun _ _ => trivial) (fun _ _ => trivial) trivial (fun store expected hok => ?_)
    fun v _ h => hI v _ rfl List.prefix_rfl h
  exact wp_post (keeps_reconcile env (fun _ h => h) (fun _ _ => hI.appendEntry _ _) (fun v _ h => hI v _ rfl List.prefix_rfl h)
    expected _ (hread store expected hok)) (fun _ _ hq => hq) fun _ _ _ => trivial

/-- the state a log replays to is reached from the one it starts with, effect by effect -/
theorem replay_inv {J : CanonicalState → List LogRecord → Prop}
    (hstep : ∀ s log record next, J s log → s.apply record.effect = .ok next → J next (log ++ [record])) {r r' : Replayed}
    {log records : List LogRecord} (h : J r.state log) (hr : replay r records = .ok r') : J r'.state (log ++ records) := by
  induction records generalizing r log with
  | nil => cases hr; simpa using h
  | cons record rest ih =>
    obtain ⟨mid, hmid, hrest⟩ := bind_eq_ok.1 hr
    obtain ⟨next, _, _, happly, _, _, hr'⟩ := step_eq_ok.1 hmid
    have hmid' : J mid.state (log ++ [record]) := hr' ▸ hstep r.state log record next h happly
    have := ih hmid' hrest
    rwa [List.append_assoc, List.singleton_append] at this

end Kaleido.State
