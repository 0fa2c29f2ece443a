/-
The store's memory and its single write path (`kaleido-state`, `store.rs`).

An operation of the store is a program (`Prog`) over a `World`: the store in memory, the disk, the bodies, and how many
clock readings and appends there have been. `appendEntry` is the only step that writes a durable file; what it does is
decided by the environment. `applyTrustedCommit` is the write path of every effect: check it, compute the next state and
the views it refreshes, append the record, and only then record the views in the projection journal.
-/
import Kaleido.Lib.Prog
import Kaleido.State.Projection
import Kaleido.State.Outbox
import Kaleido.State.Journal
import Kaleido.State.Content

namespace Kaleido.State

open Check LineFile Prog Proto

/-! ## The world of an operation -/

/-- `CanonicalStore`, without the handles of its files -/
structure Store where
  projections : ProjectionJournal := {}
  deviceOutbox : Outbox := ∅
  state : CanonicalState := {}
  cursors : StreamKey → Option Cursor := fun _ => none
  lastAppendedAtMs : Int := i64Min
  idempotency : OrdMap String CommandId := ∅
  recoveryRequired : Bool := false

structure World where
  store : Store := {}
  disk : Disk := []
  content : ContentStore := {}
  /-- clock readings taken so far -/
  ticks : Nat := 0
  /-- appends attempted so far -/
  appends : Nat := 0

abbrev StoreM := Prog World StateError

/-- change the store in memory -/
def modifyStore (f : Store → Store) : StoreM Unit := modify fun w => { w with store := f w.store }

/-- the store needs a reload before it writes again -/
def Store.block (s : Store) : Store := { s with recoveryRequired := true }

/-- `recovery_required = true`, and the error is returned -/
def blockOnError {α : Type} (p : StoreM α) : StoreM α := onError p fun w => { w with store := w.store.block }

/-- `ensure_writable` -/
def ensureWritable : StoreM Unit := do
  let store ← read (·.store)
  require (store.recoveryRequired = false) .recoveryRequired

variable (env : Env)

/-- one append to a durable file -/
def appendEntry (path : String) (entry : Entry) : StoreM Unit := fun w =>
  let w' := { w with appends := w.appends + 1 }
  match env.io w.appends entry with
  | none => (.ok (), { w' with disk := w.disk ++ [⟨entry, .whole⟩] })
  | some .nothing => (.error (.io path), w')
  | some (.part extent) => (.error (.io path), { w' with disk := w.disk ++ [⟨entry, extent⟩] })

/-- `now_ms` -/
def nowMs : StoreM Int := fun w => (.ok (env.clock w.ticks), { w with ticks := w.ticks + 1 })

/-! ## Applying an effect -/

/-- `StateCommit` -/
structure StateCommit where
  records : List LogRecord
  projections : List ProjectionEnvelope
  deriving DecidableEq

/-- the stream of the first host -/
def hostStream (s : CanonicalState) : Except StateError StreamKey :=
  match s.hosts.vals with
  | [] => .error .unknownHost
  | host :: _ => .ok (.host host.id)

/-- `stream_for`: the one stream that owns the effect -/
def streamFor (s : CanonicalState) : StateEffect → Except StateError StreamKey
  | .hostUpserted host => .ok (.host host.id)
  | .runtimeUpserted runtime => .ok (.host runtime.hostId)
  | .sessionUpserted session => .ok (.session session.id)
  | .sessionStatusChanged sessionId _ => .ok (.session sessionId)
  | .turnUpserted turn => .ok (.session turn.sessionId)
  | .itemUpserted item => .ok (.session item.sessionId)
  | .queueEntryUpserted entry => .ok (.session entry.sessionId)
  | .queueReordered sessionId _ => .ok (.session sessionId)
  | .attentionUpserted item => match item.sessionId with
    | some sessionId => .ok (.session sessionId)
    | none => hostStream s
  | .diagnosticRecorded diagnostic => match diagnostic.sessionId with
    | some sessionId => .ok (.session sessionId)
    | none => hostStream s
  | .capabilitiesUpdated _ | .projectUpserted _ | .commandAcknowledged _ => hostStream s
  | .workflowUpserted workflow => .ok (.workflow workflow.id)
  | .stepUpserted step => .ok (.workflow step.workflowId)
  | .artifactUpserted artifact => .ok (.workflow artifact.workflowId)

/-- the views of the keys, in order -/
def buildAll (s : CanonicalState) : List ProjectionKey → Except StateError (List (ProjectionKey × ProjectionPayload))
  | [] => .ok []
  | key :: rest => do
    let payload ← build s key
    let candidates ← buildAll s rest
    return (key, payload) :: candidates

/-- what an effect will write -/
structure Plan where
  stream : StreamKey
  next : CanonicalState
  candidates : List (ProjectionKey × ProjectionPayload)

/-- the checks of an effect against a state, before anything is written -/
def plan (s : CanonicalState) (effect : StateEffect) : Except StateError Plan := do
  contract effect.validateForLog
  let stream ← streamFor s effect
  let next ← s.apply effect
  let candidates ← buildAll next (affectedKeys s next effect)
  return ⟨stream, next, candidates⟩

/-- the cursor after the stream's head -/
def Store.nextCursor (s : Store) (stream : StreamKey) : Except StateError Cursor :=
  match s.cursors stream with
  | some previous => contract previous.next
  | none => .ok Cursor.start

/-- `next_timestamp`: strictly after the last one -/
def nextTimestamp : StoreM Int := do
  let now ← nowMs env
  let last ← read (·.store.lastAppendedAtMs)
  if now > last then return now
  require (last + 1 ≤ i64Max) .timestampOverflow
  return last + 1

/-- the store after a record is appended -/
def Store.advance (s : Store) (next : CanonicalState) (record : LogRecord) : Store :=
  { s with
    state := next
    cursors := Function.update s.cursors record.stream (some record.cursor)
    lastAppendedAtMs := record.appendedAtMs }

/-- `ProjectionJournal::record` of the store's own journal -/
def recordProjection (key : ProjectionKey) (payload : ProjectionPayload) : StoreM (Option ProjectionEnvelope) := do
  let projections ← read (·.store.projections)
  match ← liftExcept (projections.next key payload) with
  | none => return none
  | some envelope => do
    appendEntry env (projectionFileName env key) (.projection envelope)
    modifyStore fun s => { s with projections := s.projections.push envelope }
    return some envelope

/-- `apply_trusted_commit` -/
def applyTrustedCommit (effect : StateEffect) : StoreM StateCommit := do
  ensureWritable
  let store ← read (·.store)
  let plan ← liftExcept (plan store.state effect)
  let cursor ← liftExcept (store.nextCursor plan.stream)
  let appendedAtMs ← nextTimestamp env
  let record : LogRecord := ⟨cursor, plan.stream, appendedAtMs, effect⟩
  appendEntry env (streamFileName plan.stream) (.stream record)
  modifyStore fun s => s.advance plan.next record
  let entries ← forEach (fun candidate => blockOnError (recordProjection env candidate.1 candidate.2)) plan.candidates
  return ⟨[record], entries.filterMap id⟩

/-- an acknowledgement of local acceptance, which only the broker's own paths may write -/
def isLocalAcceptance : StateEffect → Bool
  | .commandAcknowledged ack => match ack.outcome with
    | .acceptedLocally _ => true
    | _ => false
  | _ => false

/-- `apply_commit` -/
def applyCommit (effect : StateEffect) : StoreM StateCommit := do
  require (isLocalAcceptance effect = false) .untrustedLocalAcknowledgement
  applyTrustedCommit env effect

/-- `apply` -/
def apply (effect : StateEffect) : StoreM (List LogRecord) := do
  let commit ← applyCommit env effect
  return commit.records

/-- `apply_trusted` -/
def applyTrusted (effect : StateEffect) : StoreM (List LogRecord) := do
  let commit ← applyTrustedCommit env effect
  return commit.records

/-- `apply_all` -/
def applyAll (effects : List StateEffect) : StoreM (List LogRecord) := do
  let records ← forEach (apply env) effects
  return records.flatten

/-! ## The side files -/

/-- `record_idempotency`: memory first, then the file -/
def recordIdempotency (key : String) (commandId : CommandId) : StoreM Unit := do
  modifyStore fun s => { s with idempotency := s.idempotency.insert key commandId }
  appendEntry env idempotencyFile (.idempotency ⟨idempotencyFormatVersion, key, commandId⟩)

/-- an outbox record is appended, then kept in memory -/
def appendOutbox (record : OutboxRecord) : StoreM Unit := do
  appendEntry env outboxFile (.outbox record)
  modifyStore fun s => { s with deviceOutbox := s.deviceOutbox.insert record.keyDigest record }

/-- `insert_initial` -/
def insertInitial (record : OutboxRecord) : StoreM DispatchTicket := do
  let boxes ← read (·.store.deviceOutbox)
  liftExcept (boxes.checkInitial record)
  appendOutbox env record
  return ticketFor env record

/-- `claim` -/
def claimRecord (ticket : DispatchTicket) : StoreM CommandEnvelope := do
  let boxes ← read (·.store.deviceOutbox)
  let claimed ← liftExcept (boxes.claim env ticket)
  appendOutbox env claimed
  return claimed.envelope

/-- `complete` -/
def completeRecord (ticket : DispatchTicket) : StoreM Unit := do
  let boxes ← read (·.store.deviceOutbox)
  let completed ← liftExcept (boxes.complete env ticket)
  appendOutbox env completed

/-! ## What a commit leaves alone -/

/-- recording a view keeps what the append of a view and a longer history keep -/
theorem keeps_recordProjection {C : Disk → Prop} {I J : World → Prop} (hIJ : ∀ w, I w → J w)
    (hview : ∀ path envelope, Keeps World.disk C I J (appendEntry env path (.projection envelope)))
    (hpush : ∀ w envelope, I w → I { w with store := { w.store with projections := w.store.projections.push envelope } })
    (key : ProjectionKey) (payload : ProjectionPayload) : Keeps World.disk C I J (recordProjection env key payload) := by
  refine Keeps.bind Keeps.read fun projections => Keeps.bind (Keeps.liftExcept hIJ) fun next => ?_
  cases next with
  | none => exact Keeps.pure
  | some envelope =>
    exact Keeps.bind (hview _ _) fun _ => Keeps.bind (Keeps.modify (fun _ => rfl) fun w h => hpush w envelope h) fun _ => Keeps.pure

/-- an invariant that stream and projection appends keep, and that does not look at the log part of the store, is kept by
a commit -/
theorem keeps_applyTrustedCommit {C : Disk → Prop} {I J : World → Prop} {effect : StateEffect} (hIJ : ∀ w, I w → J w)
    (hblock : ∀ w, J w → J { w with store := w.store.block }) (htick : ∀ w, I w → I { w with ticks := w.ticks + 1 })
    (hstream : ∀ path record, record.effect = effect → Keeps World.disk C I J (appendEntry env path (.stream record)))
    (hview : ∀ path envelope, Keeps World.disk C I J (appendEntry env path (.projection envelope)))
    (hstore : ∀ w store, I w → store.deviceOutbox = w.store.deviceOutbox → store.idempotency = w.store.idempotency →
      I { w with store := store }) : Keeps World.disk C I J (applyTrustedCommit env effect) := by
  have hmodify : ∀ {f : Store → Store}, (∀ s, (f s).deviceOutbox = s.deviceOutbox ∧ (f s).idempotency = s.idempotency) →
      Keeps World.disk C I J (modifyStore f) := fun hf =>
    Keeps.modify (fun _ => rfl) fun w h => hstore w _ h (hf w.store).1 (hf w.store).2
  have htime : Keeps World.disk C I J (nextTimestamp env) :=
    Keeps.bind (fun w h => wp_of_log_eq rfl (htick w h)) fun _ => Keeps.bind Keeps.read fun _ =>
      Keeps.ite (fun _ => Keeps.pure) fun _ => Keeps.bind (Keeps.require hIJ) fun _ => Keeps.pure
  have hviews : ∀ candidate : ProjectionKey × ProjectionPayload,
      Keeps World.disk C I J (blockOnError (recordProjection env candidate.1 candidate.2)) := fun _ =>
    Keeps.onError (fun _ => rfl) hblock (keeps_recordProjection env hIJ hview (fun w _ h => hstore w _ h rfl rfl) _ _)
  exact Keeps.bind (Keeps.bind Keeps.read fun _ => Keeps.require hIJ) fun _ => Keeps.bind Keeps.read fun _ =>
    Keeps.bind (Keeps.liftExcept hIJ) fun _ => Keeps.bind (Keeps.liftExcept hIJ) fun _ => Keeps.bind htime fun _ =>
    Keeps.bind (hstream _ _ rfl) fun _ => Keeps.bind (hmodify fun _ => ⟨rfl, rfl⟩) fun _ =>
    Keeps.bind (Keeps.forEach hviews _) fun _ => Keeps.pure

/-- an append changes only the disk -/
theorem keeps_appendEntry {I : World → Prop}
    (h : ∀ w disk appends, I w → I { w with disk := disk, appends := appends }) (path : String) (entry : Entry) :
    Keeps World.disk (fun _ => True) I I (appendEntry env path entry) := by
  intro w hw
  unfold wp appendEntry
  cases env.io w.appends entry with
  | none => exact ⟨List.prefix_append _ _, fun _ _ _ _ => trivial, h w _ _ hw⟩
  | some fault =>
    cases fault with
    | nothing => exact ⟨List.prefix_rfl, fun _ _ _ _ => trivial, h w w.disk _ hw⟩
    | part extent => exact ⟨List.prefix_append _ _, fun _ _ _ _ => trivial, h w _ _ hw⟩

/-- the parts of the world that an effect does not touch -/
structure World.SameSides (w w' : World) : Prop where
  idempotency : w'.store.idempotency = w.store.idempotency
  deviceOutbox : w'.store.deviceOutbox = w.store.deviceOutbox
  content : w'.content = w.content

theorem applyTrustedCommit_sameSides (effect : StateEffect) (w : World) :
    w.SameSides (applyTrustedCommit env effect w).2 := by
  have happend : ∀ path entry, Keeps World.disk (fun _ => True) w.SameSides w.SameSides (appendEntry env path entry) :=
    keeps_appendEntry env fun _ _ _ h => ⟨h.1, h.2, h.3⟩
  exact (keeps_applyTrustedCommit env (fun _ h => h) (fun _ h => ⟨h.1, h.2, h.3⟩) (fun _ h => ⟨h.1, h.2, h.3⟩)
    (fun _ _ _ => happend _ _) (fun _ _ => happend _ _)
    (fun _ _ h hbox hidem => ⟨hidem.trans h.1, hbox.trans h.2, h.3⟩)).final ⟨rfl, rfl, rfl⟩

end Kaleido.State
