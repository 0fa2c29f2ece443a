/-
The projection journal (`kaleido-state`, `projection_journal.rs`): for every projection key, the complete views recorded
for it, with contiguous cursors from the start.

A journal is the list of its entries in the order they were recorded; a key's history is the part of it with that key.
Appending an entry to its file is a step of the store; what is here is which entry a view becomes (`next`), how the files
are read back and verified (`readJournal`), how a journal is compared with the one the log implies (`diverges`,
`missing`), and what a subscriber is replayed (`replay`).
-/
import Kaleido.State.Disk

namespace Kaleido.State

open Check LineFile Proto

def defaultRetentionEntries : Nat := 256

/-- `ProjectionJournal` -/
structure ProjectionJournal where
  retentionEntries : Nat := defaultRetentionEntries
  entries : List ProjectionEnvelope := []
  deriving DecidableEq

/-- `ProjectionReplay` -/
structure ProjectionReplay where
  ack : ProjectionSubscribeAck
  envelopes : List ProjectionEnvelope
  deriving DecidableEq

namespace ProjectionJournal

/-- a key's history -/
def entriesOf (j : ProjectionJournal) (key : ProjectionKey) : List ProjectionEnvelope :=
  j.entries.filter fun entry => entry.key = key

/-- the keys that have a history -/
def keys (j : ProjectionJournal) : List ProjectionKey := (j.entries.map (·.key)).dedup

/-- `current` -/
def current (j : ProjectionJournal) (key : ProjectionKey) : Option ProjectionEnvelope := (j.entriesOf key).getLast?

/-- `head` -/
def head (j : ProjectionJournal) (key : ProjectionKey) : Option Cursor := (j.current key).map (·.cursor)

/-- `floor`: the oldest cursor still retained -/
def floor (j : ProjectionJournal) (key : ProjectionKey) : Option Cursor :=
  let entries := j.entriesOf key
  entries[entries.length - j.retentionEntries]?.map (·.cursor)

/-- the cursor after the key's head -/
def nextCursor (j : ProjectionJournal) (key : ProjectionKey) : Except StateError Cursor :=
  match j.head key with
  | some previous => contract previous.next
  | none => .ok Cursor.start

/-- the entry `record` appends: none when the view is the current one -/
def next (j : ProjectionJournal) (key : ProjectionKey) (payload : ProjectionPayload) :
    Except StateError (Option ProjectionEnvelope) := do
  contract (payload.validateForKey key)
  if (j.current key).any fun current => current.payload = payload then return none
  let cursor ← j.nextCursor key
  let envelope : ProjectionEnvelope := ⟨projectionVersion, key, cursor, payload⟩
  contract envelope.validateForTransport
  return some envelope

def push (j : ProjectionJournal) (envelope : ProjectionEnvelope) : ProjectionJournal :=
  { j with entries := j.entries ++ [envelope] }

/-- `record` on a journal kept in memory only -/
def record (j : ProjectionJournal) (key : ProjectionKey) (payload : ProjectionPayload) :
    Except StateError ProjectionJournal := do
  match ← j.next key payload with
  | some envelope => return j.push envelope
  | none => return j

/-- `record` of several views in order -/
def recordAll : ProjectionJournal → List (ProjectionKey × ProjectionPayload) → Except StateError ProjectionJournal
  | j, [] => .ok j
  | j, (key, payload) :: rest => do
    let j ← j.record key payload
    j.recordAll rest

/-! ## Replay to a subscriber -/

/-- `rejected` -/
def rejected (request : ProjectionSubscribe) (code : ErrorCode) (retriable : Bool) (atMs : Int) : ProjectionReplay :=
  ⟨⟨request.key, .rejected ⟨code, retriable, none, atMs⟩⟩, []⟩

/-- `replay`: the decision and the views that follow it -/
def replay (j : ProjectionJournal) (request : ProjectionSubscribe) (atMs : Int) : Except StateError ProjectionReplay := do
  contract request.key.validate
  match j.head request.key, j.floor request.key with
  | none, _ => return rejected request .notFound false atMs
  | some _, none => .error (.projectionJournalDiverged request.key)
  | some head, some floor => do
    let ack ← contract (decideProjectionSubscription request floor head atMs)
    let entries := j.entriesOf request.key
    return ⟨ack, match ack.outcome with
      | .currentFollows currentCursor => (entries.find? fun entry => entry.cursor = currentCursor).toList
      | .resumed fromCursor => entries.filter fun entry => fromCursor.seq ≤ entry.cursor.seq
      | .rejected _ => []⟩

/-! ## What an operation recorded -/

/-- `checkpoint`: how long each history is -/
def checkpoint (j : ProjectionJournal) : ProjectionKey → Nat := fun key => (j.entriesOf key).length

/-- `changes_since`: the entries recorded after the checkpoint, sorted by their encoded key -/
def changesSince (env : Env) (j : ProjectionJournal) (checkpoint : ProjectionKey → Nat) : List ProjectionEnvelope :=
  sortByKey (fun entry => env.encodeKey entry.key) (j.keys.flatMap fun key => (j.entriesOf key).drop (checkpoint key))

/-! ## Comparison with the log -/

/-- `reconcile`: the first key whose history is not a prefix of the expected one -/
def diverges (j expected : ProjectionJournal) : Option ProjectionKey :=
  j.keys.find? fun key => !(j.entriesOf key).isPrefixOf (expected.entriesOf key)

/-- `reconcile`: the expected entries that are missing -/
def missing (j expected : ProjectionJournal) : List ProjectionEnvelope :=
  expected.keys.flatMap fun key => (expected.entriesOf key).drop (j.entriesOf key).length

end ProjectionJournal

/-! ## Reading the files back -/

/-- the entries of one file: each valid, cursors contiguous from the start -/
def verifyHistory : Option ProjectionEnvelope → List ProjectionEnvelope → Except StateError Unit
  | _, [] => .ok ()
  | previous, envelope :: rest => do
    contract envelope.validateForTransport
    match previous with
    | some previous => do
      ensure (envelope.key = previous.key) (.contract .mixedProjectionKeys)
      ensure (envelope.cursor ≠ previous.cursor) (.contract (.cursorRepeated envelope.cursor.seq))
      let expected ← contract previous.cursor.next
      ensure (envelope.cursor = expected) (.contract (.cursorGap expected.seq envelope.cursor.seq))
    | none =>
      ensure (envelope.cursor = Cursor.start) (.contract (.cursorGap Cursor.start.seq envelope.cursor.seq))
    verifyHistory (some envelope) rest

/-- `path_for`: the digest of the encoded key -/
def projectionFileName (env : Env) (key : ProjectionKey) : String := env.hexDigest (env.encodeKey key) ++ ".jsonl"

/-- `read_all`: one file per key, read and verified on its own -/
def readJournal (env : Env) (disk : Disk) : Except StateError ProjectionJournal := do
  let chunks := chunksOf Entry.projection? disk
  checkAll (fun key => do
    let history ← readFile (projectionFileName env key) (chunks.filter fun c => c.entry.key = key)
    verifyHistory none history) ((chunks.map (·.entry.key)).dedup)
  return { entries := chunks.map (·.entry) }

end Kaleido.State
