/-
The durable files of a store (`kaleido-state`, `log.rs`, the readers and writers of `store.rs`, `command_outbox.rs` and
`projection_journal.rs`) and what the store uses from outside the repository.

The disk is the list of everything appended to the four kinds of file, in the order it was appended: one file per stream,
the idempotency table, the device command outbox, and one file per projection key. A single file is the part of the list
that belongs to it. What a crash leaves is a prefix of the list.

`Env` holds what the code takes from outside: SHA-256, the JSON encodings it hashes or sorts by, the readings of the
clock, and what each file append does.
-/
import Kaleido.Lib.LineFile
import Kaleido.State.Canonical

namespace Kaleido.State

open Check LineFile Proto

/-! ## Records -/

/-- `IdempotencyRecord` -/
structure IdempotencyRecord where
  formatVersion : Nat
  keyDigest : String
  commandId : CommandId
  deriving DecidableEq

/-- `OutboxStatus` -/
inductive OutboxStatus where
  | ready | claimed | completed
  deriving DecidableEq

/-- `OutboxRecord` -/
structure OutboxRecord where
  formatVersion : Nat
  keyDigest : String
  requestDigest : String
  envelope : CommandEnvelope
  admissionAck : CommandAck
  status : OutboxStatus
  deriving DecidableEq

/-- one line of a durable file -/
inductive Entry where
  | stream (record : LogRecord)
  | idempotency (record : IdempotencyRecord)
  | outbox (record : OutboxRecord)
  | projection (envelope : ProjectionEnvelope)
  deriving DecidableEq

abbrev Disk := List (Chunk Entry)

/-! ## Outside the repository -/

/-- what a failed append left of its line -/
inductive Fault where
  | nothing
  | part (extent : Extent)
  deriving DecidableEq

structure Env where
  /-- `hex_digest`: SHA-256 in hexadecimal -/
  hexDigest : List UInt8 → String
  /-- `serde_json::to_vec` of a request's lifetime and body -/
  encodeRequest : Option Nat → Command → List UInt8
  /-- `serde_json::to_vec` of a projection key -/
  encodeKey : ProjectionKey → List UInt8
  /-- the readings of the clock, in the order they are taken -/
  clock : Nat → Int
  /-- what each append does, in the order they are attempted; `none` succeeds -/
  io : Nat → Entry → Option Fault

/-- the UTF-8 bytes of a text -/
def utf8 (text : String) : List UInt8 := text.toUTF8.data.toList

theorem utf8_inj {a b : String} (h : utf8 a = utf8 b) : a = b :=
  String.toByteArray_inj.1 (ByteArray.ext (Array.toList_inj.1 h))

/-- `u64::to_be_bytes` -/
def beBytes (n : Nat) : List UInt8 := [7, 6, 5, 4, 3, 2, 1, 0].map fun i => UInt8.ofNat (n / 256 ^ i)

/-- `extend_field`: a field of digested material, preceded by its length -/
def lengthPrefixed (bytes : List UInt8) : List UInt8 := beBytes bytes.length ++ bytes

/-- `valid_digest`: 64 lower-case hexadecimal digits -/
def validDigest (digest : String) : Bool :=
  digest.toList.length == 64 && digest.toList.all fun c => c.isDigit || ('a' ≤ c && c ≤ 'f')

/-! ## Stream files -/

/-- `stream_file_name` keeps ASCII letters and digits, `.`, `_` and `-` -/
def keptInFileName (c : Char) : Bool := c.isAlphanum || c == '.' || c == '_' || c == '-'

/-- `stream_file_name` -/
def streamFileName (stream : StreamKey) : String :=
  let (kind, identifier) := match stream with
    | .host hostId => ("host", hostId.value)
    | .project projectId => ("project", projectId.value)
    | .session sessionId => ("session", sessionId.value)
    | .workflow workflowId => ("workflow", workflowId.value)
  kind ++ "-" ++ String.ofList (identifier.toList.map fun c => if keptInFileName c then c else '_') ++ ".jsonl"

/-- the chunks of one kind of record -/
def chunksOf {β : Type} (select : Entry → Option β) (disk : Disk) : List (Chunk β) :=
  disk.filterMap fun c => (select c.entry).map fun b => ⟨b, c.extent⟩

def Entry.stream? : Entry → Option LogRecord
  | .stream record => some record
  | _ => none

def Entry.idempotency? : Entry → Option IdempotencyRecord
  | .idempotency record => some record
  | _ => none

def Entry.outbox? : Entry → Option OutboxRecord
  | .outbox record => some record
  | _ => none

def Entry.projection? : Entry → Option ProjectionEnvelope
  | .projection envelope => some envelope
  | _ => none

/-- a file read back line by line -/
def readFile {β : Type} (path : String) (chunks : List (Chunk β)) : Except StateError (List β) :=
  (readLines 1 chunks).mapError (.malformedRecord path)

/-- the names of the stream files present, in the order `read_streams` sorts them -/
def streamFileNames (disk : Disk) : List String :=
  (((chunksOf Entry.stream? disk).map fun c => streamFileName c.entry.stream).dedup).insertionSort (· ≤ ·)

/-- `read_streams`: each file is read and verified on its own -/
def readStreams (disk : Disk) : Except StateError (List (List LogRecord)) :=
  (streamFileNames disk).mapM fun name => do
    let records ← readFile name ((chunksOf Entry.stream? disk).filter fun c => streamFileName c.entry.stream = name)
    contract (verifyContiguous records)
    return records

/-- the order `read_all` sorts by: timestamp, file name, cursor -/
def appendedBefore (left right : LogRecord) : Bool :=
  if left.appendedAtMs ≠ right.appendedAtMs then left.appendedAtMs ≤ right.appendedAtMs
  else if streamFileName left.stream ≠ streamFileName right.stream then
    streamFileName left.stream ≤ streamFileName right.stream
  else left.cursor.seq ≤ right.cursor.seq

/-- `read_all`: every stream, in one deterministic order -/
def readAll (disk : Disk) : Except StateError (List LogRecord) := do
  let perStream ← readStreams disk
  return perStream.flatten.insertionSort fun left right => appendedBefore left right

/-! ## The idempotency table -/

def idempotencyFile : String := "idempotency.jsonl"
def idempotencyFormatVersion : Nat := 2

/-- one line of the table: well formed, and never a second command for a key -/
def readIdempotencyRecord (line : Nat) (table : OrdMap String CommandId) (record : IdempotencyRecord) :
    Except StateError (OrdMap String CommandId) := do
  ensure (record.formatVersion = idempotencyFormatVersion ∧ validDigest record.keyDigest ∧ ¬ record.commandId.isEmpty)
    (.malformedRecord idempotencyFile line)
  ensure (¬ table[record.keyDigest]?.any fun existing => existing ≠ record.commandId)
    (.malformedRecord idempotencyFile line)
  return table.insert record.keyDigest record.commandId

/-- the lines of the table, from line `n` on -/
def readIdempotencyFrom : Nat → OrdMap String CommandId → List IdempotencyRecord →
    Except StateError (OrdMap String CommandId)
  | _, table, [] => .ok table
  | n, table, record :: rest => do
    let table ← readIdempotencyRecord n table record
    readIdempotencyFrom (n + 1) table rest

/-- `read_idempotency` -/
def readIdempotency (disk : Disk) : Except StateError (OrdMap String CommandId) := do
  let records ← readFile idempotencyFile (chunksOf Entry.idempotency? disk)
  readIdempotencyFrom 1 ∅ records

end Kaleido.State
