/-
The broker (`kaleido-hostd`, `broker.rs`): the store behind one lock, and the fanout of its projections.

Every operation holds the lock while it writes and while it publishes, so a step of the broker is one operation. A
subscription registers a mailbox and takes the journal's replay under the same lock; the mailbox stays with its reader
after the broker has dropped it.
-/
import Kaleido.State.Store

namespace Kaleido.Hostd

open Check Prog Proto State

/-! ## Mailboxes -/

/-- `SubscriptionEvent` -/
inductive SubscriptionEvent where
  | projection (envelope : ProjectionEnvelope)
  | closed (error : CanonicalError)
  deriving DecidableEq

/-- `MailboxState` -/
structure Mailbox where
  events : List SubscriptionEvent
  capacity : Nat
  closed : Bool

/-- `push`: a full mailbox is emptied and closed; whether the envelope was taken -/
def Mailbox.push (m : Mailbox) (envelope : ProjectionEnvelope) (atMs : Int) : Mailbox × Bool :=
  if m.closed then (m, false)
  else if m.capacity ≤ m.events.length then
    ({ m with events := [.closed ⟨.cursorGap, true, none, atMs⟩], closed := true }, false)
  else ({ m with events := m.events ++ [.projection envelope] }, true)

/-- `recv_timeout` of a mailbox that nobody pushes to in the meantime -/
def Mailbox.recv (m : Mailbox) : Option SubscriptionEvent × Mailbox :=
  match m.events with
  | [] => (none, m)
  | event :: rest => (some event, { m with events := rest })

/-! ## The broker -/

/-- `BrokerError` -/
inductive BrokerError where
  | state (error : StateError)
  | invalidSubscriptionCapacity
  | subscriptionIdExhausted
  | commandExpiryOverflow
  | hostIdentityMismatch
  deriving DecidableEq

/-- `BrokerState`, with the mailboxes by the token of their subscription: a reader keeps its mailbox when the broker drops
the subscriber -/
structure Broker where
  world : World := {}
  subscribers : OrdMap Nat ProjectionKey := ∅
  mailboxes : OrdMap Nat Mailbox := ∅
  nextSubscriptionToken : Nat := 1
  hostId : HostId
  authenticatedReachability : HostReachability := .offline

abbrev BrokerM := Prog Broker BrokerError

/-- an operation of the store -/
def onStore {α : Type} (p : StoreM α) : BrokerM α := fun b =>
  match p b.world with
  | (.ok a, w) => (.ok a, { b with world := w })
  | (.error e, w) => (.error (.state e), { b with world := w })

/-- one envelope goes to the subscribers of its key; those whose mailbox did not take it are to be dropped -/
def publishOne (atMs : Int) (b : Broker × List Nat) (envelope : ProjectionEnvelope) : Broker × List Nat :=
  (b.1.subscribers.toList.filter fun p => p.2 = envelope.key).foldl (fun b p =>
    match b.1.mailboxes[p.1]? with
    | none => b
    | some mailbox =>
      let (mailbox, taken) := mailbox.push envelope atMs
      ({ b.1 with mailboxes := b.1.mailboxes.insert p.1 mailbox }, if taken then b.2 else b.2 ++ [p.1])) b

/-- `publish` -/
def publish (envelopes : List ProjectionEnvelope) (atMs : Int) (b : Broker) : Broker :=
  let (b, closed) := envelopes.foldl (publishOne atMs) (b, [])
  { b with subscribers := closed.foldl (fun subscribers token => subscribers.erase token) b.subscribers }

/-- an operation of the store whose projections are published when it succeeds -/
def publishing {α : Type} (p : StoreM α) (projections : α → List ProjectionEnvelope) (atMs : Int) : BrokerM α := do
  let a ← onStore p
  modify (publish (projections a) atMs)
  return a

variable (env : Env)

/-- the effect that `apply_effect` applies: a host keeps the reachability that the broker has authenticated -/
def ownEffect (b : Broker) : StateEffect → Except BrokerError StateEffect
  | .hostUpserted host =>
    if host.id ≠ b.hostId then .error .hostIdentityMismatch
    else .ok (.hostUpserted { host with reachability := b.authenticatedReachability })
  | effect => .ok effect

/-- `apply_effect` -/
def Broker.applyEffect (effect : StateEffect) (atMs : Int) : BrokerM (List ProjectionEnvelope) := do
  let b ← read id
  let effect ← liftExcept (ownEffect b effect)
  let commit ← publishing (applyCommit env effect) (·.projections) atMs
  return commit.projections

/-- `apply_effects` -/
def Broker.applyEffects (effects : List StateEffect) (atMs : Int) : BrokerM (List ProjectionEnvelope) := do
  let published ← forEach (fun effect => Broker.applyEffect env effect atMs) effects
  return published.flatten

/-- `subscribe_with_capacity`: the token of the subscription and the replay -/
def Broker.subscribeWithCapacity (request : ProjectionSubscribe) (atMs : Int) (capacity : Nat) :
    BrokerM (Nat × ProjectionReplay) := do
  require (capacity ≠ 0) .invalidSubscriptionCapacity
  let token ← read (·.nextSubscriptionToken)
  require (token + 1 ≤ u64Max) .subscriptionIdExhausted
  modify fun b => { b with
    nextSubscriptionToken := token + 1
    subscribers := b.subscribers.insert token request.key
    mailboxes := b.mailboxes.insert token ⟨[], capacity, false⟩ }
  let b ← read id
  match b.world.store.projections.replay request atMs with
  | .error e => fail (.state e)
  | .ok replay => do
    match replay.ack.outcome with
    | .rejected _ => modify fun b => { b with subscribers := b.subscribers.erase token }
    | _ => pure ()
    return (token, replay)

/-- `recv_timeout` of a subscription -/
def Broker.recv (token : Nat) : BrokerM (Option SubscriptionEvent) := fun b =>
  match b.mailboxes[token]? with
  | none => (.ok none, b)
  | some mailbox => (.ok mailbox.recv.1, { b with mailboxes := b.mailboxes.insert token mailbox.recv.2 })

/-- `unsubscribe` -/
def Broker.unsubscribe (token : Nat) : BrokerM Unit := modify fun b => { b with subscribers := b.subscribers.erase token }

/-! ## Device commands -/

/-- what the command identifier of a device's request is minted from -/
def deviceSeed (deviceId : DeviceId) (idempotencyKey : String) : String :=
  toString deviceId.value.utf8ByteSize ++ ":" ++ deviceId.value ++ "|" ++ toString idempotencyKey.utf8ByteSize ++ ":" ++
    idempotencyKey

/-- the absolute expiry of a request: `i64::try_from`, then `checked_add` -/
def deviceExpiry (nowMs : Int) : Option Nat → Except BrokerError (Option Int)
  | none => .ok none
  | some ttlMs =>
    if (ttlMs : Int) ≤ i64Max ∧ nowMs + (ttlMs : Int) ≤ i64Max then .ok (some (nowMs + (ttlMs : Int)))
    else .error .commandExpiryOverflow

/-- `device_envelope`; `mint` is `IdentityMint::command_id` -/
def deviceEnvelope (mint : String → CommandId) (deviceId : DeviceId) (request : DeviceCommandRequest) (nowMs : Int) :
    Except BrokerError CommandEnvelope := do
  let expiresAtMs ← deviceExpiry nowMs request.ttlMs
  return ⟨mint (deviceSeed deviceId request.idempotencyKey), request.idempotencyKey, .human deviceId, nowMs, expiresAtMs,
    request.body⟩

/-- `admit_device_command` -/
def Broker.admitDeviceCommand (mint : String → CommandId) (deviceId : DeviceId) (request : DeviceCommandRequest)
    (nowMs : Int) : BrokerM DeviceCommandAdmission := do
  let envelope ← liftExcept (deviceEnvelope mint deviceId request nowMs)
  publishing (State.admitDeviceCommand env deviceId envelope request nowMs) (·.projections) nowMs

/-- `claim_queue_delivery` -/
def Broker.claimQueueDelivery (entryId : QueueEntryId) (atMs : Int) : BrokerM QueueDeliveryClaim :=
  publishing (State.claimQueueDelivery env entryId atMs) (·.projections) atMs

/-- `finish_queue_delivery` -/
def Broker.finishQueueDelivery (entryId : QueueEntryId) (effects : List StateEffect) (atMs : Int) :
    BrokerM (List ProjectionEnvelope) :=
  publishing (State.finishQueueDelivery env entryId effects) id atMs

/-- `claim_dispatch` -/
def Broker.claimDispatch (ticket : DispatchTicket) (atMs : Int) : BrokerM DispatchClaim :=
  publishing (State.claimDispatch env ticket) (·.projections) atMs

/-- `reject_ready_dispatch` -/
def Broker.rejectReadyDispatch (ticket : DispatchTicket) (atMs : Int) : BrokerM (List ProjectionEnvelope) :=
  publishing (State.rejectReadyDispatch env ticket atMs) id atMs

/-- `finish_dispatch` -/
def Broker.finishDispatch (ticket : DispatchTicket) (effects : List StateEffect) (atMs : Int) :
    BrokerM (List ProjectionEnvelope) :=
  publishing (State.finishDispatch env ticket effects) id atMs

/-- `set_authenticated_reachability` -/
def Broker.setAuthenticatedReachability (reachability : HostReachability) (atMs : Int) :
    BrokerM (List ProjectionEnvelope) := do
  let b ← read id
  if b.authenticatedReachability = reachability then return []
  modify fun b => { b with authenticatedReachability := reachability }
  match b.world.store.state.hosts.vals.find? fun host => host.id = b.hostId with
  | none => return []
  | some host => do
    let host := { host with reachability := reachability, lastSeenAtMs := atMs }
    let commit ← publishing (applyCommit env (.hostUpserted host)) (·.projections) atMs
    return commit.projections

end Kaleido.Hostd
