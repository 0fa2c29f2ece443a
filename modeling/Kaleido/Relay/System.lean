/-
The control service at work (`kaleido-relay`, `control.rs`): the requests of any number of connections, interleaved at the
points where they touch what they share.

A connection handles one frame at a time. Between the reading of the clock, the authorisation, the critical section of the
replay cache and the action on the registry, any other connection may take its steps. `ControlService.handle` is the request
between whose parts no other connection does.

`readings`, `accepted` and `answers` are a record of the run: the readings of the clock with which the critical section was
entered, what `accept_operation` accepted there, and what each request was answered.
-/
import Kaleido.Relay.Control

namespace Kaleido.Relay

open Transport

/-- where the request on a connection stands -/
inductive Stage where
  | idle
  | received (frame : RemoteControlFrame)
  | timed (frame : RemoteControlFrame) (now : Nat)
  | authorized (frame : RemoteControlFrame) (now : Nat)
  | accepted (frame : RemoteControlFrame) (now : Nat) (replayed : Bool)
  deriving DecidableEq

structure Link where
  connection : ControlConnection := {}
  stage : Stage := .idle
  deriving DecidableEq

/-- an operation that `accept_operation` accepted, with the reading it was accepted at -/
structure Acceptance where
  frame : RemoteControlFrame
  now : Nat
  deriving DecidableEq

/-- what a request was answered -/
structure Answered where
  connection : Nat
  frame : RemoteControlFrame
  outcome : ControlOutcome

structure System where
  registry : Registry := {}
  replay : ReplayCache := []
  links : OrdMap Nat Link := ∅
  readings : List Nat := []
  accepted : List Acceptance := []
  answers : List Answered := []

inductive Input where
  /-- a frame arrives on an idle connection -/
  | receive (connection : Nat) (frame : RemoteControlFrame)
  | readClock (connection : Nat) (now : Nat)
  | authorize (connection : Nat)
  | accept (connection : Nat)
  | perform (connection : Nat) (later : Nat) (outcome : WriteOutcome)
  /-- `delete_unregistered_push` -/
  | deletePush (dispatch : WakeDispatch) (outcome : WriteOutcome)

namespace System

variable (env : RelayEnv)

def link (s : System) (connection : Nat) : Link := s.links[connection]?.getD {}

def setLink (s : System) (connection : Nat) (link : Link) : System :=
  { s with links := s.links.insert connection link }

def setStage (s : System) (connection : Nat) (stage : Stage) : System :=
  s.setLink connection { s.link connection with stage }

/-- the answer to a request, after which the connection is idle -/
def answer (s : System) (connection : Nat) (frame : RemoteControlFrame) (result : Except RemoteErrorCode Handled) : System :=
  { s.setStage connection .idle with answers := s.answers ++ [⟨connection, frame, outcomeOf frame result⟩] }

/-- `handle` up to the clock -/
def receive (s : System) (connection : Nat) (frame : RemoteControlFrame) : System :=
  let (admission, state) := admitFrame (s.link connection).connection frame
  let s := s.setLink connection ⟨state, .idle⟩
  match admission with
  | .error code => s.answer connection frame (.error code)
  | .ok (.hello response) => s.answer connection frame (.ok { response })
  | .ok .operation => s.setStage connection (.received frame)

/-- the authorisation of a request -/
def authorizeStep (s : System) (connection : Nat) (frame : RemoteControlFrame) (now : Nat) : System :=
  match authorize env s.registry.state frame with
  | .error code => s.answer connection frame (.error code)
  | .ok () => s.setStage connection (.authorized frame now)

/-- the record of an entry into the critical section, with what it left there -/
def entered (s : System) (frame : RemoteControlFrame) (now : Nat) (replay : ReplayCache) : System :=
  { s with replay, readings := if reachesReplay frame now then s.readings ++ [now] else s.readings }

def recordAcceptance (s : System) (frame : RemoteControlFrame) (now : Nat) : System :=
  { s with accepted := s.accepted ++ [⟨frame, now⟩] }

/-- the critical section of the replay cache -/
def acceptStep (s : System) (connection : Nat) (frame : RemoteControlFrame) (now : Nat) : System :=
  match accept env frame now s.replay with
  | (.error code, replay) => (s.entered frame now replay).answer connection frame (.error code)
  | (.ok replayed, replay) =>
    let s := if replayed then s.entered frame now replay else (s.entered frame now replay).recordAcceptance frame now
    s.setStage connection (.accepted frame now replayed)

/-- the action on the registry -/
def performStep (s : System) (connection : Nat) (frame : RemoteControlFrame) (now later : Nat) (replayed : Bool)
    (outcome : WriteOutcome) : System :=
  let (result, registry) := perform env frame now later replayed outcome s.registry
  { s with registry }.answer connection frame result

/-- one step; a connection that stands elsewhere does not take it -/
def step (s : System) : Input → System
  | .receive connection frame =>
    match (s.link connection).stage with
    | .idle => s.receive connection frame
    | _ => s
  | .readClock connection now =>
    match (s.link connection).stage with
    | .received frame => s.setStage connection (.timed frame now)
    | _ => s
  | .authorize connection =>
    match (s.link connection).stage with
    | .timed frame now => s.authorizeStep env connection frame now
    | _ => s
  | .accept connection =>
    match (s.link connection).stage with
    | .authorized frame now => s.acceptStep env connection frame now
    | _ => s
  | .perform connection later outcome =>
    match (s.link connection).stage with
    | .accepted frame now replayed => s.performStep env connection frame now later replayed outcome
    | _ => s
  | .deletePush dispatch outcome =>
    { s with registry := (s.registry.commit (RegistryState.deletePushForService dispatch.routeId dispatch.slotId) outcome).2 }

/-! ## Links -/

section

variable {s : System} {connection other : Nat} {l : Link} {stage : Stage}

theorem link_setLink : (s.setLink connection l).link other = if connection = other then l else s.link other := by
  simp only [link, setLink, OrdMap.get_insert]
  split_ifs <;> rfl

@[simp] theorem link_setLink_self : (s.setLink connection l).link connection = l := by
  rw [link_setLink, if_pos rfl]

end

/-! ## What a step does -/

section

variable {s : System} {connection other : Nat} {stage : Stage} {frame : RemoteControlFrame}

/-- a connection's stage after the stage of another, or its own, was set -/
theorem stage_setStage : ((s.setStage connection stage).link other).stage =
    if connection = other then stage else (s.link other).stage := by
  rw [setStage, link_setLink]
  split_ifs <;> rfl

theorem stage_answer {result : Except RemoteErrorCode Handled} :
    ((s.answer connection frame result).link other).stage = if connection = other then .idle else (s.link other).stage :=
  stage_setStage

end

/-- the steps, by what the connection stood at; a connection that stands elsewhere takes none -/
inductive Took (s : System) : Input → System → Prop where
  | none {input : Input} : Took s input s
  | receive {connection : Nat} {frame : RemoteControlFrame} (idle : (s.link connection).stage = .idle) :
      Took s (.receive connection frame) (s.receive connection frame)
  | readClock {connection now : Nat} {frame : RemoteControlFrame} (received : (s.link connection).stage = .received frame) :
      Took s (.readClock connection now) (s.setStage connection (.timed frame now))
  | authorize {connection now : Nat} {frame : RemoteControlFrame} (timed : (s.link connection).stage = .timed frame now) :
      Took s (.authorize connection) (s.authorizeStep env connection frame now)
  | accept {connection now : Nat} {frame : RemoteControlFrame}
      (authorized : (s.link connection).stage = .authorized frame now) :
      Took s (.accept connection) (s.acceptStep env connection frame now)
  | perform {connection now later : Nat} {frame : RemoteControlFrame} {replayed : Bool} {outcome : WriteOutcome}
      (accepted : (s.link connection).stage = .accepted frame now replayed) :
      Took s (.perform connection later outcome) (s.performStep env connection frame now later replayed outcome)
  | deletePush {dispatch : WakeDispatch} {outcome : WriteOutcome} :
      Took s (.deletePush dispatch outcome) { s with
        registry := (s.registry.commit (RegistryState.deletePushForService dispatch.routeId dispatch.slotId) outcome).2 }

theorem step_took (s : System) (input : Input) : Took env s input (s.step env input) := by
  cases input with
  | receive connection frame =>
    cases hstage : (s.link connection).stage <;> simp only [step, hstage]
    case idle => exact .receive hstage
    all_goals exact .none
  | readClock connection now =>
    cases hstage : (s.link connection).stage <;> simp only [step, hstage]
    case received => exact .readClock hstage
    all_goals exact .none
  | authorize connection =>
    cases hstage : (s.link connection).stage <;> simp only [step, hstage]
    case timed => exact .authorize hstage
    all_goals exact .none
  | accept connection =>
    cases hstage : (s.link connection).stage <;> simp only [step, hstage]
    case authorized => exact .accept hstage
    all_goals exact .none
  | perform connection later outcome =>
    cases hstage : (s.link connection).stage <;> simp only [step, hstage]
    case accepted => exact .perform hstage
    all_goals exact .none
  | deletePush dispatch outcome => exact .deletePush

/-- what a step of a request outside the critical section leaves alone -/
structure Aside (s s' : System) (connection : Nat) : Prop where
  replay : s'.replay = s.replay
  readings : s'.readings = s.readings
  accepted : s'.accepted = s.accepted
  others : ∀ other, connection ≠ other → (s'.link other).stage = (s.link other).stage
  notAccepted : ∀ frame now replayed, (s'.link connection).stage ≠ .accepted frame now replayed

section

variable {env} {s : System} {connection now : Nat} {frame : RemoteControlFrame}

theorem Aside.setStage {stage : Stage} (h : ∀ frame now replayed, stage ≠ .accepted frame now replayed) :
    Aside s (s.setStage connection stage) connection where
  replay := rfl
  readings := rfl
  accepted := rfl
  others other hne := by rw [stage_setStage, if_neg hne]
  notAccepted frame now replayed := by
    rw [stage_setStage, if_pos rfl]
    exact h frame now replayed

theorem Aside.answer {result : Except RemoteErrorCode Handled} :
    Aside s (s.answer connection frame result) connection :=
  have h : Aside s (s.setStage connection .idle) connection := .setStage (by simp)
  ⟨rfl, rfl, rfl, h.others, h.notAccepted⟩

theorem authorizeStep_aside : Aside s (s.authorizeStep env connection frame now) connection := by
  unfold authorizeStep
  cases authorize env s.registry.state frame with
  | error code => exact .answer
  | ok _ => exact .setStage (by simp)

theorem Aside.trans {s' s'' : System} (h : Aside s s' connection) (h' : Aside s' s'' connection) :
    Aside s s'' connection where
  replay := h'.replay.trans h.replay
  readings := h'.readings.trans h.readings
  accepted := h'.accepted.trans h.accepted
  others other hne := (h'.others other hne).trans (h.others other hne)
  notAccepted := h'.notAccepted

theorem receive_aside : Aside s (s.receive connection frame) connection := by
  have hlink : ∀ state, Aside s (s.setLink connection ⟨state, .idle⟩) connection := fun state =>
    ⟨rfl, rfl, rfl, fun other hne => by rw [link_setLink, if_neg hne], fun _ _ _ => by simp⟩
  unfold receive
  cases admitFrame (s.link connection).connection frame with
  | mk admission state =>
    cases admission with
    | error code => exact (hlink state).trans .answer
    | ok admission =>
      cases admission with
      | hello response => exact (hlink state).trans .answer
      | operation => exact (hlink state).trans (.setStage (by simp))

theorem receive_registry : (s.receive connection frame).registry = s.registry := by
  unfold receive
  cases admitFrame (s.link connection).connection frame with
  | mk admission state =>
    cases admission with
    | error code => rfl
    | ok admission => cases admission <;> rfl

theorem authorizeStep_registry : (s.authorizeStep env connection frame now).registry = s.registry := by
  unfold authorizeStep
  cases authorize env s.registry.state frame <;> rfl

theorem acceptStep_registry : (s.acceptStep env connection frame now).registry = s.registry := by
  unfold acceptStep
  cases accept env frame now s.replay with
  | mk verdict replay =>
    cases verdict with
    | error code => rfl
    | ok replayed => cases replayed <;> rfl

theorem performStep_aside {later : Nat} {replayed : Bool} {outcome : WriteOutcome} :
    Aside s (s.performStep env connection frame now later replayed outcome) connection where
  replay := rfl
  readings := rfl
  accepted := rfl
  others other hne := stage_answer.trans (if_neg hne)
  notAccepted _ _ _ := by
    rw [performStep, stage_answer, if_pos rfl]
    simp

end

/-! ## One request at a time -/

/-- the service that the connections share -/
def service (s : System) : ControlService := ⟨s.registry, s.replay⟩

/-- the steps of one request, with nothing in between -/
def requestSteps (connection : Nat) (frame : RemoteControlFrame) (attempt : Attempt) : List Input :=
  [.receive connection frame, .readClock connection attempt.now, .authorize connection, .accept connection,
    .perform connection attempt.later attempt.outcome]

end System

end Kaleido.Relay
