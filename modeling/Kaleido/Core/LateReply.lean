/-
Replies that come after the deadline (`kaleido-core`, `mobile.rs`): the wait for an answer ends, the connection stays, and
the answer may still be on its way.

The requests of one connection are numbered upwards, so that an answer to a request whose wait has ended is the answer to none
that is still waited for (`Waits.Sound`). It then falls to `handle_unsolicited`, which takes no answers: the request that is
under way fails, or the idle worker drops the connection. `late_replies_harmless_iff` says that the worker is spared exactly
when no such answer is read.
-/
import Kaleido.Core.Steps

namespace Kaleido.Core

open Prog Proto State Transport

/-! ## The numbers of requests -/

/-- the worker's numbers after a step: a wait that goes on, or one for a later request -/
structure StepsLater (w w' : Worker) : Prop where
  numbers : w.nextRequestId ≤ w'.nextRequestId
  waits : ∀ waiting origin, w'.activity = .waiting waiting origin →
    w.activity = .waiting waiting origin ∨ w.nextRequestId ≤ waiting.requestId ∧ waiting.requestId < w'.nextRequestId

section

variable {env : WorkerEnv} {w w' : Worker}

theorem StepsLater.of_not_waiting (hle : w.nextRequestId ≤ w'.nextRequestId)
    (hactivity : w'.activity = .idle ∨ w'.activity = .offline ∨ w'.activity = .stopped) : StepsLater w w' := by
  refine ⟨hle, fun waiting origin h => ?_⟩
  rw [h] at hactivity
  rcases hactivity with h | h | h <;> cases h

theorem StepsLater.of_same (hnumbers : w'.nextRequestId = w.nextRequestId) (hactivity : w'.activity = w.activity) :
    StepsLater w w' := ⟨hnumbers.ge, fun _ _ h => .inl (hactivity ▸ h)⟩

theorem ask_later {w₁ : Worker} (hnumbers : w₁.nextRequestId = w.nextRequestId) {waiting : Waiting}
    (hid : waiting.requestId = w.nextRequestId) (writes : Nat) (frames : List Frame) (origin : Origin) :
    StepsLater w (w₁.ask writes frames waiting origin) := by
  have hnext : (w₁.ask writes frames waiting origin).nextRequestId = w.nextRequestId + 1 := congrArg (· + 1) hnumbers
  refine ⟨by rw [hnext]; exact Nat.le_succ _, ?_⟩
  rintro _ _ ⟨⟩
  rw [hnext, hid]
  exact .inr ⟨le_rfl, Nat.lt_succ_self _⟩

theorem loop_later {w₁ : Worker} {rest : List Nat} (h : Loop w₁ rest w') (hnumbers : w₁.nextRequestId = w.nextRequestId) :
    StepsLater w w' := by
  cases h with
  | finished _ => exact ⟨hnumbers.ge, by rintro _ _ ⟨⟩⟩
  | asked writes _ _ =>
    refine ask_later hnumbers ?_ writes _ _
    exact hnumbers
  | failed writes hnext => exact .of_not_waiting (hnumbers ▸ hnext) (.inr (.inl rfl))

theorem giveUp_next (waiting : Waiting) (origin : Origin) (error : MobileClientError) (w : Worker) :
    (w.giveUp waiting origin error).nextRequestId = w.nextRequestId := by
  unfold Worker.giveUp
  split
  · rfl
  · split <;> rfl

theorem giveUp_steps (hnumbers : w'.nextRequestId = w.nextRequestId) (waiting : Waiting) (origin : Origin)
    (error : MobileClientError) : StepsLater w (w'.giveUp waiting origin error) := by
  refine .of_not_waiting ?_ ((giveUp_activity w' waiting origin error).imp_right .inl)
  rw [giveUp_next]
  exact hnumbers.ge

theorem step_later (env : WorkerEnv) (w : Worker) (input : Input) : StepsLater w (w.step env input) := by
  have houtcome : Outcome env w input (w.step env input) := step_outcome w input
  generalize w.step env input = w' at houtcome
  cases houtcome with
  | ignored _ => exact .of_same rfl rfl
  | connected _ hloop | ackRejected _ _ hloop | resynced _ _ _ hloop => exact loop_later hloop rfl
  | published current _ =>
    cases current
    · exact .of_not_waiting le_rfl (.inr (.inl rfl))
    · exact .of_not_waiting le_rfl (.inl rfl)
  | taken _ htaken => cases htaken <;> exact .of_same rfl rfl
  | dropped _ hrefused => exact .of_not_waiting hrefused.numbers.ge (.inr (.inl rfl))
  | refused error _ _ hrefused => exact giveUp_steps hrefused.numbers _ _ error
  | acked writes _ _ _ =>
    exact ask_later (promise_next _ _).1 rfl writes _ _
  | ackFailed _ _ hwithdrawn | subscribeFailed _ _ hwithdrawn =>
    exact .of_not_waiting hwithdrawn.numbers (.inl hwithdrawn.activity)
  | ackLost _ _ hnext _ => exact .of_not_waiting hnext (.inr (.inl rfl))
  | synced _ _ _ | unsubscribed _ | answered _ _ _ => exact .of_not_waiting le_rfl (.inl rfl)
  | unsynced error _ _ | misplaced error _ _ _ => exact giveUp_steps rfl _ _ error
  | gaveUp _ _ => exact giveUp_steps rfl _ _ _
  | disconnected _ _ => exact .of_not_waiting le_rfl (.inr (.inl rfl))
  | stopped _ | exhausted _ => exact .of_not_waiting le_rfl (.inr (.inr rfl))
  | offlineCommand _ => rename_i command _; cases command <;> exact .of_same rfl rfl
  | subscribes writes _ => refine ask_later ?_ ?_ writes _ _ <;> rfl
  | requests writes _ hrequest => exact ask_later rfl (by cases hrequest <;> rfl) writes _ _
  | requestFailed _ _ _ _ hnext _ _ _ => exact .of_not_waiting hnext (.inl rfl)

end

/-! ## Answers that come too late -/

/-- the request that a frame answers -/
def answered : ControlFrame → Option Nat
  | .projectionSubscribeAckFrame requestId .. | .unsubscribeAck requestId _ | .contentWriteResult requestId _
  | .contentReadResult requestId _ | .deviceCommandAck requestId _ | .pong requestId _ => some requestId
  | .transportError requestId .. => requestId
  | _ => none

/-- the worker, and the requests of the present connection whose wait ended at its deadline -/
structure Waits where
  worker : Worker
  expired : List Nat := []

namespace Waits

def step (env : WorkerEnv) (s : Waits) (input : Input) : Waits where
  worker := s.worker.step env input
  expired := match s.worker.activity, input with
    | .waiting waiting _, .deadline => waiting.requestId :: s.expired
    | .offline, .connected => []
    | _, _ => s.expired

/-- an answer is read after the wait for it has ended -/
def late (s : Waits) : Input → Bool
  | .frame (.control (.ok frame)) => s.worker.activity.reads && (answered frame).any (· ∈ s.expired)
  | _ => false

end Waits

/-- the step drops the connection, or the request that the worker waits for returns an error -/
def Harms (env : WorkerEnv) (w : Worker) (input : Input) : Prop :=
  (w.step env input).activity = .offline ∨
    ∃ waiting ticket error, w.activity = .waiting waiting (.call ticket) ∧
      (w.step env input).replies = w.replies ++ [(ticket, .error error)]

/-- the wait for a request has ended before a later one began -/
structure Waits.Sound (s : Waits) : Prop where
  expired : ∀ requestId ∈ s.expired, requestId < s.worker.nextRequestId
  waiting : ∀ waiting origin, s.worker.activity = .waiting waiting origin →
    waiting.requestId < s.worker.nextRequestId ∧ ∀ requestId ∈ s.expired, requestId < waiting.requestId

section

variable {env : WorkerEnv} {s : Waits}

theorem Waits.Sound.step (h : s.Sound) (input : Input) : (s.step env input).Sound := by
  obtain ⟨hnumbers, hwaits⟩ := step_later env s.worker input
  -- a step that adds no request: a wait that goes on is above the expired ones, and a new one is above all numbers
  have hkeep : ∀ expired, (∀ requestId ∈ expired, requestId ∈ s.expired) → Waits.Sound ⟨s.worker.step env input, expired⟩ := by
    refine fun expired hsub => ⟨fun r hr => (h.expired r (hsub r hr)).trans_le hnumbers, fun waiting origin hw => ?_⟩
    rcases hwaits waiting origin hw with hsame | hanew
    · obtain ⟨hlt, hall⟩ := h.waiting waiting origin hsame
      exact ⟨hlt.trans_le hnumbers, fun r hr => hall r (hsub r hr)⟩
    · exact ⟨hanew.2, fun r hr => (h.expired r (hsub r hr)).trans_le hanew.1⟩
  unfold Waits.step
  split
  · rename_i waiting origin hw
    have hstep : s.worker.step env .deadline = s.worker.giveUp waiting origin .workerStopped := by
      simp only [Worker.step, hw]
    rw [hstep]
    refine ⟨fun r hr => ?_, fun v o hv => ?_⟩
    · rw [giveUp_next]
      rcases List.mem_cons.mp hr with rfl | hr
      · exact (h.waiting waiting origin hw).1
      · exact h.expired r hr
    · rcases giveUp_activity s.worker waiting origin .workerStopped with hidle | hidle <;> rw [hidle] at hv <;> cases hv
  · exact hkeep [] (by simp)
  · exact hkeep s.expired fun _ hr => hr

/-- what a wait looks for carries its number -/
theorem Waiting.answered_of_select {waiting : Waiting} {frame : ControlFrame} {value : Found}
    (h : waiting.select frame = some value) : answered frame = some waiting.requestId := by
  unfold Waiting.select at h
  split at h
  all_goals first
    | cases h
    | split_ifs at h with hfound
  all_goals simp only [answered, Waiting.requestId, hfound]

/-- a late answer fails the request that is under way, or it costs the connection -/
theorem Waits.Sound.late_harms (h : s.Sound) {input : Input} (hlate : s.late input = true) : Harms env s.worker input := by
  unfold Waits.late at hlate
  split at hlate
  · rename_i frame
    obtain ⟨hreads, hexpired⟩ := Bool.and_eq_true _ _ |>.mp hlate
    obtain ⟨requestId, hanswered, hmem⟩ : ∃ r, answered frame = some r ∧ r ∈ s.expired := by
      simpa [Option.any_eq_true] using hexpired
    -- an answer is nothing that comes unasked
    obtain ⟨error, hrefused⟩ : ∃ error, handleUnsolicited env (.control (.ok frame)) s.worker = (.error error, s.worker) := by
      cases frame <;> first | exact ⟨_, rfl⟩ | cases hanswered
    cases hactivity : s.worker.activity with
    | idle =>
      refine .inl ?_
      simp only [Worker.step, hactivity, hrefused]
      rfl
    | waiting waiting origin =>
      have hnone : waiting.selectFrame (.control (.ok frame)) = none := by
        cases hselect : waiting.selectFrame (.control (.ok frame)) with
        | none => rfl
        | some value =>
          have hown := Waiting.answered_of_select hselect
          rw [hanswered, Option.some.injEq] at hown
          exact absurd hown ((h.waiting waiting origin hactivity).2 requestId hmem).ne
      have hturn : waitTurn env waiting origin (.control (.ok frame)) s.worker = (.error error, s.worker) := by
        rw [waitTurn, hnone]
        exact run_bind_error hrefused
      have hstep : s.worker.step env (.frame (.control (.ok frame))) = s.worker.giveUp waiting origin error := by
        simp only [Worker.step, hactivity, Worker.resume, hturn]
      cases origin with
      | reconnect rest => exact .inl (by rw [hstep]; rfl)
      | call ticket =>
        refine .inr ⟨waiting, ticket, error, hactivity, ?_⟩
        rw [hstep]
        cases waiting <;> rfl
    | offline | resubscribed | stopped =>
      rw [hactivity] at hreads
      cases hreads
  · cases hlate

/-- **Late replies.** In a run of the worker no late answer fails another request or costs the connection exactly when no
late answer is read. -/
theorem late_replies_harmless_iff (env : WorkerEnv) (cache : ProjectionCache) (events : List Input) :
    Along (Waits.step env) (fun s input => s.late input = true → ¬ Harms env s.worker input) ⟨{ cache := cache }, []⟩ events ↔
      Along (Waits.step env) (fun s input => s.late input = false) ⟨{ cache := cache }, []⟩ events := by
  have hstart : Waits.Sound ⟨{ cache := cache }, []⟩ := ⟨by simp, by rintro _ _ ⟨⟩⟩
  constructor
  · refine Along.of_inv (I := Waits.Sound) (fun s input h _ => h.step input) (fun s input h hharmless => ?_) hstart
    cases hlate : s.late input with
    | false => rfl
    | true => exact absurd (h.late_harms hlate) (hharmless hlate)
  · intro hrun
    refine hrun.imp fun s input _ hnot hlate => ?_
    rw [hnot] at hlate
    cases hlate

/-! ## A run with a late answer -/

def lateCommand (key : String) : WorkerCommand := .submitCommand ⟨key, none, .interruptTurn ⟨"session"⟩ ⟨"turn"⟩⟩

def lateAck (requestId : Nat) : Input :=
  .frame (.control (.ok (.deviceCommandAck requestId ⟨⟨"command"⟩, .acceptedLocally none, 0⟩)))

/-- the first command waits in vain, and the answers to both come during the second -/
def lateRun : List Input := [.command 1 (lateCommand "a"), .deadline, .command 2 (lateCommand "b"), lateAck 4, lateAck 5]

/-- the host answers both requests once; the answer to the first fails the second, and the answer to the second then costs
the connection -/
theorem late_reply_fails_request :
    (runFrom (Waits.step allWrites) ⟨{}, []⟩ (lateRun.take 3)).worker.sent =
        [.control (.ok (.deviceCommandFrame 4 ⟨"a", none, .interruptTurn ⟨"session"⟩ ⟨"turn"⟩⟩)),
          .control (.ok (.deviceCommandFrame 5 ⟨"b", none, .interruptTurn ⟨"session"⟩ ⟨"turn"⟩⟩))] ∧
      (runFrom (Waits.step allWrites) ⟨{}, []⟩ (lateRun.take 4)).worker.replies =
        [(1, .error .workerStopped), (2, .error .contract)] ∧
      (runFrom (Waits.step allWrites) ⟨{}, []⟩ lateRun).worker.activity = .offline ∧
      ¬ Along (Waits.step allWrites) (fun s input => s.late input = true → ¬ Harms allWrites s.worker input) ⟨{}, []⟩
        lateRun := by
  refine ⟨rfl, rfl, rfl, fun hrun => ?_⟩
  exact hrun.2.2.2.1 rfl (.inr ⟨_, 2, .contract, rfl, rfl⟩)

end

end Kaleido.Core
