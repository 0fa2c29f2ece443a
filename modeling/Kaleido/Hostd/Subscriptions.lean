/-
Subscriptions and requests on one connection (`kaleido-hostd`, `server.rs`; `kaleido-transport`, `control.rs`): the frames of
a device, handled one after the other, between the passes that publish what the mailboxes received.

`Linked` says that the frames written about every subscription have come to where the correlation state of the connection
holds it to stand. Parts of a handler that leave the subscriptions alone are `IsQuiet`; each of the others is followed step by
step. `subscription_protocol` puts the facts about whole runs together.
-/
import Kaleido.Hostd.Business
import Kaleido.Transport.Phases

namespace Kaleido.Hostd.Business

open Check Prog Proto State Transport CorrelationState

variable {E : LanServerError → Connection → Prop} {frame : ControlFrame} {Q : Unit → Connection → Prop}
  {f : CorrelationState → Except TransportError CorrelationState} {requestId : Nat} {atMs : Int}
  {subscribe : ProjectionSubscribe}

/-! ## Parts that leave the subscriptions alone -/

/-- from `c` to `c'` nothing was written about a subscription, and the limits hold -/
structure Quiet (c c' : Connection) : Prop where
  limits : c'.session.correlation.Limits
  same : SameSubscriptions c.session.correlation c'.session.correlation
  status : ∀ subscriptionId, status subscriptionId c'.sent = status subscriptionId c.sent
  mailboxes : c'.subscriptions = c.subscriptions
  last : c'.lastRequestId = c.lastRequestId

/-- wherever it starts and however it ends, the program is quiet -/
def IsQuiet {α : Type} (p : BusinessM α) : Prop :=
  ∀ c : Connection, c.session.correlation.Limits → Lawful c.sent →
    wp Connection.sent Lawful (fun _ => Quiet c) (fun _ => Quiet c) p c

section

variable {env : Surroundings} {c c' c'' : Connection} {α β : Type}

theorem Quiet.refl (h : c.session.correlation.Limits) : Quiet c c := ⟨h, ⟨rfl, rfl⟩, fun _ => rfl, rfl, rfl⟩

theorem Quiet.trans (h : Quiet c c') (h' : Quiet c' c'') : Quiet c c'' where
  limits := h'.limits
  same := ⟨h'.same.1.trans h.same.1, h'.same.2.trans h.same.2⟩
  status subscriptionId := (h'.status subscriptionId).trans (h.status subscriptionId)
  mailboxes := h'.mailboxes.trans h.mailboxes
  last := h'.last.trans h.last

theorem Quiet.lawful (h : Quiet c c') (hc : Lawful c.sent) : Lawful c'.sent := by
  intro subscriptionId
  rw [h.status]
  exact hc subscriptionId

/-- a quiet program inside another one -/
theorem wp_quiet {p : BusinessM α} {Q : α → Connection → Prop} (hp : IsQuiet p) (hlimits : c.session.correlation.Limits)
    (hlawful : Lawful c.sent) (hQ : ∀ a c', Quiet c c' → Q a c') (hE : ∀ e c', Quiet c c' → E e c') :
    wp Connection.sent Lawful Q E p c :=
  wp_post (hp c hlimits hlawful) hQ hE

theorem wp_onSession {f : ConnectionSession → Except TransportError ConnectionSession}
    (hok : ∀ session, f c.session = .ok session → Q () { c with session := session }) (herr : ∀ e, E e c) :
    wp Connection.sent Lawful Q E (onSession f) c := by
  cases hf : f c.session with
  | error e =>
    have hrun : onSession f c = (.error .transport, c) := by simp only [onSession, hf]
    exact wp_of_log_eq (by rw [hrun]) (by rw [hrun]; exact herr _)
  | ok session =>
    have hrun : onSession f c = (.ok (), { c with session := session }) := by simp only [onSession, hf]
    exact wp_of_log_eq (by rw [hrun]) (by rw [hrun]; exact hok session hf)

theorem wp_correlate
    (hok : ∀ correlation, f c.session.correlation = .ok correlation →
      Q () { c with session := { c.session with correlation := correlation } })
    (herr : ∀ e, E e c) : wp Connection.sent Lawful Q E (correlate f) c := by
  refine wp_onSession ?_ herr
  intro session hsession
  cases hf : f c.session.correlation with
  | error e => simp [hf, Except.map] at hsession
  | ok correlation =>
    simp only [hf, Except.map, Except.ok.injEq] at hsession
    subst hsession
    exact hok correlation hf

namespace IsQuiet

theorem pure {a : α} : IsQuiet (pure a : BusinessM α) := fun _ h _ => wp_pure (.refl h)

theorem fail {e : LanServerError} : IsQuiet (fail e : BusinessM α) := fun _ h _ => wp_fail (.refl h)

theorem read {f : Connection → α} : IsQuiet (read f : BusinessM α) := fun _ h _ => wp_read (.refl h)

theorem require {p : Prop} [Decidable p] {e : LanServerError} : IsQuiet (require p e : BusinessM Unit) :=
  fun _ h _ => wp_require (fun _ => .refl h) fun _ => .refl h

theorem bind {p : BusinessM α} {f : α → BusinessM β} (hp : IsQuiet p) (hf : ∀ a, IsQuiet (f a)) : IsQuiet (p >>= f) := by
  intro c hlimits hlawful
  refine wp_bind (wp_quiet hp hlimits hlawful ?_ fun _ _ h => h)
  intro a c' hquiet
  exact wp_quiet (hf a) hquiet.limits (hquiet.lawful hlawful) (fun _ _ h => hquiet.trans h) fun _ _ h => hquiet.trans h

/-- a change of what the subscriptions do not depend on -/
theorem modify {f : Connection → Connection} (hf : ∀ c, (f c).session.correlation = c.session.correlation ∧
      (f c).sent = c.sent ∧ (f c).subscriptions = c.subscriptions ∧ (f c).lastRequestId = c.lastRequestId) :
    IsQuiet (modify f : BusinessM Unit) := by
  intro c hlimits _
  obtain ⟨hcorrelation, hsent, hmailboxes, hlast⟩ := hf c
  refine wp_modify hsent ⟨?_, ?_, ?_, hmailboxes, hlast⟩
  · rwa [hcorrelation]
  · rw [hcorrelation]
    exact ⟨rfl, rfl⟩
  · intro subscriptionId
    rw [hsent]

theorem correlate (hf : ∀ s s', s.Limits → f s = .ok s' → s'.Limits ∧ SameSubscriptions s s') : IsQuiet (correlate f) := by
  intro c hlimits _
  refine wp_correlate ?_ fun _ => .refl hlimits
  intro correlation hok
  obtain ⟨hlimits', hsame⟩ := hf _ _ hlimits hok
  exact ⟨hlimits', hsame, fun _ => rfl, rfl, rfl⟩

theorem writeControl (hframe : ∀ subscriptionId, notice subscriptionId frame = none) :
    IsQuiet (writeControl env frame) := by
  intro c hlimits hlawful
  have hstatus : ∀ subscriptionId, status subscriptionId (c.sent ++ [frame]) = status subscriptionId c.sent :=
    fun subscriptionId => status_other (hframe subscriptionId)
  refine wp_writeControl ?_ ⟨hlimits, ⟨rfl, rfl⟩, hstatus, rfl, rfl⟩ fun _ => .refl hlimits
  intro subscriptionId
  rw [hstatus]
  exact hlawful subscriptionId

theorem attempt {p : BusinessM Unit} (hp : IsQuiet p) : IsQuiet (attempt p) := by
  intro c hlimits hlawful
  obtain ⟨hext, hlogs, hpost⟩ := hp c hlimits hlawful
  refine ⟨hext, hlogs, ?_⟩
  change Quiet c (p c).2
  generalize p c = r at hpost
  obtain ⟨_ | _, c'⟩ := r <;> exact hpost

theorem nowMs : IsQuiet (nowMs env) := fun _ h _ => wp_of_log_eq rfl ⟨h, ⟨rfl, rfl⟩, fun _ => rfl, rfl, rfl⟩

end IsQuiet

/-- an answer of the gateway, from a connection that was otherwise left alone -/
theorem wp_callGateway {call : GatewayCall} {answer : Nat → Int → Except GatewayError α}
    {Q : α → Connection → Prop} (hlimits : c.session.correlation.Limits) (hlawful : Lawful c.sent)
    (hok : ∀ n atMs a c', answer n atMs = .ok a → Quiet c c' → Q a c') (herr : ∀ e c', Quiet c c' → E e c') :
    wp Connection.sent Lawful Q E (callGateway env call answer) c := by
  refine wp_bind (wp_quiet .nowMs hlimits hlawful (fun atMs c₁ h₁ => ?_) herr)
  refine wp_bind (wp_read (wp_bind ?_))
  have hcalled : IsQuiet (modify fun c => { c with calls := c.calls ++ [(call, atMs)] } : BusinessM Unit) :=
    .modify fun _ => ⟨rfl, rfl, rfl, rfl⟩
  refine wp_quiet hcalled h₁.limits (h₁.lawful hlawful) (fun _ c₂ h₂ => ?_) fun e c' h => herr e c' (h₁.trans h)
  have hquiet : Quiet c c₂ := h₁.trans h₂
  cases hanswer : answer c₁.calls.length atMs with
  | ok a => exact wp_pure (hok _ _ a c₂ hanswer hquiet)
  | error e =>
    cases e with
    | broker => exact wp_fail (herr _ c₂ hquiet)
    | deviceRevoked =>
      refine wp_bind (wp_quiet (.attempt (.writeControl fun _ => rfl)) hquiet.limits (hquiet.lawful hlawful)
        (fun _ c₃ h₃ => ?_) fun e c' h => herr e c' (hquiet.trans h))
      exact wp_fail (herr _ c₃ (hquiet.trans h₃))

namespace IsQuiet

theorem callGateway {call : GatewayCall} {answer : Nat → Int → Except GatewayError α} :
    IsQuiet (callGateway env call answer) :=
  fun _ hlimits hlawful => wp_callGateway hlimits hlawful (fun _ _ _ _ _ h => h) fun _ _ h => h

theorem completeRequest : IsQuiet (completeRequest requestId) :=
  correlate fun _ _ h hok => h.completeIncomingRequest hok

theorem ensureBusinessFrame : IsQuiet (onSession (·.ensureBusinessFrame frame atMs)) := by
  intro c hlimits _
  refine wp_onSession ?_ fun _ => .refl hlimits
  intro session hok
  simp only [ConnectionSession.ensureBusinessFrame, seq_eq_ok, ensure_eq_ok, pure_eq_ok] at hok
  obtain ⟨-, -, -, rfl⟩ := hok
  exact ⟨hlimits, ⟨rfl, rfl⟩, fun _ => rfl, rfl, rfl⟩

/-- the look at the clock and at the session before a frame is handled -/
theorem entering : IsQuiet (do let atMs ← Business.nowMs env; onSession (·.ensureBusinessFrame frame atMs)) :=
  bind nowMs fun _ => ensureBusinessFrame

theorem handleContent {body : List UInt8} : IsQuiet (handleContent env requestId body) := by
  refine bind (correlate fun _ _ h hok => h.bindContent hok) fun _ => bind read fun headers => ?_
  split
  · exact fail
  · exact bind (modify fun _ => ⟨rfl, rfl, rfl, rfl⟩) fun _ => bind callGateway fun _ => bind completeRequest fun _ =>
      writeControl fun _ => rfl

theorem sendPing : IsQuiet (sendPing env) :=
  bind read fun _ => bind require fun _ => bind (modify fun _ => ⟨rfl, rfl, rfl, rfl⟩) fun _ =>
    bind (correlate fun _ _ h hok => h.beginOutgoingRequest hok) fun _ => writeControl fun _ => rfl

end IsQuiet

/-! ## Handlers -/

/-- every subscription stands where the connection holds it to stand; `floor` bounds the identifiers that were accepted, and
the subscriptions in `known` were opened -/
structure Linked (floor : Nat) (known : List Nat) (c : Connection) : Prop where
  limits : c.session.correlation.Limits
  status : ∀ subscriptionId, status subscriptionId c.sent = some (c.session.correlation.phase subscriptionId)
  mailboxes : ∀ subscriptionId, c.subscriptions.contains subscriptionId = true →
    c.session.correlation.phase subscriptionId = .active
  floor : floor ≤ c.lastRequestId
  known : ∀ subscriptionId ∈ known, c.session.correlation.phase subscriptionId ≠ .fresh

/-- the same but for one subscription, whose frames have only come to `phase` -/
structure Moving (floor : Nat) (known : List Nat) (subscriptionId : Nat) (phase : Transport.Phase) (c : Connection) : Prop where
  limits : c.session.correlation.Limits
  here : Transport.status subscriptionId c.sent = some phase
  others : ∀ other, other ≠ subscriptionId → Transport.status other c.sent = some (c.session.correlation.phase other)
  mailboxes : ∀ other, other ≠ subscriptionId → c.subscriptions.contains other = true →
    c.session.correlation.phase other = .active
  floor : floor ≤ c.lastRequestId
  known : ∀ other ∈ known, c.session.correlation.phase other ≠ .fresh

/-- what a failure leaves -/
structure Ended (floor : Nat) (c : Connection) : Prop where
  limits : c.session.correlation.Limits
  floor : floor ≤ c.lastRequestId

variable {floor : Nat} {known : List Nat} {subscriptionId : Nat} {phase : Transport.Phase}

theorem Linked.ended (h : Linked floor known c) : Ended floor c := ⟨h.limits, h.floor⟩

theorem Linked.lawful (h : Linked floor known c) : Lawful c.sent := by
  intro other
  rw [h.status]
  rfl


theorem Moving.ended (h : Moving floor known subscriptionId phase c) : Ended floor c := ⟨h.limits, h.floor⟩

theorem Moving.lawful (h : Moving floor known subscriptionId phase c) : Lawful c.sent := by
  intro other
  by_cases hother : other = subscriptionId
  · subst hother
    rw [h.here]
    rfl
  · rw [h.others other hother]
    rfl

theorem Moving.quiet (h : Moving floor known subscriptionId phase c) (hquiet : Quiet c c') :
    Moving floor known subscriptionId phase c' where
  limits := hquiet.limits
  here := by rw [hquiet.status, h.here]
  others other hother := by rw [hquiet.status, hquiet.same.phase, h.others other hother]
  mailboxes other hother hbox := by
    rw [hquiet.mailboxes] at hbox
    rw [hquiet.same.phase, h.mailboxes other hother hbox]
  floor := by
    rw [hquiet.last]
    exact h.floor
  known other hother := by
    rw [hquiet.same.phase]
    exact h.known other hother


/-- the subscription's frames have come to where it stands -/
theorem Moving.linked (h : Moving floor known subscriptionId phase c) (hphase : c.session.correlation.phase subscriptionId = phase)
    (hbox : c.subscriptions.contains subscriptionId = true → phase = .active) : Linked floor known c where
  limits := h.limits
  status other := by
    by_cases hother : other = subscriptionId
    · rw [hother, h.here, hphase]
    · exact h.others other hother
  mailboxes other hmem := by
    by_cases hother : other = subscriptionId
    · subst hother
      rw [hphase, hbox hmem]
    · exact h.mailboxes other hother hmem
  floor := h.floor
  known := h.known

theorem Linked.moving (h : Linked floor known c) (hphase : c.session.correlation.phase subscriptionId = phase) :
    Moving floor known subscriptionId phase c :=
  ⟨h.limits, (h.status subscriptionId).trans (congrArg some hphase), fun other _ => h.status other,
    fun other _ => h.mailboxes other, h.floor, h.known⟩

theorem Linked.quiet (h : Linked floor known c) (hquiet : Quiet c c') : Linked floor known c' :=
  ((h.moving (rfl : _ = c.session.correlation.phase 0)).quiet hquiet).linked (hquiet.same.phase 0)
    fun hbox => h.mailboxes 0 (hquiet.mailboxes ▸ hbox)

/-- the program goes on with the connection, or it fails -/
abbrev Goes (floor : Nat) (known : List Nat) (p : BusinessM α) (c : Connection) : Prop :=
  wp Connection.sent Lawful (fun _ => Linked floor known) (fun _ => Ended floor) p c

/-- a quiet part of a handler -/
theorem Linked.wp_quiet {p : BusinessM α} (hp : IsQuiet p) (h : Linked floor known c) : Goes floor known p c :=
  Business.wp_quiet hp h.limits h.lawful (fun _ _ hquiet => h.quiet hquiet) fun _ _ hquiet => (h.quiet hquiet).ended

/-- the connection holds the subscription to stand elsewhere -/
theorem Moving.held (h : Moving floor known subscriptionId phase c) {correlation : CorrelationState}
    (hlimits : correlation.Limits)
    (hothers : ∀ other, other ≠ subscriptionId → correlation.phase other = c.session.correlation.phase other)
    (hopened : correlation.phase subscriptionId ≠ .fresh) :
    Moving floor (subscriptionId :: known) subscriptionId phase
      { c with session := { c.session with correlation := correlation } } where
  limits := hlimits
  here := h.here
  others other hother := by
    rw [hothers other hother]
    exact h.others other hother
  mailboxes other hother hmem := by
    rw [hothers other hother]
    exact h.mailboxes other hother hmem
  floor := h.floor
  known other hmem := by
    by_cases hother : other = subscriptionId
    · rw [hother]
      exact hopened
    · rw [hothers other hother]
      exact h.known other ((List.mem_cons.mp hmem).resolve_left hother)

/-- a frame about the subscription is written -/
theorem Moving.wrote (h : Moving floor known subscriptionId phase c) (frame : ControlFrame) {n : Notice} {phase' : Transport.Phase}
    (hnotice : notice subscriptionId frame = some n) (hothers : ∀ other, other ≠ subscriptionId → notice other frame = none)
    (hnext : phase.next n = some phase') :
    Moving floor known subscriptionId phase' { c with sent := c.sent ++ [frame] } where
  limits := h.limits
  here := (status_next h.here hnotice).trans hnext
  others other hother := (status_other (hothers other hother)).trans (h.others other hother)
  mailboxes := h.mailboxes
  floor := h.floor
  known := h.known

/-- the mailbox of the subscription is dropped -/
theorem Moving.dropped (h : Moving floor known subscriptionId phase c) :
    Moving floor known subscriptionId phase { c with subscriptions := c.subscriptions.erase subscriptionId } := by
  refine { h with mailboxes := ?_ }
  intro other hother hcontains
  rw [Std.ExtTreeMap.contains_erase, Bool.and_eq_true] at hcontains
  exact h.mailboxes other hother hcontains.2

/-- an envelope for an active subscription is written -/
theorem Linked.wroteEnvelope (h : Linked floor known c) (hactive : c.session.correlation.phase subscriptionId = .active)
    (envelope : ProjectionEnvelope) :
    Linked floor known { c with sent := c.sent ++ [.projectionEnvelopeFrame subscriptionId envelope] } :=
  ((h.moving hactive).wrote (.projectionEnvelopeFrame subscriptionId envelope) (if_pos rfl) (fun _ hne => if_neg hne.symm)
    rfl).linked hactive fun _ => rfl

/-- fewer opened subscriptions -/
theorem Linked.forget (h : Linked floor (subscriptionId :: known) c) : Linked floor known c :=
  { h with known := fun other hmem => h.known other (List.mem_cons_of_mem _ hmem) }

/-- what a request that begins does -/
structure Begun (requestId : Nat) (c c' : Connection) : Prop where
  limits : c'.session.correlation.Limits
  same : SameSubscriptions c.session.correlation c'.session.correlation
  sent : c'.sent = c.sent
  mailboxes : c'.subscriptions = c.subscriptions
  later : c.lastRequestId < requestId
  last : c'.lastRequestId = requestId
  pending : requestId ∈ c'.session.correlation.incomingPending

theorem Linked.begun (h : Linked floor known c) (hbegun : Begun requestId c c') : Linked requestId known c' := by
  have hnumbered : Linked requestId known { c with lastRequestId := requestId } := { h with floor := le_rfl }
  exact hnumbered.quiet ⟨hbegun.limits, hbegun.same, fun _ => by rw [hbegun.sent], hbegun.mailboxes, hbegun.last⟩

/-- a step of the correlation whose failure may be reported -/
theorem wp_correlateReporting (hlimits : c.session.correlation.Limits) (hlawful : Lawful c.sent)
    (hok : ∀ correlation, f c.session.correlation = .ok correlation →
      Q () { c with session := { c.session with correlation := correlation } })
    (herr : ∀ e c', Quiet c c' → E e c') : wp Connection.sent Lawful Q E (correlateReporting env requestId f) c := by
  refine wp_bind (wp_read ?_)
  cases hf : f c.session.correlation with
  | ok correlation => exact wp_modify rfl (hok correlation hf)
  | error e =>
    simp only
    split_ifs
    · refine wp_bind (wp_quiet (.attempt (.writeControl fun _ => rfl)) hlimits hlawful ?_ herr)
      intro _ c' hquiet
      exact wp_fail (herr _ c' hquiet)
    · exact wp_fail (herr _ c (.refl hlimits))

theorem wp_beginRequest (h : Linked floor known c) (hok : ∀ c', Begun requestId c c' → Q () c') :
    wp Connection.sent Lawful Q (fun _ => Ended floor) (beginRequest env requestId) c := by
  refine wp_bind (wp_read (wp_bind (wp_require ?_ fun _ => h.ended)))
  rintro ⟨-, hlater⟩
  refine wp_bind (wp_modify rfl ?_)
  have hfloor : floor ≤ requestId := h.floor.trans hlater.le
  refine wp_correlateReporting h.limits h.lawful ?_ ?_
  · intro correlation hbegin
    obtain ⟨hlimits, hsame, hpending⟩ := h.limits.beginIncomingRequest hbegin
    exact hok _ ⟨hlimits, hsame, rfl, rfl, hlater, rfl, hpending⟩
  · intro e c' hquiet
    exact ⟨hquiet.limits, hquiet.last.symm ▸ hfloor⟩

end

section

variable (env : Surroundings)

/-- the request that a frame of a device makes -/
def requestOf : ControlFrame → Option Nat
  | .projectionSubscribeFrame requestId _ _ | .unsubscribeRequest requestId _ | .contentWriteHeader requestId _
  | .contentReadFrame requestId _ | .deviceCommandFrame requestId _ | .ping requestId _ => some requestId
  | _ => none

/-- a subscription is opened, once its request has begun -/
def openRequest (requestId subscriptionId : Nat) : BusinessM Unit := do
  let last ← read (·.lastSubscriptionId)
  require (subscriptionId ≠ 0 ∧ last < subscriptionId) .transport
  modify fun c => { c with lastSubscriptionId := subscriptionId }
  correlateReporting env requestId (·.openSubscription subscriptionId)

/-- the rest of a subscription frame -/
def afterOpen (requestId subscriptionId : Nat) (subscribe : ProjectionSubscribe) : BusinessM Unit := do
  let (token, replay) ← callGateway env (.subscribe subscribe) fun n => env.subscribe n subscribe
  writeControl env (.projectionSubscribeAckFrame requestId subscriptionId replay.ack)
  let _ ← forEach (fun envelope => writeControl env (.projectionEnvelopeFrame subscriptionId envelope)) replay.envelopes
  completeRequest requestId
  match replay.ack.outcome with
  | .rejected _ => correlate (·.closeSubscription subscriptionId)
  | .resumed _ | .currentFollows _ =>
    modify fun c => { c with subscriptions := c.subscriptions.insert subscriptionId token }

/-- the rest of an unsubscribe -/
def afterUnsubscribe (requestId subscriptionId : Nat) : BusinessM Unit := do
  correlate (·.unsubscribe subscriptionId)
  modify fun c => { c with subscriptions := c.subscriptions.erase subscriptionId }
  writeControl env (.unsubscribeAck requestId subscriptionId)
  completeRequest requestId

/-- the rest of a control frame, once its request has begun -/
def afterBegin : ControlFrame → BusinessM Unit
  | .projectionSubscribeFrame requestId subscriptionId subscribe => do
    openRequest env requestId subscriptionId
    afterOpen env requestId subscriptionId subscribe
  | .unsubscribeRequest requestId subscriptionId => afterUnsubscribe env requestId subscriptionId
  | .contentWriteHeader requestId request => do
    correlate (·.expectContent requestId request)
    let headers ← read (·.contentHeaders)
    modify fun c => { c with contentHeaders := c.contentHeaders.insert requestId request }
    require (¬ headers.contains requestId) .transport
  | .contentReadFrame requestId request => do
    let response ← callGateway env (.readContent request) fun n => env.readContent n request
    writeControl env (.contentReadResult requestId response)
    completeRequest requestId
  | .deviceCommandFrame requestId request => do
    let ack ← callGateway env (.admitCommand request) fun n => env.admitCommand n request
    writeControl env (.deviceCommandAck requestId ack)
    completeRequest requestId
  | .ping requestId nonce => do
    writeControl env (.pong requestId nonce)
    completeRequest requestId
  | .pong requestId nonce => correlate (·.acceptResponse (.pong requestId nonce))
  | _ => fail .transport

theorem handleControl_request (h : requestOf frame = some requestId) :
    handleControl env frame = (do beginRequest env requestId; afterBegin env frame) := by
  cases frame <;> cases h <;> try rfl
  simp only [handleControl, handleSubscribe, afterBegin, openRequest, afterOpen, Prog.bind_assoc] <;> rfl

theorem handleControl_other (h : requestOf frame = none) :
    handleControl env frame = afterBegin env frame := by
  cases frame <;> first | rfl | cases h

/-- a control frame up to its request -/
def beginning (frame : ControlFrame) (requestId : Nat) : BusinessM Unit := do
  let atMs ← nowMs env
  onSession (·.ensureBusinessFrame frame atMs)
  beginRequest env requestId

/-- a subscription that is refused is not followed by envelopes -/
def RefusesAlone : Prop := ∀ n subscribe atMs token replay, env.subscribe n subscribe atMs = .ok (token, replay) →
  ∀ error, replay.ack.outcome = .rejected error → replay.envelopes = []

variable {env} {floor : Nat} {known : List Nat} {subscriptionId : Nat} {c : Connection}

variable (env) in
theorem openRequest_wp (requestId subscriptionId : Nat) (h : Linked floor known c) :
    wp Connection.sent Lawful
      (fun _ c' => c.session.correlation.phase subscriptionId = .fresh ∧
        Moving floor (subscriptionId :: known) subscriptionId .fresh c' ∧
        c'.session.correlation.phase subscriptionId = .active ∧ c'.subscriptions.contains subscriptionId = false)
      (fun _ => Ended floor) (openRequest env requestId subscriptionId) c := by
  refine wp_bind (wp_read (wp_bind (wp_require ?_ fun _ => h.ended)))
  intro _
  refine wp_bind (wp_modify rfl (wp_correlateReporting h.limits h.lawful ?_ ?_))
  · intro correlation hopen
    obtain ⟨hlimits, hfresh, hactive, hothers⟩ := h.limits.openSubscription hopen
    have hmoving := (h.moving hfresh).held hlimits hothers (by rw [hactive]; nofun)
    refine ⟨hfresh, ⟨hmoving.limits, hmoving.here, hmoving.others, hmoving.mailboxes, hmoving.floor, hmoving.known⟩, hactive, ?_⟩
    cases hbox : c.subscriptions.contains subscriptionId with
    | false => rfl
    | true =>
      have hstands := h.mailboxes subscriptionId hbox
      rw [hfresh] at hstands
      cases hstands
  · intro e c' hquiet
    exact ⟨hquiet.limits, hquiet.last.symm ▸ h.floor⟩

/-- envelopes for an active subscription -/
theorem writeEnvelopes_wp {envelopes : List ProjectionEnvelope} (h : Linked floor known c)
    (hactive : c.session.correlation.phase subscriptionId = .active) :
    wp Connection.sent Lawful
      (fun _ c' => Linked floor known c' ∧ c'.session.correlation.phase subscriptionId = .active)
      (fun _ => Ended floor)
      (forEach (fun envelope => writeControl env (.projectionEnvelopeFrame subscriptionId envelope)) envelopes) c := by
  refine wp_forEach (fun _ c' => Linked floor known c' ∧ c'.session.correlation.phase subscriptionId = .active) ?_ ⟨h, hactive⟩
  rintro envelope _ c' ⟨hlinked, hphase⟩
  have hmoved := hlinked.wroteEnvelope hphase envelope
  exact wp_writeControl hmoved.lawful ⟨hmoved, hphase⟩ fun _ => hlinked.ended


/-- the acknowledgement of a subscription and what follows it -/
theorem afterOpen_wp (hrefuses : RefusesAlone env) (h : Moving floor known subscriptionId .fresh c)
    (hactive : c.session.correlation.phase subscriptionId = .active) (hbox : c.subscriptions.contains subscriptionId = false) :
    Goes floor known (afterOpen env requestId subscriptionId subscribe) c := by
  refine wp_bind (wp_callGateway h.limits h.lawful ?_ fun _ _ hquiet => (h.quiet hquiet).ended)
  rintro n atMs ⟨token, replay⟩ c₁ hanswer hquiet
  have h₁ := h.quiet hquiet
  have hactive₁ : c₁.session.correlation.phase subscriptionId = .active := by rw [hquiet.same.phase, hactive]
  have hbox₁ : c₁.subscriptions.contains subscriptionId = false := by rw [hquiet.mailboxes, hbox]
  have hothers : ∀ other, other ≠ subscriptionId →
      notice other (.projectionSubscribeAckFrame requestId subscriptionId replay.ack) = none := fun _ hne => if_neg hne.symm
  cases houtcome : replay.ack.outcome with
  | rejected error =>
    -- the refusal ends the subscription, and the connection follows once the request is complete
    have hnotice : notice subscriptionId (.projectionSubscribeAckFrame requestId subscriptionId replay.ack) =
        some .rejected := by simp [notice, houtcome]
    have h₂ := h₁.wrote _ hnotice hothers rfl
    refine wp_bind (wp_writeControl h₂.lawful ?_ fun _ => h₁.ended)
    rw [hrefuses n subscribe atMs token replay hanswer error houtcome]
    refine wp_bind (wp_pure (wp_bind (wp_quiet .completeRequest h₂.limits h₂.lawful ?_ fun _ _ hq => (h₂.quiet hq).ended)))
    intro _ c₃ hquiet₃
    have h₃ := h₂.quiet hquiet₃
    simp only [houtcome]
    refine wp_correlate ?_ fun _ => h₃.ended
    intro correlation hclose
    obtain ⟨hlimits, -, hdone, hsame⟩ := h₃.limits.closeSubscription hclose
    have hbox₃ : c₃.subscriptions.contains subscriptionId = false := by rw [hquiet₃.mailboxes]; exact hbox₁
    refine ((h₃.held hlimits hsame (by rw [hdone]; nofun)).linked hdone ?_).forget
    intro hcontains
    rw [hbox₃] at hcontains
    cases hcontains
  | resumed fromCursor | currentFollows fromCursor =>
    have hnotice : notice subscriptionId (.projectionSubscribeAckFrame requestId subscriptionId replay.ack) =
        some .accepted := by simp [notice, houtcome]
    have h₂ := (h₁.wrote _ hnotice hothers rfl).linked hactive₁ fun _ => rfl
    refine wp_bind (wp_writeControl h₂.lawful ?_ fun _ => h₁.ended)
    refine wp_seq (writeEnvelopes_wp h₂ hactive₁) ?_ fun _ _ he => he
    rintro _ c₃ ⟨h₃, hactive₃⟩
    refine wp_bind (wp_quiet .completeRequest h₃.limits h₃.lawful ?_ fun _ _ hq => (h₃.quiet hq).ended)
    intro _ c₄ hquiet₄
    have h₄ := h₃.quiet hquiet₄
    simp only [houtcome]
    refine wp_modify rfl ⟨h₄.limits, h₄.status, ?_, h₄.floor, h₄.known⟩
    intro other hcontains
    by_cases hother : other = subscriptionId
    · rw [hother, hquiet₄.same.phase, hactive₃]
    · refine h₄.mailboxes other ?_
      rw [Std.ExtTreeMap.contains_insert, Bool.or_eq_true] at hcontains
      refine hcontains.resolve_left ?_
      simpa using Ne.symm hother

/-- the answer to an unsubscribe -/
theorem afterUnsubscribe_wp (h : Linked floor known c) :
    Goes floor known (afterUnsubscribe env requestId subscriptionId) c := by
  refine wp_bind (wp_correlate ?_ fun _ => h.ended)
  intro correlation hunsubscribe
  obtain ⟨hlimits, hstood, hdone, hothers, -⟩ := h.limits.unsubscribe hunsubscribe
  have h₁ := ((h.moving rfl).held hlimits hothers (by rw [hdone]; nofun)).dropped
  have hnext : (c.session.correlation.phase subscriptionId).next .unsubscribed = some .done := by
    rcases hstood with hstood | hstood <;> rw [hstood] <;> rfl
  refine wp_bind (wp_modify rfl ?_)
  have h₂ := (h₁.wrote (.unsubscribeAck requestId subscriptionId) (if_pos rfl) (fun _ hne => if_neg hne.symm)
    hnext).linked hdone (by simp)
  refine wp_bind (wp_writeControl h₂.lawful ?_ fun _ => h₁.ended)
  exact h₂.forget.wp_quiet .completeRequest

/-- what a mailbox held -/
theorem drainSubscription_wp {events : List SubscriptionEvent} (h : Linked floor known c)
    (hactive : c.session.correlation.phase subscriptionId = .active) :
    wp Connection.sent Lawful
      (fun _ c' => Linked floor known c' ∧ ∀ other, other ≠ subscriptionId →
        c'.session.correlation.phase other = c.session.correlation.phase other)
      (fun _ => Ended floor) (drainSubscription env subscriptionId events) c := by
  induction events generalizing c with
  | nil => exact wp_pure ⟨h, fun _ _ => rfl⟩
  | cons event rest ih =>
    cases event with
    | projection envelope =>
      have hmoved := h.wroteEnvelope hactive envelope
      exact wp_bind (wp_writeControl hmoved.lawful (ih hmoved hactive) fun _ => h.ended)
    | closed error =>
      refine wp_bind (wp_correlate ?_ fun _ => h.ended)
      intro correlation hclose
      obtain ⟨hlimits, -, hgapped, hothers⟩ := h.limits.closeSubscriptionForGap hclose
      have h₁ := (h.moving hactive).held hlimits hothers (by rw [hgapped]; nofun)
      have h₂ := h₁.wrote (.projectionSubscriptionClosed subscriptionId error) (if_pos rfl)
        (fun _ hne => if_neg hne.symm) rfl
      refine wp_bind (wp_writeControl h₂.lawful ?_ fun _ => h₁.ended)
      exact wp_modify rfl ⟨(h₂.dropped.linked hgapped (by simp)).forget, hothers⟩

/-- a pass over the mailboxes -/
theorem publishSubscriptionEvents_wp {drained : Nat → List SubscriptionEvent} (h : Linked floor known c) :
    Goes floor known (publishSubscriptionEvents env drained) c := by
  -- the subscriptions still to come are active, since no two entries are about the same one
  let I (entries : List (Nat × Nat)) (c' : Connection) : Prop := Linked floor known c' ∧ (entries.map Prod.fst).Nodup ∧
    ∀ entry ∈ entries, c'.session.correlation.phase entry.1 = .active
  have hstep : ∀ (entry : Nat × Nat) entries c', I (entry :: entries) c' →
      wp Connection.sent Lawful (fun _ => I entries) (fun _ => Ended floor)
        (drainSubscription env entry.1 (drained entry.2)) c' := by
    rintro entry entries c' ⟨hlinked, hnodup, hactive⟩
    rw [List.map_cons, List.nodup_cons] at hnodup
    refine wp_post (drainSubscription_wp hlinked (hactive entry List.mem_cons_self)) ?_ fun _ _ he => he
    rintro _ c'' ⟨hlinked', hsame⟩
    refine ⟨hlinked', hnodup.2, ?_⟩
    intro other hmem
    have hne : other.1 ≠ entry.1 := by
      intro heq
      exact hnodup.1 (heq ▸ List.mem_map_of_mem hmem)
    rw [hsame other.1 hne]
    exact hactive other (List.mem_cons_of_mem _ hmem)
  have hinitial : I c.subscriptions.toList c := by
    refine ⟨h, ?_, ?_⟩
    · rw [Std.ExtTreeMap.map_fst_toList_eq_keys]
      exact Std.ExtTreeMap.nodup_keys
    · rintro ⟨id, token⟩ hmem
      refine h.mailboxes id ?_
      rw [← Std.ExtTreeMap.isSome_getElem?_eq_contains, Std.ExtTreeMap.mem_toList_iff_getElem?_eq_some.mp hmem]
      rfl
  refine wp_bind (wp_read (wp_seq (wp_forEach I hstep hinitial) ?_ fun _ _ he => he))
  intro _ c' hdone
  exact wp_pure hdone.1

/-- the rest of a control frame -/
theorem afterBegin_wp (hrefuses : RefusesAlone env) (frame : ControlFrame) (h : Linked floor known c) :
    Goes floor known (afterBegin env frame) c := by
  cases frame <;> try exact wp_fail h.ended
  case projectionSubscribeFrame requestId subscriptionId subscribe =>
    refine wp_seq (openRequest_wp env requestId subscriptionId h) ?_ fun _ _ he => he
    rintro _ c' ⟨-, hmoving, hactive, hbox⟩
    exact wp_post (afterOpen_wp hrefuses hmoving hactive hbox) (fun _ _ hq => hq.forget) fun _ _ he => he
  case unsubscribeRequest requestId subscriptionId => exact afterUnsubscribe_wp h
  case contentWriteHeader requestId request =>
    exact h.wp_quiet (.bind (.correlate fun _ _ hl hok => hl.expectContent hok) fun _ => .bind .read fun _ =>
      .bind (.modify fun _ => ⟨rfl, rfl, rfl, rfl⟩) fun _ => .require)
  case contentReadFrame requestId request =>
    exact h.wp_quiet (.bind .callGateway fun _ => .bind (.writeControl fun _ => rfl) fun _ => .completeRequest)
  case deviceCommandFrame requestId request =>
    exact h.wp_quiet (.bind .callGateway fun _ => .bind (.writeControl fun _ => rfl) fun _ => .completeRequest)
  case ping requestId nonce =>
    exact h.wp_quiet (.bind (.writeControl fun _ => rfl) fun _ => .completeRequest)
  case pong requestId nonce => exact h.wp_quiet (.correlate fun _ _ hl hok => hl.acceptResponse hok)

end

/-! ## Runs -/

/-- the gateway answers a subscription with what the broker holds at that call -/
def Surroundings.overBrokers (env : Surroundings) (brokers : Nat → Broker) : Surroundings :=
  { env with
    subscribe := fun n subscribe atMs =>
      match env.subscribe n subscribe atMs with
      | .error e => .error e
      | .ok _ => match (Broker.subscribeWithCapacity subscribe atMs defaultSubscriptionCapacity (brokers n)).1 with
        | .ok answer => .ok answer
        | .error _ => .error .broker }

/-- the journal replays nothing to a subscriber it refuses -/
theorem replay_rejected {j : ProjectionJournal} {replay : ProjectionReplay} {error : CanonicalError}
    (h : j.replay subscribe atMs = .ok replay) (hrejected : replay.ack.outcome = .rejected error) :
    replay.envelopes = [] := by
  obtain ⟨-, h⟩ := seq_eq_ok.mp h
  split at h
  · cases h
    rfl
  · cases h
  · obtain ⟨ack, -, h⟩ := bind_eq_ok.mp h
    cases h
    simp only at hrejected ⊢
    rw [hrejected]

theorem subscribeWithCapacity_replay {b b' : Broker} {capacity token : Nat} {replay : ProjectionReplay}
    (h : Broker.subscribeWithCapacity subscribe atMs capacity b = (.ok (token, replay), b')) :
    b.world.store.projections.replay subscribe atMs = .ok replay := by
  obtain ⟨_, b₁, hcapacity, h⟩ := run_bind_eq_ok.mp h
  obtain ⟨next, b₂, hnext, h⟩ := run_bind_eq_ok.mp h
  obtain ⟨_, b₃, hroom, h⟩ := run_bind_eq_ok.mp h
  obtain ⟨_, b₄, hmodify, h⟩ := run_bind_eq_ok.mp h
  obtain ⟨seen, b₅, hseen, h⟩ := run_bind_eq_ok.mp h
  have hworld : seen.world = b.world := by
    obtain ⟨-, rfl⟩ := run_require_eq_ok hcapacity
    cases hnext
    obtain ⟨-, rfl⟩ := run_require_eq_ok hroom
    cases hmodify
    cases hseen
    rfl
  rw [hworld] at h
  cases hreplay : b.world.store.projections.replay subscribe atMs with
  | error e =>
    rw [hreplay] at h
    cases h
  | ok replay' =>
    rw [hreplay] at h
    cases houtcome : replay'.ack.outcome <;> simp only [houtcome] at h
    all_goals
      cases h
      rfl

theorem refusesAlone_overBrokers (env : Surroundings) (brokers : Nat → Broker) : RefusesAlone (env.overBrokers brokers) := by
  intro n subscribe atMs token replay hanswer error hrejected
  simp only [Surroundings.overBrokers] at hanswer
  split at hanswer
  · cases hanswer
  · split at hanswer
    · rename_i answer hbroker
      cases hanswer
      exact replay_rejected (subscribeWithCapacity_replay (Prod.ext hbroker rfl)) hrejected
    · cases hanswer

/-- what the thread does between two looks at its flags -/
inductive Action where
  | frame (frame : Frame)
  | publish (drained : Nat → List SubscriptionEvent)
  | ping

section

variable (env : Surroundings)

def perform : Action → BusinessM Unit
  | .frame frame => handleBusinessFrame env frame
  | .publish drained => publishSubscriptionEvents env drained
  | .ping => sendPing env

/-- the request identifiers that an action accepts -/
def acceptedBy (c : Connection) : Action → List Nat
  | .frame (.control (.ok frame)) =>
    match requestOf frame with
    | none => []
    | some requestId => match (beginning env frame requestId c).1 with
      | .ok _ => [requestId]
      | .error _ => []
  | _ => []

/-- the subscriptions that an action opens -/
def openedBy (c : Connection) : Action → List Nat
  | .frame (.control (.ok (.projectionSubscribeFrame requestId subscriptionId subscribe))) =>
    match ((do
      beginning env (.projectionSubscribeFrame requestId subscriptionId subscribe) requestId
      openRequest env requestId subscriptionId : BusinessM Unit) c).1 with
    | .ok _ => [subscriptionId]
    | .error _ => []
  | _ => []

/-- a connection, with the requests it accepted and the subscriptions it opened -/
structure Dialogue where
  connection : Connection
  accepted : List Nat := []
  opened : List Nat := []

/-- one more action; an error drops the connection -/
def Dialogue.step (d : Dialogue) (action : Action) : Dialogue :=
  if d.connection.live then
    { connection := match perform env action d.connection with
        | (.ok _, c) => c
        | (.error _, c) => { c with live := false }
      accepted := d.accepted ++ acceptedBy env d.connection action
      opened := openedBy env d.connection action ++ d.opened }
  else d

variable {env} {floor : Nat} {known : List Nat} {c : Connection}

/-- what an action leaves: the connection goes on, or it has ended -/
def Leaves (floor : Nat) (known : List Nat) (r : Except LanServerError Unit × Connection) : Prop :=
  Lawful r.2.sent ∧ Ended floor r.2 ∧ ∀ u, r.1 = .ok u → Linked floor known r.2

theorem leaves_of_wp {p : BusinessM Unit} (h : Goes floor known p c) (hlawful : Lawful c.sent) :
    Leaves floor known (p c) := by
  have hpost := (wp_final_log h hlawful).2.2
  generalize p c = r at hpost
  obtain ⟨e | u, c'⟩ := r
  · exact ⟨hpost.2, hpost.1, nofun⟩
  · exact ⟨hpost.2, hpost.1.ended, fun _ _ => hpost.1⟩

variable (env) in
theorem beginning_wp (frame : ControlFrame) (requestId : Nat) (h : Linked floor known c) :
    wp Connection.sent Lawful
      (fun _ c' => Linked requestId known c' ∧ c.lastRequestId < requestId ∧ requestId ∈ c'.session.correlation.incomingPending ∧
        ∀ subscriptionId, c'.session.correlation.phase subscriptionId = c.session.correlation.phase subscriptionId)
      (fun _ => Ended floor) (beginning env frame requestId) c := by
  have hbeginning : beginning env frame requestId = (do
      let atMs ← nowMs env
      onSession (·.ensureBusinessFrame frame atMs)) >>= fun _ => beginRequest env requestId := (Prog.bind_assoc _ _ _).symm
  rw [hbeginning]
  refine wp_bind (wp_quiet .entering h.limits h.lawful ?_ fun _ _ hq => (h.quiet hq).ended)
  intro _ c₁ hq
  refine wp_beginRequest (h.quiet hq) ?_
  intro c₂ hbegun
  refine ⟨(h.quiet hq).begun hbegun, hq.last ▸ hbegun.later, hbegun.pending, ?_⟩
  intro subscriptionId
  rw [hbegun.same.phase, hq.same.phase]

theorem handleBusinessFrame_request (h : requestOf frame = some requestId) :
    handleBusinessFrame env (.control (.ok frame)) = (do beginning env frame requestId; afterBegin env frame) := by
  simp only [handleBusinessFrame, beginning, handleControl_request env h, Prog.bind_assoc]

theorem acceptedBy_request (h : requestOf frame = some requestId) :
    acceptedBy env c (.frame (.control (.ok frame))) = match (beginning env frame requestId c).1 with
      | .ok _ => [requestId]
      | .error _ => [] := by
  simp only [acceptedBy, h]

/-- what one action does: identifiers it accepts are later than all before, and a subscription it opens is new -/
structure Acts (env : Surroundings) (known : List Nat) (c : Connection) (action : Action) : Prop where
  later : ∀ requestId ∈ acceptedBy env c action, c.lastRequestId < requestId
  fresh : ∀ subscriptionId ∈ openedBy env c action, c.session.correlation.phase subscriptionId = .fresh
  single : (acceptedBy env c action).length ≤ 1 ∧ (openedBy env c action).length ≤ 1
  leaves : Leaves ((acceptedBy env c action).headD c.lastRequestId) (openedBy env c action ++ known) (perform env action c)

/-- the identifiers of an action are known -/
theorem acts_of {action : Action} {accepted opened : List Nat} (haccepted : acceptedBy env c action = accepted)
    (hopened : openedBy env c action = opened) (hone : accepted.length ≤ 1 ∧ opened.length ≤ 1)
    (hlater : ∀ requestId ∈ accepted, c.lastRequestId < requestId)
    (hfresh : ∀ subscriptionId ∈ opened, c.session.correlation.phase subscriptionId = .fresh)
    (hleaves : Leaves (accepted.headD c.lastRequestId) (opened ++ known) (perform env action c)) : Acts env known c action := by
  subst haccepted hopened
  exact ⟨hlater, hfresh, hone, hleaves⟩

/-- an action that accepts no request -/
theorem acts_of_none {action : Action} (haccepted : acceptedBy env c action = []) (hopened : openedBy env c action = [])
    (hleaves : Leaves c.lastRequestId known (perform env action c)) : Acts env known c action :=
  acts_of haccepted hopened (by simp) (by simp) (by simp) hleaves

/-- a subscription frame whose request has begun -/
theorem acts_subscribe (hrefuses : RefusesAlone env) {subscriptionId : Nat} {c₁ : Connection}
    (hbegun : beginning env (.projectionSubscribeFrame requestId subscriptionId subscribe) requestId c = (.ok (), c₁))
    (h₁ : Linked requestId known c₁) (hlater : c.lastRequestId < requestId)
    (hphase : c₁.session.correlation.phase subscriptionId = c.session.correlation.phase subscriptionId) :
    Acts env known c (.frame (.control (.ok (.projectionSubscribeFrame requestId subscriptionId subscribe)))) := by
  set action : Action := .frame (.control (.ok (.projectionSubscribeFrame requestId subscriptionId subscribe))) with haction
  have haccepted : acceptedBy env c action = [requestId] := by rw [haction, acceptedBy_request rfl, hbegun]
  have hperform : perform env action c =
      (do openRequest env requestId subscriptionId; afterOpen env requestId subscriptionId subscribe : BusinessM Unit) c₁ := by
    rw [haction, perform, handleBusinessFrame_request rfl, run_bind hbegun]
    rfl
  have hopen := openRequest_wp env requestId subscriptionId h₁
  rcases hr : openRequest env requestId subscriptionId c₁ with ⟨e | u, c₂⟩
  · have hopened : openedBy env c action = [] := by simp only [haction, openedBy, run_bind hbegun, hr]
    have hended := (wp_final_log hopen h₁.lawful).2.2
    rw [hr] at hended
    refine acts_of haccepted hopened (by simp) (by simp [hlater]) (by simp) ?_
    rw [hperform, run_bind_error hr]
    exact ⟨hended.2, hended.1, nofun⟩
  · have hopened : openedBy env c action = [subscriptionId] := by simp only [haction, openedBy, run_bind hbegun, hr]
    obtain ⟨hfresh, hmoving, hactive, hbox⟩ := wp_ok hopen hr
    refine acts_of haccepted hopened (by simp) (by simp [hlater]) (by simp [← hphase, hfresh]) ?_
    rw [hperform, run_bind hr]
    exact leaves_of_wp (afterOpen_wp hrefuses hmoving hactive hbox) hmoving.lawful

/-- **Every action** keeps the connection where its subscriptions stand. -/
theorem acts (hrefuses : RefusesAlone env) (h : Linked c.lastRequestId known c) (action : Action) :
    Acts env known c action := by
  cases action with
  | publish drained => exact acts_of_none rfl rfl (leaves_of_wp (publishSubscriptionEvents_wp h) h.lawful)
  | ping => exact acts_of_none rfl rfl (leaves_of_wp (h.wp_quiet .sendPing) h.lawful)
  | frame frame =>
    cases frame with
    | content requestId body => exact acts_of_none rfl rfl (leaves_of_wp (h.wp_quiet .handleContent) h.lawful)
    | control decoded =>
      cases decoded with
      | error e => exact acts_of_none rfl rfl (leaves_of_wp (h.wp_quiet .fail) h.lawful)
      | ok frame =>
        cases hrequest : requestOf frame with
        | none =>
          have hopened : openedBy env c (.frame (.control (.ok frame))) = [] := by
            cases frame <;> first | rfl | cases hrequest
          refine acts_of_none (by simp only [acceptedBy, hrequest]) hopened (leaves_of_wp ?_ h.lawful)
          have hperform : perform env (.frame (.control (.ok frame))) = (do
              let atMs ← nowMs env
              onSession (·.ensureBusinessFrame frame atMs)) >>= fun _ => afterBegin env frame := by
            simp only [perform, handleBusinessFrame, handleControl_other env hrequest, Prog.bind_assoc]
          rw [hperform]
          exact wp_seq (h.wp_quiet .entering) (fun _ _ => afterBegin_wp hrefuses frame) fun _ _ he => he
        | some requestId =>
          have hbegin := beginning_wp env frame requestId h
          rcases hr : beginning env frame requestId c with ⟨e | u, c₁⟩
          · -- the request is refused, and the connection ends
            have hopened : openedBy env c (.frame (.control (.ok frame))) = [] := by
              cases frame <;> try rfl
              cases hrequest
              simp only [openedBy, run_bind_error hr]
            refine acts_of_none (by rw [acceptedBy_request hrequest, hr]) hopened ?_
            have hended := (wp_final_log hbegin h.lawful).2.2
            rw [hr] at hended
            rw [perform, handleBusinessFrame_request hrequest, run_bind_error hr]
            exact ⟨hended.2, hended.1, nofun⟩
          · obtain ⟨h₁, hlater, -, hphase⟩ := wp_ok hbegin hr
            by_cases hsubscribe : ∃ subscriptionId subscribe, frame = .projectionSubscribeFrame requestId subscriptionId subscribe
            · obtain ⟨subscriptionId, subscribe, rfl⟩ := hsubscribe
              exact acts_subscribe hrefuses hr h₁ hlater (hphase subscriptionId)
            · have haccepted : acceptedBy env c (.frame (.control (.ok frame))) = [requestId] := by
                rw [acceptedBy_request hrequest, hr]
              have hopened : openedBy env c (.frame (.control (.ok frame))) = [] := by
                cases frame <;> try rfl
                cases hrequest
                exact absurd ⟨_, _, rfl⟩ hsubscribe
              refine acts_of haccepted hopened (by simp) (by simp [hlater]) (by simp) ?_
              rw [perform, handleBusinessFrame_request hrequest, run_bind hr]
              exact leaves_of_wp (afterBegin_wp hrefuses frame h₁) h₁.lawful

theorem pairwise_of_length_le_one {R : Nat → Nat → Prop} {l : List Nat} (h : l.length ≤ 1) : l.Pairwise R := by
  rcases l with _ | ⟨a, _ | ⟨b, l⟩⟩
  · exact .nil
  · exact List.pairwise_singleton R a
  · simp at h

/-- what holds between two actions -/
structure Dialogue.Sound (d : Dialogue) : Prop where
  live : d.connection.live = true → Linked d.connection.lastRequestId d.opened d.connection
  lawful : Lawful d.connection.sent
  limits : d.connection.session.correlation.Limits
  increasing : d.accepted.Pairwise (· < ·)
  bounded : ∀ requestId ∈ d.accepted, requestId ≤ d.connection.lastRequestId
  distinct : d.opened.Nodup

theorem Dialogue.sound_step (hrefuses : RefusesAlone env) {d : Dialogue} (h : d.Sound) (action : Action) :
    (d.step env action).Sound := by
  unfold Dialogue.step
  split_ifs with hlive
  · have hlinked := h.live hlive
    obtain ⟨hlater, hfresh, ⟨hone, hone'⟩, hlawful, hended, hgoes⟩ := acts hrefuses hlinked action
    have hbounded : ∀ requestId ∈ d.accepted ++ acceptedBy env d.connection action,
        requestId ≤ (perform env action d.connection).2.lastRequestId := by
      intro requestId hmem
      refine le_trans ?_ hended.floor
      cases haccepted : acceptedBy env d.connection action with
      | nil =>
        rw [haccepted, List.append_nil] at hmem
        exact h.bounded requestId hmem
      | cons first rest =>
        rw [haccepted] at hmem hone hlater
        obtain rfl : rest = [] := by simpa using hone
        rcases List.mem_append.mp hmem with hmem | hmem
        · exact (h.bounded requestId hmem).trans (hlater first List.mem_cons_self).le
        · exact (List.mem_singleton.mp hmem).le
    have hincreasing : (d.accepted ++ acceptedBy env d.connection action).Pairwise (· < ·) := by
      refine List.pairwise_append.mpr ⟨h.increasing, ?_, ?_⟩
      · exact pairwise_of_length_le_one hone
      · intro before hbefore after hafter
        exact (h.bounded before hbefore).trans_lt (hlater after hafter)
    have hdistinct : (openedBy env d.connection action ++ d.opened).Nodup := by
      refine List.nodup_append.mpr ⟨pairwise_of_length_le_one hone', h.distinct, ?_⟩
      rintro subscriptionId hnew _ hold rfl
      exact hlinked.known subscriptionId hold (hfresh subscriptionId hnew)
    rcases hr : perform env action d.connection with ⟨e | u, c⟩ <;> rw [hr] at hlawful hended hgoes hbounded
    · exact ⟨nofun, hlawful, hended.limits, hincreasing, hbounded, hdistinct⟩
    · have hlinked' := hgoes u rfl
      exact ⟨fun _ => { hlinked' with floor := le_rfl }, hlawful, hended.limits, hincreasing, hbounded, hdistinct⟩
  · exact h

/-- a connection whose session has just been authenticated -/
def opening (session : ConnectionSession) (lastRequestId : Nat) : Dialogue :=
  { connection := start { session with correlation := {} } lastRequestId }

theorem opening_sound (session : ConnectionSession) (lastRequestId : Nat) : (opening session lastRequestId).Sound where
  live _ := ⟨limits_initial, fun _ => rfl, by simp [opening, start], le_rfl, by simp [opening]⟩
  lawful _ := rfl
  limits := limits_initial
  increasing := .nil
  bounded := by simp [opening]
  distinct := .nil

/-- the unsubscribe that follows a gap is answered -/
theorem unsubscribe_after_gap {subscriptionId : Nat} (h : Linked floor known c)
    (hclosed : .closed ∈ notices subscriptionId c.sent) (hunanswered : .unsubscribed ∉ notices subscriptionId c.sent)
    (hbegins : (beginning env (.unsubscribeRequest requestId subscriptionId) requestId c).1 = .ok ())
    (hwrites : ∀ c', (writeControl env (.unsubscribeAck requestId subscriptionId) c').1 = .ok ()) :
    (handleBusinessFrame env (.control (.ok (.unsubscribeRequest requestId subscriptionId))) c).1 = .ok () ∧
    .unsubscribeAck requestId subscriptionId ∈
      (handleBusinessFrame env (.control (.ok (.unsubscribeRequest requestId subscriptionId))) c).2.sent := by
  have hgapped : c.session.correlation.phase subscriptionId = .gapped := by
    rcases (Transport.Phase.tells (h.status subscriptionId)).closed hclosed with hgapped | ⟨-, hanswered⟩
    · exact hgapped
    · exact absurd hanswered hunanswered
  obtain ⟨c₁, hbegun⟩ : ∃ c₁, beginning env (.unsubscribeRequest requestId subscriptionId) requestId c = (.ok (), c₁) :=
    ⟨_, Prod.ext hbegins rfl⟩
  obtain ⟨h₁, hlater, hpending, hphase⟩ := wp_ok (beginning_wp env _ requestId h) hbegun
  obtain ⟨correlation, hunsubscribe⟩ := unsubscribe_gapped h₁.limits ((hphase subscriptionId).trans hgapped)
  obtain ⟨-, -, -, -, hkept⟩ := h₁.limits.unsubscribe hunsubscribe
  -- the correlation, the mailbox, the answer, and the request completes
  have hcorrelate : correlate (·.unsubscribe subscriptionId) c₁ =
      (.ok (), { c₁ with session := { c₁.session with correlation := correlation } }) := by
    simp only [correlate, onSession, hunsubscribe, Except.map]
  have hwrite : ∀ c', writeControl env (.unsubscribeAck requestId subscriptionId) c' =
      (.ok (), { c' with sent := c'.sent ++ [.unsubscribeAck requestId subscriptionId] }) := by
    intro c'
    have hok := hwrites c'
    unfold writeControl at hok ⊢
    split at hok
    · cases hok
    · split at hok
      · cases hok
      · rfl
  have hcomplete : correlation.completeIncomingRequest requestId = .ok { correlation with
      incomingPending := correlation.incomingPending.erase requestId
      awaitingContent := correlation.awaitingContent.erase requestId } := by
    unfold completeIncomingRequest
    rw [seq_eq_ok, ensure_eq_ok, pure_eq_ok, hkept]
    exact ⟨⟨Nat.ne_of_gt (Nat.zero_lt_of_lt hlater), hpending⟩, rfl⟩
  have hrest : afterUnsubscribe env requestId subscriptionId c₁ = completeRequest requestId { c₁ with
      session := { c₁.session with correlation := correlation }
      subscriptions := c₁.subscriptions.erase subscriptionId
      sent := c₁.sent ++ [.unsubscribeAck requestId subscriptionId] } := by
    rw [afterUnsubscribe, run_bind hcorrelate]
    exact (run_bind rfl).trans (run_bind (hwrite _))
  rw [handleBusinessFrame_request rfl, run_bind hbegun, afterBegin, hrest]
  simp [completeRequest, correlate, onSession, hcomplete, Except.map]

/-- **The protocol of a connection.** For every sequence of frames, passes over the mailboxes and pings, whatever the broker
holds and whichever writes fail:
- no subscription is opened twice, and none is acknowledged twice;
- an envelope is written after the acceptance of its subscription and before everything that ends it;
- an unsubscribe is answered once, and is answered after a gap closed the subscription;
- the request identifiers that are accepted increase;
- the limits hold between two frames, and inside one when its request has begun and its subscription is open. -/
theorem subscription_protocol (env : Surroundings) (brokers : Nat → Broker) (session : ConnectionSession) (lastRequestId : Nat)
    (actions : List Action) :
    let host := env.overBrokers brokers
    let S := runFrom (Dialogue.step host) (opening session lastRequestId) actions
    let c := S.connection
    S.opened.Nodup ∧
    (∀ subscriptionId, (notices subscriptionId c.sent).countP (fun n => n = .accepted ∨ n = .rejected) ≤ 1 ∧
      (notices subscriptionId c.sent).count .unsubscribed ≤ 1 ∧
      ∀ before after, notices subscriptionId c.sent = before ++ .envelope :: after →
        .accepted ∈ before ∧ .rejected ∉ before ∧ .closed ∉ before ∧ .unsubscribed ∉ before) ∧
    (∀ requestId subscriptionId, c.live = true → .closed ∈ notices subscriptionId c.sent →
      .unsubscribed ∉ notices subscriptionId c.sent →
      (beginning host (.unsubscribeRequest requestId subscriptionId) requestId c).1 = .ok () →
      (∀ c', (writeControl host (.unsubscribeAck requestId subscriptionId) c').1 = .ok ()) →
      (handleBusinessFrame host (.control (.ok (.unsubscribeRequest requestId subscriptionId))) c).1 = .ok () ∧
      .unsubscribeAck requestId subscriptionId ∈
        (handleBusinessFrame host (.control (.ok (.unsubscribeRequest requestId subscriptionId))) c).2.sent) ∧
    S.accepted.Pairwise (· < ·) ∧
    (c.session.correlation.pendingCount ≤ maxPendingRequests ∧
      c.session.correlation.subscriptions.length ≤ maxActiveSubscriptions ∧
      ∀ requestId, c.session.correlation.awaitingContent.contains requestId = true →
        requestId ∈ c.session.correlation.incomingPending) ∧
    (c.live = true → ∀ frame requestId c', beginning host frame requestId c = (.ok (), c') →
      c'.session.correlation.pendingCount ≤ maxPendingRequests ∧
      ∀ subscriptionId c'', openRequest host requestId subscriptionId c' = (.ok (), c'') →
        c''.session.correlation.subscriptions.length ≤ maxActiveSubscriptions) := by
  intro host S c
  have hsound : S.Sound := run_inv (fun _ action h _ => Dialogue.sound_step (refusesAlone_overBrokers env brokers) h action)
    (opening_sound session lastRequestId) (along_of_forall fun _ _ _ => trivial)
  refine ⟨hsound.distinct, hsound.lawful.word, ?_, hsound.increasing,
    ⟨hsound.limits.pending, hsound.limits.subscriptions, hsound.limits.awaiting⟩, ?_⟩
  · intro requestId subscriptionId hlive hclosed hunanswered hbegins hwrites
    exact unsubscribe_after_gap (hsound.live hlive) hclosed hunanswered hbegins hwrites
  · intro hlive frame requestId c' hbegun
    obtain ⟨hlinked, -⟩ := wp_ok (beginning_wp host frame requestId (hsound.live hlive)) hbegun
    refine ⟨hlinked.limits.pending, ?_⟩
    intro subscriptionId c'' hopen
    obtain ⟨-, hmoving, -⟩ := wp_ok (openRequest_wp host requestId subscriptionId hlinked) hopen
    exact hmoving.limits.subscriptions

end

end Kaleido.Hostd.Business
