/-
What a host says about one subscription (`kaleido-transport`, `control.rs`), and what its correlation state keeps of it.

The frames about a subscription are read by an automaton (`Phase.next`): an acknowledgement, then envelopes, then the closing
frame of a gap, the answer to an unsubscribe, or both in this order. `CorrelationState.phase` is where the connection holds a
subscription to stand; the lemmas below it say how each operation moves that, and that each keeps the limits of a connection.
-/
import Kaleido.Transport.Session

namespace Kaleido.Transport

open Check Proto State

variable {subscriptionId requestId : Nat} {sent : List ControlFrame} {frame : ControlFrame}

/-! ## The frames about one subscription -/

/-- what a frame says about a subscription -/
inductive Notice where
  | accepted | rejected | envelope | closed | unsubscribed
  deriving DecidableEq

def notice (subscriptionId : Nat) : ControlFrame → Option Notice
  | .projectionSubscribeAckFrame _ id ack =>
    if id = subscriptionId then
      match ack.outcome with
      | .rejected _ => some .rejected
      | .resumed _ | .currentFollows _ => some .accepted
    else none
  | .projectionEnvelopeFrame id _ => if id = subscriptionId then some .envelope else none
  | .projectionSubscriptionClosed id _ => if id = subscriptionId then some .closed else none
  | .unsubscribeAck _ id => if id = subscriptionId then some .unsubscribed else none
  | _ => none

/-- what was written about a subscription -/
def notices (subscriptionId : Nat) (sent : List ControlFrame) : List Notice := sent.filterMap (notice subscriptionId)

/-- where a subscription stands -/
inductive Phase where
  | fresh | active | gapped | done
  deriving DecidableEq

def Phase.next : Phase → Notice → Option Phase
  | .fresh, .accepted => some .active
  | .fresh, .rejected => some .done
  | .active, .envelope => some .active
  | .active, .closed => some .gapped
  | .active, .unsubscribed => some .done
  | .gapped, .unsubscribed => some .done
  | _, _ => none

/-- where the frames leave a subscription -/
def status (subscriptionId : Nat) (sent : List ControlFrame) : Option Phase :=
  (notices subscriptionId sent).foldlM Phase.next .fresh

/-- the frames about every subscription are in order -/
def Lawful (sent : List ControlFrame) : Prop := ∀ subscriptionId, (status subscriptionId sent).isSome

theorem status_snoc (subscriptionId : Nat) (sent : List ControlFrame) (frame : ControlFrame) :
    status subscriptionId (sent ++ [frame]) =
      (status subscriptionId sent).bind fun phase => ((notice subscriptionId frame).toList).foldlM Phase.next phase := by
  cases h : notice subscriptionId frame <;>
    simp [status, notices, List.filterMap_append, List.foldlM_append, h]

/-- a frame about something else -/
theorem status_other (h : notice subscriptionId frame = none) :
    status subscriptionId (sent ++ [frame]) = status subscriptionId sent := by
  rw [status_snoc, h]
  cases status subscriptionId sent <;> rfl

/-- a frame about the subscription -/
theorem status_next {n : Notice} {phase : Phase} (hstatus : status subscriptionId sent = some phase)
    (h : notice subscriptionId frame = some n) :
    status subscriptionId (sent ++ [frame]) = phase.next n := by
  rw [status_snoc, h, hstatus]
  simp

/-- what can have been written to reach a phase -/
structure Phase.Tells (phase : Phase) (word : List Notice) : Prop where
  fresh : phase = .fresh → word = []
  acks : word.countP (fun n => n = .accepted ∨ n = .rejected) ≤ if phase = .fresh then 0 else 1
  unsubscribed : word.count .unsubscribed ≤ if phase = .done then 1 else 0
  active : phase = .active → .accepted ∈ word ∧ .rejected ∉ word ∧ .closed ∉ word
  closed : .closed ∈ word → phase = .gapped ∨ phase = .done ∧ .unsubscribed ∈ word

theorem Phase.tells {word : List Notice} {phase : Phase} (h : word.foldlM Phase.next .fresh = some phase) :
    phase.Tells word := by
  induction word using List.reverseRecOn generalizing phase with
  | nil =>
    cases h
    exact ⟨by simp, by simp, by simp, by simp, by simp⟩
  | append_singleton word n ih =>
    simp only [List.foldlM_append, List.foldlM_cons, List.foldlM_nil, Option.bind_eq_bind, Option.pure_def,
      Option.bind_fun_some, Option.bind_eq_some_iff] at h
    obtain ⟨before, hbefore, hnext⟩ := h
    obtain ⟨hfresh, hacks, hleft, hactive, hclosed⟩ := ih hbefore
    -- one case for each of the six moves of the automaton
    unfold Phase.next at hnext
    split at hnext <;> cases hnext <;> refine ⟨?_, ?_, ?_, ?_, ?_⟩ <;>
      simp_all [List.countP_append, List.count_append]

/-- **One word.** In the frames that are read without an error a subscription is acknowledged once, an envelope stands after
the acceptance and before everything that ends it, and an unsubscribe is answered once. -/
theorem Lawful.word (h : Lawful sent) (subscriptionId : Nat) :
    (notices subscriptionId sent).countP (fun n => n = .accepted ∨ n = .rejected) ≤ 1 ∧
    (notices subscriptionId sent).count .unsubscribed ≤ 1 ∧
    ∀ before after, notices subscriptionId sent = before ++ .envelope :: after →
      .accepted ∈ before ∧ .rejected ∉ before ∧ .closed ∉ before ∧ .unsubscribed ∉ before := by
  obtain ⟨phase, hphase⟩ := Option.isSome_iff_exists.mp (h subscriptionId)
  have htells := Phase.tells hphase
  refine ⟨htells.acks.trans (by split_ifs <;> omega), htells.unsubscribed.trans (by split_ifs <;> omega), ?_⟩
  intro before after hword
  rw [status, hword, List.foldlM_append] at hphase
  simp only [List.foldlM_cons, Option.bind_eq_bind, Option.bind_eq_some_iff] at hphase
  obtain ⟨reached, hreached, next, hnext, -⟩ := hphase
  -- only an active subscription moves on an envelope
  obtain rfl : reached = .active := by
    cases reached <;> simp [Phase.next] at hnext ⊢
  have hbefore := Phase.tells hreached
  refine ⟨(hbefore.active rfl).1, (hbefore.active rfl).2.1, (hbefore.active rfl).2.2, ?_⟩
  exact List.count_eq_zero.mp (Nat.le_zero.mp hbefore.unsubscribed)

/-! ## The correlation state -/

namespace CorrelationState

/-- where the connection holds a subscription to stand -/
def phase (c : CorrelationState) (subscriptionId : Nat) : Phase :=
  if subscriptionId ∈ c.subscriptions then .active
  else match c.subscriptionTombstones[subscriptionId]? with
    | some false => .gapped
    | some true => .done
    | none => .fresh

/-- the limits of a connection -/
structure Limits (c : CorrelationState) : Prop where
  pending : c.pendingCount ≤ maxPendingRequests
  subscriptions : c.subscriptions.length ≤ maxActiveSubscriptions
  awaiting : ∀ requestId, c.awaitingContent.contains requestId = true → requestId ∈ c.incomingPending
  distinct : c.subscriptions.Nodup
  zero : c.phase 0 = .fresh

/-- the subscriptions are as they were -/
def SameSubscriptions (c c' : CorrelationState) : Prop :=
  c'.subscriptions = c.subscriptions ∧ c'.subscriptionTombstones = c.subscriptionTombstones

variable {c c' : CorrelationState}

theorem SameSubscriptions.phase (h : SameSubscriptions c c') (subscriptionId : Nat) :
    c'.phase subscriptionId = c.phase subscriptionId := by
  unfold CorrelationState.phase
  rw [h.1, h.2]

theorem limits_initial : Limits {} := ⟨by decide, by decide, by simp, List.nodup_nil, by decide⟩

theorem Limits.beginIncomingRequest (h : Limits c) (hok : c.beginIncomingRequest requestId = .ok c') :
    Limits c' ∧ SameSubscriptions c c' ∧ requestId ∈ c'.incomingPending := by
  simp only [CorrelationState.beginIncomingRequest, checkPendingLimit, seq_eq_ok, ensure_eq_ok, pure_eq_ok] at hok
  obtain ⟨hroom, -, -, rfl⟩ := hok
  refine ⟨⟨?_, h.subscriptions, ?_, h.distinct, h.zero⟩, ⟨rfl, rfl⟩, List.mem_cons_self⟩
  · simp only [pendingCount, List.length_cons] at hroom ⊢
    omega
  · intro other hother
    exact List.mem_cons_of_mem _ (h.awaiting other hother)

theorem Limits.completeIncomingRequest (h : Limits c) (hok : c.completeIncomingRequest requestId = .ok c') :
    Limits c' ∧ SameSubscriptions c c' := by
  simp only [CorrelationState.completeIncomingRequest, seq_eq_ok, ensure_eq_ok, pure_eq_ok] at hok
  obtain ⟨-, rfl⟩ := hok
  refine ⟨⟨?_, h.subscriptions, ?_, h.distinct, h.zero⟩, rfl, rfl⟩
  · have hpending := h.pending
    have hless : (c.incomingPending.erase requestId).length ≤ c.incomingPending.length := List.length_erase_le
    simp only [pendingCount] at hpending ⊢
    omega
  · intro other hother
    simp only [Std.ExtTreeMap.contains_erase, Bool.and_eq_true] at hother
    obtain ⟨hne, hother⟩ := hother
    have hne : other ≠ requestId := by
      rintro rfl
      simp at hne
    exact (List.mem_erase_of_ne hne).mpr (h.awaiting other hother)

theorem Limits.beginOutgoingRequest (h : Limits c) {expected : ExpectedResponse}
    (hok : c.beginOutgoingRequest requestId expected = .ok c') : Limits c' ∧ SameSubscriptions c c' := by
  simp only [CorrelationState.beginOutgoingRequest, checkPendingLimit, seq_eq_ok, ensure_eq_ok, pure_eq_ok] at hok
  obtain ⟨hroom, -, -, rfl⟩ := hok
  refine ⟨⟨?_, h.subscriptions, h.awaiting, h.distinct, h.zero⟩, rfl, rfl⟩
  have hmore : (c.outgoingPending.insert requestId expected).size ≤ c.outgoingPending.size + 1 :=
    Std.ExtTreeMap.size_insert_le
  simp only [pendingCount] at hroom ⊢
  omega

theorem Limits.acceptResponse (h : Limits c) (hok : c.acceptResponse frame = .ok c') :
    Limits c' ∧ SameSubscriptions c c' := by
  simp only [CorrelationState.acceptResponse, bind_eq_ok, pure_eq_ok] at hok
  obtain ⟨⟨requestId, actual⟩, -, _, -, rfl⟩ := hok
  refine ⟨⟨?_, h.subscriptions, h.awaiting, h.distinct, h.zero⟩, rfl, rfl⟩
  have hpending := h.pending
  have hless : (c.outgoingPending.erase requestId).size ≤ c.outgoingPending.size := Std.ExtTreeMap.size_erase_le
  simp only [pendingCount] at hpending ⊢
  omega

theorem Limits.expectContent (h : Limits c) {request : ContentWriteRequest}
    (hok : c.expectContent requestId request = .ok c') : Limits c' ∧ SameSubscriptions c c' := by
  simp only [CorrelationState.expectContent, seq_eq_ok, ensure_eq_ok, pure_eq_ok] at hok
  obtain ⟨-, ⟨hpending, -⟩, rfl⟩ := hok
  refine ⟨⟨h.pending, h.subscriptions, ?_, h.distinct, h.zero⟩, rfl, rfl⟩
  intro other hother
  simp only [Std.ExtTreeMap.contains_insert, Bool.or_eq_true] at hother
  rcases hother with heq | hother
  · obtain rfl : requestId = other := by simpa using heq
    exact hpending
  · exact h.awaiting other hother

theorem Limits.bindContent (h : Limits c) {hexDigest : List UInt8 → String} {body : List UInt8}
    (hok : c.bindContent hexDigest requestId body = .ok c') : Limits c' ∧ SameSubscriptions c c' := by
  unfold CorrelationState.bindContent at hok
  split at hok
  · cases hok
  · simp only [seq_eq_ok, ensure_eq_ok, pure_eq_ok] at hok
    obtain ⟨-, rfl⟩ := hok
    refine ⟨⟨h.pending, h.subscriptions, ?_, h.distinct, h.zero⟩, rfl, rfl⟩
    intro other hother
    simp only [Std.ExtTreeMap.contains_erase, Bool.and_eq_true] at hother
    exact h.awaiting other hother.2

/-- a subscription is opened -/
theorem Limits.openSubscription (h : Limits c) (hok : c.openSubscription subscriptionId = .ok c') :
    Limits c' ∧ c.phase subscriptionId = .fresh ∧ c'.phase subscriptionId = .active ∧
      ∀ other, other ≠ subscriptionId → c'.phase other = c.phase other := by
  simp only [CorrelationState.openSubscription, seq_eq_ok, ensure_eq_ok, pure_eq_ok] at hok
  obtain ⟨⟨hzero, hnew, huntouched⟩, hroom, rfl⟩ := hok
  have hothers : ∀ other, other ≠ subscriptionId →
      CorrelationState.phase { c with subscriptions := subscriptionId :: c.subscriptions } other = c.phase other := by
    intro other hne
    unfold CorrelationState.phase
    simp [hne]
  refine ⟨⟨h.pending, hroom, h.awaiting, List.nodup_cons.mpr ⟨hnew, h.distinct⟩, (hothers 0 hzero.symm).trans h.zero⟩, ?_, ?_,
    hothers⟩
  · have hnone : c.subscriptionTombstones[subscriptionId]? = none :=
      Std.ExtTreeMap.getElem?_eq_none_of_contains_eq_false (Bool.eq_false_iff.mpr huntouched)
    unfold CorrelationState.phase
    rw [if_neg hnew, hnone]
  · unfold CorrelationState.phase
    rw [if_pos List.mem_cons_self]

/-- a subscription leaves the active ones with a tombstone -/
theorem Limits.retire (h : Limits c) {subscriptionId : Nat} (hzero : subscriptionId ≠ 0) (tombstone : Bool) (hc' : c' = { c with
      subscriptions := c.subscriptions.erase subscriptionId
      subscriptionTombstones := c.subscriptionTombstones.insert subscriptionId tombstone }) :
    Limits c' ∧ c'.phase subscriptionId = (if tombstone then .done else .gapped) ∧
      ∀ other, other ≠ subscriptionId → c'.phase other = c.phase other := by
  have hothers : ∀ other, other ≠ subscriptionId → c'.phase other = c.phase other := by
    intro other hne
    subst hc'
    unfold CorrelationState.phase
    rw [OrdMap.get_insert, if_neg hne.symm]
    simp only [List.mem_erase_of_ne hne]
  have hzero' : c'.phase 0 = .fresh := (hothers 0 hzero.symm).trans h.zero
  subst hc'
  refine ⟨⟨h.pending, List.length_erase_le.trans h.subscriptions, h.awaiting, h.distinct.erase _, hzero'⟩, ?_, hothers⟩
  unfold CorrelationState.phase
  rw [if_neg (List.Nodup.not_mem_erase h.distinct), OrdMap.get_insert_self]
  cases tombstone <;> rfl

theorem Limits.closeSubscription (h : Limits c) (hok : c.closeSubscription subscriptionId = .ok c') :
    Limits c' ∧ c.phase subscriptionId = .active ∧ c'.phase subscriptionId = .done ∧
      ∀ other, other ≠ subscriptionId → c'.phase other = c.phase other := by
  simp only [CorrelationState.closeSubscription, seq_eq_ok, ensure_eq_ok, pure_eq_ok] at hok
  obtain ⟨⟨hzero, hmem⟩, hc'⟩ := hok
  obtain ⟨hlimits, hphase, hothers⟩ := h.retire hzero true hc'.symm
  exact ⟨hlimits, if_pos hmem, hphase, hothers⟩

theorem Limits.closeSubscriptionForGap (h : Limits c) {error : CanonicalError}
    (hok : c.closeSubscriptionForGap subscriptionId error = .ok c') :
    Limits c' ∧ c.phase subscriptionId = .active ∧ c'.phase subscriptionId = .gapped ∧
      ∀ other, other ≠ subscriptionId → c'.phase other = c.phase other := by
  simp only [CorrelationState.closeSubscriptionForGap, seq_eq_ok, ensure_eq_ok, pure_eq_ok] at hok
  obtain ⟨-, ⟨hzero, hmem, -⟩, hc'⟩ := hok
  obtain ⟨hlimits, hphase, hothers⟩ := h.retire hzero false hc'.symm
  exact ⟨hlimits, if_pos hmem, hphase, hothers⟩

theorem Limits.unsubscribe (h : Limits c) (hok : c.unsubscribe subscriptionId = .ok c') :
    Limits c' ∧ (c.phase subscriptionId = .active ∨ c.phase subscriptionId = .gapped) ∧ c'.phase subscriptionId = .done ∧
      (∀ other, other ≠ subscriptionId → c'.phase other = c.phase other) ∧ c'.incomingPending = c.incomingPending := by
  obtain ⟨hzero, hok⟩ := seq_eq_ok.mp hok
  rw [ensure_eq_ok] at hzero
  split_ifs at hok with hmem
  · obtain ⟨hlimits, hphase, hothers⟩ := h.retire hzero true (pure_eq_ok.mp hok).symm
    refine ⟨hlimits, .inl (if_pos hmem), hphase, hothers, ?_⟩
    rw [← pure_eq_ok.mp hok]
  · obtain ⟨hgap, hc'⟩ := seq_eq_ok.mp hok
    have hgapped : c.phase subscriptionId = .gapped := by
      unfold CorrelationState.phase
      rw [if_neg hmem, ensure_eq_ok.mp hgap]
    have herase : c' = { c with
        subscriptions := c.subscriptions.erase subscriptionId
        subscriptionTombstones := c.subscriptionTombstones.insert subscriptionId true } := by
      rw [List.erase_of_not_mem hmem]
      exact (pure_eq_ok.mp hc').symm
    obtain ⟨hlimits, hphase, hothers⟩ := h.retire hzero true herase
    refine ⟨hlimits, .inr hgapped, hphase, hothers, ?_⟩
    rw [herase]

/-- a subscription that a gap closed may still be unsubscribed -/
theorem unsubscribe_gapped (hlimits : Limits c) (h : c.phase subscriptionId = .gapped) :
    ∃ c', c.unsubscribe subscriptionId = .ok c' := by
  have hzero : subscriptionId ≠ 0 := by
    rintro rfl
    rw [hlimits.zero] at h
    cases h
  unfold CorrelationState.phase at h
  split_ifs at h with hmem
  have hgap : c.subscriptionTombstones[subscriptionId]? = some false := by
    split at h <;> first | assumption | cases h
  refine ⟨{ c with subscriptionTombstones := c.subscriptionTombstones.insert subscriptionId true }, ?_⟩
  unfold CorrelationState.unsubscribe
  rw [seq_eq_ok, if_neg hmem, seq_eq_ok]
  exact ⟨ensure_eq_ok.mpr hzero, ensure_eq_ok.mpr hgap, rfl⟩

end CorrelationState

end Kaleido.Transport
