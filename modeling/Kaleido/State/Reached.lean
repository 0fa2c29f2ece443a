/-
What holds of every canonical state that accepted effects can reach.

`Reached` is the set of those states. `Turn.Extends` is what an accepted effect may do to a turn that is there (`apply_extends`):
list more items behind those it lists, and fill in a binding or an instant that is missing. On the reached states a
command, its turn and its runtime acknowledgement correspond one to one, and no effect is ever refused as an ambiguous acknowledgement (`reached_correlated`).
-/
import Kaleido.State.Transition
import Kaleido.State.Machine

namespace Kaleido.State

open Check Proto CanonicalState

/-- the states that accepted effects lead to -/
inductive Reached : CanonicalState → Prop
  | empty : Reached {}
  | step {s next : CanonicalState} {e : StateEffect} (h : Reached s) (happly : s.apply e = .ok next) : Reached next

/-- effects applied one after another -/
def applyEach : CanonicalState → List StateEffect → Except StateError CanonicalState
  | s, [] => .ok s
  | s, e :: rest => do
    let next ← s.apply e
    applyEach next rest

theorem Reached.applyEach {s next : CanonicalState} {effects : List StateEffect} (hs : Reached s)
    (h : applyEach s effects = .ok next) : Reached next := by
  induction effects generalizing s with
  | nil => cases h; exact hs
  | cons e rest ih =>
    obtain ⟨mid, hmid, hrest⟩ := bind_eq_ok.1 h
    exact ih (hs.step hmid) hrest

/-- the state that a list of effects reaches, where they are accepted -/
def reachedBy (s : CanonicalState) (effects : List StateEffect) : CanonicalState := ((applyEach s effects).toOption).getD s

theorem applyEach_reachedBy {s : CanonicalState} {effects : List StateEffect} (h : (applyEach s effects).isOk) :
    applyEach s effects = .ok (reachedBy s effects) := by
  unfold reachedBy
  cases hresult : applyEach s effects with
  | error error => simp [hresult, Except.isOk, Except.toBool] at h
  | ok next => rfl

/-- an invariant of accepted effects -/
theorem Reached.inv {I : CanonicalState → Prop} (h₀ : I {})
    (hstep : ∀ s e next, I s → s.apply e = .ok next → I next) {s : CanonicalState} (h : Reached s) : I s := by
  induction h with
  | empty => exact h₀
  | step _ happly ih => exact hstep _ _ _ ih happly

variable {s next : CanonicalState} {e : StateEffect}

/-! ## Turns -/

variable {turn : Turn} {turnId : TurnId}

/-- a list extended by one element that it may hold already -/
def listOnce {α : Type} [DecidableEq α] (l : List α) (a : α) : List α := if a ∈ l then l else l ++ [a]

section

variable {α : Type} [DecidableEq α] {l : List α} {a b : α}

theorem prefix_listOnce : l <+: listOnce l a := by
  unfold listOnce
  split_ifs
  · exact List.prefix_rfl
  · exact List.prefix_append _ _

theorem nodup_listOnce (h : l.Nodup) : (listOnce l a).Nodup := by
  unfold listOnce
  split_ifs with hmem
  · exact h
  · exact List.nodup_append_comm.mp (by simpa using ⟨hmem, h⟩)

theorem mem_listOnce : b ∈ listOnce l a ↔ b ∈ l ∨ b = a := by
  unfold listOnce
  split_ifs with hmem
  · constructor
    · exact .inl
    · rintro (hb | rfl)
      · exact hb
      · exact hmem
  · simp

theorem prefix_foldl_listOnce (l incoming : List α) : l <+: incoming.foldl listOnce l := by
  induction incoming generalizing l with
  | nil => exact List.prefix_rfl
  | cons a rest ih => exact prefix_listOnce.trans (ih (listOnce l a))

end

theorem extendItemIds_eq (itemIds incoming : List ItemId) : extendItemIds itemIds incoming = incoming.foldl listOnce itemIds :=
  rfl

/-- a turn that continues another: nothing that was recorded is lost or changed -/
structure Turn.Extends (turn turn' : Turn) : Prop where
  items : turn.itemIds <+: turn'.itemIds
  session : turn'.sessionId = turn.sessionId
  origin : turn'.origin = turn.origin
  binding : ∀ handle, turn.bindingHandle = some handle → turn'.bindingHandle = some handle
  started : turn.startedAtMs.isSome → turn'.startedAtMs.isSome

namespace Turn.Extends

variable {turn turn' turn'' : Turn}

theorem refl : Turn.Extends turn turn := ⟨List.prefix_rfl, rfl, rfl, fun _ h => h, fun h => h⟩

theorem trans (h : Turn.Extends turn turn') (h' : Turn.Extends turn' turn'') : Turn.Extends turn turn'' where
  items := h.items.trans h'.items
  session := h'.session.trans h.session
  origin := h'.origin.trans h.origin
  binding handle hhandle := h'.binding handle (h.binding handle hhandle)
  started hstarted := h'.started (h.started hstarted)

end Turn.Extends

theorem mergeTurn_extends {existing merged : Turn} (h : mergeTurn (some existing) turn = .ok merged) :
    Turn.Extends existing merged := by
  simp only [mergeTurn, seq_eq_ok, ensure_eq_ok, pure_eq_ok] at h
  obtain ⟨hsession, horigin, hbinding, rfl⟩ := h
  refine ⟨extendItemIds_eq _ _ ▸ prefix_foldl_listOnce _ _, hsession.symm, horigin.symm, fun handle hhandle => ?_, fun hstarted => ?_⟩
  · -- a binding that is sent again is the one that is there
    cases hincoming : turn.bindingHandle with
    | none => simpa using hhandle
    | some incoming =>
      rw [hhandle, hincoming] at hbinding
      simp only [Option.isSome_some, ne_eq, Option.some.injEq, true_and, not_not] at hbinding
      simp [hbinding]
  · cases turn.startedAtMs with
    | none => simpa using hstarted
    | some startedAtMs => rfl

theorem apply_extends (h : s.apply e = .ok next) (hturn : s.turns[turnId]? = some turn) :
    ∃ turn', next.turns[turnId]? = some turn' ∧ Turn.Extends turn turn' := by
  obtain ⟨t, ht, rfl⟩ := apply_iff.1 h
  cases ht with
  | turn new merged hremote hmerge hvalid =>
    change ∃ turn', (s.turns.insert new.id merged)[turnId]? = some turn' ∧ _
    rw [OrdMap.get_insert]
    split_ifs with heq
    · subst heq
      rw [hturn] at hmerge
      exact ⟨merged, rfl, mergeTurn_extends hmerge⟩
    · exact ⟨turn, hturn, .refl⟩
  | item item old hold hvalid =>
    change ∃ turn', (s.turns.insert item.turnId (listItem old item.id))[turnId]? = some turn' ∧ _
    rw [OrdMap.get_insert]
    split_ifs with heq
    · subst heq
      cases hold.symm.trans hturn
      exact ⟨_, rfl, prefix_listOnce, rfl, rfl, fun _ h => h, fun h => h⟩
    · exact ⟨turn, hturn, .refl⟩
  | _ => exact ⟨turn, hturn, .refl⟩

theorem mergeTurn_eq_ok {existing : Option Turn} {merged : Turn} (h : mergeTurn existing turn = .ok merged) :
    merged.id = turn.id ∧ merged.sessionId = turn.sessionId ∧ merged.origin = turn.origin := by
  unfold mergeTurn at h
  split at h
  · cases h
    simp
  · simp only [seq_eq_ok, ensure_eq_ok, pure_eq_ok] at h
    obtain ⟨-, -, -, rfl⟩ := h
    exact ⟨rfl, rfl, rfl⟩

/-- an accepted turn is there, with its session and its origin -/
theorem apply_turn_upserted (h : s.apply (.turnUpserted turn) = .ok next) :
    ∃ turn', next.turns[turn.id]? = some turn' ∧ turn'.sessionId = turn.sessionId ∧ turn'.origin = turn.origin := by
  obtain ⟨t, ht, rfl⟩ := apply_iff.1 h
  cases ht with
  | turn _ merged hremote hmerge hvalid =>
    obtain ⟨-, hsession, horigin⟩ := mergeTurn_eq_ok hmerge
    refine ⟨merged, ?_, hsession, horigin⟩
    change (s.turns.insert turn.id merged)[turn.id]? = some merged
    rw [OrdMap.get_insert_self]

/-- a turn was there before, with its session and its origin, or it is new and its command has no other turn -/
theorem apply_turn_of (h : s.apply e = .ok next) {k : TurnId} {turn' : Turn} (hk : next.turns[k]? = some turn') :
    (∃ turn, s.turns[k]? = some turn ∧ turn'.id = turn.id ∧ turn'.sessionId = turn.sessionId ∧
      turn'.origin = turn.origin) ∨
    ∃ new, e = .turnUpserted new ∧ new.id = k ∧ turn'.id = k ∧ turn'.sessionId = new.sessionId ∧
      turn'.origin = new.origin ∧ checkRemoteCommand s new = .ok () := by
  obtain ⟨t, ht, rfl⟩ := apply_iff.1 h
  cases ht with
  | turn new merged hremote hmerge hvalid =>
    obtain ⟨hid, hsession, horigin⟩ := mergeTurn_eq_ok hmerge
    rcases OrdMap.of_get_insert hk with ⟨heq, rfl⟩ | ⟨-, hk⟩
    · exact .inr ⟨new, rfl, heq, hid.trans heq, hsession, horigin, hremote⟩
    · exact .inl ⟨turn', hk, rfl, rfl, rfl⟩
  | item item old hold hvalid =>
    rcases OrdMap.of_get_insert hk with ⟨heq, rfl⟩ | ⟨-, hk⟩
    · exact .inl ⟨old, heq ▸ hold, rfl, rfl, rfl⟩
    · exact .inl ⟨turn', hk, rfl, rfl, rfl⟩
  | _ => exact .inl ⟨turn', hk, rfl, rfl, rfl⟩

/-! ## Commands, turns and acknowledgements -/

/-- acceptance by a runtime -/
def isRuntimeAcceptance : CommandOutcome → Bool
  | .acceptedByRuntime .. => true
  | _ => false

theorem of_isRuntimeAcceptance {outcome : CommandOutcome} (h : isRuntimeAcceptance outcome = true) :
    ∃ sessionId kind handle, outcome = .acceptedByRuntime sessionId kind handle := by
  cases outcome <;> simp_all [isRuntimeAcceptance]

/-- the runtime acceptances of one command -/
def runtimeAcceptances (s : CanonicalState) (commandId : CommandId) : List CommandAck :=
  s.acks.filter fun ack => ack.commandId = commandId && isRuntimeAcceptance ack.outcome

/-- what the checks of turns and acknowledgements establish together -/
structure Correlated (s : CanonicalState) : Prop where
  turnIds : ∀ (k : TurnId) turn, s.turns[k]? = some turn → turn.id = k
  oneTurn : ∀ (k k' : TurnId) turn turn' c, s.turns[k]? = some turn → s.turns[k']? = some turn' →
    turn.origin = .remoteCommand c → turn'.origin = .remoteCommand c → k = k'
  oneAcceptance : ∀ c, (runtimeAcceptances s c).length ≤ 1
  promptTurn : ∀ ack ∈ s.acks, ∀ sessionId handle, ack.outcome = .acceptedByRuntime sessionId .promptTurn handle →
    ∃ (k : TurnId) (turn : Turn), s.turns[k]? = some turn ∧ turn.origin = .remoteCommand ack.commandId ∧
      turn.sessionId = sessionId

theorem checkRuntimeAcknowledgement_accepted {ack : CommandAck} {sessionId : SessionId} {kind : RuntimeAcceptanceKind}
    {handle : ProviderBindingHandle} (hout : ack.outcome = .acceptedByRuntime sessionId kind handle)
    (h : checkRuntimeAcknowledgement s ack = .ok ()) :
    (∃ existing ∈ s.acks, existing.commandId = ack.commandId ∧ ∃ note, existing.outcome = .acceptedLocally note) ∧
    runtimeAcceptances s ack.commandId = [] ∧
    (kind = .promptTurn → ∃ turn, s.remoteTurns ack.commandId = [turn] ∧ turn.sessionId = sessionId) := by
  unfold checkRuntimeAcknowledgement at h
  rw [hout] at h
  rw [seq_eq_ok, ensure_eq_ok, seq_eq_ok, ensure_eq_ok] at h
  obtain ⟨hlocal, hfirst, h⟩ := h
  refine ⟨?_, ?_, fun hkind => ?_⟩
  · simp only [List.any_eq_true, Bool.and_eq_true, decide_eq_true_eq] at hlocal
    obtain ⟨existing, hmem, hcmd, hout⟩ := hlocal
    refine ⟨existing, hmem, hcmd, ?_⟩
    split at hout
    · exact ⟨_, by assumption⟩
    · cases hout
  · simp only [Bool.not_eq_true, List.any_eq_false, Bool.and_eq_true, decide_eq_true_eq, not_and] at hfirst
    refine List.filter_eq_nil_iff.2 fun existing hmem hacc => ?_
    simp only [Bool.and_eq_true, decide_eq_true_eq] at hacc
    exact Bool.false_ne_true ((hfirst existing hmem hacc.1).symm.trans hacc.2)
  · split at h
    · cases h
    · rw [seq_eq_ok, if_pos hkind] at h
      obtain ⟨turn, hturn, hs⟩ := bind_eq_ok.1 h.2
      refine ⟨turn, ?_, ensure_eq_ok.1 hs⟩
      unfold remoteCommandTurn at hturn
      split at hturn
      · cases hturn
      · cases hturn; assumption
      · cases hturn

theorem correlated_empty : Correlated {} := ⟨by simp, by simp, by simp [runtimeAcceptances], by simp⟩

/-- **Accepted effects** keep commands, turns and acknowledgements in correspondence. -/
theorem correlated_step (hs : Correlated s) (h : s.apply e = .ok next) : Correlated next := by
  have hacks := apply_acks h
  refine ⟨fun k turn' hk => ?_, fun k k' turn turn' c hk hk' ho ho' => ?_, fun c => ?_, fun ack hmem sessionId handle hout => ?_⟩
  · rcases apply_turn_of h hk with ⟨turn, hturn, hid, -⟩ | ⟨-, -, -, hid, -⟩
    · rw [hid]; exact hs.turnIds k turn hturn
    · exact hid
  · -- two turns of one command: the new one would have been refused
    have hconflict : ∀ {k₁ k₂ : TurnId} {new old : Turn}, checkRemoteCommand s new = .ok () → new.id = k₁ →
        new.origin = .remoteCommand c → s.turns[k₂]? = some old → old.origin = .remoteCommand c → k₁ = k₂ := by
      intro k₁ k₂ new old hcheck hid horigin hold hold'
      unfold checkRemoteCommand at hcheck
      rw [horigin] at hcheck
      simp only [ensure_eq_ok, List.any_eq_true, Bool.and_eq_true, decide_eq_true_eq, not_exists, not_and] at hcheck
      by_contra hne
      refine hcheck old (OrdMap.mem_vals_of_get hold) (fun heq => hne ?_) hold'
      rw [← hid, ← heq, hs.turnIds k₂ old hold]
    rcases apply_turn_of h hk with ⟨old, hold, -, -, hsame⟩ | ⟨new, hnew, hid, -, -, hsame, hcheck⟩
    · rcases apply_turn_of h hk' with ⟨old', hold', -, -, hsame'⟩ | ⟨new', -, hid', -, -, hsame', hcheck'⟩
      · exact hs.oneTurn k k' old old' c hold hold' (hsame ▸ ho) (hsame' ▸ ho')
      · exact (hconflict hcheck' hid' (hsame' ▸ ho') hold (hsame ▸ ho)).symm
    · rcases apply_turn_of h hk' with ⟨old', hold', -, -, hsame'⟩ | ⟨new', hnew', hid', -⟩
      · exact hconflict hcheck hid (hsame ▸ ho) hold' (hsame' ▸ ho')
      · rw [hnew] at hnew'
        cases hnew'
        exact hid.symm.trans hid'
  · obtain ⟨t, ht, rfl⟩ := apply_iff.1 h
    cases ht with
    | ack ack hack =>
      rw [runtimeAcceptances, hacks, List.filter_append, List.length_append]
      change (runtimeAcceptances s c).length + ([ack].filter _).length ≤ 1
      have hone := hs.oneAcceptance c
      by_cases hnew : ack.commandId = c ∧ isRuntimeAcceptance ack.outcome = true
      · obtain ⟨rfl, hacc⟩ := hnew
        obtain ⟨sessionId, kind, handle, hout⟩ := of_isRuntimeAcceptance hacc
        rw [(checkRuntimeAcknowledgement_accepted hout hack).2.1]
        simp [hacc]
      · rw [List.filter_eq_nil_iff.2]
        · simpa using hone
        · simpa using hnew
    | _ => exact hs.oneAcceptance c
  · rw [hacks, List.mem_append] at hmem
    rcases hmem with hmem | hmem
    · obtain ⟨k, turn, hk, ho, hsession⟩ := hs.promptTurn ack hmem sessionId handle hout
      obtain ⟨turn', hk', hextends⟩ := apply_extends h hk
      exact ⟨k, turn', hk', hextends.origin.trans ho, hextends.session.trans hsession⟩
    · obtain ⟨t, ht, rfl⟩ := apply_iff.1 h
      cases ht with
      | ack new hack =>
        rw [List.mem_singleton.1 hmem] at hout ⊢
        obtain ⟨-, -, hturn⟩ := checkRuntimeAcknowledgement_accepted hout hack
        obtain ⟨turn, hturn, hsession⟩ := hturn rfl
        have hin : turn ∈ s.remoteTurns new.commandId := by rw [hturn]; exact List.mem_cons_self
        obtain ⟨hval, ho⟩ := List.mem_filter.1 hin
        obtain ⟨k, hk⟩ := OrdMap.mem_vals.1 hval
        exact ⟨k, turn, hk, of_decide_eq_true ho, hsession⟩
      | _ => cases hmem

theorem reached_correlated_inv (h : Reached s) : Correlated s :=
  h.inv correlated_empty fun _ _ _ hs happly => correlated_step hs happly

theorem Correlated.remoteTurns_le_one (h : Correlated s) (c : CommandId) : (s.remoteTurns c).length ≤ 1 :=
  OrdMap.length_filter_vals_le_one fun k k' turn turn' hk hk' ho ho' =>
    h.oneTurn k k' turn turn' c hk hk' (of_decide_eq_true ho) (of_decide_eq_true ho')

/-- a list of at most one element that holds `a` is `[a]` -/
theorem eq_singleton_of_mem {α : Type} {l : List α} {a : α} (h : a ∈ l) (hl : l.length ≤ 1) : l = [a] := by
  match l, h, hl with
  | [b], h, _ => rw [List.mem_singleton.1 h]
  | _ :: _ :: _, _, hl => simp at hl

theorem Correlated.remoteCommandTurn_ne (h : Correlated s) (c : CommandId) :
    s.remoteCommandTurn c ≠ .error .ambiguousRuntimeAcknowledgement := by
  unfold remoteCommandTurn
  split
  · simp
  · simp
  · rename_i hturns
    have := h.remoteTurns_le_one c
    rw [hturns] at this
    simp at this

theorem contract_ne_error {α : Type} {x : Except ContractViolation α} {e : StateError}
    (he : ∀ v, e ≠ .contract v) : contract x ≠ .error e := by
  cases x with
  | ok a => intro h; cases h
  | error v => intro h; cases h; exact he v rfl

/-- an ambiguous acknowledgement is reported only where the turn of a command is looked up -/
theorem apply_ne_ambiguous (hs : Correlated s) (e : StateEffect) :
    s.apply e ≠ .error .ambiguousRuntimeAcknowledgement := by
  intro h
  have hlive : ∀ session, s.liveRuntimeOf session ≠ .error .ambiguousRuntimeAcknowledgement := by
    intro session h
    unfold liveRuntimeOf at h
    split at h
    · cases h
    · split at h <;> cases h
  have hcontract : ∀ {α : Type} (x : Except ContractViolation α),
      contract x ≠ .error .ambiguousRuntimeAcknowledgement := fun x => contract_ne_error (by simp)
  have ht : s.transition e = .error .ambiguousRuntimeAcknowledgement := by
    unfold CanonicalState.apply at h
    cases ht : s.transition e with
    | ok t => rw [ht] at h; cases h
    | error err => rw [ht] at h; cases h; rfl
  cases e with
  | runtimeUpserted runtime =>
    simp only [transition, checkLiveControl, bind_eq_error, ensure_eq_error, pure_eq_error, reduceCtorEq, and_false,
      exists_false, or_self] at ht
  | capabilitiesUpdated capabilities =>
    simp only [transition, checkLiveControl, bind_eq_error, ensure_eq_error, reduceCtorEq, and_false, false_or] at ht
    obtain ⟨-, -, ht⟩ := ht
    split at ht <;> cases ht
  | sessionUpserted session =>
    simp only [transition, checkLiveBinding, bind_eq_error] at ht
    rcases ht with ht | ⟨-, -, ht⟩
    · split_ifs at ht <;> simp_all [bind_eq_error, ensure_eq_error, pure_eq_error]
    · cases ht
  | sessionStatusChanged sessionId status =>
    simp only [transition, bind_eq_error, ensure_eq_error, pure_eq_error, reduceCtorEq, and_false, exists_false,
      or_self] at ht
  | turnUpserted turn =>
    simp only [transition, bind_eq_error] at ht
    rcases ht with ht | ⟨-, -, ht | ⟨merged, -, ht | ⟨-, -, ht⟩⟩⟩
    · unfold checkRemoteCommand at ht
      split at ht
      · simp [ensure_eq_error] at ht
      · cases ht
    · unfold mergeTurn at ht
      split at ht
      · cases ht
      · simp only [bind_eq_error, ensure_eq_error, pure_eq_error, reduceCtorEq, and_false, exists_false, or_self] at ht
    · exact hcontract _ ht
    · cases ht
  | itemUpserted item =>
    simp only [transition] at ht
    split at ht
    · cases ht
    · rcases bind_eq_error.1 ht with ht | ⟨-, -, ht⟩
      · exact hcontract _ ht
      · cases ht
  | commandAcknowledged ack =>
    rcases bind_eq_error.1 ht with ht | ⟨-, -, ht⟩
    swap
    · cases ht
    unfold checkRuntimeAcknowledgement at ht
    split at ht
    swap
    · cases ht
    simp only [bind_eq_error, ensure_eq_error, reduceCtorEq, and_false, false_or] at ht
    obtain ⟨-, -, -, -, ht⟩ := ht
    split at ht
    · cases ht
    · rcases bind_eq_error.1 ht with ht | ⟨-, -, ht⟩
      · simp [ensure_eq_error] at ht
      · split_ifs at ht
        · rcases bind_eq_error.1 ht with ht | ⟨turn, -, ht⟩
          · exact hs.remoteCommandTurn_ne _ ht
          · exact absurd (ensure_eq_error.1 ht).2 (by simp)
        · cases ht
  | _ => cases ht

/-- **One command, one turn, one acknowledgement.** In every state that accepted effects reach, a command has at most one
turn and at most one runtime acceptance, a prompt's acceptance has exactly one turn, which is in the acknowledged session,
and no effect is refused as an ambiguous acknowledgement. -/
theorem reached_correlated (s : CanonicalState) (h : Reached s) :
    (∀ c, (s.remoteTurns c).length ≤ 1) ∧ (∀ c, (runtimeAcceptances s c).length ≤ 1) ∧
    (∀ ack ∈ s.acks, ∀ sessionId handle, ack.outcome = .acceptedByRuntime sessionId .promptTurn handle →
      ∃ turn, s.remoteTurns ack.commandId = [turn] ∧ turn.sessionId = sessionId) ∧
    ∀ e, s.apply e ≠ .error .ambiguousRuntimeAcknowledgement := by
  have hs := reached_correlated_inv h
  refine ⟨hs.remoteTurns_le_one, hs.oneAcceptance, fun ack hmem sessionId handle hout => ?_, apply_ne_ambiguous hs⟩
  obtain ⟨k, turn, hk, ho, hsession⟩ := hs.promptTurn ack hmem sessionId handle hout
  refine ⟨turn, eq_singleton_of_mem ?_ (hs.remoteTurns_le_one _), hsession⟩
  exact List.mem_filter.2 ⟨OrdMap.mem_vals_of_get hk, decide_eq_true ho⟩

/-- a prompt is accepted locally, gets its turn and is accepted by the runtime -/
def promptEffects : List StateEffect :=
  [.hostUpserted sampleHost, .runtimeUpserted sampleRuntime, .sessionUpserted sampleBoundSession,
    .commandAcknowledged ⟨⟨"cmd_a"⟩, .acceptedLocally none, 5⟩,
    .turnUpserted ⟨⟨"trn_a"⟩, ⟨"ses_a"⟩, .running, .remoteCommand ⟨"cmd_a"⟩, some 6, none, [], none, none⟩,
    .commandAcknowledged
      ⟨⟨"cmd_a"⟩, .acceptedByRuntime ⟨"ses_a"⟩ .promptTurn (sampleHandle .runtimeAcknowledgement), 7⟩]

theorem accepted_prompt_correlated : ∃ s, Reached s ∧ (runtimeAcceptances s ⟨"cmd_a"⟩).length = 1 ∧
    (∀ c, (s.remoteTurns c).length ≤ 1) ∧ (∀ c, (runtimeAcceptances s c).length ≤ 1) ∧
    (∀ ack ∈ s.acks, ∀ sessionId handle, ack.outcome = .acceptedByRuntime sessionId .promptTurn handle →
      ∃ turn, s.remoteTurns ack.commandId = [turn] ∧ turn.sessionId = sessionId) ∧
    ∀ e, s.apply e ≠ .error .ambiguousRuntimeAcknowledgement := by
  have hs : Reached (reachedBy {} promptEffects) := Reached.empty.applyEach (applyEach_reachedBy (by decide +kernel))
  exact ⟨_, hs, by decide +kernel, reached_correlated _ hs⟩

end Kaleido.State
