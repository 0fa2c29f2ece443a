/-
The history of a turn only grows (`kaleido-state`, `state.rs`, `TurnUpserted` and `ItemUpserted`).

A run extends the turns that are there as each effect does (`applyEach_extends`). `TurnsListed` is the invariant
of the observation order; `applyEach_turnOrder` reads the order off the effects.

`turn_history_grows` puts the facts together.
-/
import Kaleido.State.Reached

namespace Kaleido.State

open Check Proto CanonicalState

variable {s next : CanonicalState} {e : StateEffect} {turn : Turn} {turnId : TurnId} {effects : List StateEffect}

theorem applyEach_extends (h : applyEach s effects = .ok next) (hturn : s.turns[turnId]? = some turn) :
    ∃ turn', next.turns[turnId]? = some turn' ∧ Turn.Extends turn turn' := by
  induction effects generalizing s turn with
  | nil =>
    cases h
    exact ⟨turn, hturn, .refl⟩
  | cons e rest ih =>
    obtain ⟨mid, hmid, hrest⟩ := bind_eq_ok.1 h
    obtain ⟨turn', hturn', hextends⟩ := apply_extends hmid hturn
    obtain ⟨turn'', hturn'', hextends'⟩ := ih hrest hturn'
    exact ⟨turn'', hturn'', hextends.trans hextends'⟩

/-! ## The order of observation -/

theorem nodup_of_validate (h : turn.validate = .ok ()) : turn.itemIds.Nodup := by
  simp only [Turn.validate, seq_eq_ok, ensure_eq_ok] at h
  exact h.2.2.2.1

/-- every turn is listed once, and lists no item twice -/
structure TurnsListed (s : CanonicalState) : Prop where
  once : s.turnOrder.Nodup
  listed : ∀ turnId, turnId ∈ s.turnOrder ↔ (s.turns[turnId]?).isSome
  items : ∀ (turnId : TurnId) turn, s.turns[turnId]? = some turn → turn.itemIds.Nodup

/-- the turn that an effect shows -/
def observedTurn : StateEffect → Option TurnId
  | .turnUpserted turn => some turn.id
  | _ => none

theorem apply_turnOrder (h : s.apply e = .ok next) :
    next.turnOrder = (observedTurn e).elim s.turnOrder (listOnce s.turnOrder) := by
  obtain ⟨t, ht, rfl⟩ := apply_iff.1 h
  cases ht <;> rfl

theorem TurnsListed.insert (hs : TurnsListed s) (hturn : turn.itemIds.Nodup)
    (horder : next.turnOrder = listOnce s.turnOrder turnId) (hturns : next.turns = s.turns.insert turnId turn) :
    TurnsListed next := by
  refine ⟨horder ▸ nodup_listOnce hs.once, fun other => ?_, hturns ▸ OrdMap.forall_insert hs.items hturn⟩
  rw [horder, hturns, mem_listOnce, OrdMap.get_insert]
  split_ifs with heq
  · simp [heq]
  · rw [hs.listed other]
    exact or_iff_left fun h => heq h.symm

theorem turnsListed_apply (hs : TurnsListed s) (h : s.apply e = .ok next) : TurnsListed next := by
  obtain ⟨t, ht, rfl⟩ := apply_iff.1 h
  cases ht with
  | turn new merged hremote hmerge hvalid => exact hs.insert (nodup_of_validate hvalid) rfl rfl
  | item item old hold hvalid =>
    have hlisted : item.turnId ∈ s.turnOrder := (hs.listed _).2 (by rw [hold]; rfl)
    exact hs.insert (nodup_of_validate hvalid) (if_pos hlisted).symm rfl
  | _ => exact ⟨hs.once, hs.listed, hs.items⟩

theorem turnsListed_applyEach (hs : TurnsListed s) (h : applyEach s effects = .ok next) :
    TurnsListed next := by
  induction effects generalizing s with
  | nil =>
    cases h
    exact hs
  | cons e rest ih =>
    obtain ⟨mid, hmid, hrest⟩ := bind_eq_ok.1 h
    exact ih (turnsListed_apply hs hmid) hrest

theorem turnsListed_empty : TurnsListed {} :=
  ⟨List.nodup_nil, fun turnId => by simp, fun turnId turn hturn => by simp at hturn⟩

/-- the turns that the effects show, in the order in which each is shown first -/
def firstObserved (effects : List StateEffect) : List TurnId := (effects.filterMap observedTurn).foldl listOnce []

theorem applyEach_turnOrder (h : applyEach s effects = .ok next) :
    next.turnOrder = (effects.filterMap observedTurn).foldl listOnce s.turnOrder := by
  induction effects generalizing s with
  | nil =>
    cases h
    rfl
  | cons e rest ih =>
    obtain ⟨mid, hmid, hrest⟩ := bind_eq_ok.1 h
    rw [ih hrest, apply_turnOrder hmid]
    cases hobserved : observedTurn e <;> simp [hobserved]

/-! ## Whole runs -/

/--
**The history of a turn only grows.** In a state that a run of accepted effects reaches, every turn lists each of its items
once; in every state that later effects reach from there, the turn still lists them, in that order and first, with the same
session and origin, with its binding if it had one and with an instant of start if it had one. The order of the turns is the
order in which the effects showed them first, with every turn of the state in it once, and later effects only append to it.
-/
theorem turn_history_grows {effects later : List StateEffect} (h : applyEach {} effects = .ok s)
    (hlater : applyEach s later = .ok next) :
    (∀ (turnId : TurnId) turn, s.turns[turnId]? = some turn →
      turn.itemIds.Nodup ∧ ∃ turn', next.turns[turnId]? = some turn' ∧ turn.itemIds <+: turn'.itemIds ∧
        turn'.sessionId = turn.sessionId ∧ turn'.origin = turn.origin ∧
        (∀ handle, turn.bindingHandle = some handle → turn'.bindingHandle = some handle) ∧
        (turn.startedAtMs.isSome → turn'.startedAtMs.isSome)) ∧
    s.turnOrder = firstObserved effects ∧ s.turnOrder <+: next.turnOrder ∧ s.turnOrder.Nodup ∧
    (∀ turnId : TurnId, turnId ∈ s.turnOrder ↔ (s.turns[turnId]?).isSome) := by
  have hlisted := turnsListed_applyEach turnsListed_empty h
  refine ⟨fun turnId turn hturn => ⟨hlisted.items turnId turn hturn, ?_⟩, applyEach_turnOrder h, ?_, hlisted.once, hlisted.listed⟩
  · obtain ⟨turn', hturn', hextends⟩ := applyEach_extends hlater hturn
    exact ⟨turn', hturn', hextends.items, hextends.session, hextends.origin, hextends.binding, hextends.started⟩
  · rw [applyEach_turnOrder hlater]
    exact prefix_foldl_listOnce _ _

/-- a turn as it starts; `sampleCompletion` is the same turn as its completion reports it -/
def sampleTurn : Turn where
  id := ⟨"t1"⟩
  sessionId := ⟨"s1"⟩
  status := .running
  origin := .localSurface
  startedAtMs := some 10
  completedAtMs := none
  itemIds := [⟨"i1"⟩]
  error := none
  bindingHandle := none

def sampleItem : Item where
  id := ⟨"i2"⟩
  sessionId := ⟨"s1"⟩
  turnId := ⟨"t1"⟩
  sequence := 1
  status := .completed
  body := .planUpdate []
  createdAtMs := 11
  updatedAtMs := 11
  bindingHandle := none

def sampleCompletion : Turn :=
  { sampleTurn with status := .completed, startedAtMs := none, completedAtMs := some 12, itemIds := [⟨"i3"⟩, ⟨"i2"⟩, ⟨"i3"⟩] }

/-- the effects of a turn before it completes -/
def sampleEffects : List StateEffect := [.turnUpserted sampleTurn, .itemUpserted sampleItem]

theorem turn_history_grows_sample :
    ((reachedBy {} sampleEffects).turns[(⟨"t1"⟩ : TurnId)]?).map (·.itemIds) = some [⟨"i1"⟩, ⟨"i2"⟩] ∧
    ((reachedBy (reachedBy {} sampleEffects) [.turnUpserted sampleCompletion]).turns[(⟨"t1"⟩ : TurnId)]?).map (·.itemIds) =
      some [⟨"i1"⟩, ⟨"i2"⟩, ⟨"i3"⟩] ∧
    (reachedBy {} sampleEffects).turnOrder = firstObserved sampleEffects := by
  have h : applyEach {} sampleEffects = .ok (reachedBy {} sampleEffects) := applyEach_reachedBy (by decide +kernel)
  have hlater : applyEach (reachedBy {} sampleEffects) [.turnUpserted sampleCompletion] =
      .ok (reachedBy (reachedBy {} sampleEffects) [.turnUpserted sampleCompletion]) := applyEach_reachedBy (by decide +kernel)
  exact ⟨by decide +kernel, by decide +kernel, (turn_history_grows h hlater).2.1⟩

end Kaleido.State
