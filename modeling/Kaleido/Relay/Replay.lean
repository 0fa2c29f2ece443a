/-
Replay protection of the relay (`kaleido-relay`, `control.rs`, `accept_operation`).

A request reads the clock first and enters the critical section of the replay cache later. An entry of the cache is dropped
when it is older than the replay window at the reading of the request that looks; an operation is accepted when it was issued
within the clock skew of its own reading. The window is twice the skew, so that a second acceptance of one operation would have
to find the first one gone, at a reading that is too late for it: `replay_protected` says so for every run in which requests
enter the critical section in the order of their readings.

Nothing makes them. `replay_across_readings` is a run in which a request overtakes another between its reading and the critical
section, drops the entry, and leaves the way free for a captured frame.
-/
import Kaleido.Relay.System

namespace Kaleido.Relay

open Check Transport

variable {id : OperationId} {connection now : Nat} {frame : RemoteControlFrame} {input : Input}

/-! ## What is accepted -/

section

variable {env : RelayEnv} {replay replay' : ReplayCache} {operationId credential : String} {issuedAtMs : Int}

theorem freshOperation_eq_ok : freshOperation operationId issuedAtMs now = .ok id ↔
    0 ≤ issuedAtMs ∧ (issuedAtMs - now).natAbs ≤ operationClockSkewMs ∧ OpaqueId.fromOpaque operationId = some id := by
  simp only [freshOperation, seq_eq_ok, ensure_eq_ok, parseId]
  cases (OpaqueId.fromOpaque operationId : Option OperationId) <;> simp

/-- what an entry into the critical section does: it looks at the reading `now`, and when it accepts the operation it has not
found the operation's key, and adds it -/
inductive Entry (env : RelayEnv) (frame : RemoteControlFrame) (now : Nat) (replay : ReplayCache) :
    Except RemoteErrorCode Bool × ReplayCache → Prop where
  /-- the operation was refused before the critical section -/
  | refused {code : RemoteErrorCode} (outside : reachesReplay frame now = false) : Entry env frame now replay (.error code, replay)
  /-- the operation was refused there, or taken for a retry of a revocation -/
  | found {verdict : Except RemoteErrorCode Bool} (inside : reachesReplay frame now = true) (rejected : verdict ≠ .ok false)
      (retry : verdict = .ok true → isRevoke frame = true) :
      Entry env frame now replay (verdict, retained now replay)
  | accepted {operationId credential : String} {issuedAtMs : Int} {id : OperationId}
      (operation : operationOf frame = some (operationId, issuedAtMs, credential))
      (fresh : freshOperation operationId issuedAtMs now = .ok id) (inside : reachesReplay frame now = true)
      (absent : ∀ seen, (replayKey env credential id, seen) ∉ retained now replay) :
      Entry env frame now replay (.ok false, (replayKey env credential id, now) :: retained now replay)

theorem freshOperation_ne_replay : freshOperation operationId issuedAtMs now ≠ .error .replay := by
  unfold freshOperation parseId
  by_cases hissued : 0 ≤ issuedAtMs
  · by_cases hskew : (issuedAtMs - now).natAbs ≤ operationClockSkewMs
    · cases (OpaqueId.fromOpaque operationId : Option OperationId) <;> simp [ensure, hissued, hskew, bind, Except.bind]
    · simp [ensure, hissued, hskew, bind, Except.bind]
  · simp [ensure, hissued, bind, Except.bind]

theorem accept_entry : Entry env frame now replay (accept env frame now replay) := by
  unfold accept
  cases hoperation : operationOf frame with
  | none => exact .refused (by simp [reachesReplay, hoperation])
  | some operation =>
    obtain ⟨operationId, issuedAtMs, credential⟩ := operation
    simp only [acceptOperation]
    cases hfresh : freshOperation operationId issuedAtMs now with
    | error code =>
      have hcode : code ≠ .replay := fun h => freshOperation_ne_replay (h ▸ hfresh)
      simp only [hcode, and_false, if_false]
      exact .refused (by simp [reachesReplay, hoperation, hfresh, Except.toBool])
    | ok id =>
      have hinside : reachesReplay frame now = true := by simp [reachesReplay, hoperation, hfresh, Except.toBool]
      by_cases hseen : (retained now replay).any (fun entry => entry.1 = replayKey env credential id) = true
      · simp only [hseen, if_true]
        by_cases hrevoke : isRevoke frame = true
        · simp only [hrevoke, and_self, if_true]
          exact .found hinside (by simp) fun _ => hrevoke
        · simp only [hrevoke, Bool.false_eq_true, false_and, if_false]
          exact .found hinside (by simp) (by simp)
      · have habsent : ∀ seen, (replayKey env credential id, seen) ∉ retained now replay := by
          intro seen hmem
          exact hseen (List.any_eq_true.mpr ⟨_, hmem, by simp⟩)
        simp only [hseen, Bool.false_eq_true, if_false]
        by_cases hfull : (retained now replay).length ≥ replayCapacity
        · simp only [hfull, if_true, reduceCtorEq, and_false, if_false]
          exact .found hinside (by simp) (by simp)
        · simp only [hfull, if_false]
          exact .accepted hoperation hfresh hinside habsent

end

/-! ## In every run -/

/-- the requests enter the critical section in the order of their readings -/
def inOrder (s : System) : Input → Bool
  | .accept connection =>
    match (s.link connection).stage with
    | .authorized frame now => !reachesReplay frame now || s.readings.all (· ≤ now)
    | _ => true
  | _ => true

/-- an operation that was accepted at `now` is in the cache, or some request has looked after its window -/
def Remembered (env : RelayEnv) (s : System) (a : Acceptance) : Prop :=
  ∃ operationId issuedAtMs credential id, operationOf a.frame = some (operationId, issuedAtMs, credential) ∧
    freshOperation operationId issuedAtMs a.now = .ok id ∧ a.now ∈ s.readings ∧
    ((∃ seen, (replayKey env credential id, seen) ∈ s.replay ∧ a.now ≤ seen) ∨
      ∃ reading ∈ s.readings, a.now + operationReplayWindowMs < reading)

/-- a request of the operation stands between the critical section and the registry -/
def Pending (s : System) (operation : String × Int × String) (connection : Nat) : Prop :=
  ∃ frame now, (s.link connection).stage = .accepted frame now false ∧ operationOf frame = some operation

/-- what holds of the critical section -/
structure Guarded (env : RelayEnv) (s : System) : Prop where
  remembered : ∀ a ∈ s.accepted, Remembered env s a
  once : (s.accepted.map fun a => operationOf a.frame).Nodup
  pending : ∀ operation connection, Pending s operation connection →
    some operation ∈ s.accepted.map fun a => operationOf a.frame
  single : ∀ operation connection other, Pending s operation connection → Pending s operation other → connection = other
  retries : ∀ connection frame now, (s.link connection).stage = .accepted frame now true → isRevoke frame = true

section

variable {env : RelayEnv} {s s' : System} {other : Nat} {operation : String × Int × String}

/-- a step outside the critical section puts no request before the registry -/
theorem stage_of_aside {replayed : Bool} (haside : System.Aside s s' connection)
    (h : (s'.link other).stage = .accepted frame now replayed) :
    connection ≠ other ∧ (s.link other).stage = .accepted frame now replayed := by
  by_cases hsame : connection = other
  · subst hsame
    exact absurd h (haside.notAccepted frame now replayed)
  · exact ⟨hsame, haside.others other hsame ▸ h⟩

theorem pending_of_aside (haside : System.Aside s s' connection) (h : Pending s' operation other) :
    connection ≠ other ∧ Pending s operation other := by
  obtain ⟨frame, now, hstage, hoperation⟩ := h
  obtain ⟨hne, hbefore⟩ := stage_of_aside haside hstage
  exact ⟨hne, frame, now, hbefore, hoperation⟩

/-- the steps outside the critical section -/
theorem Guarded.aside (h : Guarded env s) (haside : System.Aside s s' connection) : Guarded env s' := by
  have hpending : ∀ operation other, Pending s' operation other → Pending s operation other :=
    fun operation other hother => (pending_of_aside haside hother).2
  constructor
  · intro a ha
    rw [haside.accepted] at ha
    simpa only [Remembered, haside.replay, haside.readings] using h.remembered a ha
  · rw [haside.accepted]
    exact h.once
  · intro operation other hother
    rw [haside.accepted]
    exact h.pending operation other (hpending operation other hother)
  · intro operation one other hone hother
    exact h.single operation one other (hpending operation one hone) (hpending operation other hother)
  · intro other frame now hother
    exact h.retries other frame now (stage_of_aside haside hother).2

/-- an entry of the critical section, in the order of the readings, forgets no operation that could still be accepted -/
theorem Remembered.entered {a : Acceptance} {replay : ReplayCache} (h : Remembered env s a)
    (hinside : reachesReplay frame now = true) (hkept : ∀ entry ∈ retained now s.replay, entry ∈ replay) :
    Remembered env (s.entered frame now replay) a := by
  obtain ⟨operationId, issuedAtMs, credential, id, hoperation, hfresh, hreading, hkey⟩ := h
  have hreadings : (s.entered frame now replay).readings = s.readings ++ [now] := by
    simp only [System.entered, hinside, if_true]
  refine ⟨operationId, issuedAtMs, credential, id, hoperation, hfresh, ?_, ?_⟩
  · rw [hreadings]
    exact List.mem_append_left _ hreading
  rcases hkey with ⟨seen, hseen, hle⟩ | ⟨reading, hlate, hlt⟩
  · by_cases hold : now - seen ≤ operationReplayWindowMs
    · exact .inl ⟨seen, hkept _ (List.mem_filter.mpr ⟨hseen, by simpa using hold⟩), hle⟩
    · refine .inr ⟨now, ?_, by omega⟩
      rw [hreadings]
      exact List.mem_append_right _ List.mem_cons_self
  · refine .inr ⟨reading, ?_, hlt⟩
    rw [hreadings]
    exact List.mem_append_left _ hlate

/-- an operation that was accepted is not accepted again: within the skew of a second reading its entry is still kept, and no
reading after its window came before -/
theorem Remembered.refuses {a : Acceptance} {operationId credential : String} {issuedAtMs : Int} (h : Remembered env s a)
    (hsame : operationOf a.frame = some (operationId, issuedAtMs, credential))
    (hfresh : freshOperation operationId issuedAtMs now = .ok id) (horder : ∀ reading ∈ s.readings, reading ≤ now) :
    ∃ seen, (replayKey env credential id, seen) ∈ retained now s.replay := by
  obtain ⟨operationId', issuedAtMs', credential', id', hoperation, hfresh', -, hkey⟩ := h
  rw [hsame] at hoperation
  cases hoperation
  obtain ⟨hissued, hskew, hid⟩ := freshOperation_eq_ok.mp hfresh
  obtain ⟨-, hskew', hid'⟩ := freshOperation_eq_ok.mp hfresh'
  cases hid.symm.trans hid'
  have hwindow : now ≤ a.now + operationReplayWindowMs := by
    simp only [operationClockSkewMs, operationReplayWindowMs] at *
    omega
  rcases hkey with ⟨seen, hseen, hle⟩ | ⟨reading, hlate, hlt⟩
  · exact ⟨seen, List.mem_filter.mpr ⟨hseen, by simp only [decide_eq_true_eq]; omega⟩⟩
  · have := horder reading hlate
    omega

/-- the critical section with a new cache, before the request goes on -/
theorem Guarded.entered {replay : ReplayCache} (h : Guarded env s) (hinside : reachesReplay frame now = true)
    (hkept : ∀ entry ∈ retained now s.replay, entry ∈ replay) :
    Guarded env (s.entered frame now replay) :=
  ⟨fun a ha => (h.remembered a ha).entered hinside hkept, h.once, h.pending, h.single, h.retries⟩

/-- a retry of a revocation goes on -/
theorem Guarded.retry (h : Guarded env s) (hrevoke : isRevoke frame = true) :
    Guarded env (s.setStage connection (.accepted frame now true)) := by
  have hpending : ∀ operation other, Pending (s.setStage connection (.accepted frame now true)) operation other →
      Pending s operation other := by
    rintro operation other ⟨frame', now', hother, hoperation⟩
    rw [System.stage_setStage] at hother
    split_ifs at hother with hsame
    · cases hother
    · exact ⟨frame', now', hother, hoperation⟩
  refine ⟨h.remembered, h.once, fun operation other hother => h.pending operation other (hpending operation other hother),
    fun operation one other hone hother => h.single operation one other (hpending _ _ hone) (hpending _ _ hother), ?_⟩
  intro other frame' now' hother
  rw [System.stage_setStage] at hother
  split_ifs at hother with hsame
  · cases hother
    exact hrevoke
  · exact h.retries other frame' now' hother

/-- the accepted operation goes on -/
theorem Guarded.accept {operationId credential : String} {issuedAtMs : Int} (h : Guarded env s)
    (horder : ∀ reading ∈ s.readings, reading ≤ now)
    (hoperation : operationOf frame = some (operationId, issuedAtMs, credential))
    (hfresh : freshOperation operationId issuedAtMs now = .ok id) (hinside : reachesReplay frame now = true)
    (habsent : ∀ seen, (replayKey env credential id, seen) ∉ retained now s.replay) :
    Guarded env (((s.entered frame now ((replayKey env credential id, now) :: retained now s.replay)).recordAcceptance
      frame now).setStage connection (.accepted frame now false)) := by
  set s' := ((s.entered frame now ((replayKey env credential id, now) :: retained now s.replay)).recordAcceptance
    frame now).setStage connection (.accepted frame now false) with hs'
  have hnew : operationOf frame ∉ s.accepted.map fun a => operationOf a.frame := by
    intro hmem
    obtain ⟨a, ha, hsame⟩ := List.mem_map.mp hmem
    obtain ⟨seen, hseen⟩ := (h.remembered a ha).refuses (hsame.trans hoperation) hfresh horder
    exact habsent seen hseen
  have hpending : ∀ operation other, Pending s' operation other →
      (connection = other ∧ operationOf frame = some operation) ∨ Pending s operation other := by
    rintro operation other ⟨frame', now', hother, hsame⟩
    rw [System.stage_setStage] at hother
    split_ifs at hother with hlink
    · cases hother
      exact .inl ⟨hlink, hsame⟩
    · exact .inr ⟨frame', now', hother, hsame⟩
  have haccepted : s'.accepted = s.accepted ++ [⟨frame, now⟩] := rfl
  have hmem : ∀ operation other, Pending s operation other → operationOf frame ≠ some operation := by
    intro operation other hother hsame
    exact hnew (hsame ▸ h.pending operation other hother)
  constructor
  · intro a ha
    rcases List.mem_append.mp ha with ha | ha
    · exact (h.remembered a ha).entered hinside fun entry hentry => List.mem_cons_of_mem _ hentry
    · obtain rfl : a = ⟨frame, now⟩ := by simpa using ha
      refine ⟨operationId, issuedAtMs, credential, id, hoperation, hfresh, ?_, .inl ⟨now, List.mem_cons_self, le_refl _⟩⟩
      simp only [hs', System.setStage, System.setLink, System.recordAcceptance, System.entered, hinside, if_true,
        List.mem_append, List.mem_singleton, or_true]
  · rw [haccepted, List.map_append, List.nodup_append]
    refine ⟨h.once, by simp, ?_⟩
    rintro one hone other hother rfl
    obtain rfl : one = operationOf frame := by simpa using hother
    exact hnew hone
  · intro operation other hother
    rw [haccepted, List.map_append, List.mem_append]
    rcases hpending operation other hother with ⟨-, hsame⟩ | hother
    · exact .inr (by simp [hsame])
    · exact .inl (h.pending operation other hother)
  · intro operation one other hone hother
    rcases hpending operation one hone with ⟨hlink, hsame⟩ | hone <;>
      rcases hpending operation other hother with ⟨hlink', hsame'⟩ | hother
    · exact hlink.symm.trans hlink'
    · exact absurd hsame (hmem operation other hother)
    · exact absurd hsame' (hmem operation one hone)
    · exact h.single operation one other hone hother
  · intro other frame' now' hother
    rw [System.stage_setStage] at hother
    split_ifs at hother with hlink
    · cases hother
    · exact h.retries other frame' now' hother

/-- **One step.** A step keeps the critical section guarded when entries into it are in the order of the readings. -/
theorem Guarded.step (h : Guarded env s) (horder : inOrder s input = true) :
    Guarded env (s.step env input) := by
  have htook := s.step_took env input
  generalize s.step env input = s' at htook
  cases htook with
  | none => exact h
  | receive hidle => exact h.aside System.receive_aside
  | readClock hreceived => exact h.aside (.setStage (by simp))
  | authorize htimed => exact h.aside System.authorizeStep_aside
  | perform haccepted => exact h.aside System.performStep_aside
  | deletePush => exact ⟨h.remembered, h.once, h.pending, h.single, h.retries⟩
  | @accept connection now frame hauthorized =>
    simp only [inOrder, hauthorized, Bool.or_eq_true, Bool.not_eq_true', List.all_eq_true, decide_eq_true_eq] at horder
    have hentry : Entry env frame now s.replay (Relay.accept env frame now s.replay) := accept_entry
    unfold System.acceptStep
    generalize Relay.accept env frame now s.replay = result at hentry
    cases hentry with
    | refused houtside =>
      have hsame : s.entered frame now s.replay = s := by
        simp only [System.entered, houtside, Bool.false_eq_true, if_false]
      simp only [hsame]
      exact h.aside .answer
    | @found verdict hinside hrejected hretry =>
      have hentered : Guarded env (s.entered frame now (retained now s.replay)) := h.entered hinside fun _ hentry => hentry
      cases verdict with
      | error code => exact hentered.aside .answer
      | ok replayed =>
        cases replayed with
        | false => exact absurd rfl hrejected
        | true => exact hentered.retry (hretry rfl)
    | accepted hoperation hfresh hinside habsent =>
      exact h.accept (horder.resolve_left (by simp [hinside])) hoperation hfresh hinside habsent

end

/-- the actions on the registry of the requests of one operation; only they change it for a request, or emit a wake -/
def performs (operation : String × Int × String) (s : System) : Input → Nat
  | .perform connection .. =>
    match (s.link connection).stage with
    | .accepted frame _ _ => if operationOf frame = some operation ∧ isRevoke frame = false then 1 else 0
    | _ => 0
  | _ => 0

section

variable {env : RelayEnv} {s : System} {operation : String × Int × String}

/-- a step accepts one operation or none, and a request comes to stand before the registry only with its acceptance -/
theorem accepted_step (env : RelayEnv) (s : System) (input : Input) :
    ∃ added, (s.step env input).accepted = s.accepted ++ added ∧ ∀ operation other,
      Pending (s.step env input) operation other → Pending s operation other ∨ ∃ a ∈ added, operationOf a.frame = some operation := by
  have htook := s.step_took env input
  generalize s.step env input = s' at htook
  have haside : ∀ {connection}, System.Aside s s' connection → ∃ added, s'.accepted = s.accepted ++ added ∧
      ∀ operation other, Pending s' operation other → Pending s operation other ∨ ∃ a ∈ added, operationOf a.frame = some operation :=
    fun h => ⟨[], by rw [h.accepted, List.append_nil], fun _ _ hpending => .inl (pending_of_aside h hpending).2⟩
  cases htook with
  | none | deletePush => exact ⟨[], (List.append_nil _).symm, fun _ _ h => .inl h⟩
  | receive hidle => exact haside System.receive_aside
  | readClock hreceived => exact haside (.setStage (by simp))
  | authorize htimed => exact haside System.authorizeStep_aside
  | perform haccepted => exact haside System.performStep_aside
  | @accept connection now frame hauthorized =>
    unfold System.acceptStep
    cases Relay.accept env frame now s.replay with
    | mk verdict replay =>
      cases verdict with
      | error code => exact ⟨[], (List.append_nil _).symm, fun _ _ h => .inl (pending_of_aside .answer h).2⟩
      | ok replayed =>
        refine ⟨if replayed then [] else [⟨frame, now⟩], by cases replayed <;> simp [System.recordAcceptance] <;> rfl, ?_⟩
        rintro operation other ⟨frame', now', hstage, hoperation⟩
        by_cases hsame : connection = other
        · rw [System.stage_setStage, if_pos hsame] at hstage
          cases hstage
          exact .inr ⟨⟨frame, now⟩, List.mem_singleton_self _, hoperation⟩
        · rw [System.stage_setStage, if_neg hsame] at hstage
          refine .inl ⟨frame', now', ?_, hoperation⟩
          cases replayed <;> exact hstage

/-- the operation is accepted and done with: no request of it stands before the registry -/
def Spent (operation : String × Int × String) (s : System) : Prop :=
  (some operation ∈ s.accepted.map fun a => operationOf a.frame) ∧ ∀ connection, ¬ Pending s operation connection

theorem Spent.step (h : Spent operation s) (hguarded : Guarded env s) (horder : inOrder s input = true) :
    Spent operation (s.step env input) := by
  obtain ⟨added, hadded, hstands⟩ := accepted_step env s input
  refine ⟨by rw [hadded, List.map_append]; exact List.mem_append_left _ h.1, fun connection hpending => ?_⟩
  rcases hstands operation connection hpending with hbefore | ⟨a, hmem, hoperation⟩
  · exact h.2 connection hbefore
  · -- a second acceptance of the operation
    have honce := (hguarded.step horder).once
    rw [hadded, List.map_append, List.nodup_append] at honce
    exact honce.2.2 _ h.1 _ (List.mem_map.mpr ⟨a, hmem, hoperation⟩) rfl

/-- an action on the registry spends its operation -/
theorem performs_spends (hguarded : Guarded env s) :
    performs operation s input = 0 ∨
      performs operation s input = 1 ∧ ¬ Spent operation s ∧ Spent operation (s.step env input) := by
  cases input with
  | perform connection later outcome =>
    simp only [performs]
    cases hstage : (s.link connection).stage with
    | accepted frame now replayed =>
      by_cases hone : operationOf frame = some operation ∧ isRevoke frame = false
      · cases replayed with
        | true =>
          have hrevoke := hguarded.retries connection frame now hstage
          rw [hone.2] at hrevoke
          cases hrevoke
        | false =>
          have hpending : Pending s operation connection := ⟨frame, now, hstage, hone.1⟩
          have hstep : s.step env (.perform connection later outcome) =
              s.performStep env connection frame now later false outcome := by simp only [System.step, hstage]
          refine .inr ⟨if_pos hone, fun hspent => hspent.2 connection hpending, ?_⟩
          rw [hstep]
          refine ⟨hguarded.pending operation connection hpending, fun other hother => ?_⟩
          obtain ⟨hne, hbefore⟩ := pending_of_aside System.performStep_aside hother
          exact hne (hguarded.single operation connection other hpending hbefore)
      · exact .inl (if_neg hone)
    | _ => exact .inl rfl
  | _ => exact .inl rfl

end

theorem Guarded.start (env : RelayEnv) : Guarded env {} := by
  have hidle : ∀ connection frame now replayed, (({} : System).link connection).stage ≠ .accepted frame now replayed := by
    simp [System.link]
  have hnone : ∀ operation connection, ¬ Pending {} operation connection := by
    rintro operation connection ⟨frame, now, hpending, -⟩
    exact hidle connection frame now false hpending
  exact ⟨by simp, by simp, fun operation connection h => absurd h (hnone operation connection),
    fun operation connection _ h => absurd h (hnone operation connection),
    fun connection frame now h => absurd h (hidle connection frame now true)⟩

/-- **No operation is accepted twice.** In every run in which requests enter the critical section of the replay cache in the
order of their readings of the clock, no two accepted frames carry the same operation, time and credential, and the requests
of one operation act on the registry at most once. -/
theorem replay_protected (env : RelayEnv) (inputs : List Input)
    (horder : Along (System.step env) (fun s input => inOrder s input = true) {} inputs) :
    ((runFrom (System.step env) {} inputs).accepted.map fun a => operationOf a.frame).Nodup ∧
      ∀ operation, tally (System.step env) (performs operation) {} inputs ≤ 1 := by
  have hstep : ∀ s input, Guarded env s → inOrder s input = true → Guarded env (s.step env input) :=
    fun s input h hinput => h.step hinput
  refine ⟨(run_inv hstep (Guarded.start env) horder).once, fun operation => ?_⟩
  exact (tally_once hstep (fun s input h hinput hspent => hspent.step h hinput)
    (fun s input h _ => performs_spends h) (Guarded.start env) horder).1

/-! ## A captured frame -/

/-- thirty-two bytes made of a text, in the place of its hash; they are never all zero -/
def sampleBytes (bytes : List UInt8) : List UInt8 := (1 :: bytes ++ List.replicate 32 1).take 32

theorem length_sampleBytes (bytes : List UInt8) : (sampleBytes bytes).length = 32 := by simp [sampleBytes]

def sampleRelayEnv : RelayEnv := ⟨fun bytes => ⟨sampleBytes bytes, length_sampleBytes bytes⟩⟩

/-- the readings of a run never decrease -/
def clockMonotone (inputs : List Input) : Prop :=
  (inputs.filterMap fun input => match input with
    | .readClock _ now => some now
    | .perform _ later _ => some later
    | _ => none).Pairwise (· ≤ ·)

instance (inputs : List Input) : Decidable (clockMonotone inputs) := inferInstanceAs (Decidable (List.Pairwise _ _))

def hello : RemoteControlFrame := .remoteHello 1 remoteControlVersion maxRemoteControlFrameBytes

/-- the registration of a route, issued at a time -/
def registration (operationId : String) (issuedAtMs : Int) : RemoteControlFrame :=
  .registerRoute 2 operationId issuedAtMs "AAAAAAAAAAAAAAAAAAAAAA" "BAAAAAAAAAAAAAAAAAAAAA"
    "AAAAAAAAAAAAAAAAAAAAAAAAAAAAAAAAAAAAAAAAAAA" "BAAAAAAAAAAAAAAAAAAAAAAAAAAAAAAAAAAAAAAAAAA"
    "https://relay.example"

/-- the frame that is captured -/
def captured : RemoteControlFrame := registration "CAAAAAAAAAAAAAAAAAAAAA" 100000

/-- the captured frame reads the clock at the end of its skew; another request that reads it one millisecond later enters the
critical section first -/
def overtaking : List Input :=
  [.receive 1 hello, .receive 2 hello, .receive 3 hello,
    .receive 1 captured, .readClock 1 40000, .authorize 1, .accept 1, .perform 1 40000 .written,
    .receive 2 captured, .readClock 2 160000, .authorize 2,
    .receive 3 (registration "DAAAAAAAAAAAAAAAAAAAAA" 160001), .readClock 3 160001, .authorize 3, .accept 3,
    .accept 2]

/-- a captured frame is accepted a second time, though the clock never went back -/
theorem replay_across_readings : ¬ ∀ inputs : List Input, clockMonotone inputs →
    (((runFrom (System.step sampleRelayEnv) {} inputs).accepted.filter fun a => !isRevoke a.frame).map
      fun a => operationOf a.frame).Nodup := by
  intro h
  exact absurd (h overtaking (by decide)) (by decide +kernel)

/-- without the overtaking, the second request finds the operation in the cache -/
def inTurn : List Input := overtaking.take 11 ++ [.accept 2]

theorem replay_protected_in_turn :
    (((runFrom (System.step sampleRelayEnv) {} inTurn).accepted.map fun a => operationOf a.frame).Nodup ∧
      ∀ operation, tally (System.step sampleRelayEnv) (performs operation) {} inTurn ≤ 1) :=
  replay_protected sampleRelayEnv inTurn (by decide +kernel)

end Kaleido.Relay
