/-
Which path the authenticated connections use (`kaleido-hostd`, `server.rs`).

Each connection thread counts itself while it is authenticated over the LAN, or records the path that its tunnel has
selected. After a change it computes the best path from the counter and the map, and hands the value to the broker; the
two steps are not one, and other threads take theirs in between. `published_reachability_current` says when the broker
ends up with the value that the counter and the map imply; `stale_publication_wins` is a disconnect whose value arrives
after the one of the next connection.
-/
import Kaleido.Hostd.Latch

namespace Kaleido.Hostd

open Prog Proto State

/-- `SelectedRemotePath` -/
inductive SelectedRemotePath where
  | peerToPeer | relayed
  deriving DecidableEq

/-- `authenticated_reachability` -/
def authenticatedReachability (lanConnections : Nat) (remotePaths : OrdMap String SelectedRemotePath) : HostReachability :=
  if 0 < lanConnections then .lanDirect
  else if remotePaths.vals.any (· = .peerToPeer) then .peerToPeer
  else if remotePaths.vals.any (· = .relayed) then .relayed
  else .offline

/-- what a connection thread does when its publication returns -/
inductive Publication where
  /-- `AuthenticatedReachability::acquire` -/
  | acquired
  /-- `AuthenticatedRemotePath::refresh` -/
  | refreshed
  /-- the drop of either guard -/
  | dropped
  deriving DecidableEq

/-- where a connection thread is; one that holds no guard is nowhere -/
inductive Phase where
  /-- it holds an `AuthenticatedReachability` -/
  | lan
  /-- it holds an `AuthenticatedRemotePath` -/
  | remote
  /-- it is about to compute the reachability -/
  | publishing (publication : Publication)
  /-- it is about to hand the value to the broker -/
  | computed (publication : Publication) (value : HostReachability)
  /-- the publication of `acquire` failed; the connection is still counted -/
  | acquireFailed
  /-- the publication of `refresh` failed; the guard is about to be dropped -/
  | refreshFailed
  deriving DecidableEq

/-- `publish_authenticated_reachability` was called and has not returned -/
def Phase.inFlight : Phase → Bool
  | .publishing _ | .computed _ _ => true
  | _ => false

/-- the value is computed and not handed over -/
def Phase.isComputed : Phase → Bool
  | .computed _ _ => true
  | _ => false

/-- the parts of `ServerShared` that reachability is made of, and the connection threads by their scopes -/
structure ServerPaths where
  broker : Broker
  authenticatedConnections : Nat := 0
  authenticatedRemotePaths : OrdMap String SelectedRemotePath := ∅
  threads : OrdMap String Phase := ∅

/-- the atomic steps of the connection threads, and of everyone else who calls the broker -/
inductive PathEvent where
  /-- `acquire`: `fetch_add` -/
  | acquireLan (scope : String)
  /-- `acquire` gives up after a failed publication: `fetch_sub` -/
  | releaseFailed (scope : String)
  /-- the drop of an `AuthenticatedReachability`: `fetch_sub` -/
  | dropLan (scope : String)
  /-- `refresh`, of a new guard or of one that is held: the map is updated -/
  | refreshRemote (scope : String) (selected : Option SelectedRemotePath)
  /-- the drop of an `AuthenticatedRemotePath`: the map is updated -/
  | dropRemote (scope : String)
  /-- `authenticated_reachability` is computed -/
  | compute (scope : String)
  /-- `set_authenticated_reachability` is called -/
  | set (scope : String) (atMs : Int)
  | broker (operation : BrokerOp)

namespace ServerPaths

/-- what the counter and the map imply -/
def current (h : ServerPaths) : HostReachability :=
  authenticatedReachability h.authenticatedConnections h.authenticatedRemotePaths

/-- the thread goes on to its next phase -/
def goTo (h : ServerPaths) (scope : String) (phase : Phase) : ServerPaths :=
  { h with threads := h.threads.insert scope phase }

/-- the thread is done -/
def leave (h : ServerPaths) (scope : String) : ServerPaths := { h with threads := h.threads.erase scope }

/-- `refresh`: the map with the selected path, and whether it changed -/
def refreshed (paths : OrdMap String SelectedRemotePath) (scope : String) :
    Option SelectedRemotePath → OrdMap String SelectedRemotePath × Bool
  | some path => (paths.insert scope path, paths[scope]? ≠ some path)
  | none => (paths.erase scope, paths[scope]?.isSome)

def refresh (h : ServerPaths) (scope : String) (selected : Option SelectedRemotePath) : ServerPaths :=
  let (paths, changed) := refreshed h.authenticatedRemotePaths scope selected
  { h with authenticatedRemotePaths := paths }.goTo scope (if changed then .publishing .refreshed else .remote)

def drop (h : ServerPaths) (scope : String) : ServerPaths :=
  let removed := h.authenticatedRemotePaths[scope]?
  let h := { h with authenticatedRemotePaths := h.authenticatedRemotePaths.erase scope }
  if removed.isSome then h.goTo scope (.publishing .dropped) else h.leave scope

/-- the publication has returned -/
def returned (h : ServerPaths) (scope : String) (publication : Publication) (ok : Bool) : ServerPaths :=
  match publication, ok with
  | .acquired, true => h.goTo scope .lan
  | .acquired, false => h.goTo scope .acquireFailed
  | .refreshed, true => h.goTo scope .remote
  | .refreshed, false => h.goTo scope .refreshFailed
  | .dropped, _ => h.leave scope

variable (env : Env) (mint : String → CommandId)

/-- one step; a thread that is not where the step starts takes none -/
def step (h : ServerPaths) : PathEvent → ServerPaths
  | .acquireLan scope => match h.threads[scope]? with
    | none => { h with authenticatedConnections := h.authenticatedConnections + 1 }.goTo scope (.publishing .acquired)
    | _ => h
  | .releaseFailed scope => match h.threads[scope]? with
    | some .acquireFailed => { h with authenticatedConnections := h.authenticatedConnections - 1 }.leave scope
    | _ => h
  | .dropLan scope => match h.threads[scope]? with
    | some .lan =>
      let previous := h.authenticatedConnections
      let h := { h with authenticatedConnections := previous - 1 }
      if previous = 1 then h.goTo scope (.publishing .dropped) else h.leave scope
    | _ => h
  | .refreshRemote scope selected => match h.threads[scope]? with
    | none | some .remote => h.refresh scope selected
    | _ => h
  | .dropRemote scope => match h.threads[scope]? with
    | some .remote | some .refreshFailed => h.drop scope
    | _ => h
  | .compute scope => match h.threads[scope]? with
    | some (.publishing publication) => h.goTo scope (.computed publication h.current)
    | _ => h
  | .set scope atMs => match h.threads[scope]? with
    | some (.computed publication value) =>
      let (result, broker) := Broker.setAuthenticatedReachability env value atMs h.broker
      { h with broker := broker }.returned scope publication result.isOk
    | _ => h
  | .broker operation => { h with broker := (operation.run env mint h.broker).2 }

/-- no publication is in flight -/
def AtRest (h : ServerPaths) : Prop := ∀ (scope : String) phase, h.threads[scope]? = some phase → phase.inFlight = false

/-- no thread has a computed value that it has not handed over -/
def noneComputed (h : ServerPaths) : Bool := h.threads.vals.all fun phase => !phase.isComputed

/-- when a step may be taken: the counter and the map are updated only while no computed value is on its way to the broker,
and a failed `acquire` leaves the counter only while another connection is counted -/
def calm (h : ServerPaths) : PathEvent → Bool
  | .acquireLan _ | .dropLan _ | .refreshRemote _ _ | .dropRemote _ => h.noneComputed
  | .releaseFailed _ => h.noneComputed && 1 < h.authenticatedConnections
  | .compute _ | .set _ _ | .broker _ => true

variable {env mint} {h g : ServerPaths} {scope : String}

/-- a computed value is current, and so is the broker's unless a publication is in flight -/
structure Tracked (h : ServerPaths) : Prop where
  computed : ∀ (scope : String) publication value, h.threads[scope]? = some (.computed publication value) → value = h.current
  latch : h.broker.authenticatedReachability = h.current ∨
    ∃ (scope : String) (phase : Phase), h.threads[scope]? = some phase ∧ phase.inFlight = true

theorem get_goTo (h : ServerPaths) (scope other : String) (phase : Phase) :
    (h.goTo scope phase).threads[other]? = if scope = other then some phase else h.threads[other]? :=
  OrdMap.get_insert _ _ _ _

theorem get_leave (h : ServerPaths) (scope other : String) :
    (h.leave scope).threads[other]? = if scope = other then none else h.threads[other]? :=
  OrdMap.get_erase _ _ _

/-- nothing changes but where one thread is, which has no publication in flight -/
theorem Tracked.move (hh : h.Tracked) (scope : String) (hlatch : g.broker.authenticatedReachability = h.broker.authenticatedReachability)
    (hcurrent : g.current = h.current)
    (hothers : ∀ other : String, scope ≠ other → g.threads[other]? = h.threads[other]?)
    (hself : h.threads[scope]?.any (·.inFlight) = false) (hphase : g.threads[scope]?.any (·.inFlight) = false) : g.Tracked := by
  refine ⟨fun other publication value hk => ?_, ?_⟩
  · by_cases hne : scope = other
    · subst hne
      rw [hk] at hphase
      cases hphase
    · rw [hcurrent]
      exact hh.computed other publication value (hothers other hne ▸ hk)
  · rw [hlatch, hcurrent]
    refine hh.latch.imp id fun ⟨other, phase, hk, hflight⟩ => ⟨other, phase, ?_, hflight⟩
    rw [hothers other, hk]
    rintro rfl
    rw [hk, Option.any_some, hflight] at hself
    cases hself

theorem noneComputed_iff : h.noneComputed = true ↔
    ∀ (scope : String) phase, h.threads[scope]? = some phase → phase.isComputed = false := by
  simp only [noneComputed, List.all_eq_true, OrdMap.mem_vals, Bool.not_eq_true']
  constructor
  · intro hall scope phase hk
    exact hall phase ⟨scope, hk⟩
  · rintro hall phase ⟨scope, hk⟩
    exact hall scope phase hk

/-- a thread calls for a publication while no computed value is on its way -/
theorem Tracked.publish (hcalm : h.noneComputed = true) (hthreads : g.threads = h.threads) (publication : Publication) :
    (g.goTo scope (.publishing publication)).Tracked := by
  refine ⟨fun other _ value hk => ?_, .inr ⟨scope, .publishing publication, by rw [get_goTo, if_pos rfl], rfl⟩⟩
  rw [get_goTo, hthreads] at hk
  split_ifs at hk
  · cases hk
  · exact absurd (noneComputed_iff.1 hcalm other _ hk) (by simp [Phase.isComputed])

theorem Tracked.refresh (hh : h.Tracked) (hcalm : h.noneComputed = true) (selected : Option SelectedRemotePath)
    (hself : h.threads[scope]?.any (·.inFlight) = false) : (h.refresh scope selected).Tracked := by
  rw [ServerPaths.refresh]
  have hsame : (refreshed h.authenticatedRemotePaths scope selected).2 = false →
      (refreshed h.authenticatedRemotePaths scope selected).1 = h.authenticatedRemotePaths := by
    intro hunchanged
    cases selected with
    | some path => exact OrdMap.insert_of_get (by simpa [refreshed] using hunchanged)
    | none => exact OrdMap.erase_of_get (Option.isNone_iff_eq_none.1 (Option.isSome_eq_false_iff.1 hunchanged))
  generalize refreshed h.authenticatedRemotePaths scope selected = r at hsame
  obtain ⟨paths, changed⟩ := r
  cases changed with
  | true => exact Tracked.publish (g := { h with authenticatedRemotePaths := paths }) hcalm rfl _
  | false =>
    refine hh.move scope rfl ?_ (fun other hne => ?_) hself ?_
    · change authenticatedReachability _ paths = _
      rw [show paths = h.authenticatedRemotePaths from hsame rfl]
      rfl
    · exact (get_goTo _ _ _ _).trans (if_neg hne)
    · rw [get_goTo, if_pos rfl]
      rfl

theorem Tracked.leave (hh : h.Tracked) (hlatch : g.broker = h.broker) (hcurrent : g.current = h.current)
    (hthreads : g.threads = h.threads) (hself : h.threads[scope]?.any (·.inFlight) = false) : (g.leave scope).Tracked := by
  refine hh.move scope (congrArg _ hlatch) hcurrent (fun other hne => ?_) hself ?_
  · rw [get_leave, if_neg hne, hthreads]
  · rw [get_leave, if_pos rfl]
    rfl

theorem Tracked.drop (hh : h.Tracked) (hcalm : h.noneComputed = true)
    (hself : h.threads[scope]?.any (·.inFlight) = false) : (h.drop scope).Tracked := by
  rw [ServerPaths.drop]
  split_ifs with hsome
  · exact Tracked.publish (g := { h with authenticatedRemotePaths := h.authenticatedRemotePaths.erase scope }) hcalm rfl _
  · refine Tracked.leave hh rfl ?_ rfl hself
    change authenticatedReachability _ (h.authenticatedRemotePaths.erase scope) = _
    rw [OrdMap.erase_of_get (Option.not_isSome_iff_eq_none.1 hsome)]
    rfl

/-- while a connection stays counted the host is reached directly -/
theorem current_direct (hh : 1 < h.authenticatedConnections) :
    ({ h with authenticatedConnections := h.authenticatedConnections - 1 } : ServerPaths).current = h.current := by
  simp only [current, authenticatedReachability]
  rw [if_pos (by omega), if_pos (by omega)]

/-- the phases in which a publication has returned -/
theorem returned_phase (h : ServerPaths) (scope : String) (publication : Publication) (ok : Bool) :
    (h.returned scope publication ok).broker = h.broker ∧ (h.returned scope publication ok).current = h.current ∧
      (∀ other, scope ≠ other → (h.returned scope publication ok).threads[other]? = h.threads[other]?) ∧
      (h.returned scope publication ok).threads[scope]?.any (·.inFlight) = false := by
  have hgoTo : ∀ next : Phase, next.inFlight = false → (h.goTo scope next).broker = h.broker ∧
      (h.goTo scope next).current = h.current ∧
      (∀ other, scope ≠ other → (h.goTo scope next).threads[other]? = h.threads[other]?) ∧
      (h.goTo scope next).threads[scope]?.any (·.inFlight) = false := by
    refine fun next hnext => ⟨rfl, rfl, fun other hne => ?_, ?_⟩
    · rw [get_goTo, if_neg hne]
    · rw [get_goTo, if_pos rfl]
      exact hnext
  rw [returned.eq_def]
  split
  case h_5 =>
    refine ⟨rfl, rfl, fun other hne => ?_, ?_⟩
    · rw [get_leave, if_neg hne]
    · rw [get_leave, if_pos rfl]
      rfl
  all_goals exact hgoTo _ rfl

theorem Tracked.step (hh : h.Tracked) {event : PathEvent} (hcalm : h.calm event = true) :
    (h.step env mint event).Tracked := by
  cases event with
  | acquireLan scope =>
    simp only [ServerPaths.step]
    split
    · exact Tracked.publish
        (g := { h with authenticatedConnections := h.authenticatedConnections + 1 }) hcalm rfl .acquired
    · exact hh
  | releaseFailed scope =>
    obtain ⟨-, hcounted⟩ := Bool.and_eq_true_iff.1 hcalm
    simp only [ServerPaths.step]
    split
    · rename_i hphase
      exact Tracked.leave (g := { h with authenticatedConnections := h.authenticatedConnections - 1 }) hh rfl
        (current_direct (of_decide_eq_true hcounted)) rfl (by rw [hphase]; rfl)
    · exact hh
  | dropLan scope =>
    simp only [ServerPaths.step]
    split
    · rename_i hphase
      split_ifs with hone
      · exact Tracked.publish (g := { h with authenticatedConnections := h.authenticatedConnections - 1 }) hcalm rfl .dropped
      · refine Tracked.leave (g := { h with authenticatedConnections := h.authenticatedConnections - 1 }) hh rfl ?_ rfl
          (by rw [hphase]; rfl)
        rcases Nat.lt_or_ge 1 h.authenticatedConnections with hmore | hless
        · exact current_direct hmore
        · obtain hzero : h.authenticatedConnections = 0 := by omega
          simp only [current, hzero]
    · exact hh
  | refreshRemote scope selected =>
    simp only [ServerPaths.step]
    split
    · rename_i hphase
      exact hh.refresh hcalm selected (by rw [hphase]; rfl)
    · rename_i hphase
      exact hh.refresh hcalm selected (by rw [hphase]; rfl)
    · exact hh
  | dropRemote scope =>
    simp only [ServerPaths.step]
    split
    · rename_i hphase
      exact hh.drop hcalm (by rw [hphase]; rfl)
    · rename_i hphase
      exact hh.drop hcalm (by rw [hphase]; rfl)
    · exact hh
  | compute scope =>
    simp only [ServerPaths.step]
    split
    · rename_i publication hphase
      refine ⟨fun other _ value hk => ?_, .inr ⟨scope, .computed publication h.current, by rw [get_goTo, if_pos rfl], rfl⟩⟩
      rw [get_goTo] at hk
      split_ifs at hk
      · cases hk
        rfl
      · exact hh.computed other _ value hk
    · exact hh
  | set scope atMs =>
    simp only [ServerPaths.step]
    split
    · rename_i publication value hphase
      have hlatch := (set_latch env value atMs h.broker).1
      generalize Broker.setAuthenticatedReachability env value atMs h.broker = r at hlatch ⊢
      obtain ⟨result, broker⟩ := r
      obtain ⟨hbroker, hcurrent, hothers, hself⟩ :=
        returned_phase { h with broker := broker } scope publication result.isOk
      have hvalue : value = h.current := hh.computed scope publication value hphase
      refine ⟨fun other publication' value' hk => ?_, .inl ?_⟩
      · rw [hcurrent]
        by_cases hne : scope = other
        · subst hne
          rw [hk] at hself
          cases hself
        · exact hh.computed other publication' value' (hothers other hne ▸ hk)
      · rw [hbroker, hcurrent]
        exact hlatch.trans hvalue
    · exact hh
  | broker operation =>
    have hsame : SameLatch h.broker (operation.run env mint h.broker).2 := op_same operation
    exact ⟨hh.computed, hh.latch.imp (fun hl => hsame.latch.trans hl) id⟩

/-- **The published reachability is current.** In every run in which the counter and the map are updated only while no
computed value is on its way to the broker, the broker has the reachability that the counter and the map imply whenever no
publication is in flight. -/
theorem published_reachability_current (env : Env) (mint : String → CommandId) (hostId : HostId) (events : List PathEvent)
    (hrun : Along (step env mint) (fun h event => h.calm event = true) { broker := { hostId := hostId } } events) :
    let h := runFrom (step env mint) { broker := { hostId := hostId } } events
    h.AtRest → h.broker.authenticatedReachability =
      authenticatedReachability h.authenticatedConnections h.authenticatedRemotePaths := by
  intro h hrest
  have hh : h.Tracked := run_inv (fun _ _ htracked hcalm => htracked.step hcalm)
    ⟨fun _ _ _ hk => by simp at hk, .inl (by simp [current, authenticatedReachability])⟩ hrun
  rcases hh.latch with hl | ⟨scope, phase, hk, hflight⟩
  · exact hl
  · rw [hrest scope phase hk] at hflight
    cases hflight

/-- one thread connects over the LAN, and hands its value over -/
def connects (scope : String) (atMs : Int) : List PathEvent := [.acquireLan scope, .compute scope, .set scope atMs]

/-- the run of a server for the sample host, which the broker knows -/
abbrev samplePaths (events : List PathEvent) : ServerPaths :=
  runFrom (step sampleEnv fun _ => ⟨"cmd_a"⟩) { broker := { hostId := ⟨"hst_a"⟩ } }
    (.broker (.applyEffect (.hostUpserted sampleHost) 5) :: events)

/-- no publication is in flight, as a computation -/
theorem atRest_iff : h.AtRest ↔ (h.threads.vals.all fun phase => !phase.inFlight) = true := by
  simp only [AtRest, List.all_eq_true, OrdMap.mem_vals, Bool.not_eq_true']
  constructor
  · rintro hall phase ⟨scope, hk⟩
    exact hall scope phase hk
  · intro hall scope phase hk
    exact hall phase ⟨scope, hk⟩

instance (h : ServerPaths) : Decidable h.AtRest := decidable_of_iff _ atRest_iff.symm

/-- a LAN and a remote connection, and the LAN connection closes -/
def lanCloses : List PathEvent :=
  connects "con_a" 10 ++ [.refreshRemote "con_b" (some .relayed), .compute "con_b", .set "con_b" 20, .dropLan "con_a",
    .compute "con_a", .set "con_a" 30]

theorem lan_close_published :
    (samplePaths lanCloses).broker.authenticatedReachability = .relayed ∧ (samplePaths lanCloses).AtRest ∧
    (samplePaths lanCloses).broker.authenticatedReachability = authenticatedReachability
      (samplePaths lanCloses).authenticatedConnections (samplePaths lanCloses).authenticatedRemotePaths := by
  have hrun : Along (step sampleEnv fun _ => ⟨"cmd_a"⟩) (fun h event => h.calm event = true)
        { broker := { hostId := ⟨"hst_a"⟩ } } (.broker (.applyEffect (.hostUpserted sampleHost) 5) :: lanCloses) ∧
      (samplePaths lanCloses).AtRest ∧ (samplePaths lanCloses).broker.authenticatedReachability = .relayed := by
    decide +kernel
  have hcurrent := published_reachability_current sampleEnv (fun _ => ⟨"cmd_a"⟩) ⟨"hst_a"⟩ _ hrun.1
  unfold samplePaths at hrun ⊢
  generalize runFrom (step sampleEnv fun _ => ⟨"cmd_a"⟩) _ _ = h at hrun hcurrent ⊢
  exact ⟨hrun.2.2, hrun.2.1, hcurrent hrun.2.1⟩

/-- **A stale publication wins.** The only connection closes and computes that the host is offline; another one connects
and is published; then the first value arrives. -/
theorem stale_publication_wins :
    let h := samplePaths (connects "con_a" 10 ++ [.dropLan "con_a", .compute "con_a"] ++ connects "con_b" 20 ++
      [.set "con_a" 30])
    h.AtRest ∧ h.broker.authenticatedReachability = .offline ∧
      authenticatedReachability h.authenticatedConnections h.authenticatedRemotePaths = .lanDirect := by decide +kernel

end ServerPaths

end Kaleido.Hostd
