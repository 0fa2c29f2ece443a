/-
Applying an effect twice (`kaleido-state`, `state.rs`, `CanonicalState::apply` and `recompute_derived`).

The derived fields are a fixed point (`recomputeDerived_recomputeDerived`): they are read off the observed fields, and the
activity instants only rise to what is observed. An effect that is applied again finds what it stored and stores the same
(`Transitioned.again`); only a project that is new and lists two bindings of one identifier is stored unmerged the first time
and merged the second. `Project.validate` refuses such a project.

`effects_idempotent` is the result.
-/
import Kaleido.Lib.Upsert
import Kaleido.State.Provenance
import Kaleido.State.TurnHistory

namespace Kaleido.State

open Check Proto Upsert CanonicalState

variable {s t next : CanonicalState} {e : StateEffect}

variable {session : Session} {runtimeId : ProviderRuntimeId} {runtime : ProviderRuntime} {turn : Turn}

/-! ## Derived fields -/

/-- the runtime of a session depends on the runtimes and on the projects' bindings -/
theorem runtimeOf_congr (hruntimes : t.runtimes = s.runtimes)
    (hbindings : ∀ k : ProjectId, t.projects[k]?.map (·.bindings) = s.projects[k]?.map (·.bindings)) (session : Session) :
    t.runtimeOf session = s.runtimeOf session := by
  have hbinding : t.projectBindingOf session = s.projectBindingOf session := by
    have h := hbindings session.projectId
    unfold projectBindingOf
    cases hnew : t.projects[session.projectId]? <;> cases hold : s.projects[session.projectId]? <;> simp_all
  unfold runtimeOf runtimeIdOf
  rw [hbinding, hruntimes]

/-- a session's derived fields are read off everything but the sessions and the projects' derived fields -/
theorem recomputeSession_congr {sessions : OrdMap SessionId Session} {projects : OrdMap ProjectId Project}
    (hbindings : ∀ k : ProjectId, projects[k]?.map (·.bindings) = s.projects[k]?.map (·.bindings)) :
    recomputeSession { s with sessions := sessions, projects := projects } = recomputeSession s := by
  funext sessionId session
  have hruntime : runtimeOf { s with sessions := sessions, projects := projects } session = runtimeOf s session :=
    runtimeOf_congr (t := { s with sessions := sessions, projects := projects }) (s := s) rfl hbindings session
  unfold recomputeSession statusInputsOf
  rw [hruntime]
  rfl

theorem recomputeSession_recomputeSession (sessionId : SessionId) (session : Session) :
    recomputeSession s sessionId (recomputeSession s sessionId session) = recomputeSession s sessionId session := by
  have hstatus : statusInputsOf s sessionId (recomputeSession s sessionId session) = statusInputsOf s sessionId session := rfl
  unfold recomputeSession at hstatus ⊢
  simp only [hstatus, Session.mk.injEq, true_and, and_true]
  split_ifs <;> simp_all

theorem recomputeProject_recomputeProject (projectId : ProjectId) (project : Project) :
    recomputeProject s projectId (recomputeProject s projectId project) = recomputeProject s projectId project := by
  unfold recomputeProject
  simp only [Project.mk.injEq, true_and]
  split_ifs <;> simp_all

/-- the sessions of `recompute_derived` -/
def recomputeSessions (s : CanonicalState) : CanonicalState := { s with sessions := s.sessions.map (recomputeSession s) }

theorem recomputeDerived_eq :
    recomputeDerived s = { recomputeSessions s with projects := s.projects.map (recomputeProject (recomputeSessions s)) } :=
  rfl

/-- tables that give the same derived fields, entry by entry, give the same state -/
theorem recomputeDerived_congr {sessions : OrdMap SessionId Session} {projects : OrdMap ProjectId Project}
    (hbindings : ∀ k : ProjectId, projects[k]?.map (·.bindings) = s.projects[k]?.map (·.bindings))
    (hsessions : ∀ k : SessionId, sessions[k]?.map (recomputeSession s k) = s.sessions[k]?.map (recomputeSession s k))
    (hprojects : ∀ k : ProjectId, projects[k]?.map (recomputeProject (recomputeSessions s) k) =
      s.projects[k]?.map (recomputeProject (recomputeSessions s) k)) :
    recomputeDerived { s with sessions := sessions, projects := projects } = recomputeDerived s := by
  have hs : recomputeSessions { s with sessions := sessions, projects := projects } =
      { recomputeSessions s with projects := projects } := by
    have htable : sessions.map (recomputeSession s) = s.sessions.map (recomputeSession s) :=
      OrdMap.ext_get fun k => by rw [OrdMap.get_map, OrdMap.get_map, hsessions k]
    unfold recomputeSessions
    rw [recomputeSession_congr hbindings, htable]
  have hp : projects.map (recomputeProject { recomputeSessions s with projects := projects }) =
      s.projects.map (recomputeProject (recomputeSessions s)) :=
    OrdMap.ext_get fun k => by rw [OrdMap.get_map, OrdMap.get_map]; exact hprojects k
  rw [recomputeDerived_eq, recomputeDerived_eq, hs]
  rw [hp]

theorem get_recomputed_project (s : CanonicalState) (k : ProjectId) :
    s.recomputeDerived.projects[k]? = s.projects[k]?.map (recomputeProject (recomputeSessions s) k) := OrdMap.get_map _ _ _

theorem map_bindings_recomputed (s : CanonicalState) (k : ProjectId) :
    s.recomputeDerived.projects[k]?.map (·.bindings) = s.projects[k]?.map (·.bindings) := by
  rw [get_recomputed_project, Option.map_map]
  rfl

theorem map_recomputed_session (s : CanonicalState) (k : SessionId) :
    s.recomputeDerived.sessions[k]?.map (recomputeSession s k) = s.sessions[k]?.map (recomputeSession s k) := by
  rw [get_recomputed_session, Option.map_map]
  exact congrArg (s.sessions[k]?.map ·) (funext (recomputeSession_recomputeSession k))

theorem map_recomputed_project (s : CanonicalState) (k : ProjectId) :
    s.recomputeDerived.projects[k]?.map (recomputeProject (recomputeSessions s) k) =
      s.projects[k]?.map (recomputeProject (recomputeSessions s) k) := by
  rw [get_recomputed_project, Option.map_map]
  exact congrArg (s.projects[k]?.map ·) (funext (recomputeProject_recomputeProject k))

/-- **The derived fields are a fixed point.** -/
theorem recomputeDerived_recomputeDerived (s : CanonicalState) : recomputeDerived (recomputeDerived s) = recomputeDerived s :=
  recomputeDerived_congr (map_bindings_recomputed s) (map_recomputed_session s) (map_recomputed_project s)

/-- a session that is stored without its derived fields gets them again -/
theorem recomputeDerived_session {k : SessionId} (h : s.sessions[k]? = some session) :
    recomputeDerived { s.recomputeDerived with sessions := s.recomputeDerived.sessions.insert k session } =
      recomputeDerived s := by
  refine recomputeDerived_congr (map_bindings_recomputed s) (fun a => ?_) (map_recomputed_project s)
  rw [OrdMap.get_insert]
  split_ifs with heq
  · rw [← heq, h]
  · exact map_recomputed_session s a

/-- and so does a project that keeps its bindings -/
theorem recomputeDerived_project {k : ProjectId} {project stored : Project} (h : s.projects[k]? = some stored)
    (hbindings : project.bindings = stored.bindings)
    (hproject : recomputeProject (recomputeSessions s) k project = recomputeProject (recomputeSessions s) k stored) :
    recomputeDerived { s.recomputeDerived with projects := s.recomputeDerived.projects.insert k project } =
      recomputeDerived s := by
  refine recomputeDerived_congr (fun a => ?_) (map_recomputed_session s) (fun a => ?_) <;> rw [OrdMap.get_insert] <;>
    split_ifs with heq
  · rw [← heq, h, Option.map_some, Option.map_some, hbindings]
  · exact map_bindings_recomputed s a
  · rw [← heq, h, Option.map_some, Option.map_some, hproject]
  · exact map_recomputed_project s a

/-! ## Runtime acceptances -/

/-- an acceptance of a runtime is about a session that resolves to the runtime -/
theorem acceptedRuntimeSession_eq_some {ack : CommandAck} :
    s.acceptedRuntimeSession ack runtimeId = some session ↔ ∃ sessionId kind handle,
      ack.outcome = .acceptedByRuntime sessionId kind handle ∧ handle.runtimeId = runtimeId ∧
      s.sessions[sessionId]? = some session ∧ ∃ runtime, s.runtimeOf session = some runtime ∧ runtime.id = runtimeId := by
  unfold acceptedRuntimeSession
  split
  · rename_i sessionId kind handle houtcome
    rw [houtcome]
    by_cases hid : handle.runtimeId = runtimeId <;> simp [hid, Option.filter_eq_some_iff, Option.any_eq_true]
  · rename_i hnone
    refine ⟨nofun, ?_⟩
    rintro ⟨sessionId, kind, handle, houtcome, -⟩
    exact absurd houtcome (hnone sessionId kind handle)

theorem acceptedRuntimeSession_recomputed {ack : CommandAck} (h : s.acceptedRuntimeSession ack runtimeId = some session) :
    ∃ sessionId, s.recomputeDerived.acceptedRuntimeSession ack runtimeId = some (s.recomputeSession sessionId session) := by
  obtain ⟨sessionId, kind, handle, houtcome, hid, hsession, hruntime⟩ := acceptedRuntimeSession_eq_some.1 h
  refine ⟨sessionId, acceptedRuntimeSession_eq_some.2 ⟨sessionId, kind, handle, houtcome, hid, ?_, ?_⟩⟩
  · rw [get_recomputed_session, hsession]
    rfl
  · have hsame : s.recomputeDerived.runtimeOf (s.recomputeSession sessionId session) = s.runtimeOf session :=
      runtimeOf_congr (t := s.recomputeDerived) (s := s) rfl (map_bindings_recomputed s) session
    rwa [hsame]

/-- a runtime that is stored again keeps its acceptances -/
theorem hasRuntimeAcceptanceFor_upserted (hs : Provenanced s) (hid : runtime.id = runtimeId)
    (h : s.hasRuntimeAcceptanceFor runtimeId = true) :
    ({ s with runtimes := s.runtimes.insert runtimeId runtime } : CanonicalState).recomputeDerived.hasRuntimeAcceptanceFor
      runtimeId = true := by
  obtain ⟨ack, hack, haccepted⟩ := List.any_eq_true.1 h
  obtain ⟨session, hsession⟩ := Option.isSome_iff_exists.1 haccepted
  obtain ⟨sessionId, kind, handle, houtcome, hhandle, hget, old, hold, holdId⟩ := acceptedRuntimeSession_eq_some.1 hsession
  obtain ⟨k, hk, hstored⟩ := Option.bind_eq_some_iff.1 hold
  obtain rfl : k = runtimeId := (hs.runtimeIds k old hstored).symm.trans holdId
  have hnew : ({ s with runtimes := s.runtimes.insert k runtime } : CanonicalState).acceptedRuntimeSession ack k =
      some session := by
    refine acceptedRuntimeSession_eq_some.2 ⟨sessionId, kind, handle, houtcome, hhandle, hget, runtime, ?_, hid⟩
    refine Option.bind_eq_some_iff.2 ⟨k, hk, ?_⟩
    rw [OrdMap.get_insert_self]
  obtain ⟨_, hrecomputed⟩ := acceptedRuntimeSession_recomputed hnew
  exact List.any_eq_true.2 ⟨ack, hack, by rw [hrecomputed]; rfl⟩

theorem checkLiveControl_upserted {capabilities : RuntimeCapabilities} (hs : Provenanced s) (hid : runtime.id = runtimeId)
    (h : checkLiveControl s capabilities runtimeId = .ok ()) :
    checkLiveControl ({ s with runtimes := s.runtimes.insert runtimeId runtime } : CanonicalState).recomputeDerived
      capabilities runtimeId = .ok () := by
  rw [checkLiveControl, ensure_eq_ok] at h ⊢
  rintro ⟨hpermits, hnone⟩
  refine h ⟨hpermits, fun haccepted => hnone (hasRuntimeAcceptanceFor_upserted hs hid haccepted)⟩

theorem runtimeOf_of_live (h : s.liveRuntimeOf session = .ok runtime) :
    s.runtimeOf session = some runtime := by
  unfold liveRuntimeOf at h
  split at h
  · cases h
  · rename_i runtimeId hown
    split at h
    · cases h
    · rename_i found hfound
      cases h
      have hid : s.runtimeIdOf session = some runtimeId := by
        rw [runtimeIdOf, ← hown]
        cases hhandle : session.bindingHandle <;> cases hhistory : session.historySource.runtimeId <;> simp_all
      rw [runtimeOf, hid]
      exact hfound

/-- a session that is stored again still finds the acceptance of its live binding -/
theorem checkLiveBinding_upserted {merged : Session} (hs : Provenanced s)
    (hmerged : mergeSession s.sessions[session.id]? session = merged) (h : checkLiveBinding s session = .ok ()) :
    checkLiveBinding ({ s with sessions := s.sessions.insert session.id merged } : CanonicalState).recomputeDerived session =
      .ok () := by
  obtain ⟨hlive, hcontrol⟩ := checkLiveBinding_iff.1 h
  refine checkLiveBinding_iff.2 ⟨hlive, fun hc => ?_⟩
  obtain ⟨runtime, hruntime, ack, hack, accepted, haccepted, hid⟩ := hcontrol hc
  refine ⟨runtime, hruntime, ack, hack, ?_⟩
  obtain ⟨sessionId, kind, handle, houtcome, hhandle, hget, -⟩ := acceptedRuntimeSession_eq_some.1 haccepted
  obtain rfl : sessionId = session.id := (hs.sessionIds _ accepted hget).symm.trans hid
  have hnew : ({ s with sessions := s.sessions.insert session.id merged } : CanonicalState).acceptedRuntimeSession ack
      runtime.id = some merged := by
    refine acceptedRuntimeSession_eq_some.2 ⟨session.id, kind, handle, houtcome, hhandle, ?_, runtime, ?_, rfl⟩
    · rw [OrdMap.get_insert_self]
    · rw [← hmerged, hget]
      exact runtimeOf_of_live hruntime
  obtain ⟨sessionId, hrecomputed⟩ := acceptedRuntimeSession_recomputed hnew
  refine ⟨_, hrecomputed, ?_⟩
  rw [← hmerged, hget]
  rfl

/-! ## Merges -/

theorem mergeBinding_eq : mergeBinding = upsert ProjectBinding.id := by
  funext bindings incoming
  induction bindings with
  | nil => rfl
  | cons binding rest ih =>
    rw [upsert, ← ih]
    unfold mergeBinding
    by_cases h : binding.id = incoming.id
    · simp [h, mergeBinding.replaceFirst]
    · simp only [List.any_cons, h, decide_false, Bool.false_or, mergeBinding.replaceFirst, if_false]
      split_ifs <;> rfl

theorem mergeProject_some (existing project : Project) : mergeProject (some existing) project = { project with
    bindings := merge ProjectBinding.id existing.bindings project.bindings
    lastActivityAtMs := max project.lastActivityAtMs existing.lastActivityAtMs } := by
  rw [mergeProject, mergeBinding_eq]
  rfl

/-- merging with what was stored, activity instant included, changes nothing but the derived counts -/
theorem recomputeProject_mergeProject {existing : Option Project} {project merged : Project} {k : ProjectId}
    (hmerged : mergeProject existing project = merged)
    (hbindings : merge ProjectBinding.id merged.bindings project.bindings = merged.bindings) :
    recomputeProject s k (mergeProject (some (recomputeProject s k merged)) project) = recomputeProject s k merged := by
  have hmeta : merged.id = project.id ∧ merged.displayName = project.displayName ∧
      project.lastActivityAtMs ≤ merged.lastActivityAtMs := by
    subst hmerged
    cases existing with
    | none => exact ⟨rfl, rfl, le_refl _⟩
    | some existing => exact ⟨rfl, rfl, le_max_left _ _⟩
  obtain ⟨hid, hname, hlast⟩ := hmeta
  have hkept : (recomputeProject s k merged).bindings = merged.bindings := rfl
  rw [mergeProject_some, hkept, hbindings]
  simp only [recomputeProject, hid, hname, Project.mk.injEq, true_and]
  split_ifs <;> omega

theorem mergeSession_mergeSession (existing : Option Session) (session : Session) (sessionId : SessionId) :
    mergeSession (some (s.recomputeSession sessionId (mergeSession existing session))) session = mergeSession existing session := by
  cases existing <;> rfl

theorem extendItemIds_of_subset {itemIds incoming : List ItemId} (h : incoming ⊆ itemIds) :
    extendItemIds itemIds incoming = itemIds := by
  induction incoming with
  | nil => rfl
  | cons itemId rest ih =>
    have hmem : itemId ∈ itemIds := h List.mem_cons_self
    rw [extendItemIds, List.foldl_cons, if_pos hmem]
    exact ih fun other hother => h (List.mem_cons_of_mem _ hother)

theorem mem_extendItemIds {itemIds incoming : List ItemId} {itemId : ItemId} :
    itemId ∈ extendItemIds itemIds incoming ↔ itemId ∈ itemIds ∨ itemId ∈ incoming := by
  rw [extendItemIds_eq]
  induction incoming generalizing itemIds with
  | nil => simp
  | cons other rest ih => rw [List.foldl_cons, ih, mem_listOnce, List.mem_cons, or_assoc]

theorem mergeTurn_mergeTurn {existing : Option Turn} {merged : Turn} (h : mergeTurn existing turn = .ok merged) :
    mergeTurn (some merged) turn = .ok merged := by
  cases existing with
  | none =>
    cases h
    simp [mergeTurn, extendItemIds_of_subset (List.Subset.refl _), ensure, pure, Except.pure, bind, Except.bind]
  | some existing =>
    simp only [mergeTurn, seq_eq_ok, ensure_eq_ok, pure_eq_ok] at h
    obtain ⟨hsession, horigin, hbinding, rfl⟩ := h
    have hitems : turn.itemIds ⊆ extendItemIds existing.itemIds turn.itemIds := fun itemId hmem =>
      mem_extendItemIds.2 (.inr hmem)
    simp only [mergeTurn, seq_eq_ok, ensure_eq_ok, pure_eq_ok, extendItemIds_of_subset hitems]
    refine ⟨trivial, trivial, ?_, ?_⟩
    · cases turn.bindingHandle <;> simp
    · cases turn.bindingHandle <;> cases turn.startedAtMs <;> simp

theorem checkRemoteCommand_upserted {merged : Turn} (hid : merged.id = turn.id) (h : checkRemoteCommand s turn = .ok ())
    (ht : t.turns = s.turns.insert turn.id merged) : checkRemoteCommand t turn = .ok () := by
  unfold checkRemoteCommand at h ⊢
  split at h
  · rename_i commandId horigin
    rw [ensure_eq_ok] at h ⊢
    intro hany
    obtain ⟨existing, hmem, hother⟩ := List.any_eq_true.1 hany
    rcases OrdMap.mem_vals_insert (ht ▸ hmem) with rfl | hmem
    · simp [hid] at hother
    · exact h (List.any_eq_true.2 ⟨existing, hmem, hother⟩)
  · rfl

/-- the position that an order gives an entry, if it lists it -/
def positionIn (pairs : List (QueueEntryId × Nat)) (k : QueueEntryId) : Option Nat :=
  (pairs.reverse.find? fun pair => pair.1 = k).map Prod.snd

/-- an entry of the session at the position that an order gives it -/
def placed (sessionId : SessionId) (position : Option Nat) (entry : QueueEntry) : QueueEntry :=
  if entry.sessionId = sessionId then { entry with position := position.getD entry.position } else entry

theorem get_reorderQueue (sessionId : SessionId) (queue : OrdMap QueueEntryId QueueEntry) (order : List QueueEntryId)
    (k : QueueEntryId) : (reorderQueue sessionId queue order)[k]? = queue[k]?.map (placed sessionId (positionIn order.zipIdx k)) := by
  unfold reorderQueue
  generalize order.zipIdx = pairs
  induction pairs generalizing queue with
  | nil =>
    have hplaced : placed sessionId (positionIn [] k) = id := by
      funext entry
      simp [placed, positionIn]
    rw [hplaced, Option.map_id]
    rfl
  | cons pair rest ih =>
    rw [List.foldl_cons, ih, OrdMap.get_adjust]
    have hposition : positionIn (pair :: rest) k = (positionIn rest k <|> if pair.1 = k then some pair.2 else none) := by
      simp only [positionIn, List.reverse_cons, List.find?_append]
      cases rest.reverse.find? fun pair => pair.1 = k with
      | some found => simp
      | none => by_cases heq : pair.1 = k <;> simp [heq]
    rw [hposition]
    split_ifs with heq
    · rw [Option.map_map]
      refine congrArg (queue[k]?.map ·) (funext fun entry => ?_)
      simp only [Function.comp, placed]
      cases positionIn rest k <;> by_cases hsession : entry.sessionId = sessionId <;> simp [hsession]
    · simp

theorem reorderQueue_reorderQueue (sessionId : SessionId) (queue : OrdMap QueueEntryId QueueEntry) (order : List QueueEntryId) :
    reorderQueue sessionId (reorderQueue sessionId queue order) order = reorderQueue sessionId queue order := by
  refine OrdMap.ext_get fun k => ?_
  rw [get_reorderQueue, get_reorderQueue, Option.map_map]
  refine congrArg (queue[k]?.map ·) (funext fun entry => ?_)
  unfold placed
  cases positionIn order.zipIdx k <;> split_ifs <;> simp_all

/-! ## One effect, applied again -/

/-- a new project lists one binding for each identifier: the first and the last of an identifier are the same -/
def OneBindingEach (s : CanonicalState) : StateEffect → Prop
  | .projectUpserted project => s.projects[project.id]? = none →
    ∀ x binding, lookup ProjectBinding.id project.bindings.reverse x = some binding →
      lookup ProjectBinding.id project.bindings x = some binding
  | _ => True

/-- the effect finds what it stored and leads to the same state -/
theorem Transitioned.again (hs : Provenanced s) (h : Transitioned s e t) (hack : ∀ ack, e ≠ .commandAcknowledged ack)
    (hone : OneBindingEach s e) :
    ∃ t', Transitioned t.recomputeDerived e t' ∧ t'.recomputeDerived = t.recomputeDerived := by
  have hsame : ∀ {t' : CanonicalState}, t' = t.recomputeDerived → t'.recomputeDerived = t.recomputeDerived := by
    rintro _ rfl
    exact recomputeDerived_recomputeDerived t
  cases h with
  | host host => exact ⟨_, .host host, hsame (by simp only [recomputeDerived, OrdMap.insert_insert])⟩
  | runtime runtime hhost hlive =>
    refine ⟨_, .runtime runtime ?_ (checkLiveControl_upserted hs rfl hlive), hsame ?_⟩
    · change ¬ (s.runtimes.insert runtime.id runtime)[runtime.id]?.any _ = true
      simp
    · simp only [recomputeDerived, OrdMap.insert_insert]
  | capabilities capabilities runtime hlive hr =>
    refine ⟨_, .capabilities capabilities { runtime with capabilities := capabilities }
      (checkLiveControl_upserted hs (hs.runtimeIds _ runtime hr) hlive) (OrdMap.get_insert_self _ _ _), hsame ?_⟩
    simp only [recomputeDerived, OrdMap.insert_insert]
  | project project =>
    refine ⟨_, .project project, ?_⟩
    have hmerge : merge ProjectBinding.id (mergeProject s.projects[project.id]? project).bindings project.bindings =
        (mergeProject s.projects[project.id]? project).bindings := by
      cases hold : s.projects[project.id]? with
      | none => exact merge_of_lookup (hone hold)
      | some existing =>
        rw [mergeProject_some]
        exact merge_merge
    rw [get_recomputed_project, OrdMap.get_insert_self, Option.map_some]
    refine recomputeDerived_project (OrdMap.get_insert_self _ _ _) ?_ (recomputeProject_mergeProject rfl hmerge)
    rw [mergeProject_some]
    exact hmerge
  | session session hlive =>
    refine ⟨_, .session session (checkLiveBinding_upserted hs rfl hlive), ?_⟩
    rw [get_recomputed_session, OrdMap.get_insert_self, Option.map_some, mergeSession_mergeSession]
    exact recomputeDerived_session (OrdMap.get_insert_self _ _ _)
  | status sessionId status hknown =>
    refine ⟨_, .status sessionId status ?_, hsame (by simp only [recomputeDerived, OrdMap.insert_insert])⟩
    rw [Std.ExtTreeMap.contains_eq_isSome_getElem?] at hknown ⊢
    rw [get_recomputed_session, Option.isSome_map]
    exact hknown
  | turn turn merged hremote hmerge hvalid =>
    refine ⟨_, .turn turn merged (checkRemoteCommand_upserted (mergeTurn_eq_ok hmerge).1 hremote rfl) ?_ hvalid, hsame ?_⟩
    · change mergeTurn (s.turns.insert turn.id merged)[turn.id]? turn = .ok merged
      rw [OrdMap.get_insert_self]
      exact mergeTurn_mergeTurn hmerge
    · by_cases hlisted : turn.id ∈ s.turnOrder <;> simp [recomputeDerived, hlisted, OrdMap.insert_insert]
  | item item turn ht hvalid =>
    have hmem : item.id ∈ (listItem turn item.id).itemIds := mem_listOnce.2 (.inr rfl)
    have hlist : listItem (listItem turn item.id) item.id = listItem turn item.id := by
      rw [listItem, if_pos hmem]
    refine ⟨_, .item item (listItem turn item.id) (OrdMap.get_insert_self _ _ _) (hlist.symm ▸ hvalid), hsame ?_⟩
    rw [hlist]
    simp only [recomputeDerived, OrdMap.insert_insert]
  | queueEntry entry => exact ⟨_, .queueEntry entry, hsame (by simp only [recomputeDerived, OrdMap.insert_insert])⟩
  | queueReordered sessionId order =>
    refine ⟨_, .queueReordered sessionId order, hsame ?_⟩
    simp only [recomputeDerived, reorderQueue_reorderQueue]
  | attention item =>
    refine ⟨_, .attention item, hsame ?_⟩
    by_cases hlisted : item.id ∈ s.attentionOrder <;> simp [recomputeDerived, hlisted, OrdMap.insert_insert]
  | ack ack hack' => exact absurd rfl (hack ack)
  | diagnostic diagnostic => exact ⟨_, .diagnostic diagnostic, hsame (by simp only [recomputeDerived, OrdMap.insert_insert])⟩
  | workflow workflow => exact ⟨_, .workflow workflow, hsame (by simp only [recomputeDerived, OrdMap.insert_insert])⟩
  | step step => exact ⟨_, .step step, hsame (by simp only [recomputeDerived, OrdMap.insert_insert])⟩
  | artifact artifact => exact ⟨_, .artifact artifact, hsame (by simp only [recomputeDerived, OrdMap.insert_insert])⟩

/-- the merge of a new project that lists two bindings of one identifier is not what was stored -/
theorem oneBindingEach_of_again (h : s.apply e = .ok next) (hagain : next.apply e = .ok next) : OneBindingEach s e := by
  obtain ⟨t, ht, rfl⟩ := apply_iff.1 h
  obtain ⟨t', ht', hnext⟩ := apply_iff.1 hagain
  cases ht with
  | project project =>
    cases ht' with
    | project _ =>
      intro hnew
      rw [← merge_eq_self_iff]
      have hstored := congrArg (fun state : CanonicalState => state.projects[project.id]?.map (·.bindings)) hnext
      simp only [get_recomputed_project, OrdMap.get_insert_self, Option.map_some, hnew, mergeProject_some,
        Option.some.injEq] at hstored
      exact hstored.symm
  | _ => trivial

theorem oneBindingEach_of_validate (h : e.validateForLog = .ok ()) : OneBindingEach s e := by
  cases e with
  | projectUpserted project =>
    simp only [StateEffect.validateForLog, Project.validate, seq_eq_ok, checkFresh_eq_ok] at h
    exact fun _ => merge_eq_self_iff.1 (merge_self_of_nodup h.2.2)
  | _ => trivial

/-! ## Applying twice -/

/--
**Effects are idempotent.** The derived fields of every state are a fixed point of `recompute_derived`. In a state that
accepted effects reach, an accepted effect other than an acknowledgement is accepted again and leads to the same state exactly
if it is not a new project whose first and last binding of one identifier differ; every effect that passes the check which the
store makes before it applies it is such an effect.
-/
theorem effects_idempotent :
    (∀ s : CanonicalState, recomputeDerived (recomputeDerived s) = recomputeDerived s) ∧
    ∀ (s next : CanonicalState) (e : StateEffect), Reached s → (∀ ack, e ≠ .commandAcknowledged ack) → s.apply e = .ok next →
      (next.apply e = .ok next ↔ OneBindingEach s e) ∧ (e.validateForLog = .ok () → next.apply e = .ok next) := by
  refine ⟨recomputeDerived_recomputeDerived, fun s next e hs hack h => ?_⟩
  have hagain : OneBindingEach s e → next.apply e = .ok next := by
    intro hone
    obtain ⟨t, ht, rfl⟩ := apply_iff.1 h
    obtain ⟨t', ht', heq⟩ := Transitioned.again (provenanced_reached hs) ht hack hone
    exact apply_iff.2 ⟨t', ht', heq.symm⟩
  exact ⟨⟨oneBindingEach_of_again h, hagain⟩, fun hvalid => hagain (oneBindingEach_of_validate hvalid)⟩

theorem effects_idempotent_sample :
    (reachedBy {} [.turnUpserted sampleTurn]).apply (.turnUpserted sampleTurn) = .ok (reachedBy {} [.turnUpserted sampleTurn]) := by
  have happly : applyEach {} [.turnUpserted sampleTurn] = .ok (reachedBy {} [.turnUpserted sampleTurn]) :=
    applyEach_reachedBy (by decide +kernel)
  obtain ⟨next, hnext, hrest⟩ := bind_eq_ok.1 happly
  cases hrest
  exact (effects_idempotent.2 {} _ (.turnUpserted sampleTurn) .empty (fun _ h => by cases h) hnext).2 (by decide +kernel)

/-- a binding of the project to a runtime -/
def bindingTo (runtimeId : ProviderRuntimeId) : ProjectBinding where
  id := ⟨"b1"⟩
  projectId := ⟨"p1"⟩
  runtimeId := runtimeId
  rootRef := sampleBody

/-- a new project with two bindings of one identifier, to different runtimes -/
def doubledProject : Project where
  id := ⟨"p1"⟩
  displayName := "project"
  bindings := [bindingTo ⟨"r1"⟩, bindingTo ⟨"r2"⟩]
  sessionCounts := ⟨0, 0, 0, 0, 0⟩
  workflowCount := 0
  attentionCount := 0
  lastActivityAtMs := 0

/-- the project is accepted with its two bindings; applied again, the first one becomes a copy of the second -/
theorem doubled_binding_merged_later : Reached {} ∧ ∃ next : CanonicalState,
    CanonicalState.apply {} (.projectUpserted doubledProject) = .ok next ∧
      next.apply (.projectUpserted doubledProject) ≠ .ok next := by
  refine ⟨.empty, _, rfl, fun hagain => ?_⟩
  have hone : OneBindingEach {} (.projectUpserted doubledProject) := oneBindingEach_of_again rfl hagain
  have hfirst := hone (by simp) ⟨"b1"⟩ (bindingTo ⟨"r2"⟩) (by decide +kernel)
  revert hfirst
  decide +kernel

end Kaleido.State
