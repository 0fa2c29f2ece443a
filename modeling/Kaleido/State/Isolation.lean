/-
What a device learns of the uploads of others (`kaleido-state`, `content.rs`, `write_for_device`, `read_for_device`,
`cleanup_expired_ownership`; `store.rs`, `write_content_for_device`, `read_content_for_device`).

Quotas and ownership are looked up under the digest of the device, so a call sees of the ownership map only the records of its
device (`writeForDevice_eq`, `owned_eq`); bodies are shared, but a body is named by its digest, so one that another device
installed is the one this device would install. Two things pass between devices. Every write removes all expired records, and a
device that reads an expired upload is told `Evicted` while its record is there and `Unauthorized` afterwards
(`sweep_is_observed`); and a write installs a body that canonical state may refer to already. `uploads_unobserved` says that
there is nothing else: if no write of another device does one of the two, a device receives the answers it would receive alone.
-/
import Kaleido.Lib.Unwind
import Kaleido.State.Machine
import Kaleido.State.ContentRead

namespace Kaleido.State

open Check Proto

variable {record : OwnershipRecord} {kind : ContentKind} {sensitivity : Sensitivity} {reference : ContentRef}
  {bytes : List UInt8} {nowMs : Int} {request : ContentWriteRequest}

namespace ContentStore

variable {env : Env} {c c' : ContentStore} {digest : String} {device : DeviceId} {request : ContentWriteRequest}
  {bytes : List UInt8} {nowMs : Int}

/-! ## The records of one device -/

/-- the ownership records of one device -/
def ofDevice (c : ContentStore) (digest : String) : List OwnershipRecord :=
  c.ownership.filter fun record => record.deviceDigest = digest

theorem owned_eq (contentId : ContentId) :
    c.owned digest contentId = (c.ofDevice digest).find? fun record => record.contentRef.contentId = contentId := by
  rw [owned, ofDevice, List.find?_filter]
  simp only [Bool.decide_and, decide_eq_true_eq]

theorem ownedBytes_eq : c.ownedBytes digest nowMs =
    (((c.ofDevice digest).filter fun record => record.expiresAtMs > nowMs).map (·.contentRef.byteLen)).sum := by
  rw [ownedBytes, ofDevice, List.filter_filter]
  simp only [Bool.and_comm]

theorem ofDevice_cleanup : (c.cleanupExpiredOwnership nowMs).ofDevice digest =
    (c.ofDevice digest).filter fun record => record.expiresAtMs > nowMs := by
  rw [ofDevice, ofDevice, cleanupExpiredOwnership, List.filter_filter, List.filter_filter]
  simp only [Bool.and_comm]

/-- a record of the device replaces its record of the same body -/
theorem ofDevice_insert_own (h : record.deviceDigest = digest) :
    (c.insertOwnership record).ofDevice digest =
      ((c.ofDevice digest).filter fun existing => existing.contentRef.contentId ≠ record.contentRef.contentId) ++
        [record] := by
  subst h
  simp only [ofDevice, insertOwnership, List.filter_append, List.filter_filter]
  congr 1
  · refine List.filter_congr fun existing _ => ?_
    by_cases heq : existing.deviceDigest = record.deviceDigest <;> simp [heq]
  · simp

/-- a record of another device changes nothing -/
theorem ofDevice_insert_other (h : record.deviceDigest ≠ digest) :
    (c.insertOwnership record).ofDevice digest = c.ofDevice digest := by
  simp only [ofDevice, insertOwnership, List.filter_append, List.filter_filter]
  have hother : ([record].filter fun r => decide (r.deviceDigest = digest)) = [] := by simp [h]
  rw [hother, List.append_nil]
  refine List.filter_congr fun existing _ => ?_
  by_cases heq : existing.deviceDigest = digest
  · simp [heq, Ne.symm h]
  · simp [heq]

/-! ## Writing -/

variable (env) in
/-- the checks of an upload before its body is stored; they look at the device's own records only -/
def admitsUpload (mine : List OwnershipRecord) (request : ContentWriteRequest) (bytes : List UInt8) (nowMs : Int) : Bool :=
  !(!request.valid || bytes.length ≠ request.byteLen || "sha256:" ++ env.hexDigest bytes ≠ request.digest) &&
  !(!((mine.find? fun record => record.contentRef.contentId = ⟨env.hexDigest bytes⟩).any fun record =>
        record.expiresAtMs > nowMs && record.contentRef.byteLen = bytes.length) &&
      ((mine.filter fun record => record.expiresAtMs > nowMs).map (·.contentRef.byteLen)).sum + bytes.length >
        deviceContentQuotaBytes) &&
  !(nowMs + deviceContentTtlMs > i64Max)

variable (env) in
/-- the checks of `store`, given what is stored under the digest -/
def checkStore (kind : ContentKind) (sensitivity : Sensitivity) (bytes : List UInt8) (existing : Option (List UInt8)) :
    Except StateError ContentRef := do
  let hex := env.hexDigest bytes
  let contentId : ContentId := ⟨hex⟩
  ensure (validDigest hex) (.unsafeContentId contentId)
  ensure (existing.all fun existing => existing.length = bytes.length && env.hexDigest existing = hex)
    (.contentDigestMismatch contentId)
  let reference : ContentRef := ⟨contentId, kind, bytes.length, "sha256:" ++ hex, none, sensitivity, .stored⟩
  contract reference.validate
  return reference

/-- a body is kept if there is one, and installed otherwise -/
def install (c : ContentStore) (contentId : ContentId) (bytes : List UInt8) : ContentStore :=
  { c with bodies := if c.bodies.contains contentId then c.bodies else c.bodies.insert contentId bytes }

theorem get_install {contentId contentId' : ContentId} : (c.install contentId bytes).bodies[contentId']? =
    if contentId = contentId' then some ((c.bodies[contentId]?).getD bytes) else c.bodies[contentId']? := by
  unfold install
  split_ifs with hcontains heq heq
  · subst heq
    obtain ⟨body, hbody⟩ := Option.isSome_iff_exists.1 (Std.ExtTreeMap.contains_eq_isSome_getElem?.symm.trans hcontains)
    rw [hbody, Option.getD_some]
  · rfl
  · subst heq
    have hnone : c.bodies[contentId]? = none := by
      simpa using hcontains
    rw [hnone, OrdMap.get_insert_self, Option.getD_none]
  · rw [OrdMap.get_insert, if_neg heq]

theorem store_eq (kind : ContentKind) (sensitivity : Sensitivity) : c.store env kind sensitivity bytes =
    (checkStore env kind sensitivity bytes c.bodies[(⟨env.hexDigest bytes⟩ : ContentId)]?).map fun reference =>
      (reference, c.install ⟨env.hexDigest bytes⟩ bytes) := by
  unfold ContentStore.store checkStore
  dsimp only
  generalize ensure (validDigest _ = true) _ = first
  generalize ensure (Option.all _ _ = true) _ = second
  generalize contract _ = third
  cases first <;> cases second <;> cases third <;> rfl

theorem checkStore_ref {existing : Option (List UInt8)} (h : checkStore env kind sensitivity bytes existing = .ok reference) :
    reference.contentId = ⟨env.hexDigest bytes⟩ := by
  simp only [checkStore, seq_eq_ok, pure_eq_ok] at h
  rw [← h.2.2.2]

variable (env) in
/-- an upload that is admitted and stored -/
def uploaded (c : ContentStore) (device : DeviceId) (reference : ContentRef) (bytes : List UInt8) (nowMs : Int) :
    ContentStore :=
  (c.install ⟨env.hexDigest bytes⟩ bytes).insertOwnership
    ⟨deviceDigest env device, reference, nowMs, nowMs + deviceContentTtlMs⟩

/-- what an upload does, in terms of the device's own records and of the body under its digest -/
theorem writeForDevice_eq : c.writeForDevice env device request bytes nowMs =
    if admitsUpload env ((c.cleanupExpiredOwnership nowMs).ofDevice (deviceDigest env device)) request bytes nowMs then
      match checkStore env request.contentKind .sensitive bytes c.bodies[(⟨env.hexDigest bytes⟩ : ContentId)]? with
      | .error e => (.error e, c.cleanupExpiredOwnership nowMs)
      | .ok reference =>
        (.ok (.stored reference), (c.cleanupExpiredOwnership nowMs).uploaded env device reference bytes nowMs)
    else (.ok (rejectedWrite nowMs), c.cleanupExpiredOwnership nowMs) := by
  unfold writeForDevice
  simp only [owned_eq, ownedBytes_eq, store_eq]
  have hbodies : (c.cleanupExpiredOwnership nowMs).bodies = c.bodies := rfl
  rw [hbodies]
  split
  case isTrue hheader => rw [if_neg (by rw [admitsUpload, hheader]; simp)]
  case isFalse hheader =>
    split
    case isTrue hquota => rw [if_neg (by rw [admitsUpload, hquota]; simp)]
    case isFalse hquota =>
      split
      case isTrue hexpiry => rw [if_neg (by rw [admitsUpload, decide_eq_true hexpiry]; simp)]
      case isFalse hexpiry =>
        rw [if_pos (by rw [admitsUpload, Bool.eq_false_iff.2 hheader, Bool.eq_false_iff.2 hquota, decide_eq_false hexpiry]; rfl)]
        cases checkStore env request.contentKind .sensitive bytes c.bodies[(⟨env.hexDigest bytes⟩ : ContentId)]? <;> rfl

end ContentStore

open ContentStore (deviceDigest get_install)

/-! ## Calls of devices -/

/-- a call of a device -/
inductive ContentCall where
  | write (deviceId : DeviceId) (request : ContentWriteRequest) (bytes : List UInt8) (nowMs : Int)
  | read (deviceId : DeviceId) (request : ContentReadRequest) (nowMs : Int)

inductive ContentAnswer where
  | written (response : Except StateError ContentWriteResponse)
  | read (response : Except StateError ContentReadResponse)
  deriving DecidableEq

namespace ContentCall

def device : ContentCall → DeviceId
  | .write deviceId .. | .read deviceId .. => deviceId

/-- the bytes of an upload -/
def upload? : ContentCall → Option (List UInt8)
  | .write _ _ bytes _ => some bytes
  | .read .. => none

def time : ContentCall → Int
  | .write _ _ _ nowMs | .read _ _ nowMs => nowMs

end ContentCall

section

variable (env : Env)

/-- the store after a call -/
def World.called (w : World) : ContentCall → World
  | .write deviceId request bytes nowMs => (writeContentForDevice env deviceId request bytes nowMs w).2
  | .read .. => w

def World.answerTo (w : World) : ContentCall → ContentAnswer
  | .write deviceId request bytes nowMs => .written (writeContentForDevice env deviceId request bytes nowMs w).1
  | .read deviceId request nowMs => .read (w.readContentForDevice env deviceId request nowMs)

/-- the answers that a device receives -/
def answersTo (device : DeviceId) (w : World) (calls : List ContentCall) : List ContentAnswer :=
  answers (World.called env) (World.answerTo env) (fun call => call.device = device) w calls

/-- a write of somebody else touches nothing that the device can see: no record of the device has expired, and the body is
stored already or is named neither by canonical state nor by a record of the device -/
def quiet (device : DeviceId) (w : World) : ContentCall → Bool
  | .read .. => true
  | .write writer _ bytes nowMs =>
    writer = device ||
      (((w.content.ofDevice (deviceDigest env device)).all fun record => record.expiresAtMs > nowMs) &&
      (w.content.bodies.contains ⟨env.hexDigest bytes⟩ ||
        ((w.store.state.contentRefs.all fun reference => reference.contentId ≠ ⟨env.hexDigest bytes⟩) &&
          (w.content.ofDevice (deviceDigest env device)).all fun record =>
            record.contentRef.contentId ≠ ⟨env.hexDigest bytes⟩)))

/-- the digests of the run tell the device from the others, and the uploads from each other -/
structure Told (device : DeviceId) (calls : List ContentCall) : Prop where
  devices : ∀ call ∈ calls, deviceDigest env call.device = deviceDigest env device →
    call.device = device
  bodies : ∀ call ∈ calls, ∀ call' ∈ calls, ∀ bytes bytes', call.upload? = some bytes → call'.upload? = some bytes' →
    env.hexDigest bytes = env.hexDigest bytes' → bytes = bytes'

end

/-! ## What a device can see -/

/-- the body is one that somebody has uploaded and that nothing the device can see names -/
structure Foreign (env : Env) (digest : String) (refs : List ContentRef) (calls : List ContentCall)
    (body : Option (List UInt8)) (c' : ContentStore) (contentId : ContentId) : Prop where
  absent : c'.bodies[contentId]? = none
  present : ∃ call ∈ calls, ∃ bytes, call.upload? = some bytes ∧ contentId = ⟨env.hexDigest bytes⟩ ∧ body = some bytes
  canonical : ∀ reference ∈ refs, reference.contentId ≠ contentId
  records : ∀ record ∈ c'.ofDevice digest, record.contentRef.contentId ≠ contentId

/-- two body stores that the device cannot tell apart -/
structure Alike (env : Env) (digest : String) (refs : List ContentRef) (calls : List ContentCall) (c c' : ContentStore) :
    Prop where
  records : c.ofDevice digest = c'.ofDevice digest
  bodies : ∀ contentId : ContentId, c.bodies[contentId]? = c'.bodies[contentId]? ∨
    Foreign env digest refs calls c.bodies[contentId]? c' contentId

variable {env : Env} {digest : String} {refs : List ContentRef} {calls : List ContentCall} {c c' : ContentStore}

theorem Alike.cleanup (h : Alike env digest refs calls c c') (nowMs : Int) :
    Alike env digest refs calls (c.cleanupExpiredOwnership nowMs) (c'.cleanupExpiredOwnership nowMs) := by
  refine ⟨by rw [ContentStore.ofDevice_cleanup, ContentStore.ofDevice_cleanup, h.records], fun contentId => ?_⟩
  refine (h.bodies contentId).imp id fun hforeign => ⟨hforeign.absent, hforeign.present, hforeign.canonical, ?_⟩
  intro record hrecord
  rw [ContentStore.ofDevice_cleanup] at hrecord
  exact hforeign.records record (List.mem_filter.1 hrecord).1

/-- a reference that the device can see is read alike -/
theorem Alike.load (h : Alike env digest refs calls c c')
    (hseen : reference ∈ refs ∨ ∃ record ∈ c'.ofDevice digest, record.contentRef = reference) :
    c.load env reference = c'.load env reference := by
  have hbody : c.bodies[reference.contentId]? = c'.bodies[reference.contentId]? := by
    refine (h.bodies reference.contentId).resolve_right fun hforeign => ?_
    rcases hseen with hcanonical | ⟨record, hrecord, rfl⟩
    · exact hforeign.canonical reference hcanonical rfl
    · exact hforeign.records record hrecord rfl
  rw [ContentStore.load, ContentStore.load, hbody]

theorem Alike.readReference (h : Alike env digest refs calls c c')
    (hseen : reference ∈ refs ∨ ∃ record ∈ c'.ofDevice digest, record.contentRef = reference) (request : ContentReadRequest) :
    c.readReference env reference request = c'.readReference env reference request := by
  rw [ContentStore.readReference, ContentStore.readReference, h.load hseen]

theorem Alike.readForDevice {device : DeviceId} (h : Alike env (deviceDigest env device) refs calls c c')
    (request : ContentReadRequest) (nowMs : Int) :
    c.readForDevice env device request nowMs = c'.readForDevice env device request nowMs := by
  unfold ContentStore.readForDevice
  rw [ContentStore.owned_eq, ContentStore.owned_eq, h.records]
  cases hfound : (c'.ofDevice (deviceDigest env device)).find? fun record =>
      record.contentRef.contentId = request.contentId with
  | none => rfl
  | some record =>
    have hseen := h.readReference (.inr ⟨record, List.mem_of_find?_eq_some hfound, rfl⟩) request
    simp only [hseen]

/-- an upload of the device itself passes the same checks -/
theorem Alike.checkStore {call : ContentCall} {bytes : List UInt8} (h : Alike env digest refs calls c c')
    (hcall : call ∈ calls) (hupload : call.upload? = some bytes)
    (hbodies : ∀ call ∈ calls, ∀ call' ∈ calls, ∀ bytes bytes', call.upload? = some bytes → call'.upload? = some bytes' →
      env.hexDigest bytes = env.hexDigest bytes' → bytes = bytes') (kind : ContentKind) :
    ContentStore.checkStore env kind .sensitive bytes c.bodies[(⟨env.hexDigest bytes⟩ : ContentId)]? =
      ContentStore.checkStore env kind .sensitive bytes c'.bodies[(⟨env.hexDigest bytes⟩ : ContentId)]? ∧
    (c.install ⟨env.hexDigest bytes⟩ bytes).bodies[(⟨env.hexDigest bytes⟩ : ContentId)]? =
      (c'.install ⟨env.hexDigest bytes⟩ bytes).bodies[(⟨env.hexDigest bytes⟩ : ContentId)]? := by
  rw [get_install, get_install, if_pos rfl, if_pos rfl]
  rcases h.bodies ⟨env.hexDigest bytes⟩ with hsame | hforeign
  · rw [hsame]
    exact ⟨rfl, rfl⟩
  · -- the body that somebody else has installed is the one of this upload
    obtain ⟨other, hother, body, hbody, hid, hpresent⟩ := hforeign.present
    have heq : bytes = body := hbodies call hcall other hother bytes body hupload hbody (by injection hid)
    subst heq
    simp [hpresent, hforeign.absent, ContentStore.checkStore]

/-- the device's own upload is stored on both sides -/
theorem Alike.uploaded {device : DeviceId} {bytes : List UInt8} {reference : ContentRef} {nowMs : Int}
    (h : Alike env (deviceDigest env device) refs calls c c')
    (hinstalled : (c.install ⟨env.hexDigest bytes⟩ bytes).bodies[(⟨env.hexDigest bytes⟩ : ContentId)]? =
      (c'.install ⟨env.hexDigest bytes⟩ bytes).bodies[(⟨env.hexDigest bytes⟩ : ContentId)]?)
    (href : reference.contentId = ⟨env.hexDigest bytes⟩) :
    Alike env (deviceDigest env device) refs calls (c.uploaded env device reference bytes nowMs)
      (c'.uploaded env device reference bytes nowMs) := by
  have hrecords : ∀ c : ContentStore, (c.uploaded env device reference bytes nowMs).ofDevice
      (deviceDigest env device) = ((c.ofDevice (deviceDigest env device)).filter fun existing =>
        existing.contentRef.contentId ≠ reference.contentId) ++
          [⟨deviceDigest env device, reference, nowMs, nowMs + deviceContentTtlMs⟩] :=
    fun c => ContentStore.ofDevice_insert_own rfl
  refine ⟨by rw [hrecords, hrecords, h.records], fun contentId => ?_⟩
  have hbodies : ∀ c : ContentStore, (c.uploaded env device reference bytes nowMs).bodies =
      (c.install ⟨env.hexDigest bytes⟩ bytes).bodies := fun _ => rfl
  rw [hbodies, hbodies]
  by_cases hid : (⟨env.hexDigest bytes⟩ : ContentId) = contentId
  · subst hid
    exact .inl hinstalled
  · refine (h.bodies contentId).imp (fun hsame => ?_) fun hforeign => ?_
    · rw [get_install, get_install, if_neg hid, if_neg hid, hsame]
    · obtain ⟨call, hcall, body, hbody, hnamed, hpresent⟩ := hforeign.present
      refine ⟨?_, ⟨call, hcall, body, hbody, hnamed, ?_⟩, hforeign.canonical, fun record hrecord => ?_⟩
      · rw [hbodies, get_install, if_neg hid]
        exact hforeign.absent
      · rw [get_install, if_neg hid]
        exact hpresent
      · rw [hrecords, List.mem_append, List.mem_singleton] at hrecord
        rcases hrecord with hold | rfl
        · exact hforeign.records record (List.mem_filter.1 hold).1
        · exact fun hsame => hid (href.symm.trans hsame)

/-- the device's own write is answered alike -/
theorem Alike.write {device : DeviceId} (h : Alike env (deviceDigest env device) refs calls c c')
    (htold : Told env device calls) (hcall : .write device request bytes nowMs ∈ calls) :
    (c.writeForDevice env device request bytes nowMs).1 = (c'.writeForDevice env device request bytes nowMs).1 ∧
    Alike env (deviceDigest env device) refs calls (c.writeForDevice env device request bytes nowMs).2
      (c'.writeForDevice env device request bytes nowMs).2 := by
  have hclean := h.cleanup nowMs
  obtain ⟨hcheck, hinstalled⟩ := hclean.checkStore hcall rfl htold.bodies request.contentKind
  change ContentStore.checkStore env request.contentKind .sensitive bytes c.bodies[(⟨env.hexDigest bytes⟩ : ContentId)]? =
    ContentStore.checkStore env request.contentKind .sensitive bytes c'.bodies[(⟨env.hexDigest bytes⟩ : ContentId)]? at hcheck
  rw [ContentStore.writeForDevice_eq, ContentStore.writeForDevice_eq, hclean.records, hcheck]
  split_ifs
  · cases hstored : ContentStore.checkStore env request.contentKind .sensitive bytes
        c'.bodies[(⟨env.hexDigest bytes⟩ : ContentId)]? with
    | error e => exact ⟨rfl, hclean⟩
    | ok reference => exact ⟨rfl, hclean.uploaded hinstalled (ContentStore.checkStore_ref hstored)⟩
  · exact ⟨rfl, hclean⟩

/-- a quiet write of somebody else leaves what the device can see -/
theorem Alike.other {device writer : DeviceId} {w : World}
    (h : Alike env (deviceDigest env device) w.store.state.contentRefs calls w.content c')
    (htold : Told env device calls) (hcall : .write writer request bytes nowMs ∈ calls) (hwriter : writer ≠ device)
    (hquiet : quiet env device w (.write writer request bytes nowMs) = true) :
    Alike env (deviceDigest env device) w.store.state.contentRefs calls
      (w.content.writeForDevice env writer request bytes nowMs).2 c' := by
  have hdigest : deviceDigest env writer ≠ deviceDigest env device :=
    fun heq => hwriter (htold.devices _ hcall heq)
  simp only [quiet, hwriter, decide_false, Bool.false_or, Bool.and_eq_true, Bool.or_eq_true, List.all_eq_true,
    decide_eq_true_eq] at hquiet
  obtain ⟨hunexpired, hbody⟩ := hquiet
  have hclean : Alike env (deviceDigest env device) w.store.state.contentRefs calls
      (w.content.cleanupExpiredOwnership nowMs) c' := by
    refine ⟨?_, h.bodies⟩
    rw [ContentStore.ofDevice_cleanup, List.filter_eq_self.2 fun record hrecord => decide_eq_true (hunexpired record hrecord)]
    exact h.records
  have huploaded : ∀ reference, Alike env (deviceDigest env device) w.store.state.contentRefs calls
      ((w.content.cleanupExpiredOwnership nowMs).uploaded env writer reference bytes nowMs) c' := by
    intro reference
    refine ⟨?_, fun contentId => ?_⟩
    · rw [ContentStore.uploaded, ContentStore.ofDevice_insert_other hdigest]
      exact hclean.records
    · change (w.content.install ⟨env.hexDigest bytes⟩ bytes).bodies[contentId]? = _ ∨ Foreign env _ _ calls
        (w.content.install ⟨env.hexDigest bytes⟩ bytes).bodies[contentId]? c' contentId
      rw [get_install]
      split_ifs with hid
      · subst hid
        cases hwas : w.content.bodies[(⟨env.hexDigest bytes⟩ : ContentId)]? with
        | some body => exact hwas ▸ h.bodies _
        | none =>
          -- the body is new: it is the one of this write, and nothing the device can see names it
          have habsent : c'.bodies[(⟨env.hexDigest bytes⟩ : ContentId)]? = none := by
            rcases h.bodies ⟨env.hexDigest bytes⟩ with hsame | hforeign
            · rw [← hsame, hwas]
            · exact hforeign.absent
          have hnew : ¬ w.content.bodies.contains ⟨env.hexDigest bytes⟩ = true := by
            rw [Std.ExtTreeMap.contains_eq_isSome_getElem?, hwas]
            exact Bool.false_ne_true
          obtain ⟨hcanonical, hrecords⟩ := hbody.resolve_left hnew
          exact .inr ⟨habsent, ⟨_, hcall, bytes, rfl, rfl, rfl⟩, hcanonical, fun record hrecord =>
            hrecords record (h.records ▸ hrecord)⟩
      · exact h.bodies contentId
  rw [ContentStore.writeForDevice_eq]
  split_ifs
  · split
    · exact hclean
    · exact huploaded _
  · exact hclean

/-! ## Runs -/

/-- the same canonical state, and bodies that the device cannot tell apart -/
structure AlikeWorlds (env : Env) (device : DeviceId) (calls : List ContentCall) (w w' : World) : Prop where
  state : w.store.state = w'.store.state
  content : Alike env (deviceDigest env device) w.store.state.contentRefs calls w.content w'.content

theorem unwinding {device : DeviceId} (htold : Told env device calls) :
    Unwinding (World.called env) (World.answerTo env) (fun call => call.device = device)
      (fun w call => call ∈ calls ∧ quiet env device w call = true) (AlikeWorlds env device calls) where
  answers_eq w w' call h hcall hown := by
    have hdevice : call.device = device := of_decide_eq_true hown
    cases call with
    | write deviceId request bytes nowMs =>
      subst hdevice
      exact congrArg ContentAnswer.written (h.content.write htold hcall.1).1
    | read deviceId request nowMs =>
      subst hdevice
      refine congrArg ContentAnswer.read ?_
      unfold World.readContentForDevice
      rw [← h.state]
      cases hfound : w.store.state.contentRefs.find? fun reference => reference.contentId = request.contentId with
      | none => exact h.content.readForDevice request nowMs
      | some reference => exact h.content.readReference (.inl (List.mem_of_find?_eq_some hfound)) request
  both w w' call h hcall hown := by
    have hdevice : call.device = device := of_decide_eq_true hown
    cases call with
    | write deviceId request bytes nowMs =>
      subst hdevice
      exact ⟨h.state, (h.content.write htold hcall.1).2⟩
    | read deviceId request nowMs => exact h
  other w w' call h hcall hown := by
    cases call with
    | write deviceId request bytes nowMs => exact ⟨h.state, h.content.other htold hcall.1 (of_decide_eq_false hown) hcall.2⟩
    | read deviceId request nowMs => exact h

/-- **Uploads of others are not observed.** If every write of another device is quiet when it happens, a device receives the
answers that it receives in the run of its own calls alone. -/
theorem uploads_unobserved (env : Env) (device : DeviceId) (w : World) (calls : List ContentCall)
    (htold : Told env device calls)
    (hquiet : Along (World.called env) (fun w call => quiet env device w call = true) w calls) :
    answersTo env device w calls = answersTo env device w (calls.filter fun call => call.device = device) := by
  have hrun := hquiet.imp (Q := fun w call => call ∈ calls ∧ quiet env device w call = true) fun _ _ hmem hq => ⟨hmem, hq⟩
  exact answers_filter (unwinding htold) ⟨rfl, rfl, fun _ => .inl rfl⟩ hrun

/-! ## A sweep that is observed -/

/-- the body `a`, and its digest in the sample installation -/
def sampleBytes : List UInt8 := [97]

def sampleWrite (device : DeviceId) (nowMs : Int) : ContentCall :=
  .write device ⟨.plainText, 1, "sha256:" ++ sampleEnv.hexDigest sampleBytes⟩ sampleBytes nowMs

def sampleRead (device : DeviceId) (nowMs : Int) : ContentCall :=
  .read device ⟨⟨sampleEnv.hexDigest sampleBytes⟩, 0, 16⟩ nowMs

def otherDevice : DeviceId := ⟨"dev_b"⟩

/-- two devices upload the same body, and each reads it while its upload is fresh -/
def freshCalls : List ContentCall :=
  [sampleWrite sampleDevice 0, sampleWrite otherDevice 5, sampleRead sampleDevice 10, sampleRead otherDevice 20]

theorem told_sample {calls : List ContentCall} (hdevices : ∀ call ∈ calls, call.device = sampleDevice ∨ call.device = otherDevice)
    (huploads : ∀ call ∈ calls, ∀ bytes, call.upload? = some bytes → bytes = sampleBytes) : Told sampleEnv sampleDevice calls := by
  refine ⟨fun call hcall heq => ?_, fun call hcall call' hcall' bytes bytes' hbytes hbytes' _ => ?_⟩
  · refine (hdevices call hcall).resolve_right fun hother => ?_
    rw [hother] at heq
    exact absurd heq (by decide +kernel)
  · rw [huploads call hcall bytes hbytes, huploads call' hcall' bytes' hbytes']

theorem uploads_unobserved_sample :
    (answersTo sampleEnv sampleDevice {} freshCalls).length = 2 ∧
    answersTo sampleEnv sampleDevice {} freshCalls =
      answersTo sampleEnv sampleDevice {} (freshCalls.filter fun call => call.device = sampleDevice) := by
  refine ⟨by decide +kernel, uploads_unobserved sampleEnv sampleDevice {} freshCalls (told_sample ?_ ?_) (by decide +kernel)⟩
  · simp [freshCalls, sampleWrite, sampleRead, ContentCall.device]
  · simp [freshCalls, sampleWrite, sampleRead, ContentCall.upload?]

/-- the first device uploads a body; after it has expired the second writes, and the first reads -/
def sweptCalls : List ContentCall :=
  [sampleWrite sampleDevice 0, sampleWrite otherDevice 600001, sampleRead sampleDevice 600002]

/-- **A sweep is observed.** At non-decreasing times and with distinct digests, a device is told that its expired upload is not
its own if another device has written since, and that it was evicted otherwise. -/
theorem sweep_is_observed : ¬ ∀ (env : Env) (device : DeviceId) (w : World) (calls : List ContentCall),
    Told env device calls → (calls.map ContentCall.time).Pairwise (· ≤ ·) →
    answersTo env device w calls = answersTo env device w (calls.filter fun call => call.device = device) := by
  intro h
  have htold : Told sampleEnv sampleDevice sweptCalls := by
    refine told_sample ?_ ?_
    · simp [sweptCalls, sampleWrite, sampleRead, ContentCall.device]
    · simp [sweptCalls, sampleWrite, sampleRead, ContentCall.upload?]
  have hanswers : answersTo sampleEnv sampleDevice {} sweptCalls ≠
      answersTo sampleEnv sampleDevice {} (sweptCalls.filter fun call => call.device = sampleDevice) := by decide +kernel
  exact hanswers (h sampleEnv sampleDevice {} sweptCalls htold (by decide))

end Kaleido.State
