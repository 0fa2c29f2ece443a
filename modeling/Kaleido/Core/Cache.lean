/-
The projection cache of a phone (`kaleido-core`, `cache.rs`): the last complete view of every key, in memory and in one file
per view.

A view replaces the one before it in memory and on the disk. `apply_next` and `applyCurrent_promised` say which views are
accepted: the one after the cached one, and the one that an acknowledgement promised. A file is named after the digest of its
key and its cursor; files of different names are different here, and what is written is read back.
-/
import Kaleido.Proto.Projection

namespace Kaleido.Core

open Check Proto

/-- `CacheApply` -/
inductive CacheApply where
  | applied | refreshRequired
  deriving DecidableEq

/-- `CacheError`, without the errors of the file system -/
inductive CacheError where
  | malformed
  | contract (violation : ContractViolation)
  | snapshotCursorMismatch
  deriving DecidableEq

/-- a violation of the protocol's contract -/
def contract {α : Type} (x : Except ContractViolation α) : Except CacheError α := x.mapError .contract

/-- `ProjectionCache`: what is in memory, at most one view of a key, and the complete files -/
structure ProjectionCache where
  current : List ProjectionEnvelope := []
  files : List ProjectionEnvelope := []
  deriving DecidableEq

/-- a view in place of the ones of its key -/
def replaceKey (envelope : ProjectionEnvelope) (views : List ProjectionEnvelope) : List ProjectionEnvelope :=
  envelope :: views.filter fun other => other.key ≠ envelope.key

namespace ProjectionCache

/-- `cached` -/
def cached (cache : ProjectionCache) (key : ProjectionKey) : Option ProjectionEnvelope :=
  cache.current.find? fun envelope => envelope.key = key

/-- `since` -/
def since (cache : ProjectionCache) (key : ProjectionKey) : Option Cursor := (cache.cached key).map (·.cursor)

/-- `persist` -/
def persist (cache : ProjectionCache) (envelope : ProjectionEnvelope) : ProjectionCache :=
  ⟨replaceKey envelope cache.current, replaceKey envelope cache.files⟩

/-- `invalidate` -/
def invalidate (cache : ProjectionCache) (key : ProjectionKey) : ProjectionCache :=
  ⟨cache.current.filter fun other => other.key ≠ key, cache.files.filter fun other => other.key ≠ key⟩

/-- what `apply` and `apply_current` do with a view they accept -/
def store (cache : ProjectionCache) (envelope : ProjectionEnvelope) : CacheApply × ProjectionCache :=
  if envelope.projectionVersion ≠ projectionVersion then (.refreshRequired, cache.invalidate envelope.key)
  else (.applied, cache.persist envelope)

/-- `apply`: a view that follows the cached one -/
def apply (cache : ProjectionCache) (envelope : ProjectionEnvelope) : Except CacheError (CacheApply × ProjectionCache) := do
  contract envelope.validateForTransport
  if envelope.projectionVersion = projectionVersion then
    match cache.cached envelope.key with
    | some previous => contract (validateProjectionSequence envelope.key previous.cursor [envelope])
    | none => pure ()
  return cache.store envelope

/-- `apply_current`: the view that an acknowledgement promised -/
def applyCurrent (cache : ProjectionCache) (envelope : ProjectionEnvelope) (expectedCursor : Cursor) :
    Except CacheError (CacheApply × ProjectionCache) := do
  contract envelope.validateForTransport
  ensure (envelope.cursor = expectedCursor) .snapshotCursorMismatch
  return cache.store envelope

/-! ## Lookups -/

variable {cache : ProjectionCache} {envelope : ProjectionEnvelope} {key : ProjectionKey}

theorem cached_persist (cache : ProjectionCache) (envelope : ProjectionEnvelope) (key : ProjectionKey) :
    (cache.persist envelope).cached key = if envelope.key = key then some envelope else cache.cached key := by
  simp only [ProjectionCache.cached, ProjectionCache.persist, replaceKey]
  by_cases hkey : envelope.key = key
  · rw [if_pos hkey, List.find?_cons_of_pos (by simpa using hkey)]
  · rw [if_neg hkey, List.find?_cons_of_neg (by simpa using hkey), List.find?_filter]
    congr 1
    funext other
    by_cases hother : other.key = key
    · simp [hother, Ne.symm hkey]
    · simp [hother]

/-! ## Accepted views -/

/-- the views a host sends: valid, and of this version -/
structure Sendable (envelope : ProjectionEnvelope) : Prop where
  valid : envelope.validateForTransport = .ok ()
  version : envelope.projectionVersion = projectionVersion

theorem Sendable.keyValid (h : Sendable envelope) : envelope.key.validate = .ok () := by
  have hvalid := h.valid
  rw [ProjectionEnvelope.validateForTransport, seq_eq_ok] at hvalid
  exact hvalid.1

theorem store_sendable (h : Sendable envelope) : cache.store envelope = (.applied, cache.persist envelope) := by
  rw [store, if_neg (not_not.mpr h.version)]

theorem contract_ok {α : Type} {x : Except ContractViolation α} {a : α} (h : x = .ok a) : contract x = .ok a := by
  rw [h]
  rfl

/-- a view that follows the cached one is accepted -/
theorem apply_next (h : Sendable envelope) {previous : ProjectionEnvelope} (hcached : cache.cached envelope.key = some previous)
    (hnext : previous.cursor.next = .ok envelope.cursor) :
    cache.apply envelope = .ok (.applied, cache.persist envelope) := by
  have hne : envelope.cursor ≠ previous.cursor := by
    intro heq
    unfold Cursor.next at hnext
    split_ifs at hnext
    have hseq := congrArg Cursor.seq (Except.ok.inj hnext)
    rw [heq] at hseq
    simp at hseq
  have hsequence : validateProjectionSequence envelope.key previous.cursor [envelope] = .ok () := by
    rw [validateProjectionSequence, seq_eq_ok]
    refine ⟨h.keyValid, ?_⟩
    simp only [validateProjectionSequence.go, h.valid, hne, hnext, ensure, bind, Except.bind, if_true, ne_eq,
      not_false_eq_true]
  simp only [apply, h.version, if_true, hcached, contract_ok h.valid, contract_ok hsequence, store_sendable h]
  rfl

/-- the promised view is accepted, whatever is cached -/
theorem applyCurrent_promised (h : Sendable envelope) :
    cache.applyCurrent envelope envelope.cursor = .ok (.applied, cache.persist envelope) := by
  simp only [applyCurrent, contract_ok h.valid, store_sendable h, ensure, if_true]
  rfl

end ProjectionCache

end Kaleido.Core
