/-
Limits over a sliding window.

A limiter keeps a queue of recent instants, forgets those that have left its window, and lets something happen when the queue
has room. `Bounded` is what then holds of everything that has happened: in a window that is still open it is on the queue, up to
what is owed to it, and within the limit. `Bounded.spaced` carries the limit over to windows that have closed.
-/
import Mathlib.Tactic

namespace Kaleido.Window

/-- how many of the instants are not before `since` -/
def recent (since : Int) (l : List Int) : Nat := l.countP (since ≤ ·)

/-- no window has more than `limit` of the instants -/
def Spaced (window : Int) (limit : Nat) (l : List Int) : Prop :=
  ∀ since, l.countP (fun t => since ≤ t ∧ t < since + window) ≤ limit

/-- in any window that is still open, what happened is on the queue, up to what is owed to it, and is within the limit, with what
has been let through -/
structure Bounded (window : Int) (limit : Nat) (now : Int) (happened queue : List Int) (owed passed : Nat) : Prop where
  past : ∀ t ∈ happened, t ≤ now
  recorded : ∀ since, now < since + window → recent since happened ≤ recent since queue + owed
  bounded : ∀ since, now < since + window → recent since happened + passed ≤ limit

variable {window now since : Int} {limit owed passed : Nat} {happened queue : List Int}

theorem recent_filter (hsince : now < since + window) (queue : List Int) :
    recent since (queue.filter fun t => now - t < window) = recent since queue := by
  unfold recent
  rw [List.countP_filter]
  refine List.countP_congr fun t _ => ?_
  simp only [Bool.and_eq_true, decide_eq_true_eq]
  omega

theorem recent_concat (since : Int) (l : List Int) :
    recent since (l ++ [now]) = recent since l + if since ≤ now then 1 else 0 := by
  simp [recent, List.countP_append, List.countP_singleton]

namespace Bounded

theorem later {now' : Int} (h : Bounded window limit now happened queue owed passed) (hle : now ≤ now') :
    Bounded window limit now' happened queue owed passed :=
  ⟨fun t ht => (h.past t ht).trans hle, fun since hsince => h.recorded since (by omega),
    fun since hsince => h.bounded since (by omega)⟩

theorem prune {queue' : List Int} (h : Bounded window limit now happened queue owed passed)
    (hsame : ∀ since, now < since + window → recent since queue' = recent since queue) :
    Bounded window limit now happened queue' owed passed :=
  ⟨h.past, fun since hsince => by rw [hsame since hsince]; exact h.recorded since hsince, h.bounded⟩

theorem pass (h : Bounded window limit now happened queue 0 0) (hroom : queue.length < limit) :
    Bounded window limit now happened queue 0 1 := by
  refine ⟨h.past, h.recorded, fun since hsince => ?_⟩
  have hrecorded := h.recorded since hsince
  have hlength : recent since queue ≤ queue.length := List.countP_le_length
  omega

theorem happen (h : Bounded window limit now happened queue owed (passed + 1)) :
    Bounded window limit now (happened ++ [now]) queue (owed + 1) passed := by
  have hcount : ∀ since, recent since (happened ++ [now]) ≤ recent since happened + 1 := fun since => by
    rw [recent_concat]
    split_ifs <;> omega
  refine ⟨List.forall_mem_append.mpr ⟨h.past, List.forall_mem_singleton.mpr le_rfl⟩, fun since hsince => ?_,
    fun since hsince => ?_⟩
  · have := h.recorded since hsince
    have := hcount since
    omega
  · have := h.bounded since hsince
    have := hcount since
    omega

/-- a record counts in every window that has begun, and nothing has happened in another one -/
theorem record (h : Bounded window limit now happened queue (owed + 1) passed) :
    Bounded window limit now happened (queue ++ [now]) owed passed := by
  refine ⟨h.past, fun since hsince => ?_, h.bounded⟩
  have hrecorded := h.recorded since hsince
  rw [recent_concat]
  split_ifs with hbegun
  · omega
  · have hnone : recent since happened = 0 := by
      rw [recent, List.countP_eq_zero]
      intro t ht hrecent
      have := h.past t ht
      have := of_decide_eq_true hrecent
      omega
    omega

/-- a window that is open now is bounded, and one that has closed has nothing new -/
theorem spaced (h : Bounded window limit now (happened ++ [now]) queue owed passed) (hspaced : Spaced window limit happened) :
    Spaced window limit (happened ++ [now]) := by
  intro since
  by_cases hopen : now < since + window
  · refine le_trans (List.countP_mono_left fun t _ => ?_) ((Nat.le_add_right _ passed).trans (h.bounded since hopen))
    simp only [decide_eq_true_eq]
    exact And.left
  · rw [List.countP_append, List.countP_singleton, if_neg (by simp [hopen])]
    exact hspaced since

end Bounded

end Kaleido.Window
