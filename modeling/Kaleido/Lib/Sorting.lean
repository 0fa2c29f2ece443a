/-
Lists cut into classes and sorted back together: the classes of a list, put one after another, are a permutation of it
(`flatten_classes_perm`), and sorting a permutation of an ordered list gives the ordered list
(`insertionSort_eq_of_perm`). `mapM_eq_ok` is the loop that reads the classes when none of them fails.
-/
import Mathlib.Tactic

namespace Kaleido.Sorting

variable {α κ : Type} [DecidableEq κ]

theorem flatten_classes_perm (f : α → κ) {names : List κ} (hn : names.Nodup) {l : List α}
    (hl : ∀ a ∈ l, f a ∈ names) : ((names.map fun n => l.filter fun a => f a = n).flatten).Perm l := by
  induction names generalizing l with
  | nil =>
    cases l with
    | nil => exact .refl _
    | cons a l => exact absurd (hl a List.mem_cons_self) (by simp)
  | cons n names ih =>
    obtain ⟨hnot, hnodup⟩ := List.nodup_cons.1 hn
    let rest := l.filter fun a => !decide (f a = n)
    have hrest : ∀ a ∈ rest, f a ∈ names := by
      intro a ha
      obtain ⟨hmem, hne⟩ := List.mem_filter.1 ha
      simpa [show f a ≠ n by simpa using hne] using hl a hmem
    have hclass : (names.map fun m => l.filter fun a => f a = m) = names.map fun m => rest.filter fun a => f a = m := by
      refine List.map_congr_left fun m hm => ?_
      have hmn : m ≠ n := fun h => hnot (h ▸ hm)
      rw [List.filter_filter]
      refine List.filter_congr fun a _ => ?_
      by_cases h : f a = m
      · simp [h, hmn]
      · simp [h]
    rw [List.map_cons, List.flatten_cons, hclass]
    exact ((ih hnodup hrest).append_left _).trans (List.filter_append_perm (fun a => decide (f a = n)) l)

omit [DecidableEq κ] in
theorem insertionSort_eq_of_perm {r : α → α → Prop} [DecidableRel r] [Std.Total r] [IsTrans α r] {l l' : List α}
    (hp : l'.Perm l) (hs : l.Pairwise r) (ha : ∀ a ∈ l, ∀ b ∈ l, r a b → r b a → a = b) : l'.insertionSort r = l := by
  have hperm : (l'.insertionSort r).Perm l := (List.perm_insertionSort r l').trans hp
  refine hperm.eq_of_pairwise (fun a b ha' hb' h h' => ha a (hperm.subset ha') b hb' h h') ?_ hs
  exact List.pairwise_insertionSort r l'

omit [DecidableEq κ] in
theorem mapM_eq_ok {ε β : Type} {f : α → Except ε β} {g : α → β} {l : List α} (h : ∀ a ∈ l, f a = .ok (g a)) :
    l.mapM f = .ok (l.map g) := by
  induction l with
  | nil => rfl
  | cons a l ih =>
    rw [List.mapM_cons, h a List.mem_cons_self, ih fun b hb => h b (List.mem_cons_of_mem _ hb)]
    rfl

omit [DecidableEq κ] in
theorem exists_ok_of_mapM {ε β : Type} {f : α → Except ε β} {l : List α} {l' : List β} (h : l.mapM f = .ok l') {a : α}
    (ha : a ∈ l) : ∃ b, f a = .ok b := by
  induction l generalizing l' with
  | nil => cases ha
  | cons a' l ih =>
    rw [List.mapM_cons] at h
    cases hfa : f a' with
    | error e => rw [hfa] at h; cases h
    | ok b =>
      cases hrest : l.mapM f with
      | error e => rw [hfa, hrest] at h; cases h
      | ok bs =>
        rcases List.mem_cons.1 ha with rfl | ha
        · exact ⟨b, hfa⟩
        · exact ih hrest ha

omit [DecidableEq κ] in
theorem exists_of_mem_mapM {ε β : Type} {f : α → Except ε β} {l : List α} {l' : List β} (h : l.mapM f = .ok l') {b : β}
    (hb : b ∈ l') : ∃ a ∈ l, f a = .ok b := by
  induction l generalizing l' with
  | nil => cases h; cases hb
  | cons a l ih =>
    rw [List.mapM_cons] at h
    cases hfa : f a with
    | error e => rw [hfa] at h; cases h
    | ok b' =>
      rw [hfa] at h
      cases hrest : l.mapM f with
      | error e => rw [hrest] at h; cases h
      | ok rest =>
        rw [hrest] at h
        cases h
        rcases List.mem_cons.1 hb with rfl | hb
        · exact ⟨a, List.mem_cons_self, hfa⟩
        · obtain ⟨a', ha', hfa'⟩ := ih hrest hb
          exact ⟨a', List.mem_cons_of_mem _ ha', hfa'⟩

end Kaleido.Sorting
