/-
Lists of keyed rows under upserts: a row replaces the first one of its key, or is appended.

An upsert of a row that the list holds changes nothing (`upsert_of_lookup`), and of two upserts of one key the later one
counts (`upsert_upsert`). `merge` upserts a list of rows in turn. A merge into a list that holds, for every key, the last row
of the key changes nothing (`merge_eq_self_iff`), so that merging is idempotent (`merge_merge`).
-/
import Mathlib.Tactic

namespace Kaleido.Upsert

variable {α κ : Type} [DecidableEq κ] {key : α → κ} {l rows : List α} {a b : α} {x : κ}

/-- the first row of a key -/
def lookup (key : α → κ) (l : List α) (x : κ) : Option α := l.find? fun row => key row = x

/-- replace the first row of the key, or append -/
def upsert (key : α → κ) : List α → α → List α
  | [], a => [a]
  | b :: rest, a => if key b = key a then a :: rest else b :: upsert key rest a

/-- upsert the rows one after another -/
def merge (key : α → κ) (l rows : List α) : List α := rows.foldl (upsert key) l

/-! ## Lookups -/

theorem lookup_nil : lookup key [] x = none := rfl

theorem lookup_cons : lookup key (a :: l) x = if key a = x then some a else lookup key l x := by
  unfold lookup
  by_cases h : key a = x <;> simp [h]

theorem lookup_append : lookup key (l ++ rows) x = (lookup key l x <|> lookup key rows x) :=
  List.find?_append.trans Option.or_eq_orElse

theorem lookup_isSome : (lookup key l x).isSome ↔ ∃ a ∈ l, key a = x := by simp [lookup]

theorem lookup_upsert : lookup key (upsert key l a) x = if key a = x then some a else lookup key l x := by
  induction l with
  | nil => rw [upsert, lookup_cons]
  | cons b rest ih =>
    rw [upsert]
    by_cases hba : key b = key a
    · by_cases hax : key a = x <;> simp [lookup_cons, hba, hax]
    · by_cases hax : key a = x
      · have hbx : key b ≠ x := fun hbx => hba (hbx.trans hax.symm)
        simp [lookup_cons, ih, hax, hbx]
      · simp [lookup_cons, ih, hba, hax]

/-- after a merge the last of the rows of a key is the one that is found -/
theorem lookup_merge : lookup key (merge key l rows) x = (lookup key rows.reverse x <|> lookup key l x) := by
  induction rows generalizing l with
  | nil => rfl
  | cons a rest ih =>
    have hmerge : merge key l (a :: rest) = merge key (upsert key l a) rest := rfl
    rw [hmerge, ih, lookup_upsert, List.reverse_cons, lookup_append, lookup_cons, lookup_nil]
    cases lookup key rest.reverse x with
    | some found => rfl
    | none => by_cases h : key a = x <;> simp [h]

/-! ## Upserts -/

theorem upsert_of_lookup (h : lookup key l (key a) = some a) : upsert key l a = l := by
  induction l with
  | nil => cases h
  | cons b rest ih =>
    rw [lookup_cons] at h
    rw [upsert]
    split_ifs at h ⊢ with hba
    · cases h
      rfl
    · rw [ih h]

theorem upsert_upsert (h : key a = key b) : upsert key (upsert key l a) b = upsert key l b := by
  induction l with
  | nil => simp [upsert, h]
  | cons c rest ih => by_cases hc : key c = key b <;> simp [upsert, h, hc, ih]

theorem upsert_comm (hne : key a ≠ key b) (h : (lookup key l (key a)).isSome) :
    upsert key (upsert key l a) b = upsert key (upsert key l b) a := by
  induction l with
  | nil => cases h
  | cons c rest ih =>
    rw [lookup_cons] at h
    by_cases hca : key c = key a
    · simp [upsert, hca, hne]
    · rw [if_neg hca] at h
      by_cases hcb : key c = key b
      · simp [upsert, hcb, hne.symm]
      · simp [upsert, hca, hcb, ih h]

/-! ## Merges -/

/-- a row that is upserted before others of its key leaves no trace -/
theorem merge_upsert (h : (lookup key l (key a)).isSome) (hmem : ∃ b ∈ rows, key b = key a) :
    merge key (upsert key l a) rows = merge key l rows := by
  induction rows generalizing l with
  | nil => simp at hmem
  | cons b rest ih =>
    change merge key (upsert key (upsert key l a) b) rest = merge key (upsert key l b) rest
    by_cases hab : key a = key b
    · rw [upsert_upsert hab]
    · rw [upsert_comm hab h]
      refine ih ?_ ?_
      · rw [lookup_upsert]
        split_ifs
        · rfl
        · exact h
      · obtain ⟨c, hc, hca⟩ := hmem
        rcases List.mem_cons.1 hc with rfl | hc
        · exact absurd hca.symm hab
        · exact ⟨c, hc, hca⟩

theorem merge_of_lookup (h : ∀ x b, lookup key rows.reverse x = some b → lookup key l x = some b) : merge key l rows = l := by
  induction rows with
  | nil => rfl
  | cons a rest ih =>
    have hrest : merge key l rest = l := ih fun x b hb => h x b (by rw [List.reverse_cons, lookup_append, hb]; rfl)
    change merge key (upsert key l a) rest = l
    by_cases hmem : ∃ b ∈ rest, key b = key a
    · -- a later row of the key decides
      obtain ⟨c, hc⟩ := Option.isSome_iff_exists.1 (lookup_isSome.2 (show ∃ b ∈ (a :: rest).reverse, key b = key a by simp))
      rw [merge_upsert (Option.isSome_iff_exists.2 ⟨c, h _ c hc⟩) hmem, hrest]
    · have hlast : lookup key (a :: rest).reverse (key a) = some a := by
        have hnone : lookup key rest.reverse (key a) = none := by
          rw [← Option.not_isSome_iff_eq_none, lookup_isSome]
          simpa using hmem
        rw [List.reverse_cons, lookup_append, hnone, lookup_cons, if_pos rfl]
        rfl
      rw [upsert_of_lookup (h _ a hlast), hrest]

/-- **Merges that change nothing.** The list holds the last of the rows of every key. -/
theorem merge_eq_self_iff :
    merge key l rows = l ↔ ∀ x b, lookup key rows.reverse x = some b → lookup key l x = some b := by
  refine ⟨fun h x b hb => ?_, merge_of_lookup⟩
  rw [← h, lookup_merge, hb]
  rfl

/-- **Merging is idempotent.** -/
theorem merge_merge : merge key (merge key l rows) rows = merge key l rows := by
  refine merge_of_lookup fun x b hb => ?_
  rw [lookup_merge, hb]
  rfl

/-- looking a key up, where keys are distinct -/
theorem lookup_iff (h : (rows.map key).Nodup) {x : κ} {b : α} : lookup key rows x = some b ↔ b ∈ rows ∧ key b = x := by
  refine ⟨fun hb => ⟨List.mem_of_find?_eq_some hb, by simpa using List.find?_some hb⟩, fun ⟨hmem, hkey⟩ => ?_⟩
  obtain ⟨c, hc⟩ := Option.isSome_iff_exists.1 (lookup_isSome.2 ⟨b, hmem, hkey⟩)
  have hckey : key c = x := by simpa using List.find?_some hc
  rw [hc, List.inj_on_of_nodup_map h (List.mem_of_find?_eq_some hc) hmem (hckey.trans hkey.symm)]

/-- rows of distinct keys merge into themselves without a change -/
theorem merge_self_of_nodup (h : (rows.map key).Nodup) : merge key rows rows = rows := by
  refine merge_of_lookup fun x b hb => (lookup_iff h).2 ?_
  rw [lookup_iff (by rwa [List.map_reverse, List.nodup_reverse])] at hb
  simpa using hb

end Kaleido.Upsert
