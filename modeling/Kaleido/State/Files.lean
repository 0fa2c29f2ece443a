/-
What the durable files hold after an append, and what reading them back gives.

`Env.Tolerant` is the condition on the environment under which the later modules reason about failing appends: a failed
append left nothing, or it was an append to the projection journal or the idempotency table that wrote its whole line.
`Env.Reliable` is the special case of appends that never fail. Under either, the disk holds whole lines only, and a file
reads back as exactly the records appended to it (`readFile_whole`).
-/
import Kaleido.State.Commit

namespace Kaleido.State

open Check LineFile Prog Proto

/-! ## Environments -/

/-- the failures after which the files still agree with what the store does next -/
def tolerable : Entry → Fault → Bool
  | _, .nothing => true
  | .projection _, .part .whole | .idempotency _, .part .whole => true
  | _, _ => false

/-- every failing append is a tolerable one -/
def Env.Tolerant (env : Env) : Prop := ∀ n entry fault, env.io n entry = some fault → tolerable entry fault = true

/-- no append fails -/
def Env.Reliable (env : Env) : Prop := ∀ n entry, env.io n entry = none

theorem Env.Reliable.tolerant {env : Env} (h : env.Reliable) : env.Tolerant := by
  intro n entry fault hf
  rw [h] at hf
  cases hf

/-! ## The records of one kind -/

attribute [simp] Entry.stream? Entry.idempotency? Entry.outbox? Entry.projection?

/-- the records of one kind on disk, in the order they were appended -/
def recordsOf {β : Type} (select : Entry → Option β) (disk : Disk) : List β := disk.filterMap fun c => select c.entry

section

variable {β : Type} {select : Entry → Option β} {disk disk' : Disk}

@[simp] theorem recordsOf_nil : recordsOf select [] = [] := rfl

@[simp] theorem recordsOf_append : recordsOf select (disk ++ disk') = recordsOf select disk ++ recordsOf select disk' := by
  simp [recordsOf]

@[simp] theorem recordsOf_single {c : Chunk Entry} : recordsOf select [c] = (select c.entry).toList := by
  cases h : select c.entry <;> simp [recordsOf, h]

theorem recordsOf_prefix (h : disk <+: disk') : recordsOf select disk <+: recordsOf select disk' := by
  obtain ⟨t, rfl⟩ := h
  exact ⟨recordsOf select t, recordsOf_append.symm⟩

theorem map_entry_chunksOf : (chunksOf select disk).map (·.entry) = recordsOf select disk := by
  simp only [chunksOf, recordsOf, List.map_filterMap]
  congr 1
  funext c
  cases select c.entry <;> rfl

theorem chunksOf_whole (h : Whole disk) : Whole (chunksOf select disk) := by
  intro c hc
  simp only [chunksOf, List.mem_filterMap, Option.map_eq_some_iff] at hc
  obtain ⟨c', hc', b, -, rfl⟩ := hc
  exact h c' hc'

theorem whole_filter {α : Type} {f : List (Chunk α)} (h : Whole f) (p : Chunk α → Bool) : Whole (f.filter p) :=
  fun c hc => h c (List.mem_of_mem_filter hc)

/-- a file of whole lines reads back as the records appended to it -/
theorem readFile_whole {path : String} {f : List (Chunk β)} (h : Whole f) :
    readFile path f = .ok (f.map (·.entry)) := by
  rw [readFile, readLines_whole h]
  rfl

/-- what is read back was appended -/
theorem eq_of_readFile {path : String} {f : List (Chunk β)} {l : List β} (h : readFile path f = .ok l) :
    l = f.map (·.entry) := by
  rw [readFile, mapError_eq_ok] at h
  exact eq_of_readLines h

theorem whole_append_single {entry : Entry} (h : Whole disk) : Whole (disk ++ [⟨entry, .whole⟩]) :=
  h.append (by simp [Whole])

end

/-! ## The append rule -/

/-- the world after an append that wrote its line -/
def World.appended (w : World) (entry : Entry) : World :=
  { w with appends := w.appends + 1, disk := w.disk ++ [⟨entry, .whole⟩] }

@[simp] theorem World.disk_appended (w : World) (entry : Entry) : (w.appended entry).disk = w.disk ++ [⟨entry, .whole⟩] := rfl

@[simp] theorem World.store_appended (w : World) (entry : Entry) : (w.appended entry).store = w.store := rfl

/-- the world after an append that wrote nothing -/
def World.missed (w : World) : World := { w with appends := w.appends + 1 }

/-- a late failure: the whole line is there although the append failed -/
def mayFailLate : Entry → Bool
  | .projection _ | .idempotency _ => true
  | _ => false

variable {env : Env} {w : World} {path : String} {entry : Entry} {C : Disk → Prop} {Q : Unit → World → Prop}
  {E : StateError → World → Prop}

/-- an append under a tolerant environment: it succeeds, it leaves nothing, or it fails after the whole line; the last two
not under a reliable one -/
theorem wp_appendEntry (ht : env.Tolerant) (hok : C (w.appended entry).disk ∧ Q () (w.appended entry))
    (hmissed : ¬ env.Reliable → E (.io path) w.missed)
    (hlate : ¬ env.Reliable → mayFailLate entry = true → E (.io path) (w.appended entry)) :
    wp World.disk C Q E (appendEntry env path entry) w := by
  have grow : ∀ d : Disk, w.disk <+: d → d <+: (w.appended entry).disk → d ≠ w.disk → d = (w.appended entry).disk := by
    intro d h₁ h₂ h₃
    rcases List.prefix_concat_iff.1 h₂ with h | h
    · exact h
    · exact absurd (h.eq_of_length_le h₁.length_le) h₃
  unfold wp appendEntry
  cases hio : env.io w.appends entry with
  | none => exact ⟨List.prefix_append _ _, fun d h₁ h₂ h₃ => grow d h₁ h₂ h₃ ▸ hok.1, hok.2⟩
  | some fault =>
    have hfails : ¬ env.Reliable := fun hr => by rw [hr] at hio; cases hio
    have htol := ht _ _ _ hio
    cases fault with
    | nothing =>
      exact ⟨List.prefix_rfl, fun d h₁ h₂ h₃ => absurd (h₂.eq_of_length_le h₁.length_le) h₃, hmissed hfails⟩
    | part extent =>
      have hlate' : extent = .whole ∧ mayFailLate entry = true := by
        cases entry <;> cases extent <;> simp_all [tolerable, mayFailLate]
      obtain ⟨rfl, hl⟩ := hlate'
      exact ⟨List.prefix_append _ _, fun d h₁ h₂ h₃ => grow d h₁ h₂ h₃ ▸ hok.1, hlate hfails hl⟩

/-- an append under any environment -/
theorem wp_appendEntry_any (hC : ∀ extent, C (w.disk ++ [⟨entry, extent⟩])) (hok : Q () (w.appended entry))
    (hmissed : E (.io path) w.missed)
    (hpart : ∀ extent, env.io w.appends entry = some (.part extent) →
      E (.io path) { w with appends := w.appends + 1, disk := w.disk ++ [⟨entry, extent⟩] }) :
    wp World.disk C Q E (appendEntry env path entry) w := by
  have grow : ∀ {extent} (d : Disk), w.disk <+: d → d <+: w.disk ++ [⟨entry, extent⟩] → d ≠ w.disk → C d := by
    intro extent d h₁ h₂ h₃
    rcases List.prefix_concat_iff.1 h₂ with rfl | h
    · exact hC extent
    · exact absurd (h.eq_of_length_le h₁.length_le) h₃
  unfold wp appendEntry
  cases hio : env.io w.appends entry with
  | none => exact ⟨List.prefix_append _ _, grow, hok⟩
  | some fault =>
    cases fault with
    | nothing =>
      exact ⟨List.prefix_rfl, fun d h₁ h₂ h₃ => absurd (h₂.eq_of_length_le h₁.length_le) h₃, hmissed⟩
    | part extent => exact ⟨List.prefix_append _ _, grow, hpart extent hio⟩

end Kaleido.State
