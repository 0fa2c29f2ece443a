/-
Append-only files of one record per line. An append writes a line and its newline; one that fails may leave any part of
the line behind. What a reader can tell apart is only how much of the line is there:
- `whole`: the line and its newline;
- `bare`: the whole line without its newline, so that a later append continues the same line;
- `torn`: a part of the line that is not a record.
An append that left nothing leaves no chunk. A file is the list of its chunks; `readLines` reads it back and reports the
first line that is not one record: a torn line, or two records run together.
-/
import Mathlib.Tactic

namespace Kaleido.LineFile

variable {α β : Type*}

inductive Extent where
  | whole | bare | torn
  deriving DecidableEq

structure Chunk (α : Type*) where
  entry : α
  extent : Extent
  deriving DecidableEq

/-- read the lines from number `n` on; the error is the number of the malformed line -/
def readLines : Nat → List (Chunk α) → Except Nat (List α)
  | _, [] => .ok []
  | n, ⟨a, extent⟩ :: rest =>
    match extent, rest with
    | .whole, rest => (readLines (n + 1) rest).map (a :: ·)
    | .bare, [] => .ok [a]
    | _, _ => .error n

/-- every chunk is a whole line -/
def Whole (f : List (Chunk α)) : Prop := ∀ c ∈ f, c.extent = .whole

theorem Whole.append {f g : List (Chunk α)} (hf : Whole f) (hg : Whole g) : Whole (f ++ g) :=
  List.forall_mem_append.2 ⟨hf, hg⟩

/-- a file of whole lines reads back as its records -/
theorem readLines_whole {f : List (Chunk α)} (h : Whole f) (n : Nat) : readLines n f = .ok (f.map (·.entry)) := by
  induction f generalizing n with
  | nil => rfl
  | cons c f ih =>
    obtain ⟨a, extent⟩ := c
    obtain rfl : extent = .whole := h ⟨a, extent⟩ List.mem_cons_self
    rw [readLines, ih (fun c hc => h c (List.mem_cons_of_mem _ hc))]
    rfl

/-- what is read was written -/
theorem eq_of_readLines {f : List (Chunk α)} {n : Nat} {l : List α} (h : readLines n f = .ok l) : l = f.map (·.entry) := by
  induction f generalizing n l with
  | nil =>
    cases h
    rfl
  | cons c f ih =>
    obtain ⟨b, extent⟩ := c
    unfold readLines at h
    split at h
    · cases hrest : readLines (n + 1) f with
      | error e =>
        rw [hrest] at h
        cases h
      | ok rest =>
        rw [hrest] at h
        cases h
        rw [List.map_cons, ih hrest]
    · cases h
      rfl
    · cases h

end Kaleido.LineFile
