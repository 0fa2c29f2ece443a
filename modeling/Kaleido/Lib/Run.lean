/-
Runs of a step function over a list of events, and the rule for invariants: what holds at the start and is preserved by
every step that meets a condition holds after every run whose steps all meet it. A step that counts only before a mark is
set, and sets it, counts at most once (`tally_once`).
-/
import Mathlib.Tactic

namespace Kaleido

variable {σ ι : Type*} (step : σ → ι → σ)

/-- the state after a list of events -/
def runFrom (s : σ) (events : List ι) : σ := events.foldl step s

/-- every step of the run meets the condition -/
def Along (P : σ → ι → Prop) : σ → List ι → Prop
  | _, [] => True
  | s, e :: rest => P s e ∧ Along P (step s e) rest

/-- how often a step of the run counts -/
def tally (count : σ → ι → Nat) : σ → List ι → Nat
  | _, [] => 0
  | s, e :: rest => count s e + tally count (step s e) rest

variable {step} {P : σ → ι → Prop} {I : σ → Prop} {s : σ} {events : List ι}

@[simp] theorem runFrom_nil : runFrom step s [] = s := rfl

@[simp] theorem runFrom_cons {e : ι} : runFrom step s (e :: events) = runFrom step (step s e) events := rfl

theorem runFrom_append {events' : List ι} :
    runFrom step s (events ++ events') = runFrom step (runFrom step s events) events' := List.foldl_append

instance decidableAlong [∀ s e, Decidable (P s e)] (s : σ) (events : List ι) : Decidable (Along step P s events) :=
  match events with
  | [] => isTrue trivial
  | e :: rest =>
    have := decidableAlong (step s e) rest
    inferInstanceAs (Decidable (P s e ∧ Along step P (step s e) rest))

theorem along_append {events' : List ι} :
    Along step P s (events ++ events') ↔ Along step P s events ∧ Along step P (runFrom step s events) events' := by
  induction events generalizing s with
  | nil => simp [Along]
  | cons e events ih => simp [Along, ih, and_assoc]

theorem along_of_forall (h : ∀ s, ∀ e ∈ events, P s e) : Along step P s events := by
  induction events generalizing s with
  | nil => trivial
  | cons e events ih =>
    exact ⟨h s e List.mem_cons_self, ih fun s e' he' => h s e' (List.mem_cons_of_mem _ he')⟩

/-- a weaker condition, for the events of the run -/
theorem Along.imp {Q : σ → ι → Prop} (hrun : Along step P s events) (h : ∀ s, ∀ e ∈ events, P s e → Q s e) :
    Along step Q s events := by
  induction events generalizing s with
  | nil => trivial
  | cons e events ih =>
    exact ⟨h s e List.mem_cons_self hrun.1, ih hrun.2 fun s e' he' => h s e' (List.mem_cons_of_mem _ he')⟩

/-- an invariant of the steps that meet the condition holds after the run -/
theorem run_inv (hstep : ∀ s e, I s → P s e → I (step s e)) (h : I s) (hrun : Along step P s events) :
    I (runFrom step s events) := by
  induction events generalizing s with
  | nil => exact h
  | cons e events ih => exact ih (hstep s e h hrun.1) hrun.2

/-- what every step keeps, whatever the event -/
theorem run_inv_all (hstep : ∀ s e, I s → I (step s e)) (h : I s) (events : List ι) : I (runFrom step s events) :=
  run_inv (P := fun _ _ => True) (fun s e hs _ => hstep s e hs) h (along_of_forall fun _ _ _ => trivial)

/-- what every step of the run meets, by an invariant -/
theorem Along.of_inv {Q : σ → ι → Prop} (hstep : ∀ s e, I s → P s e → I (step s e)) (hQ : ∀ s e, I s → P s e → Q s e)
    (h : I s) (hrun : Along step P s events) : Along step Q s events := by
  induction events generalizing s with
  | nil => trivial
  | cons e events ih => exact ⟨hQ s e h hrun.1, ih (hstep s e h hrun.1) hrun.2⟩

/-- a step that counts takes an unmarked state to a marked one, and marks stay: it counts at most once, and not at all once
the mark is set -/
theorem tally_once {count : σ → ι → Nat} {S : σ → Prop} (hstep : ∀ s e, I s → P s e → I (step s e))
    (hstay : ∀ s e, I s → P s e → S s → S (step s e))
    (hcount : ∀ s e, I s → P s e → count s e = 0 ∨ count s e = 1 ∧ ¬ S s ∧ S (step s e)) (h : I s)
    (hrun : Along step P s events) :
    tally step count s events ≤ 1 ∧ (S s → tally step count s events = 0) := by
  induction events generalizing s with
  | nil => simp [tally]
  | cons e events ih =>
    obtain ⟨hle, hzero⟩ := ih (hstep s e h hrun.1) hrun.2
    rcases hcount s e h hrun.1 with h0 | ⟨h1, hunmarked, hmarked⟩
    · exact ⟨by simpa [tally, h0] using hle, fun hs => by simpa [tally, h0] using hzero (hstay s e h hrun.1 hs)⟩
    · exact ⟨by simp [tally, h1, hzero hmarked], fun hs => absurd hs hunmarked⟩

end Kaleido
