/-
Noninterference by unwinding.

A system answers events; some of the events are one observer's own. `answers` are the answers to the observer's events in a
run. `answers_filter` is the unwinding rule: a relation between two states that gives its own events the same answers, is
kept when both states take an own event and kept when one of them takes an event of somebody else, makes the answers in a run
equal to those in the run of the observer's events alone. The events of the run may be restricted by a condition on the state
in which they happen.
-/
import Kaleido.Lib.Run

namespace Kaleido

variable {σ ι ω : Type*} (step : σ → ι → σ) (answer : σ → ι → ω) (own : ι → Bool)

/-- the answers to the observer's events -/
def answers : σ → List ι → List ω
  | _, [] => []
  | s, e :: rest => if own e then answer s e :: answers (step s e) rest else answers (step s e) rest

/-- a relation under which events of others cannot be told -/
structure Unwinding (P : σ → ι → Prop) (R : σ → σ → Prop) : Prop where
  answers_eq : ∀ s t e, R s t → P s e → own e = true → answer s e = answer t e
  both : ∀ s t e, R s t → P s e → own e = true → R (step s e) (step t e)
  other : ∀ s t e, R s t → P s e → own e = false → R (step s e) t

variable {step answer own} {P : σ → ι → Prop} {R : σ → σ → Prop}

/-- **Unwinding.** The observer receives the answers it would receive alone. -/
theorem answers_filter (h : Unwinding step answer own P R) {s t : σ} (hst : R s t) {events : List ι}
    (hrun : Along step P s events) : answers step answer own s events = answers step answer own t (events.filter own) := by
  induction events generalizing s t with
  | nil => rfl
  | cons e rest ih =>
    obtain ⟨hP, hrest⟩ := hrun
    cases hown : own e with
    | true =>
      rw [List.filter_cons_of_pos hown, answers, answers, if_pos hown, if_pos hown, h.answers_eq s t e hst hP hown,
        ih (h.both s t e hst hP hown) hrest]
    | false =>
      rw [List.filter_cons_of_neg (by simp [hown]), answers, if_neg (by simp [hown]), ih (h.other s t e hst hP hown) hrest]

end Kaleido
