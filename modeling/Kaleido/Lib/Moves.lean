/-
Programs that move the state along a preorder.

`Moves R V p s` says that `p` takes `s` to a state above it in the preorder `R`, whether it returns or fails, and that a
value it returns satisfies `V` together with the state reached. It is the specification of a step whose effect on the
state is only bounded (what it keeps, what it may add), with the rules of a sequential program: `Moves.bind` composes by
transitivity and hands on what the first program established, `Moves.forEach` collects a fact that later steps keep.
-/
import Kaleido.Lib.Prog

namespace Kaleido.Prog

variable {σ ε α β : Type}

/-- `p` moves `s` along `R`, and a value it returns satisfies `V` -/
structure Moves (R : σ → σ → Prop) (V : α → σ → Prop) (p : Prog σ ε α) (s : σ) : Prop where
  moved : R s (p s).2
  value : ∀ a, (p s).1 = .ok a → V a (p s).2

variable {R : σ → σ → Prop} {V V' : α → σ → Prop} {W : β → σ → Prop} {p : Prog σ ε α} {s : σ}

namespace Moves

theorem mono (h : Moves R V p s) (hV : ∀ a s', R s s' → V a s' → V' a s') : Moves R V' p s :=
  ⟨h.moved, fun a ha => hV a _ h.moved (h.value a ha)⟩

theorem of_ok (h : Moves R V p s) {a : α} {s' : σ} (hp : p s = (.ok a, s')) : R s s' ∧ V a s' := by
  have hmoved := h.moved
  have hvalue := h.value a (by rw [hp])
  rw [hp] at hmoved hvalue
  exact ⟨hmoved, hvalue⟩

variable [Std.Refl R]

theorem pure {a : α} (h : V a s) : Moves R V (pure a : Prog σ ε α) s :=
  ⟨refl s, fun _ ha => Except.ok.inj ha ▸ h⟩

theorem fail {e : ε} : Moves R V (fail e : Prog σ ε α) s := ⟨refl s, nofun⟩

theorem read {f : σ → α} : Moves R (fun a s' => s' = s ∧ a = f s) (read f : Prog σ ε α) s :=
  ⟨refl s, fun _ ha => ⟨rfl, (Except.ok.inj ha).symm⟩⟩

theorem liftExcept {x : Except ε α} : Moves R (fun a s' => s' = s ∧ x = .ok a) (liftExcept x : Prog σ ε α) s :=
  ⟨refl s, fun _ ha => ⟨rfl, ha⟩⟩

theorem require {c : Prop} [Decidable c] {e : ε} : Moves R (fun _ s' => s' = s ∧ c) (require c e : Prog σ ε Unit) s := by
  unfold Prog.require
  split_ifs with hc
  · exact pure ⟨rfl, hc⟩
  · exact fail

omit [Std.Refl R] in
theorem modify {f : σ → σ} (h : R s (f s)) : Moves R (fun _ s' => s' = f s) (modify f : Prog σ ε Unit) s :=
  ⟨h, fun _ _ => rfl⟩

omit [Std.Refl R] in
theorem bind [IsTrans σ R] {f : α → Prog σ ε β} (hp : Moves R V p s)
    (hf : ∀ a s', R s s' → V a s' → Moves R W (f a) s') : Moves R W (p >>= f) s := by
  obtain ⟨hmoved, hvalue⟩ := hp
  generalize hr : p s = r at hmoved hvalue
  obtain ⟨e | a, s'⟩ := r
  · have heq : (p >>= f) s = (.error e, s') := run_bind_error hr
    exact ⟨heq ▸ hmoved, fun b hb => by rw [heq] at hb; cases hb⟩
  · have heq : (p >>= f) s = f a s' := run_bind hr
    obtain ⟨hmoved', hvalue'⟩ := hf a s' hmoved (hvalue a rfl)
    exact ⟨heq ▸ IsTrans.trans _ _ _ hmoved hmoved', fun b hb => by rw [heq] at hb ⊢; exact hvalue' b hb⟩

/-- a loop collects what each element establishes, if later elements keep it -/
theorem forEach [IsTrans σ R] {f : α → Prog σ ε β} (hf : ∀ a s, Moves R W (f a) s)
    (hW : ∀ b s s', R s s' → W b s → W b s') (l : List α) (s : σ) :
    Moves R (fun bs s' => ∀ b ∈ bs, W b s') (forEach f l) s := by
  induction l generalizing s with
  | nil => exact pure nofun
  | cons a l ih =>
    refine bind (hf a s) fun b s₁ _ hb => bind (ih s₁) fun bs s₂ h₂ hbs => pure ?_
    rintro b' (_ | ⟨_, hb'⟩)
    · exact hW _ _ _ h₂ hb
    · exact hbs b' hb'

omit [Std.Refl R] in
theorem ite {c : Prop} [Decidable c] {p q : Prog σ ε α} (hp : c → Moves R V p s) (hq : ¬ c → Moves R V q s) :
    Moves R V (if c then p else q) s := by
  split_ifs with h
  · exact hp h
  · exact hq h

end Moves

end Kaleido.Prog
