/-
Programs over a state that holds an append-only log.

`Prog σ ε α` is a program over states `σ`: it returns a value or fails, and a failure keeps the state it reached. `wp` is
its weakest precondition with three postconditions: one for a value, one for a failure, and one for every log the run
passes through. The last is what a crash leaves: a run only ever extends its log, so the logs it passes through are the
prefixes of the final log that extend the first one.

The rules (`wp_pure`, `wp_fail`, `wp_bind`, `wp_read`, `wp_modify`, `wp_liftExcept`, `wp_onError`, `wp_forEach`) follow
the constructors of a program; `wp_mono` weakens the three postconditions and `wp_and` joins two specifications.
`Keeps` is the special case of an invariant, with the same rules: a program made of parts that keep it keeps it.
-/
import Mathlib.Tactic

namespace Kaleido

/-- a program: a value or a failure, and in both cases the state reached -/
def Prog (σ ε α : Type) : Type := σ → Except ε α × σ

namespace Prog

variable {σ ε α β δ : Type}

instance : Monad (Prog σ ε) where
  pure a := fun s => (.ok a, s)
  bind p f := fun s =>
    match p s with
    | (.ok a, s') => f a s'
    | (.error e, s') => (.error e, s')

def fail (e : ε) : Prog σ ε α := fun s => (.error e, s)

def read (f : σ → α) : Prog σ ε α := fun s => (.ok (f s), s)

def modify (f : σ → σ) : Prog σ ε Unit := fun s => (.ok (), f s)

/-- a pure computation that may fail -/
def liftExcept (x : Except ε α) : Prog σ ε α := fun s => (x, s)

/-- change the state when the program fails; the failure stays -/
def onError (p : Prog σ ε α) (f : σ → σ) : Prog σ ε α := fun s =>
  match p s with
  | (.ok a, s') => (.ok a, s')
  | (.error e, s') => (.error e, f s')

/-- run a program on each element, collecting the results; the first failure stops the loop -/
def forEach (f : α → Prog σ ε β) : List α → Prog σ ε (List β)
  | [] => pure []
  | a :: l => do
    let b ← f a
    let rest ← forEach f l
    return b :: rest

/-- fail with `e` unless `c` holds -/
def require (c : Prop) [Decidable c] (e : ε) : Prog σ ε Unit := if c then pure () else fail e

/-! ## Runs that succeed -/

/-- sequencing after a program that returned a value -/
theorem run_bind {p : Prog σ ε α} {f : α → Prog σ ε β} {s s' : σ} {a : α} (h : p s = (.ok a, s')) :
    (p >>= f) s = f a s' := by
  simp only [bind, h]

/-- a program that failed is not continued -/
theorem run_bind_error {p : Prog σ ε α} {f : α → Prog σ ε β} {s s' : σ} {e : ε} (h : p s = (.error e, s')) :
    (p >>= f) s = (.error e, s') := by
  simp only [bind, h]

theorem run_bind_eq_ok {p : Prog σ ε α} {f : α → Prog σ ε β} {s s'' : σ} {b : β} :
    (p >>= f) s = (.ok b, s'') ↔ ∃ a s', p s = (.ok a, s') ∧ f a s' = (.ok b, s'') := by
  simp only [bind]
  generalize p s = r
  obtain ⟨_ | a, s'⟩ := r <;> simp

/-- what follows leaves the state alone -/
theorem run_bind_snd {p : Prog σ ε α} {f : α → Prog σ ε β} (h : ∀ a s, (f a s).2 = s) (s : σ) :
    ((p >>= f) s).2 = (p s).2 := by
  rcases hp : p s with ⟨e | a, s'⟩
  · rw [run_bind_error hp]
  · rw [run_bind hp]
    exact h a s'

theorem bind_assoc {γ : Type} (p : Prog σ ε α) (f : α → Prog σ ε β) (g : β → Prog σ ε γ) :
    p >>= f >>= g = p >>= fun a => f a >>= g := by
  funext s
  rcases hp : p s with ⟨e | a, s'⟩
  · rw [run_bind_error hp, run_bind_error (run_bind_error hp)]
  · rw [run_bind hp]
    rcases hf : f a s' with ⟨e | b, s''⟩
    · rw [run_bind_error hf, run_bind_error (by rw [run_bind hp, hf])]
    · rw [run_bind hf, run_bind (by rw [run_bind hp, hf])]

theorem run_require {c : Prop} [Decidable c] {e : ε} (h : c) (s : σ) : (require c e : Prog σ ε Unit) s = (.ok (), s) := by
  rw [require, if_pos h]
  rfl

/-- a requirement that is met leaves the state -/
theorem run_require_eq_ok {c : Prop} [Decidable c] {e : ε} {s s' : σ} {u : Unit}
    (h : (require c e : Prog σ ε Unit) s = (.ok u, s')) : c ∧ s' = s := by
  unfold require at h
  split_ifs at h with hc
  · cases h
    exact ⟨hc, rfl⟩
  · cases h

theorem run_liftExcept {x : Except ε α} {r : Except ε α} (h : x = r) (s : σ) : (liftExcept x : Prog σ ε α) s = (r, s) := by
  rw [h]
  rfl

variable (log : σ → List δ)

/-- from `s` the program only extends the log, every log it passes through satisfies `C`, and it ends in a value
satisfying `Q` or in a failure satisfying `E` -/
def wp (C : List δ → Prop) (Q : α → σ → Prop) (E : ε → σ → Prop) (p : Prog σ ε α) (s : σ) : Prop :=
  log s <+: log (p s).2 ∧
  (∀ d, log s <+: d → d <+: log (p s).2 → d ≠ log s → C d) ∧
  match p s with
  | (.ok a, s') => Q a s'
  | (.error e, s') => E e s'

variable {log} {C C' : List δ → Prop} {Q Q' : α → σ → Prop} {E E' : ε → σ → Prop} {p : Prog σ ε α} {s : σ}

theorem wp_mono (h : wp log C Q E p s) (hC : ∀ d, log s <+: d → C d → C' d) (hQ : ∀ a s', Q a s' → Q' a s')
    (hE : ∀ e s', E e s' → E' e s') : wp log C' Q' E' p s := by
  obtain ⟨hext, hcrash, hpost⟩ := h
  refine ⟨hext, fun d h₁ h₂ h₃ => hC d h₁ (hcrash d h₁ h₂ h₃), ?_⟩
  generalize p s = r at hpost
  obtain ⟨_ | _, s'⟩ := r
  · exact hE _ _ hpost
  · exact hQ _ _ hpost

/-- weaker postconditions, on the same logs -/
theorem wp_post (h : wp log C Q E p s) (hQ : ∀ a s', Q a s' → Q' a s') (hE : ∀ e s', E e s' → E' e s') :
    wp log C Q' E' p s := wp_mono h (fun _ _ hd => hd) hQ hE

theorem wp_and (h : wp log C Q E p s) (h' : wp log C' Q' E' p s) :
    wp log (fun d => C d ∧ C' d) (fun a s' => Q a s' ∧ Q' a s') (fun e s' => E e s' ∧ E' e s') p s := by
  obtain ⟨hext, hcrash, hpost⟩ := h
  obtain ⟨-, hcrash', hpost'⟩ := h'
  refine ⟨hext, fun d h₁ h₂ h₃ => ⟨hcrash d h₁ h₂ h₃, hcrash' d h₁ h₂ h₃⟩, ?_⟩
  generalize p s = r at hpost hpost'
  obtain ⟨_ | _, s'⟩ := r <;> exact ⟨hpost, hpost'⟩

/-- a step that leaves the log alone passes through no new log -/
theorem wp_of_log_eq (hlog : log (p s).2 = log s)
    (hpost : match p s with
      | (.ok a, s') => Q a s'
      | (.error e, s') => E e s') : wp log C Q E p s := by
  refine ⟨by rw [hlog], fun d h₁ h₂ h₃ => ?_, hpost⟩
  rw [hlog] at h₂
  exact absurd (h₂.eq_of_length_le h₁.length_le) h₃

theorem wp_pure {a : α} (h : Q a s) : wp log C Q E (pure a) s := wp_of_log_eq rfl h

theorem wp_fail {e : ε} (h : E e s) : wp log C Q E (fail e : Prog σ ε α) s := wp_of_log_eq rfl h

theorem wp_read {f : σ → α} (h : Q (f s) s) : wp log C Q E (read f) s := wp_of_log_eq rfl h

theorem wp_modify {Q : Unit → σ → Prop} {f : σ → σ} (hlog : log (f s) = log s) (h : Q () (f s)) :
    wp log C Q E (modify f) s := wp_of_log_eq hlog h

theorem wp_liftExcept {x : Except ε α} (hok : ∀ a, x = .ok a → Q a s) (herr : ∀ e, x = .error e → E e s) :
    wp log C Q E (liftExcept x) s := by
  refine wp_of_log_eq rfl ?_
  cases x with
  | ok a => exact hok a rfl
  | error e => exact herr e rfl

theorem wp_require {c : Prop} [Decidable c] {e : ε} {Q : Unit → σ → Prop} (hok : c → Q () s) (herr : ¬ c → E e s) :
    wp log C Q E (require c e) s := by
  unfold require
  split_ifs with h
  · exact wp_pure (hok h)
  · exact wp_fail (herr h)

/-- sequencing: a log passed through is passed through by the first program or by the second -/
theorem wp_bind {f : α → Prog σ ε β} {Q : β → σ → Prop} (h : wp log C (fun a => wp log C Q E (f a)) E p s) :
    wp log C Q E (p >>= f) s := by
  obtain ⟨hext, hcrash, hpost⟩ := h
  unfold wp
  simp only [bind]
  generalize p s = r at hext hcrash hpost
  obtain ⟨e | a, s'⟩ := r
  · exact ⟨hext, hcrash, hpost⟩
  · obtain ⟨hext', hcrash', hpost'⟩ := hpost
    refine ⟨hext.trans hext', fun d h₁ h₂ h₃ => ?_, hpost'⟩
    rcases List.prefix_or_prefix_of_prefix h₂ hext' with h | h
    · exact hcrash d h₁ h h₃
    · by_cases heq : d = log s'
      · exact hcrash d h₁ (heq ▸ List.prefix_rfl) h₃
      · exact hcrash' d h h₂ heq

/-- sequencing, with what is known of the first program -/
theorem wp_seq {f : α → Prog σ ε β} {Q' : β → σ → Prop} (h : wp log C Q E p s)
    (hf : ∀ a s', Q a s' → wp log C Q' E' (f a) s') (hE : ∀ e s', E e s' → E' e s') : wp log C Q' E' (p >>= f) s :=
  wp_bind (wp_post h hf hE)

theorem wp_onError {f : σ → σ} (hlog : ∀ s', log (f s') = log s')
    (h : wp log C Q (fun e s' => E e (f s')) p s) : wp log C Q E (onError p f) s := by
  obtain ⟨hext, hcrash, hpost⟩ := h
  unfold wp onError
  generalize p s = r at hext hcrash hpost
  obtain ⟨e | a, s'⟩ := r
  · simp only [hlog]
    exact ⟨hext, hcrash, hpost⟩
  · exact ⟨hext, hcrash, hpost⟩

/-- a loop: `I l` holds before the elements `l` that are still to come -/
theorem wp_forEach {f : α → Prog σ ε β} (I : List α → σ → Prop)
    (hstep : ∀ a l s, I (a :: l) s → wp log C (fun _ => I l) E (f a) s) {l : List α} (h : I l s) :
    wp log C (fun _ => I []) E (forEach f l) s := by
  induction l generalizing s with
  | nil => exact wp_pure h
  | cons a l ih =>
    refine wp_seq (hstep a l s h) (fun _ s' hs' => ?_) fun _ _ he => he
    exact wp_seq (ih hs') (fun _ _ hq => wp_pure hq) fun _ _ he => he

theorem wp_map {f : α → β} {Q : β → σ → Prop} (h : wp log C (fun a => Q (f a)) E p s) :
    wp log C Q E (f <$> p) s :=
  wp_seq h (fun _ _ hq => wp_pure hq) fun _ _ he => he

/-- the last log a run passes through is the one it ends with -/
theorem wp_final_log (h : wp log C Q E p s) (hs : C (log s)) :
    wp log C (fun a s' => Q a s' ∧ C (log s')) (fun e s' => E e s' ∧ C (log s')) p s := by
  obtain ⟨hext, hcrash, hpost⟩ := h
  have hfinal : C (log (p s).2) := by
    by_cases heq : log (p s).2 = log s
    · rw [heq]; exact hs
    · exact hcrash _ hext List.prefix_rfl heq
  refine ⟨hext, hcrash, ?_⟩
  generalize p s = r at hpost hfinal
  obtain ⟨_ | _, s'⟩ := r <;> exact ⟨hpost, hfinal⟩

/-- a run that returned a value satisfies the postcondition of values -/
theorem wp_ok (h : wp log C Q E p s) {a : α} {s' : σ} (hp : p s = (.ok a, s')) : Q a s' := by
  have := h.2.2
  rwa [hp] at this

/-- what holds at both ends holds of the final state -/
theorem wp_final {I : σ → Prop} (h : wp log C (fun _ => I) (fun _ => I) p s) : I (p s).2 := by
  have hpost := h.2.2
  generalize p s = r at hpost
  obtain ⟨_ | _, s'⟩ := r <;> exact hpost

theorem map_eq_ok {f : α → β} {b : β} {s' : σ} : (f <$> p) s = (.ok b, s') ↔ ∃ a, p s = (.ok a, s') ∧ f a = b := by
  change (match p s with
    | (.ok a, s') => (Except.ok (f a), s')
    | (.error e, s') => (Except.error e, s')) = _ ↔ _
  generalize p s = r
  obtain ⟨_ | a, s''⟩ := r <;> simp [and_comm]

/-! ## Invariants -/

variable (log C)

/-- from the invariant `I` the program ends in `I` or fails in `J`, and every log it passes through satisfies `C` -/
def Keeps (I J : σ → Prop) (p : Prog σ ε α) : Prop := ∀ s, I s → wp log C (fun _ => I) (fun _ => J) p s

variable {log C} {I J K : σ → Prop}

theorem Keeps.of_log_eq (hIJ : ∀ s, I s → J s) (hlog : ∀ s, log (p s).2 = log s) (hI : ∀ s, I s → I (p s).2) :
    Keeps log C I J p := by
  intro s h
  refine wp_of_log_eq (hlog s) ?_
  have := hI s h
  generalize p s = r at this
  obtain ⟨_ | _, s'⟩ := r
  · exact hIJ _ this
  · exact this

theorem Keeps.pure {a : α} : Keeps log C I J (pure a : Prog σ ε α) := fun _ h => wp_pure h

theorem Keeps.read {f : σ → α} : Keeps log C I J (read f : Prog σ ε α) := fun _ h => wp_read h

theorem Keeps.fail {e : ε} (hIJ : ∀ s, I s → J s) : Keeps log C I J (fail e : Prog σ ε α) := fun s h => wp_fail (hIJ s h)

theorem Keeps.liftExcept {x : Except ε α} (hIJ : ∀ s, I s → J s) : Keeps log C I J (liftExcept x : Prog σ ε α) :=
  fun s h => wp_liftExcept (fun _ _ => h) fun _ _ => hIJ s h

theorem Keeps.require {c : Prop} [Decidable c] {e : ε} (hIJ : ∀ s, I s → J s) :
    Keeps log C I J (require c e : Prog σ ε Unit) := fun s h => wp_require (fun _ => h) fun _ => hIJ s h

theorem Keeps.modify {f : σ → σ} (hlog : ∀ s, log (f s) = log s) (hf : ∀ s, I s → I (f s)) :
    Keeps log C I J (modify f : Prog σ ε Unit) := fun s h => wp_modify (hlog s) (hf s h)

theorem Keeps.bind {f : α → Prog σ ε β} (hp : Keeps log C I J p) (hf : ∀ a, Keeps log C I J (f a)) :
    Keeps log C I J (p >>= f) := fun s h =>
  wp_seq (hp s h) (fun a s' hs' => hf a s' hs') fun _ _ he => he

theorem Keeps.map {f : α → β} (hp : Keeps log C I J p) : Keeps log C I J (f <$> p) := fun s h => wp_map (hp s h)

theorem Keeps.onError {f : σ → σ} (hlog : ∀ s, log (f s) = log s) (hf : ∀ s, K s → J (f s)) (hp : Keeps log C I K p) :
    Keeps log C I J (onError p f) := fun s h =>
  wp_onError hlog (wp_post (hp s h) (fun _ _ hq => hq) fun _ s' he => hf s' he)

/-- a loop whose elements all meet a condition -/
theorem Keeps.forEach_of_mem {f : α → Prog σ ε β} (l : List α) (hf : ∀ a ∈ l, Keeps log C I J (f a)) :
    Keeps log C I J (forEach f l) := by
  induction l with
  | nil => exact Keeps.pure
  | cons a l ih =>
    exact Keeps.bind (hf a List.mem_cons_self) fun _ =>
      Keeps.bind (ih fun b hb => hf b (List.mem_cons_of_mem _ hb)) fun _ => Keeps.pure

theorem Keeps.forEach {f : α → Prog σ ε β} (hf : ∀ a, Keeps log C I J (f a)) (l : List α) :
    Keeps log C I J (forEach f l) := Keeps.forEach_of_mem l fun a _ => hf a

theorem Keeps.ite {c : Prop} [Decidable c] {p q : Prog σ ε α} (hp : c → Keeps log C I J p)
    (hq : ¬ c → Keeps log C I J q) : Keeps log C I J (if c then p else q) := by
  split_ifs with h
  · exact hp h
  · exact hq h

/-- the final state of a program that keeps an invariant on both ends -/
theorem Keeps.final (hp : Keeps log C I I p) (h : I s) : I (p s).2 := wp_final (hp s h)

/-- a property of the log that survives its extensions is kept along with the invariant -/
theorem Keeps.and_stable {S : List δ → Prop} (hp : Keeps log C I J p) (hI : ∀ s, I s → C (log s))
    (hJ : ∀ s, J s → C (log s)) (hS : ∀ d d', d <+: d' → C d' → S d → S d') :
    Keeps log C (fun s => I s ∧ S (log s)) (fun s => J s ∧ S (log s)) p := by
  intro s h
  obtain ⟨hext, hcrash, hpost⟩ := hp s h.1
  refine ⟨hext, hcrash, ?_⟩
  generalize p s = r at hext hpost
  obtain ⟨_ | _, s'⟩ := r
  · exact ⟨hpost, hS _ _ hext (hJ s' hpost) h.2⟩
  · exact ⟨hpost, hS _ _ hext (hI s' hpost) h.2⟩

end Prog

end Kaleido
