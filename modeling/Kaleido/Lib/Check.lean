/-
Sequenced checks. A check is a computation in `Except ε Unit`: it returns the first violation it meets, or `ok ()`.
Validators are built from `ensure` (one condition), `checkAll` (a loop over a list), `checkSome` (an optional field) and
`checkFresh` (a loop that also keeps the keys seen so far and refuses a repeated one).

Each combinator comes with the condition under which it passes: `ensure_eq_ok`, `checkAll_eq_ok`, `checkSome_eq_ok`,
`checkFresh_eq_ok`, and `bind_eq_ok` / `seq_eq_ok` for sequencing. A validator's own specification is one `simp` with
these lemmas away.
-/
import Mathlib.Tactic

namespace Kaleido.Check

variable {ε α κ : Type*}

/-- fail with `e` unless `c` holds -/
def ensure (c : Prop) [Decidable c] (e : ε) : Except ε Unit := if c then .ok () else .error e

/-- run `f` on every element in order; the first failure is the result -/
def checkAll (f : α → Except ε Unit) : List α → Except ε Unit
  | [] => .ok ()
  | a :: l => do
    f a
    checkAll f l

/-- run `f` on an optional value that is present -/
def checkSome (f : α → Except ε Unit) : Option α → Except ε Unit
  | none => .ok ()
  | some a => f a

/-- a loop that runs `pre`, refuses a key already seen with `dup`, then runs `post` -/
def checkFresh [DecidableEq κ] (key : α → κ) (dup : α → ε) (pre post : α → Except ε Unit) :
    List κ → List α → Except ε Unit
  | _, [] => .ok ()
  | seen, a :: l => do
    pre a
    ensure (key a ∉ seen) (dup a)
    post a
    checkFresh key dup pre post (key a :: seen) l

/-! ## When a check passes -/

theorem bind_eq_ok {α β : Type} {x : Except ε α} {f : α → Except ε β} {b : β} :
    (x >>= f) = .ok b ↔ ∃ a, x = .ok a ∧ f a = .ok b := by
  cases x <;> simp [bind, Except.bind]

@[simp] theorem pure_eq_ok {α : Type} {a b : α} : (pure a : Except ε α) = .ok b ↔ a = b := by
  simp [pure, Except.pure]

@[simp] theorem seq_eq_ok {β : Type} {x : Except ε Unit} {y : Except ε β} {b : β} :
    (x >>= fun _ => y) = .ok b ↔ x = .ok () ∧ y = .ok b := by
  cases x <;> simp [bind, Except.bind]

@[simp] theorem ensure_eq_ok {c : Prop} [Decidable c] {e : ε} : ensure c e = .ok () ↔ c := by
  unfold ensure; split_ifs with h <;> simp [h]

theorem pure_eq_error {α : Type} {a : α} {e : ε} : (pure a : Except ε α) = .error e ↔ False := by simp [pure, Except.pure]

theorem bind_eq_error {α β : Type} {x : Except ε α} {f : α → Except ε β} {e : ε} :
    (x >>= f) = .error e ↔ x = .error e ∨ ∃ a, x = .ok a ∧ f a = .error e := by
  cases x <;> simp [bind, Except.bind]

theorem mapError_eq_ok {α : Type} {δ : Type*} {x : Except ε α} {f : ε → δ} {a : α} : x.mapError f = .ok a ↔ x = .ok a := by
  cases x <;> simp [Except.mapError]

theorem ensure_eq_error {c : Prop} [Decidable c] {e e' : ε} : ensure c e = .error e' ↔ ¬ c ∧ e = e' := by
  unfold ensure; split_ifs with h <;> simp [h]

@[simp] theorem checkSome_none (f : α → Except ε Unit) : checkSome f none = .ok () := rfl

@[simp] theorem checkSome_some (f : α → Except ε Unit) (a : α) : checkSome f (some a) = f a := rfl

theorem checkSome_eq_ok {f : α → Except ε Unit} {o : Option α} :
    checkSome f o = .ok () ↔ ∀ a, o = some a → f a = .ok () := by
  cases o <;> simp

theorem checkAll_eq_ok {f : α → Except ε Unit} {l : List α} :
    checkAll f l = .ok () ↔ ∀ a ∈ l, f a = .ok () := by
  induction l with
  | nil => simp [checkAll]
  | cons a l ih => simp [checkAll, ih]

theorem checkFresh_eq_ok [DecidableEq κ] {key : α → κ} {dup : α → ε} {pre post : α → Except ε Unit}
    {seen : List κ} {l : List α} :
    checkFresh key dup pre post seen l = .ok () ↔
      (∀ a ∈ l, pre a = .ok () ∧ key a ∉ seen ∧ post a = .ok ()) ∧ (l.map key).Nodup := by
  induction l generalizing seen with
  | nil => simp [checkFresh]
  | cons a l ih =>
    simp only [checkFresh, seq_eq_ok, ensure_eq_ok, ih, List.mem_cons, not_or, List.map_cons, List.nodup_cons,
      List.mem_map, not_exists, not_and, forall_eq_or_imp]
    constructor
    · rintro ⟨hpre, hkey, hpost, hl, hnd⟩
      exact ⟨⟨⟨hpre, hkey, hpost⟩, fun b hb => ⟨(hl b hb).1, (hl b hb).2.1.2, (hl b hb).2.2⟩⟩,
        fun b hb he => (hl b hb).2.1.1 he, hnd⟩
    · rintro ⟨⟨⟨hpre, hkey, hpost⟩, hl⟩, hne, hnd⟩
      exact ⟨hpre, hkey, hpost, fun b hb => ⟨(hl b hb).1, ⟨hne b hb, (hl b hb).2.1⟩, (hl b hb).2.2⟩, hnd⟩

end Kaleido.Check
