/-
Incremental readers: a machine that takes one symbol at a time, may deliver a value with it, or refuses it.

`feed` runs the machine over a list of symbols and keeps what it delivered up to the first refusal. A caller hands the
symbols over in chunks (`pushes`) and sees less: a chunk that is refused delivers nothing, and so does every chunk after it.
`Reads` says what a reader of chunks has to do with the machine; `pushes_ok` and `pushes_error` are what the caller then
sees, whatever the chunks are.
-/
import Mathlib.Tactic

namespace Kaleido.Feed

variable {σ β φ ε δ : Type} (step : σ → β → Except ε (σ × Option φ))

/-- what the machine delivers, and the state it ends in or the refusal that stopped it -/
def feed : σ → List β → List φ × Except ε σ
  | s, [] => ([], .ok s)
  | s, b :: rest =>
    match step s b with
    | .error e => ([], .error e)
    | .ok (s', out) => (out.toList ++ (feed s' rest).1, (feed s' rest).2)

/-- the results of a reader over a list of chunks, and the reader it leaves -/
def pushes (push : δ → List β → Except ε (List φ) × δ) : δ → List (List β) → List (Except ε (List φ)) × δ
  | d, [] => ([], d)
  | d, chunk :: rest => ((push d chunk).1 :: (pushes push (push d chunk).2 rest).1, (pushes push (push d chunk).2 rest).2)

variable {step} {s s' : σ} {l l' : List β} {out : List φ} {e : ε}

@[simp] theorem feed_nil : feed step s [] = ([], .ok s) := rfl

theorem feed_cons_ok {b : β} {o : Option φ} (h : step s b = .ok (s', o)) :
    feed step s (b :: l) = (o.toList ++ (feed step s' l).1, (feed step s' l).2) := by
  simp only [feed, h]

theorem feed_cons_error {b : β} (h : step s b = .error e) : feed step s (b :: l) = ([], .error e) := by
  simp only [feed, h]

/-- reading goes on where it stopped -/
theorem feed_append_ok (h : feed step s l = (out, .ok s')) :
    feed step s (l ++ l') = (out ++ (feed step s' l').1, (feed step s' l').2) := by
  induction l generalizing s out with
  | nil =>
    obtain ⟨rfl, rfl⟩ := h
    simp
  | cons b l ih =>
    cases hb : step s b with
    | error e =>
      rw [feed_cons_error hb] at h
      simp at h
    | ok r =>
      obtain ⟨t, o⟩ := r
      rw [feed_cons_ok hb, Prod.mk.injEq] at h
      obtain ⟨rfl, ht⟩ := h
      rw [List.cons_append, feed_cons_ok hb, ih (Prod.ext rfl ht), List.append_assoc]

/-- nothing is read after a refusal -/
theorem feed_append_error (h : feed step s l = (out, .error e)) : feed step s (l ++ l') = (out, .error e) := by
  induction l generalizing s out with
  | nil => simp at h
  | cons b l ih =>
    cases hb : step s b with
    | error e' =>
      rw [feed_cons_error hb] at h
      rw [List.cons_append, feed_cons_error hb, h]
    | ok r =>
      rw [feed_cons_ok hb, Prod.mk.injEq] at h
      obtain ⟨rfl, ht⟩ := h
      rw [List.cons_append, feed_cons_ok hb, ih (Prod.ext rfl ht)]

/-- a reader of chunks that goes with the machine: `live` is the reader that is in a state of the machine, and a reader that
has refused a chunk refuses every later one -/
structure Reads (step : σ → β → Except ε (σ × Option φ)) (push : δ → List β → Except ε (List φ) × δ) (live : σ → δ)
    (Failed : δ → Prop) : Prop where
  ok : ∀ {s s' l out}, feed step s l = (out, .ok s') → push (live s) l = (.ok out, live s')
  error : ∀ {s l out e}, feed step s l = (out, .error e) → ∃ d, Failed d ∧ push (live s) l = (.error e, d)
  failed : ∀ {d} (l), Failed d → ∃ e d', Failed d' ∧ push d l = (.error e, d')

variable {push : δ → List β → Except ε (List φ) × δ} {live : σ → δ} {Failed : δ → Prop} {chunks : List (List β)}

/-- a reader that has failed: every chunk is refused -/
theorem pushes_failed (hr : Reads step push live Failed) {d : δ} (hd : Failed d) (chunks : List (List β)) :
    Failed (pushes push d chunks).2 ∧ ∀ r ∈ (pushes push d chunks).1, ∃ e, r = .error e := by
  induction chunks generalizing d with
  | nil => exact ⟨hd, by simp [pushes]⟩
  | cons chunk rest ih =>
    obtain ⟨e, d', hd', hpush⟩ := hr.failed chunk hd
    obtain ⟨hfailed, hrest⟩ := ih hd'
    simp only [pushes, hpush]
    exact ⟨hfailed, List.forall_mem_cons.mpr ⟨⟨e, rfl⟩, hrest⟩⟩

/-- symbols that the machine accepts are accepted in any chunks, with the same values -/
theorem pushes_ok (hr : Reads step push live Failed) (h : feed step s chunks.flatten = (out, .ok s')) :
    ∃ outs : List (List φ), outs.flatten = out ∧ pushes push (live s) chunks = (outs.map .ok, live s') := by
  induction chunks generalizing s out with
  | nil =>
    obtain ⟨rfl, rfl⟩ := h
    exact ⟨[], rfl, rfl⟩
  | cons chunk rest ih =>
    rw [List.flatten_cons] at h
    rcases hchunk : feed step s chunk with ⟨first, e | t⟩
    · rw [feed_append_error hchunk] at h
      simp at h
    · rw [feed_append_ok hchunk, Prod.mk.injEq] at h
      obtain ⟨rfl, ht⟩ := h
      obtain ⟨outs, houts, hpushes⟩ := ih (Prod.ext rfl ht)
      refine ⟨first :: outs, by rw [List.flatten_cons, houts], ?_⟩
      simp only [pushes, hr.ok hchunk, hpushes, List.map_cons]

/-- symbols that the machine refuses are refused in any chunks, with the same error; what the chunks before it delivered is
the first part of what the machine delivered -/
theorem pushes_error (hr : Reads step push live Failed) (h : feed step s chunks.flatten = (out, .error e)) :
    ∃ (outs : List (List φ)) (later : List (Except ε (List φ))) (d : δ), outs.flatten <+: out ∧ Failed d ∧
      (∀ r ∈ later, ∃ e, r = .error e) ∧ pushes push (live s) chunks = (outs.map .ok ++ .error e :: later, d) := by
  induction chunks generalizing s out with
  | nil => simp at h
  | cons chunk rest ih =>
    rw [List.flatten_cons] at h
    rcases hchunk : feed step s chunk with ⟨first, e' | t⟩
    · rw [feed_append_error hchunk, Prod.mk.injEq, Except.error.injEq] at h
      obtain ⟨rfl, rfl⟩ := h
      obtain ⟨d, hd, hpush⟩ := hr.error hchunk
      obtain ⟨hfailed, hlater⟩ := pushes_failed hr hd rest
      refine ⟨[], (pushes push d rest).1, (pushes push d rest).2, List.nil_prefix, hfailed, hlater, ?_⟩
      simp only [pushes, hpush, List.map_nil, List.nil_append]
    · rw [feed_append_ok hchunk, Prod.mk.injEq] at h
      obtain ⟨rfl, ht⟩ := h
      obtain ⟨outs, later, d, hpre, hd, hlater, hpushes⟩ := ih (Prod.ext rfl ht)
      refine ⟨first :: outs, later, d, ?_, hd, hlater, ?_⟩
      · rw [List.flatten_cons]
        exact (List.prefix_append_right_inj first).mpr hpre
      · simp only [pushes, hr.ok hchunk, hpushes, List.map_cons, List.cons_append]

end Kaleido.Feed
