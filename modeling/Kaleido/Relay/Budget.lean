/-
The byte budget of a relay connection (`kaleido-relay`, `admission.rs`): a lease holds a token bucket, which a call of
`consume` refills by the time since the last call, up to the burst, and then draws on.

Whatever the calls, the bytes accepted between two instants stay within the burst and what the rate refills between them. The
bucket of a new lease says that it was last used at instant 0, so the idle timeout of the first call is measured from there
and not from the admission; and a call of more bytes than the burst does not count as a use (`budget_kept`).
-/
import Kaleido.Relay.Registry

namespace Kaleido.Relay

open Check Proto Transport

/-- `AdmissionLimits`, with its defaults -/
structure AdmissionLimits where
  globalConnections : Nat := 1024
  routeConnections : Nat := 8
  deviceConnections : Nat := 2
  preauthConnections : Nat := 4
  bytesPerSecond : Nat := 1048576
  burstBytes : Nat := 262144
  idleTimeoutMs : Nat := 90000

/-- `AdmissionPrincipal` -/
structure AdmissionPrincipal where
  routeId : RouteId
  slotId : Option DeviceSlotId
  deriving DecidableEq

/-- `TokenBucket` -/
structure TokenBucket where
  tokens : Nat
  lastMs : Nat

/-- `TokenBucket::new` -/
def TokenBucket.new (capacity : Nat) : TokenBucket := ⟨capacity, 0⟩

/-- `ConnectionLease` -/
structure ConnectionLease where
  id : Nat
  principal : Option AdmissionPrincipal
  limits : AdmissionLimits
  bucket : TokenBucket

/-- `RelayAdmission`: the connections that hold a lease, each with its principal -/
structure RelayAdmission where
  limits : AdmissionLimits := {}
  connections : OrdMap Nat (Option AdmissionPrincipal) := .empty
  nextId : Nat := 1

/-- the connections whose principal meets a condition -/
def RelayAdmission.count (admission : RelayAdmission) (p : Option AdmissionPrincipal → Bool) : Nat :=
  admission.connections.vals.countP p

/-- `admit_inner` -/
def RelayAdmission.admitInner (principal : Option AdmissionPrincipal) (admission : RelayAdmission) :
    Except RemoteErrorCode (ConnectionLease × RelayAdmission) := do
  let limits := admission.limits
  ensure (admission.count (fun _ => true) < limits.globalConnections) .limitExceeded
  ensure (¬ (principal.isNone ∧ limits.preauthConnections ≤ admission.count Option.isNone)) .limitExceeded
  if let some principal := principal then
    ensure (admission.count (·.any (·.routeId = principal.routeId)) < limits.routeConnections) .limitExceeded
    if let some slotId := principal.slotId then
      ensure (admission.count (·.any fun p => p.routeId = principal.routeId ∧ p.slotId = some slotId) <
        limits.deviceConnections) .limitExceeded
  return (⟨admission.nextId, principal, limits, .new limits.burstBytes⟩,
    { admission with connections := admission.connections.insert admission.nextId principal, nextId := admission.nextId + 1 })

namespace ConnectionLease

variable {lease : ConnectionLease}

/-- the tokens after the refill of a call; the products and sums saturate -/
def refilled (lease : ConnectionLease) (nowMs : Nat) : Nat :=
  let elapsed := nowMs - lease.bucket.lastMs
  let refill := min (elapsed * lease.limits.bytesPerSecond) u64Max / 1000
  min (min (lease.bucket.tokens + refill) u64Max) lease.limits.burstBytes

/-- `consume` -/
def consume (bytes nowMs : Nat) (lease : ConnectionLease) : Except RemoteErrorCode Unit × ConnectionLease :=
  if lease.limits.burstBytes < bytes then (.error .rateLimited, lease)
  else if lease.limits.idleTimeoutMs < nowMs - lease.bucket.lastMs then (.error .expired, lease)
  else if lease.refilled nowMs < bytes then (.error .rateLimited, { lease with bucket := ⟨lease.refilled nowMs, nowMs⟩ })
  else (.ok (), { lease with bucket := ⟨lease.refilled nowMs - bytes, nowMs⟩ })

/-! ## Calls -/

/-- a call of `consume` -/
structure Call where
  bytes : Nat
  nowMs : Nat

def step (lease : ConnectionLease) (c : Call) : ConnectionLease := (lease.consume c.bytes c.nowMs).2

/-- the bytes that a call adds to what is accepted in an interval -/
def acceptedIn (t₁ t₂ : Nat) (lease : ConnectionLease) (c : Call) : Nat :=
  if (lease.consume c.bytes c.nowMs).1.isOk ∧ t₁ ≤ c.nowMs ∧ c.nowMs ≤ t₂ then c.bytes else 0

/-- the call is not answered that the lease has expired -/
def Unexpired (lease : ConnectionLease) (c : Call) : Prop := (lease.consume c.bytes c.nowMs).1 ≠ .error .expired

/-- what a call does: it is turned away and changes nothing, or it refills the bucket and draws what it accepts -/
theorem consume_cases (lease : ConnectionLease) (c : Call) :
    ((lease.consume c.bytes c.nowMs).1.isOk = false ∧ lease.step c = lease) ∨
    ∃ drawn ≤ lease.refilled c.nowMs, (∀ t₁ t₂, lease.acceptedIn t₁ t₂ c ≤ drawn) ∧
      lease.step c = { lease with bucket := ⟨lease.refilled c.nowMs - drawn, c.nowMs⟩ } := by
  unfold step acceptedIn consume
  split_ifs with hburst hidle hshort
  · exact .inl ⟨rfl, rfl⟩
  · exact .inl ⟨rfl, rfl⟩
  · exact .inr ⟨0, Nat.zero_le _, fun _ _ => by simp [Except.isOk, Except.toBool], rfl⟩
  · refine .inr ⟨c.bytes, not_lt.mp hshort, ?_, rfl⟩
    intro t₁ t₂
    split_ifs <;> simp

theorem limits_step (lease : ConnectionLease) (c : Call) : (lease.step c).limits = lease.limits := by
  rcases consume_cases lease c with ⟨-, h⟩ | ⟨drawn, -, -, h⟩ <;> rw [h]

theorem refilled_le_burst (lease : ConnectionLease) (nowMs : Nat) : lease.refilled nowMs ≤ lease.limits.burstBytes := min_le_right _ _

theorem refilled_le (lease : ConnectionLease) (nowMs : Nat) : lease.refilled nowMs ≤
    lease.bucket.tokens + (nowMs - lease.bucket.lastMs) * lease.limits.bytesPerSecond / 1000 := by
  unfold refilled
  dsimp only
  omega

theorem tokens_step (lease : ConnectionLease) (c : Call) (h : lease.bucket.tokens ≤ lease.limits.burstBytes) :
    (lease.step c).bucket.tokens ≤ lease.limits.burstBytes := by
  rcases consume_cases lease c with ⟨-, hstep⟩ | ⟨drawn, -, -, hstep⟩
  · rw [hstep]; exact h
  · rw [hstep]; exact (Nat.sub_le _ _).trans (refilled_le_burst lease c.nowMs)

/-! ## The rate -/

variable {calls : List Call} {t₁ t₂ : Nat}

/-- nothing is accepted in an interval that has passed -/
theorem tally_late (h : ∀ c ∈ calls, t₂ < c.nowMs) : tally step (acceptedIn t₁ t₂) lease calls = 0 := by
  induction calls generalizing lease with
  | nil => rfl
  | cons c calls ih =>
    have hlate : ¬ c.nowMs ≤ t₂ := not_le.mpr (h c List.mem_cons_self)
    simp [tally, acceptedIn, hlate, ih fun c' hc' => h c' (List.mem_cons_of_mem _ hc')]

/-- two refills, each rounded down, give no more than one over both spans -/
theorem refill_add_le (rate : Nat) {a b c : Nat} (hab : a ≤ b) (hbc : b ≤ c) :
    (b - a) * rate / 1000 + rate * (c - b) / 1000 ≤ rate * (c - a) / 1000 := by
  have hspan : (b - a) * rate + rate * (c - b) = rate * (c - a) := by
    rw [Nat.mul_comm (b - a) rate, ← Nat.mul_add]
    congr 1
    omega
  calc (b - a) * rate / 1000 + rate * (c - b) / 1000 ≤ ((b - a) * rate + rate * (c - b)) / 1000 :=
        Nat.div_add_div_le_add_div
    _ = rate * (c - a) / 1000 := by rw [hspan]

/-- up to an instant, a bucket gives out what it holds and what it is refilled by then -/
theorem tally_le_tokens (hsorted : calls.Pairwise (·.nowMs ≤ ·.nowMs)) (hfrom : ∀ c ∈ calls, lease.bucket.lastMs ≤ c.nowMs) :
    tally step (acceptedIn t₁ t₂) lease calls ≤
      lease.bucket.tokens + lease.limits.bytesPerSecond * (t₂ - lease.bucket.lastMs) / 1000 := by
  induction calls generalizing lease with
  | nil => exact Nat.zero_le _
  | cons c calls ih =>
    obtain ⟨hnext, hrest⟩ := List.pairwise_cons.mp hsorted
    obtain ⟨hthis, hfrom⟩ := List.forall_mem_cons.mp hfrom
    by_cases hpast : t₂ < c.nowMs
    · have hlate : ∀ c' ∈ c :: calls, t₂ < c'.nowMs :=
        List.forall_mem_cons.mpr ⟨hpast, fun c' hc' => hpast.trans_le (hnext c' hc')⟩
      rw [tally_late hlate]
      exact Nat.zero_le _
    · rcases consume_cases lease c with ⟨hrefused, hstep⟩ | ⟨drawn, hdrawn, haccepted, hstep⟩
      · have hzero : lease.acceptedIn t₁ t₂ c = 0 := by simp [acceptedIn, hrefused]
        rw [tally, hzero, hstep, Nat.zero_add]
        exact ih hrest hfrom
      · have hih := @ih (lease.step c) hrest (by rw [hstep]; exact hnext)
        have hadd := refill_add_le lease.limits.bytesPerSecond hthis (not_lt.mp hpast)
        have hrefilled := refilled_le lease c.nowMs
        have hcount := haccepted t₁ t₂
        rw [tally]
        simp only [hstep] at hih ⊢
        omega

/-- **The rate holds over every interval.** -/
theorem tally_le_burst (hsorted : calls.Pairwise (·.nowMs ≤ ·.nowMs)) (hfull : lease.bucket.tokens ≤ lease.limits.burstBytes) :
    tally step (acceptedIn t₁ t₂) lease calls ≤ lease.limits.burstBytes + lease.limits.bytesPerSecond * (t₂ - t₁) / 1000 := by
  induction calls generalizing lease with
  | nil => exact Nat.zero_le _
  | cons c calls ih =>
    obtain ⟨hnext, hrest⟩ := List.pairwise_cons.mp hsorted
    have hih := @ih (lease.step c) hrest (by rw [limits_step]; exact tokens_step lease c hfull)
    rw [limits_step] at hih
    by_cases hwithin : t₁ ≤ c.nowMs
    · rcases consume_cases lease c with ⟨hrefused, -⟩ | ⟨drawn, hdrawn, haccepted, hstep⟩
      · have hzero : lease.acceptedIn t₁ t₂ c = 0 := by simp [acceptedIn, hrefused]
        rw [tally, hzero, Nat.zero_add]
        exact hih
      · -- from its first use within the interval on, the bucket starts from at most the burst
        have htokens := @tally_le_tokens (lease.step c) calls t₁ t₂ hrest (by rw [hstep]; exact hnext)
        have hspan : lease.limits.bytesPerSecond * (t₂ - c.nowMs) / 1000 ≤ lease.limits.bytesPerSecond * (t₂ - t₁) / 1000 :=
          Nat.div_le_div_right (Nat.mul_le_mul_left _ (by omega))
        have hburst := refilled_le_burst lease c.nowMs
        have hcount := haccepted t₁ t₂
        rw [tally]
        simp only [hstep] at htokens ⊢
        omega
    · have hzero : lease.acceptedIn t₁ t₂ c = 0 := by simp [acceptedIn, hwithin]
      rw [tally, hzero, Nat.zero_add]
      exact hih

/-! ## The idle timeout -/

/-- the calls that fit the burst are within the idle timeout of each other, the first one of `lastMs` -/
def Timely (limits : AdmissionLimits) (lastMs : Nat) (calls : List Call) : Prop :=
  (lastMs :: (calls.filter (·.bytes ≤ limits.burstBytes)).map (·.nowMs)).IsChain fun a b => b - a ≤ limits.idleTimeoutMs

theorem along_unexpired_iff :
    Along step Unexpired lease calls ↔ Timely lease.limits lease.bucket.lastMs calls := by
  induction calls generalizing lease with
  | nil => simp [Along, Timely]
  | cons c calls ih =>
    rw [Along, ih, limits_step]
    by_cases hfits : c.bytes ≤ lease.limits.burstBytes
    · -- the call is answered within the timeout of the last use, and is then the last use
      have hunexpired : Unexpired lease c ↔ c.nowMs - lease.bucket.lastMs ≤ lease.limits.idleTimeoutMs := by
        unfold Unexpired consume
        split_ifs with hidle hshort <;> simp <;> omega
      rw [hunexpired, Timely, Timely, List.filter_cons_of_pos (by simpa using hfits), List.map_cons,
        List.isChain_cons_cons]
      refine and_congr_right ?_
      intro hidle
      have hused : (lease.step c).bucket.lastMs = c.nowMs := by
        unfold step consume
        rw [if_neg (not_lt.mpr hfits), if_neg (not_lt.mpr hidle)]
        split_ifs <;> rfl
      rw [hused]
    · have hturned : lease.consume c.bytes c.nowMs = (.error .rateLimited, lease) := if_pos (not_le.mp hfits)
      rw [Timely, Timely, List.filter_cons_of_neg (by simpa using hfits)]
      simp [Unexpired, step, hturned]

end ConnectionLease

open ConnectionLease

/-- a lease starts with a full bucket that was last used at 0 -/
theorem admitInner_eq_ok {principal : Option AdmissionPrincipal} {admission admission' : RelayAdmission} {lease : ConnectionLease}
    (h : admission.admitInner principal = .ok (lease, admission')) :
    lease.limits = admission.limits ∧ lease.bucket = .new admission.limits.burstBytes := by
  unfold RelayAdmission.admitInner at h
  simp only [seq_eq_ok] at h
  obtain ⟨-, -, h⟩ := h
  rcases principal with _ | ⟨routeId, _ | slotId⟩ <;> simp only [seq_eq_ok, pure_eq_ok, Prod.mk.injEq] at h
  · rw [← h.1]; exact ⟨rfl, rfl⟩
  · rw [← h.2.1]; exact ⟨rfl, rfl⟩
  · rw [← h.2.2.1]; exact ⟨rfl, rfl⟩

/-- **The byte budget of a lease.** In every interval the lease accepts no more than the burst and the refill of the interval;
and it never says that it has expired exactly if the calls that fit the burst are within the idle timeout of each other and
the first of them within the idle timeout of instant 0. -/
theorem budget_kept {principal : Option AdmissionPrincipal} {admission admission' : RelayAdmission} {lease : ConnectionLease}
    (h : admission.admitInner principal = .ok (lease, admission')) {calls : List Call}
    (hsorted : calls.Pairwise (·.nowMs ≤ ·.nowMs)) :
    (∀ t₁ t₂, tally step (acceptedIn t₁ t₂) lease calls ≤
      admission.limits.burstBytes + admission.limits.bytesPerSecond * (t₂ - t₁) / 1000) ∧
    (Along step Unexpired lease calls ↔ Timely admission.limits 0 calls) := by
  obtain ⟨hlimits, hbucket⟩ := admitInner_eq_ok h
  constructor
  · intro t₁ t₂
    have hfull : lease.bucket.tokens ≤ lease.limits.burstBytes := by rw [hbucket, hlimits]; exact le_rfl
    simpa only [hlimits] using tally_le_burst hsorted hfull
  · rw [along_unexpired_iff, hlimits, hbucket]
    rfl

/-- the lease of the first connection -/
def firstLease : ConnectionLease := ⟨1, none, {}, .new 262144⟩

theorem budget_kept_first : Along step Unexpired firstLease [⟨1000, 5⟩, ⟨300000, 80000⟩, ⟨262144, 90001⟩] ↔
    Timely {} 0 [⟨1000, 5⟩, ⟨300000, 80000⟩, ⟨262144, 90001⟩] :=
  (@budget_kept none {} _ firstLease rfl _ (by decide)).2

/-- consumes that follow the admission and each other within the idle timeout -/
def Prompt (limits : AdmissionLimits) (admittedAtMs : Nat) (calls : List Call) : Prop :=
  (admittedAtMs :: calls.map (·.nowMs)).IsChain fun a b => a ≤ b ∧ b - a ≤ limits.idleTimeoutMs

/-- a lease admitted at a present-day instant has expired when it is used a millisecond later -/
theorem admitted_lease_expires :
    ¬ ∀ calls, Prompt firstLease.limits 1700000000000 calls → Along step Unexpired firstLease calls := by
  intro h
  have hprompt : Prompt firstLease.limits 1700000000000 [⟨1, 1700000000001⟩] := by simp [Prompt, firstLease]
  exact (h _ hprompt).1 rfl

end Kaleido.Relay
