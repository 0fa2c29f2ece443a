/-
Base64 with the URL-safe alphabet and without padding. Three bytes are four characters; a rest of one or two bytes is two or
three characters, whose unused low bits are zero.

`decode_encode` and `encode_decode` are the two round trips: the decoder accepts exactly what the encoder writes.
`decode_isSome_iff` says which texts those are, and `length_of_decode` how many bytes they stand for.
-/
import Mathlib.Tactic

namespace Kaleido.Base64

def alphabet : List Char := "ABCDEFGHIJKLMNOPQRSTUVWXYZabcdefghijklmnopqrstuvwxyz0123456789-_".toList

/-- the character of six bits -/
def digit (n : Nat) : Char := alphabet.getD n 'A'

/-- the six bits of a character -/
def value (c : Char) : Option Nat := alphabet.findIdx? (· = c)

def encode : List UInt8 → List Char
  | [] => []
  | [a] => [digit (a.toNat / 4), digit (a.toNat % 4 * 16)]
  | [a, b] => [digit (a.toNat / 4), digit (a.toNat % 4 * 16 + b.toNat / 16), digit (b.toNat % 16 * 4)]
  | a :: b :: c :: rest =>
    digit (a.toNat / 4) :: digit (a.toNat % 4 * 16 + b.toNat / 16) :: digit (b.toNat % 16 * 4 + c.toNat / 64) ::
      digit (c.toNat % 64) :: encode rest

/-- a rest of two or three characters must leave its unused bits zero -/
def decode : List Char → Option (List UInt8)
  | [] => some []
  | [_] => none
  | [p, q] => do
    let x ← value p
    let y ← value q
    if y % 16 = 0 then some [UInt8.ofNat (x * 4 + y / 16)] else none
  | [p, q, r] => do
    let x ← value p
    let y ← value q
    let z ← value r
    if z % 4 = 0 then some [UInt8.ofNat (x * 4 + y / 16), UInt8.ofNat (y % 16 * 16 + z / 4)] else none
  | p :: q :: r :: s :: rest => do
    let x ← value p
    let y ← value q
    let z ← value r
    let w ← value s
    let bytes ← decode rest
    return UInt8.ofNat (x * 4 + y / 16) :: UInt8.ofNat (y % 16 * 16 + z / 4) :: UInt8.ofNat (z % 4 * 64 + w) :: bytes

/-! ## Characters -/

theorem value_digit : ∀ n < 64, value (digit n) = some n := by decide

theorem digit_value {c : Char} {n : Nat} (h : value c = some n) : n < 64 ∧ digit n = c := by
  obtain ⟨hlt, heq, -⟩ := List.findIdx?_eq_some_iff_getElem.mp h
  have hlength : alphabet.length = 64 := by decide
  refine ⟨hlength ▸ hlt, ?_⟩
  rw [digit, List.getD_eq_getElem?_getD, List.getElem?_eq_getElem hlt]
  simpa using heq

/-- a byte from its six high and two low bits, or from any two parts -/
theorem ofNat_eq {a : UInt8} {n : Nat} (h : n = a.toNat) : UInt8.ofNat n = a := by
  rw [h]
  exact UInt8.ofNat_toNat

/-! ## The round trips -/

theorem decode_encode (bytes : List UInt8) : decode (encode bytes) = some bytes := by
  induction bytes using encode.induct with
  | case1 => rfl
  | case2 a =>
    have ha := a.toNat_lt
    simp only [encode, decode, value_digit _ (by omega : a.toNat / 4 < 64),
      value_digit _ (by omega : a.toNat % 4 * 16 < 64), Option.bind_eq_bind, Option.bind_some]
    rw [if_pos (by omega), ofNat_eq (a := a) (by omega)]
  | case3 a b =>
    have ha := a.toNat_lt
    have hb := b.toNat_lt
    simp only [encode, decode, value_digit _ (by omega : a.toNat / 4 < 64),
      value_digit _ (by omega : a.toNat % 4 * 16 + b.toNat / 16 < 64),
      value_digit _ (by omega : b.toNat % 16 * 4 < 64), Option.bind_eq_bind, Option.bind_some]
    rw [if_pos (by omega), ofNat_eq (a := a) (by omega), ofNat_eq (a := b) (by omega)]
  | case4 a b c rest ih =>
    have ha := a.toNat_lt
    have hb := b.toNat_lt
    have hc := c.toNat_lt
    simp only [encode, decode, value_digit _ (by omega : a.toNat / 4 < 64),
      value_digit _ (by omega : a.toNat % 4 * 16 + b.toNat / 16 < 64),
      value_digit _ (by omega : b.toNat % 16 * 4 + c.toNat / 64 < 64), value_digit _ (by omega : c.toNat % 64 < 64), ih,
      Option.bind_eq_bind, Option.bind_some, Option.pure_def]
    rw [ofNat_eq (a := a) (by omega), ofNat_eq (a := b) (by omega), ofNat_eq (a := c) (by omega)]

theorem toNat_ofNat {n : Nat} (h : n < 256) : (UInt8.ofNat n).toNat = n := by
  exact Nat.mod_eq_of_lt h

/-- only the encoding of some bytes is decoded to them -/
theorem encode_decode {text : List Char} {bytes : List UInt8} (h : decode text = some bytes) : encode bytes = text := by
  induction text using decode.induct generalizing bytes with
  | case1 =>
    cases h
    rfl
  | case2 c => cases h
  | case3 p q =>
    simp only [decode, Option.bind_eq_bind, Option.bind_eq_some_iff, Option.ite_none_right_eq_some] at h
    obtain ⟨x, hx, y, hy, hlow, hbytes⟩ := h
    cases hbytes
    obtain ⟨hx64, rfl⟩ := digit_value hx
    obtain ⟨hy64, rfl⟩ := digit_value hy
    simp only [encode]
    rw [toNat_ofNat (by omega), show (x * 4 + y / 16) / 4 = x by omega, show (x * 4 + y / 16) % 4 * 16 = y by omega]
  | case4 p q r =>
    simp only [decode, Option.bind_eq_bind, Option.bind_eq_some_iff, Option.ite_none_right_eq_some] at h
    obtain ⟨x, hx, y, hy, z, hz, hlow, hbytes⟩ := h
    cases hbytes
    obtain ⟨hx64, rfl⟩ := digit_value hx
    obtain ⟨hy64, rfl⟩ := digit_value hy
    obtain ⟨hz64, rfl⟩ := digit_value hz
    simp only [encode]
    rw [toNat_ofNat (by omega), toNat_ofNat (by omega), show (x * 4 + y / 16) / 4 = x by omega,
      show (x * 4 + y / 16) % 4 * 16 + (y % 16 * 16 + z / 4) / 16 = y by omega,
      show (y % 16 * 16 + z / 4) % 16 * 4 = z by omega]
  | case5 p q r s rest ih =>
    simp only [decode, Option.bind_eq_bind, Option.bind_eq_some_iff, Option.pure_def] at h
    obtain ⟨x, hx, y, hy, z, hz, w, hw, later, hlater, hbytes⟩ := h
    cases hbytes
    obtain ⟨hx64, rfl⟩ := digit_value hx
    obtain ⟨hy64, rfl⟩ := digit_value hy
    obtain ⟨hz64, rfl⟩ := digit_value hz
    obtain ⟨hw64, rfl⟩ := digit_value hw
    simp only [encode, ih hlater]
    rw [toNat_ofNat (by omega), toNat_ofNat (by omega), toNat_ofNat (by omega),
      show (x * 4 + y / 16) / 4 = x by omega,
      show (x * 4 + y / 16) % 4 * 16 + (y % 16 * 16 + z / 4) / 16 = y by omega,
      show (y % 16 * 16 + z / 4) % 16 * 4 + (z % 4 * 64 + w) / 64 = z by omega,
      show (z % 4 * 64 + w) % 64 = w by omega]

/-! ## Which texts are decoded -/

/-- the low bits of the last character that a rest does not use are zero -/
def endsCanonically (text : List Char) : Bool :=
  match text.length % 4, text.getLast?.bind value with
  | 0, _ => true
  | 2, some n => n % 16 = 0
  | 3, some n => n % 4 = 0
  | _, _ => false

theorem length_of_decode {text : List Char} {bytes : List UInt8} (h : decode text = some bytes) :
    bytes.length = text.length * 3 / 4 := by
  induction text using decode.induct generalizing bytes with
  | case1 =>
    cases h
    rfl
  | case2 c => cases h
  | case3 p q =>
    simp only [decode, Option.bind_eq_bind, Option.bind_eq_some_iff, Option.ite_none_right_eq_some] at h
    obtain ⟨x, -, y, -, -, hbytes⟩ := h
    cases hbytes
    simp
  | case4 p q r =>
    simp only [decode, Option.bind_eq_bind, Option.bind_eq_some_iff, Option.ite_none_right_eq_some] at h
    obtain ⟨x, -, y, -, z, -, -, hbytes⟩ := h
    cases hbytes
    simp
  | case5 p q r s rest ih =>
    simp only [decode, Option.bind_eq_bind, Option.bind_eq_some_iff, Option.pure_def] at h
    obtain ⟨x, -, y, -, z, -, w, -, later, hlater, hbytes⟩ := h
    cases hbytes
    simp only [List.length_cons, ih hlater]
    omega

theorem exists_value_iff {c : Char} : (∃ n, value c = some n) ↔ c ∈ alphabet := by
  rw [← Option.isSome_iff_exists]
  simp [value, List.findIdx?_isSome]

theorem endsCanonically_cons (p q r s : Char) (rest : List Char) :
    endsCanonically (p :: q :: r :: s :: rest) = endsCanonically rest := by
  cases rest with
  | nil => simp [endsCanonically]
  | cons c rest =>
    have hlength : (p :: q :: r :: s :: c :: rest).length % 4 = (c :: rest).length % 4 := by
      simp only [List.length_cons]
      omega
    have hlast : (p :: q :: r :: s :: c :: rest).getLast? = (c :: rest).getLast? := by simp
    rw [endsCanonically, endsCanonically, hlength, hlast]

theorem decode_isSome_iff {text : List Char} :
    (decode text).isSome ↔ (∀ c ∈ text, c ∈ alphabet) ∧ endsCanonically text := by
  induction text using decode.induct with
  | case1 => simp [decode, endsCanonically]
  | case2 c => simp [decode, endsCanonically]
  | case3 p q =>
    simp only [← exists_value_iff]
    cases hp : value p <;> cases hq : value q <;> simp [decode, endsCanonically, hp, hq]
  | case4 p q r =>
    simp only [← exists_value_iff]
    cases hp : value p <;> cases hq : value q <;> cases hr : value r <;> simp [decode, endsCanonically, hp, hq, hr]
  | case5 p q r s rest ih =>
    have hdecode : (decode (p :: q :: r :: s :: rest)).isSome ↔
        (value p).isSome ∧ (value q).isSome ∧ (value r).isSome ∧ (value s).isSome ∧ (decode rest).isSome := by
      rw [decode]
      cases value p <;> cases value q <;> cases value r <;> cases value s <;> cases decode rest <;> simp
    rw [hdecode, ih, endsCanonically_cons]
    simp only [Option.isSome_iff_exists, exists_value_iff, List.forall_mem_cons, and_assoc]

end Kaleido.Base64
