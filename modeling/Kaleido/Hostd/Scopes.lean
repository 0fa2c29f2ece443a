/-
Idempotency scopes: what a command is recognised by (`kaleido-proto`, `command.rs`, `dedupe_key`; `kaleido-hostd`,
`broker.rs`, `device_envelope`; `kaleido-state`, `command_outbox.rs`, `device_command_key_digest` and `ticket_for`).

A text follows its length, in decimal digits up to a colon or in eight bytes, so it is read back whatever it contains
(`sized_inj`, `field_inj`). `idempotency_scopes_injective` is the result.
-/
import Kaleido.Hostd.Admission

namespace Kaleido.Hostd

open Proto State

/-- what `ticket_for` digests -/
def ticketMaterial (record : OutboxRecord) : List UInt8 :=
  lengthPrefixed (utf8 record.keyDigest) ++ lengthPrefixed (utf8 record.requestDigest) ++
    lengthPrefixed (utf8 record.envelope.commandId.value)

/-- digits end at the first colon -/
theorem digits_inj {n n' : Nat} {rest rest' : String} (h : toString n ++ (":" ++ rest) = toString n' ++ (":" ++ rest')) :
    n = n' ∧ rest = rest' := by
  have hcolon : ∀ n : Nat, ∀ c ∈ (toString n).toList, (c != ':') = true := by
    intro n c hc
    change c ∈ (Nat.repr n).toList at hc
    rw [Nat.repr_eq_ofList_toDigits, String.toList_ofList] at hc
    have hdigit := Nat.isDigit_of_mem_toDigits (by omega) (le_refl 10) hc
    rw [bne_iff_ne]
    rintro rfl
    cases hdigit
  have hlist := congrArg String.toList h
  simp only [String.toList_append] at hlist
  have hdigits := congrArg (List.takeWhile (· != ':')) hlist
  rw [List.takeWhile_append_of_pos (hcolon n), List.takeWhile_append_of_pos (hcolon n')] at hdigits
  obtain rfl : n = n' := Nat.repr_injective (String.toList_inj.1 (by simpa using hdigits))
  exact ⟨rfl, String.toList_inj.1 (by simpa using hlist)⟩

/-- a text follows its length -/
theorem sized_inj {text text' rest rest' : String}
    (h : toString text.utf8ByteSize ++ (":" ++ (text ++ rest)) = toString text'.utf8ByteSize ++ (":" ++ (text' ++ rest'))) :
    text = text' ∧ rest = rest' := by
  obtain ⟨hsize, hrest⟩ := digits_inj h
  have hbytes : utf8 text ++ utf8 rest = utf8 text' ++ utf8 rest' := by
    simpa [utf8, String.toByteArray_append] using congrArg utf8 hrest
  obtain ⟨htext, hrest⟩ := List.append_inj hbytes hsize
  exact ⟨utf8_inj htext, utf8_inj hrest⟩

theorem sized_pair_inj {text text' between key key' : String}
    (h : toString text.utf8ByteSize ++ (":" ++ (text ++ (between ++ (toString key.utf8ByteSize ++ (":" ++ key))))) =
      toString text'.utf8ByteSize ++ (":" ++ (text' ++ (between ++ (toString key'.utf8ByteSize ++ (":" ++ key')))))) :
    text = text' ∧ key = key' := by
  obtain ⟨rfl, hrest⟩ := sized_inj h
  exact ⟨rfl, (digits_inj ((String.append_right_inj between).1 hrest)).2⟩

theorem dedupeKey_inj {e e' : CommandEnvelope} (h : e.dedupeKey = e'.dedupeKey) :
    e.actor = e'.actor ∧ e.idempotencyKey = e'.idempotencyKey := by
  unfold CommandEnvelope.dedupeKey at h
  -- the kinds of actors differ in their first letters
  have hhead := congrArg (fun key => key.toList.head?) h
  cases hactor : e.actor <;> cases hactor' : e'.actor <;> simp only [hactor, hactor', String.append_assoc] at h hhead <;>
    try simp at hhead
  · obtain ⟨hdevice, hkey⟩ := sized_pair_inj ((String.append_right_inj _).1 h)
    exact ⟨congrArg (Actor.human ∘ Ident.mk) hdevice, hkey⟩
  · obtain ⟨hworkflow, hkey⟩ := sized_pair_inj ((String.append_right_inj _).1 h)
    exact ⟨congrArg (Actor.workflow ∘ Ident.mk) hworkflow, hkey⟩
  · simp only [String.append_right_inj] at h
    exact ⟨rfl, (digits_inj h).2⟩

theorem deviceSeed_inj {device device' : DeviceId} {key key' : String} (h : deviceSeed device key = deviceSeed device' key') :
    device = device' ∧ key = key' := by
  unfold deviceSeed at h
  simp only [String.append_assoc] at h
  obtain ⟨hdevice, hkey⟩ := sized_pair_inj h
  exact ⟨congrArg Ident.mk hdevice, hkey⟩

theorem ticketMaterial_inj {r r' : OutboxRecord} (hlen : (ticketMaterial r).length < 256 ^ 8)
    (h : ticketMaterial r = ticketMaterial r') :
    r.keyDigest = r'.keyDigest ∧ r.requestDigest = r'.requestDigest ∧ r.envelope.commandId = r'.envelope.commandId := by
  have hlen' := h ▸ hlen
  unfold ticketMaterial at h hlen hlen'
  rw [List.append_assoc, List.length_append] at hlen hlen'
  rw [List.append_assoc, List.append_assoc] at h
  obtain ⟨hkey, h⟩ := field_inj h (by omega) (by omega)
  rw [List.length_append] at hlen hlen'
  obtain ⟨hrequest, h⟩ := field_inj h (by omega) (by omega)
  exact ⟨utf8_inj hkey, utf8_inj hrequest, congrArg Ident.mk (utf8_inj (lengthPrefixed_inj h))⟩

/-- **Idempotency scopes are injective.** Whatever the texts contain, two envelopes have one `dedupe_key` only if they have
one actor and one key, and a seed is of one device and one key; the digested materials, which are byte vectors of the
program and so shorter than the range of their lengths, are of one device and one key and of one record. -/
theorem idempotency_scopes_injective :
    (∀ e e' : CommandEnvelope, e.dedupeKey = e'.dedupeKey → e.actor = e'.actor ∧ e.idempotencyKey = e'.idempotencyKey) ∧
    (∀ (device device' : DeviceId) (key key' : String), deviceSeed device key = deviceSeed device' key' →
      device = device' ∧ key = key') ∧
    (∀ (device device' : DeviceId) (key key' : String), (keyMaterial device key).length < 2 ^ 64 →
      keyMaterial device key = keyMaterial device' key' → device = device' ∧ key = key') ∧
    (∀ r r' : OutboxRecord, (ticketMaterial r).length < 2 ^ 64 → ticketMaterial r = ticketMaterial r' →
      r.keyDigest = r'.keyDigest ∧ r.requestDigest = r'.requestDigest ∧ r.envelope.commandId = r'.envelope.commandId) ∧
    ∀ (env : Env) (device : DeviceId) (key : String) (r : OutboxRecord),
      deviceCommandKeyDigest env device key = env.hexDigest (keyMaterial device key) ∧
      ticketFor env r = ⟨r.envelope.commandId, env.hexDigest (ticketMaterial r)⟩ := by
  refine ⟨fun _ _ => dedupeKey_inj, fun _ _ _ _ => deviceSeed_inj, ?_, fun _ _ => ticketMaterial_inj,
    fun _ _ _ _ => ⟨rfl, rfl⟩⟩
  intro device device' key key' hlen h
  have hlen' := h ▸ hlen
  unfold keyMaterial at hlen hlen'
  rw [List.length_append] at hlen hlen'
  exact keyMaterial_inj h (by omega) (by omega)

end Kaleido.Hostd
