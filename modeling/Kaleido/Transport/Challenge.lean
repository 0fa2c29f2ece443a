/-
Device authentication (`kaleido-transport`, `auth.rs`): the host issues a challenge for one connection, and the device signs
a transcript of it.

A challenge is taken out of the active map by the first proof that names it, so it is accepted at most once whatever happens
to the tombstones, which `cancel_connection` erases. The transcript is read back field by field (`transcript_unambiguous`), so
a signature that verifies for one transcript only is accepted for one challenge only. `challenge_once` is the result over every
interleaving of the operations.
-/
import Kaleido.Transport.Decoder

namespace Kaleido.Transport

open Check Proto State

def challengeLifetimeMs : Int := 30000

/-! ## Versions -/

/-- `str::parse::<u64>`: a sign is allowed -/
def parseU64 (text : List Char) : Option Nat :=
  let digits := if text.head? = some '+' then text.tail else text
  if digits = [] ∨ ¬ digits.all Char.isDigit then none
  else
    let n := digits.foldl (fun n c => n * 10 + (c.toNat - '0'.toNat)) 0
    if n ≤ u64Max then some n else none

/-- `parse_version_component` -/
def parseVersionComponent (component : List Char) : Option Nat :=
  if component = [] ∨ (1 < component.length ∧ component.head? = some '0') ∨ ¬ component.all Char.isDigit then none
  else parseU64 component

/-- three numbers between dots -/
def parseVersion (component : List Char → Option Nat) (version : String) : Option (Nat × Nat × Nat) :=
  match version.toList.splitOn '.' with
  | [major, minor, patch] => do return (← component major, ← component minor, ← component patch)
  | _ => none

/-- `version_is_compatible` of the transport -/
def transportVersionIsCompatible (peer : String) : Bool :=
  match parseVersion parseVersionComponent peer with
  | some (major, minor, _) => major == 0 && minor == 1
  | none => false

/-- `version_is_compatible` of the protocol, whose version is 0.5.0 -/
def protocolVersionIsCompatible (peer : String) : Bool :=
  match parseVersion parseU64 "0.5.0", parseVersion parseU64 peer with
  | some (0, minor, _), some (0, peerMinor, _) => minor == peerMinor
  | some (major, _, _), some (peerMajor, _, _) => major == peerMajor
  | _, _ => false

example : transportVersionIsCompatible "0.1.7" = true ∧ transportVersionIsCompatible "0.01.7" = false ∧
    protocolVersionIsCompatible "0.+5.7" = true := by decide

/-! ## The transcript -/

/-- `ChallengeTranscript` -/
structure ChallengeTranscript where
  transportVersion : String
  protocolVersion : String
  hostId : HostId
  deviceId : DeviceId
  tlsExporter : List UInt8
  challengeId : List UInt8
  nonce : List UInt8
  expiresAtMs : Int

/-- `TRANSCRIPT_MAGIC` -/
def transcriptMagic : List UInt8 := utf8 "OneKaleidoscope.DeviceAuth.v1"

/-- `u16::to_be_bytes` -/
def beBytes16 (n : Nat) : List UInt8 := [1, 0].map fun i => UInt8.ofNat (n / 256 ^ i)

/-- `append_sized` -/
def appendSized (output : List UInt8) (value : String) : Except TransportError (List UInt8) := do
  ensure (value ≠ "") .authenticationFailed
  ensure ((utf8 value).length < 2 ^ 16) .authenticationFailed
  return output ++ (beBytes16 (utf8 value).length ++ utf8 value)

/-- `build_transcript` -/
def buildTranscript (input : ChallengeTranscript) : Except TransportError (List UInt8) := do
  ensure (transportVersionIsCompatible input.transportVersion ∧ protocolVersionIsCompatible input.protocolVersion ∧
    ¬ input.hostId.isEmpty ∧ ¬ input.deviceId.isEmpty ∧ input.tlsExporter.length = 32 ∧ input.challengeId.length = 16 ∧
    input.nonce.length = 32) .authenticationFailed
  let transcript ← appendSized transcriptMagic input.transportVersion
  let transcript ← appendSized transcript input.protocolVersion
  let transcript ← appendSized transcript input.hostId.value
  let transcript ← appendSized transcript input.deviceId.value
  return transcript ++ input.tlsExporter ++ input.challengeId ++ input.nonce ++
    beBytes64 (input.expiresAtMs % 2 ^ 64).toNat

theorem ofBeBytes_beBytes16 {n : Nat} (h : n < 2 ^ 16) : ofBeBytes (beBytes16 n) = n := by
  simp only [beBytes16, ofBeBytes, List.map_cons, List.map_nil, List.foldl_cons, List.foldl_nil, UInt8.toNat_ofNat']
  omega

theorem appendSized_eq_ok {output bytes : List UInt8} {value : String} :
    appendSized output value = .ok bytes ↔
      value ≠ "" ∧ (utf8 value).length < 2 ^ 16 ∧ output ++ (beBytes16 (utf8 value).length ++ utf8 value) = bytes := by
  simp only [appendSized, seq_eq_ok, ensure_eq_ok, pure_eq_ok]

/-- a sized text is read back off the front -/
theorem sized_append_inj {value value' : String} {rest rest' : List UInt8} (hlen : (utf8 value).length < 2 ^ 16)
    (hlen' : (utf8 value').length < 2 ^ 16)
    (h : beBytes16 (utf8 value).length ++ utf8 value ++ rest = beBytes16 (utf8 value').length ++ utf8 value' ++ rest') :
    value = value' ∧ rest = rest' := by
  rw [List.append_assoc, List.append_assoc] at h
  obtain ⟨hsize, h⟩ := List.append_inj h rfl
  have hsame : (utf8 value).length = (utf8 value').length := by
    calc (utf8 value).length = ofBeBytes (beBytes16 (utf8 value).length) := (ofBeBytes_beBytes16 hlen).symm
      _ = ofBeBytes (beBytes16 (utf8 value').length) := by rw [hsize]
      _ = (utf8 value').length := ofBeBytes_beBytes16 hlen'
  obtain ⟨htext, hrest⟩ := List.append_inj h hsame
  exact ⟨utf8_inj htext, hrest⟩

/-- the layout of a transcript -/
theorem buildTranscript_eq_ok {t : ChallengeTranscript} {bytes : List UInt8} (h : buildTranscript t = .ok bytes) :
    (t.tlsExporter.length = 32 ∧ t.challengeId.length = 16 ∧ t.nonce.length = 32) ∧
    ((utf8 t.transportVersion).length < 2 ^ 16 ∧ (utf8 t.protocolVersion).length < 2 ^ 16 ∧
      (utf8 t.hostId.value).length < 2 ^ 16 ∧ (utf8 t.deviceId.value).length < 2 ^ 16) ∧
    bytes = transcriptMagic ++
      (beBytes16 (utf8 t.transportVersion).length ++ utf8 t.transportVersion ++
      (beBytes16 (utf8 t.protocolVersion).length ++ utf8 t.protocolVersion ++
      (beBytes16 (utf8 t.hostId.value).length ++ utf8 t.hostId.value ++
      (beBytes16 (utf8 t.deviceId.value).length ++ utf8 t.deviceId.value ++
      (t.tlsExporter ++ (t.challengeId ++ (t.nonce ++ beBytes64 (t.expiresAtMs % 2 ^ 64).toNat))))))) := by
  obtain ⟨hfields, h⟩ := seq_eq_ok.mp h
  obtain ⟨-, -, -, -, hexporter, hid, hnonce⟩ := ensure_eq_ok.mp hfields
  simp only [bind_eq_ok, pure_eq_ok, appendSized_eq_ok] at h
  obtain ⟨-, ⟨-, htransport, rfl⟩, -, ⟨-, hprotocol, rfl⟩, -, ⟨-, hhost, rfl⟩, -, ⟨-, hdevice, rfl⟩, rfl⟩ := h
  refine ⟨⟨hexporter, hid, hnonce⟩, ⟨htransport, hprotocol, hhost, hdevice⟩, ?_⟩
  simp only [List.append_assoc]

/-- a transcript is read back field by field; the expiry is read modulo the width of its eight bytes -/
theorem buildTranscript_inj {t t' : ChallengeTranscript} {bytes : List UInt8} (h : buildTranscript t = .ok bytes)
    (h' : buildTranscript t' = .ok bytes) :
    t.transportVersion = t'.transportVersion ∧ t.protocolVersion = t'.protocolVersion ∧ t.hostId.value = t'.hostId.value ∧
      t.deviceId.value = t'.deviceId.value ∧ t.tlsExporter = t'.tlsExporter ∧ t.challengeId = t'.challengeId ∧
      t.nonce = t'.nonce ∧ t.expiresAtMs % 2 ^ 64 = t'.expiresAtMs % 2 ^ 64 := by
  obtain ⟨⟨hexporter, hid, hnonce⟩, ⟨htransport, hprotocol, hhost, hdevice⟩, rfl⟩ := buildTranscript_eq_ok h
  obtain ⟨⟨hexporter', hid', hnonce'⟩, ⟨htransport', hprotocol', hhost', hdevice'⟩, heq⟩ := buildTranscript_eq_ok h'
  obtain ⟨htransports, heq⟩ := sized_append_inj htransport htransport' (List.append_cancel_left heq)
  obtain ⟨hprotocols, heq⟩ := sized_append_inj hprotocol hprotocol' heq
  obtain ⟨hhosts, heq⟩ := sized_append_inj hhost hhost' heq
  obtain ⟨hdevices, heq⟩ := sized_append_inj hdevice hdevice' heq
  obtain ⟨hexporters, heq⟩ := List.append_inj heq (hexporter.trans hexporter'.symm)
  obtain ⟨hids, heq⟩ := List.append_inj heq (hid.trans hid'.symm)
  obtain ⟨hnonces, hexpiry⟩ := List.append_inj heq (hnonce.trans hnonce'.symm)
  have hread := congrArg ofBeBytes hexpiry
  rw [ofBeBytes_beBytes64 (by omega), ofBeBytes_beBytes64 (by omega)] at hread
  exact ⟨htransports, hprotocols, hhosts, hdevices, hexporters, hids, hnonces, by omega⟩

/-! ## The store -/

/-- the curve: `decode_p256_spki` succeeds, the signature is canonical DER, the key verifies -/
structure SignatureEnv where
  decodesSpki : List UInt8 → Bool
  canonicalDer : List UInt8 → Bool
  verifies : List UInt8 → List UInt8 → List UInt8 → Bool

/-- `verify_transcript_signature` -/
def SignatureEnv.verifyTranscriptSignature (env : SignatureEnv) (publicKeySpki transcript signatureDer : List UInt8) :
    Except TransportError Unit := do
  ensure (env.decodesSpki publicKeySpki) .invalidKeyMaterial
  ensure (env.canonicalDer signatureDer) .authenticationFailed
  ensure (env.verifies publicKeySpki transcript signatureDer) .authenticationFailed

/-- the expiry is a value of its type -/
def ChallengeTranscript.InRange (t : ChallengeTranscript) : Prop := i64Min ≤ t.expiresAtMs ∧ t.expiresAtMs ≤ i64Max

/-- **A transcript names its challenge.** Whoever signs the bytes signs the versions, the host, the device, the exporter, the
challenge, its nonce and its expiry; so a signature that a key verifies for one message only is a signature for one device,
host, connection and challenge. -/
theorem transcript_unambiguous {t t' : ChallengeTranscript} (ht : t.InRange) (ht' : t'.InRange) {bytes bytes' : List UInt8}
    (h : buildTranscript t = .ok bytes) (h' : buildTranscript t' = .ok bytes') :
    (bytes = bytes' → t = t') ∧
    ∀ (env : SignatureEnv) (key signature : List UInt8),
      (∀ m m', env.verifies key m signature = true → env.verifies key m' signature = true → m = m') →
      env.verifyTranscriptSignature key bytes signature = .ok () →
      env.verifyTranscriptSignature key bytes' signature = .ok () → t = t' := by
  have hsame : bytes = bytes' → t = t' := by
    rintro rfl
    obtain ⟨htransport, hprotocol, hhost, hdevice, hexporter, hid, hnonce, hexpiry⟩ := buildTranscript_inj h h'
    have hexpires : t.expiresAtMs = t'.expiresAtMs := by
      unfold ChallengeTranscript.InRange i64Min i64Max at ht ht'
      omega
    rcases t with ⟨_, _, ⟨_⟩, ⟨_⟩, _, _, _, _⟩
    simp_all only
  refine ⟨hsame, ?_⟩
  intro env key signature hone hsigned hsigned'
  simp only [SignatureEnv.verifyTranscriptSignature, seq_eq_ok, ensure_eq_ok] at hsigned hsigned'
  exact hsame (hone _ _ hsigned.2.2 hsigned'.2.2)

def sampleTranscript : ChallengeTranscript :=
  ⟨"0.1.0", "0.5.0", ⟨"host"⟩, ⟨"phone"⟩, List.replicate 32 1, List.replicate 16 2, List.replicate 32 3, 30000⟩

/-- moving a letter from the host's name to the device's changes the bytes -/
theorem transcript_unambiguous_sample :
    buildTranscript sampleTranscript ≠ buildTranscript { sampleTranscript with hostId := ⟨"hostp"⟩, deviceId := ⟨"hone"⟩ } := by
  intro h
  have hsome : ∃ bytes, buildTranscript sampleTranscript = .ok bytes := ⟨_, rfl⟩
  obtain ⟨bytes, hbuilt⟩ := hsome
  have hrange : sampleTranscript.InRange := by unfold ChallengeTranscript.InRange; decide
  have hsame := (transcript_unambiguous hrange (by exact hrange) hbuilt (h.symm.trans hbuilt)).1 rfl
  exact absurd (congrArg (·.hostId.value) hsame) (by decide)

/-- `DeviceChallenge` -/
structure DeviceChallenge where
  requestId : Nat
  challengeId : List UInt8
  nonce : List UInt8
  expiresAtMs : Int

/-- `ChallengeProof` -/
structure ChallengeProof where
  requestId : Nat
  challengeId : List UInt8
  signatureDer : List UInt8
  deriving DecidableEq

/-- `StoredChallenge` -/
structure StoredChallenge where
  connectionScope : String
  requestId : Nat
  transportVersion : String
  protocolVersion : String
  hostId : HostId
  deviceId : DeviceId
  tlsExporter : List UInt8
  nonce : List UInt8
  expiresAtMs : Int

/-- `IssueChallenge` -/
structure IssueChallenge where
  connectionScope : String
  requestId : Nat
  transportVersion : String
  protocolVersion : String
  hostId : HostId
  deviceId : DeviceId
  tlsExporter : List UInt8
  nowMs : Int

/-- what the device has to sign -/
def StoredChallenge.transcript (stored : StoredChallenge) (challengeId : List UInt8) : ChallengeTranscript :=
  ⟨stored.transportVersion, stored.protocolVersion, stored.hostId, stored.deviceId, stored.tlsExporter, challengeId,
    stored.nonce, stored.expiresAtMs⟩

/-- the challenge of a request, with the nonce that was drawn -/
def IssueChallenge.stored (input : IssueChallenge) (nonce : List UInt8) : StoredChallenge :=
  ⟨input.connectionScope, input.requestId, input.transportVersion, input.protocolVersion, input.hostId, input.deviceId,
    input.tlsExporter, nonce, input.nowMs + challengeLifetimeMs⟩

/-- `ChallengeStore` -/
structure ChallengeStore where
  active : OrdMap (List UInt8) StoredChallenge := ∅
  consumed : List (String × List UInt8) := []

namespace ChallengeStore

variable (env : SignatureEnv)

/-- `issue`, for the identifier and the nonce that were drawn -/
def issue (store : ChallengeStore) (input : IssueChallenge) (challengeId nonce : List UInt8) :
    Except TransportError (DeviceChallenge × ChallengeStore) := do
  ensure (input.connectionScope ≠ "" ∧ input.requestId ≠ 0) .authenticationFailed
  ensure (input.nowMs + challengeLifetimeMs ≤ i64Max) .timeOverflow
  let _ ← buildTranscript ((input.stored nonce).transcript challengeId)
  return (⟨input.requestId, challengeId, nonce, input.nowMs + challengeLifetimeMs⟩,
    { store with active := store.active.insert challengeId (input.stored nonce) })

/-- the checks of `verify` on the challenge it took out -/
def checkProof (stored : StoredChallenge) (connectionScope : String) (proof : ChallengeProof) (publicKeySpki : List UInt8)
    (revoked : Bool) (nowMs : Int) : Except TransportError DeviceId := do
  ensure (stored.connectionScope = connectionScope ∧ stored.requestId = proof.requestId) .authenticationFailed
  ensure (nowMs < stored.expiresAtMs) .challengeExpired
  ensure (revoked = false) .authenticationFailed
  let transcript ← buildTranscript (stored.transcript proof.challengeId)
  env.verifyTranscriptSignature publicKeySpki transcript proof.signatureDer
  return stored.deviceId

/-- `verify` -/
def verify (store : ChallengeStore) (connectionScope : String) (proof : ChallengeProof) (publicKeySpki : List UInt8)
    (revoked : Bool) (nowMs : Int) : Except TransportError DeviceId × ChallengeStore :=
  if (connectionScope, proof.challengeId) ∈ store.consumed then (.error .challengeReplayed, store)
  else
    match store.active[proof.challengeId]? with
    | none => (.error .authenticationFailed, store)
    | some stored => (checkProof env stored connectionScope proof publicKeySpki revoked nowMs,
        ⟨store.active.erase proof.challengeId, (stored.connectionScope, proof.challengeId) :: store.consumed⟩)

/-- `cancel_connection` -/
def cancelConnection (store : ChallengeStore) (connectionScope : String) : ChallengeStore :=
  ⟨store.active.filter fun _ challenge => challenge.connectionScope ≠ connectionScope,
    store.consumed.filter fun tombstone => tombstone.1 ≠ connectionScope⟩

end ChallengeStore

/-! ## Runs -/

inductive ChallengeOp where
  | issue (input : IssueChallenge) (challengeId nonce : List UInt8)
  | verify (connectionScope : String) (proof : ChallengeProof) (publicKeySpki : List UInt8) (revoked : Bool) (nowMs : Int)
  | cancel (connectionScope : String)

/-- a challenge that was issued -/
structure Issued where
  input : IssueChallenge
  challenge : DeviceChallenge

/-- a proof that was accepted, with what it was presented with -/
structure Accepted where
  connectionScope : String
  proof : ChallengeProof
  publicKeySpki : List UInt8
  nowMs : Int
  deviceId : DeviceId

/-- the store, the challenges it issued and the proofs it accepted -/
structure ChallengeLog where
  store : ChallengeStore := {}
  issued : List Issued := []
  accepted : List Accepted := []

namespace ChallengeLog

variable (env : SignatureEnv)

def step (S : ChallengeLog) : ChallengeOp → ChallengeLog
  | .issue input challengeId nonce =>
    match S.store.issue input challengeId nonce with
    | .ok (challenge, store) => { S with store := store, issued := ⟨input, challenge⟩ :: S.issued }
    | .error _ => S
  | .verify connectionScope proof publicKeySpki revoked nowMs =>
    match S.store.verify env connectionScope proof publicKeySpki revoked nowMs with
    | (.ok deviceId, store) =>
      { S with store := store, accepted := ⟨connectionScope, proof, publicKeySpki, nowMs, deviceId⟩ :: S.accepted }
    | (.error _, store) => { S with store := store }
  | .cancel connectionScope => { S with store := S.store.cancelConnection connectionScope }

/-- the identifier that is drawn was not drawn before -/
def Fresh (S : ChallengeLog) : ChallengeOp → Prop
  | .issue _ challengeId _ => ∀ i ∈ S.issued, i.challenge.challengeId ≠ challengeId
  | _ => True

end ChallengeLog

/-- what the device that was sent the challenge has to sign -/
def Issued.transcript (i : Issued) : ChallengeTranscript := (i.input.stored i.challenge.nonce).transcript i.challenge.challengeId

/-- the proof was made for the challenge: it names it, came on its connection with its request identifier before it expired,
and its signature verifies for its transcript -/
structure Issued.Admits (env : SignatureEnv) (i : Issued) (a : Accepted) : Prop where
  challenge : a.proof.challengeId = i.challenge.challengeId
  scope : a.connectionScope = i.input.connectionScope
  request : a.proof.requestId = i.input.requestId
  inTime : a.nowMs < i.challenge.expiresAtMs
  device : a.deviceId = i.input.deviceId
  signed : ∃ transcript, buildTranscript i.transcript = .ok transcript ∧
    env.verifyTranscriptSignature a.publicKeySpki transcript a.proof.signatureDer = .ok ()

namespace ChallengeLog

variable {env : SignatureEnv} {S : ChallengeLog}

/-- what holds between operations -/
structure Sound (env : SignatureEnv) (S : ChallengeLog) : Prop where
  active : ∀ (challengeId : List UInt8) (stored : StoredChallenge), S.store.active[challengeId]? = some stored →
    (∃ i ∈ S.issued, i.challenge.challengeId = challengeId ∧ i.challenge.expiresAtMs = stored.expiresAtMs ∧
      stored = i.input.stored i.challenge.nonce) ∧
    ∀ a ∈ S.accepted, a.proof.challengeId ≠ challengeId
  bound : ∀ a ∈ S.accepted, ∃ i ∈ S.issued, i.Admits env a
  once : (S.accepted.map (·.proof.challengeId)).Nodup

/-- fewer active challenges, and more tombstones or fewer -/
theorem Sound.fewer (h : Sound env S) {store : ChallengeStore}
    (hstore : ∀ (challengeId : List UInt8) (stored : StoredChallenge), store.active[challengeId]? = some stored →
      S.store.active[challengeId]? = some stored) : Sound env { S with store := store } :=
  ⟨fun challengeId stored hactive => h.active challengeId stored (hstore challengeId stored hactive), h.bound, h.once⟩

/-- a challenge is issued -/
theorem Sound.issue (h : Sound env S) {input : IssueChallenge} {challengeId nonce : List UInt8} {challenge : DeviceChallenge}
    {store : ChallengeStore} (hfresh : ∀ i ∈ S.issued, i.challenge.challengeId ≠ challengeId)
    (hissue : S.store.issue input challengeId nonce = .ok (challenge, store)) :
    Sound env { S with store := store, issued := ⟨input, challenge⟩ :: S.issued } := by
  simp only [ChallengeStore.issue, bind_eq_ok, pure_eq_ok, Prod.mk.injEq] at hissue
  obtain ⟨-, -, -, -, -, -, rfl, rfl⟩ := hissue
  refine ⟨?_, ?_, h.once⟩
  · intro other stored hactive
    rcases OrdMap.of_get_insert hactive with ⟨rfl, rfl⟩ | ⟨-, hactive⟩
    · refine ⟨⟨_, List.mem_cons_self, rfl, rfl, rfl⟩, ?_⟩
      -- an accepted proof names a challenge that was issued before
      intro a ha hsame
      obtain ⟨i, hi, hadmits⟩ := h.bound a ha
      exact hfresh i hi (hadmits.challenge.symm.trans hsame)
    · obtain ⟨⟨i, hi, hissued⟩, hunused⟩ := h.active other stored hactive
      exact ⟨⟨i, List.mem_cons_of_mem _ hi, hissued⟩, hunused⟩
  · intro a ha
    obtain ⟨i, hi, hadmits⟩ := h.bound a ha
    exact ⟨i, List.mem_cons_of_mem _ hi, hadmits⟩

/-- a proof is accepted for a challenge that was active -/
theorem Sound.accept (h : Sound env S) {stored : StoredChallenge} {scope : String} {proof : ChallengeProof}
    {publicKeySpki : List UInt8} {revoked : Bool} {nowMs : Int} {deviceId : DeviceId} {store : ChallengeStore}
    (hactive : S.store.active[proof.challengeId]? = some stored)
    (hstore : store.active = S.store.active.erase proof.challengeId)
    (hcheck : ChallengeStore.checkProof env stored scope proof publicKeySpki revoked nowMs = .ok deviceId) :
    Sound env { S with store := store, accepted := ⟨scope, proof, publicKeySpki, nowMs, deviceId⟩ :: S.accepted } := by
  obtain ⟨⟨i, hi, hid, hexpires, rfl⟩, hunused⟩ := h.active _ _ hactive
  simp only [ChallengeStore.checkProof, bind_eq_ok, pure_eq_ok] at hcheck
  obtain ⟨_, hscope, _, htime, _, -, transcript, htranscript, _, hsigned, rfl⟩ := hcheck
  obtain ⟨hscope, hrequest⟩ := ensure_eq_ok.mp hscope
  refine ⟨?_, ?_, ?_⟩
  · intro other stored hother
    rw [hstore, OrdMap.get_erase] at hother
    split_ifs at hother with heq
    obtain ⟨hissued, hothers⟩ := h.active other stored hother
    exact ⟨hissued, List.forall_mem_cons.mpr ⟨heq, hothers⟩⟩
  · refine List.forall_mem_cons.mpr
      ⟨⟨i, hi, hid.symm, hscope.symm, hrequest.symm, ?_, rfl, transcript, ?_, hsigned⟩, h.bound⟩
    · rw [hexpires]
      exact ensure_eq_ok.mp htime
    · rw [Issued.transcript, hid]
      exact htranscript
  · rw [List.map_cons, List.nodup_cons]
    refine ⟨?_, h.once⟩
    intro hmem
    obtain ⟨a, ha, hsame⟩ := List.mem_map.mp hmem
    exact hunused a ha hsame

/-- every operation keeps what holds -/
theorem Sound.step (h : Sound env S) {op : ChallengeOp} (hfresh : Fresh S op) : Sound env (S.step env op) := by
  cases op with
  | issue input challengeId nonce =>
    cases hissue : S.store.issue input challengeId nonce with
    | error e =>
      simp only [ChallengeLog.step, hissue]
      exact h
    | ok issued =>
      simp only [ChallengeLog.step, hissue]
      exact h.issue hfresh hissue
  | verify scope proof publicKeySpki revoked nowMs =>
    by_cases hreplayed : (scope, proof.challengeId) ∈ S.store.consumed
    · simp only [ChallengeLog.step, ChallengeStore.verify, if_pos hreplayed]
      exact h
    · cases hactive : S.store.active[proof.challengeId]? with
      | none =>
        simp only [ChallengeLog.step, ChallengeStore.verify, if_neg hreplayed, hactive]
        exact h
      | some stored =>
        cases hcheck : ChallengeStore.checkProof env stored scope proof publicKeySpki revoked nowMs with
        | error e =>
          simp only [ChallengeLog.step, ChallengeStore.verify, if_neg hreplayed, hactive, hcheck]
          refine h.fewer ?_
          intro other stored' hother
          rw [OrdMap.get_erase] at hother
          split_ifs at hother
          exact hother
        | ok deviceId =>
          simp only [ChallengeLog.step, ChallengeStore.verify, if_neg hreplayed, hactive, hcheck]
          exact h.accept hactive rfl hcheck
  | cancel scope =>
    refine h.fewer ?_
    intro other stored hother
    rw [ChallengeStore.cancelConnection, Std.ExtTreeMap.getElem?_filter'] at hother
    exact (Option.filter_eq_some_iff.mp hother).1

/-- **A challenge is answered once.** In every interleaving of issues, proofs and cancelled connections, a challenge has at
most one accepted proof; an accepted proof came on the connection and with the request identifier of its challenge, before it
expired, with a signature over its transcript; no proof is accepted twice, and when a signature verifies for one transcript
only, no signature is. -/
theorem challenge_once {env : SignatureEnv} {ops : List ChallengeOp} (hrun : Along (step env) Fresh {} ops) :
    let S := runFrom (step env) {} ops
    (∀ i ∈ S.issued, S.accepted.countP (fun a => a.proof.challengeId = i.challenge.challengeId) ≤ 1) ∧
    (∀ a ∈ S.accepted, ∃ i ∈ S.issued, i.Admits env a) ∧
    (S.accepted.map (·.proof)).Nodup ∧
    ((∀ key key' transcript transcript' signature, env.verifies key transcript signature = true →
        env.verifies key' transcript' signature = true → transcript = transcript') →
      (S.accepted.map (·.proof.signatureDer)).Nodup) := by
  intro S
  have hsound : Sound env S := run_inv (fun _ _ h hfresh => h.step hfresh) ⟨by simp, by simp, by simp⟩ hrun
  refine ⟨?_, hsound.bound, ?_, ?_⟩
  · intro i _
    have hcount := List.nodup_iff_count_le_one.mp hsound.once i.challenge.challengeId
    rw [List.count, List.countP_map] at hcount
    refine le_trans (le_of_eq (List.countP_congr ?_)) hcount
    simp
  · have honce := hsound.once
    rw [show (S.accepted.map (·.proof.challengeId)) = (S.accepted.map (·.proof)).map (·.challengeId) by simp] at honce
    exact honce.of_map
  · intro hone
    have hids : S.accepted.Pairwise fun a a' => a.proof.challengeId ≠ a'.proof.challengeId :=
      List.pairwise_map.mp hsound.once
    refine List.pairwise_map.mpr (hids.imp_of_mem ?_)
    intro a a' ha ha' hne hsame
    obtain ⟨i, -, hi⟩ := hsound.bound a ha
    obtain ⟨i', -, hi'⟩ := hsound.bound a' ha'
    obtain ⟨transcript, hbuilt, hsigned⟩ := hi.signed
    obtain ⟨transcript', hbuilt', hsigned'⟩ := hi'.signed
    simp only [SignatureEnv.verifyTranscriptSignature, seq_eq_ok, ensure_eq_ok] at hsigned hsigned'
    rw [← hsame] at hsigned'
    obtain rfl : transcript = transcript' := hone _ _ _ _ _ hsigned.2.2 hsigned'.2.2
    obtain ⟨-, -, -, -, -, hchallenge, -⟩ := buildTranscript_inj hbuilt hbuilt'
    exact hne (hi.challenge.trans (Eq.trans hchallenge hi'.challenge.symm))

/-- a stand-in for the curve: a signature is the transcript -/
def plainSignature : SignatureEnv where
  decodesSpki := fun _ => true
  canonicalDer := fun _ => true
  verifies := fun _ transcript signature => transcript = signature

def sampleIssue : IssueChallenge := ⟨"conn-a", 1, "0.1.0", "0.5.0", ⟨"host"⟩, ⟨"phone"⟩, List.replicate 32 1, 0⟩

def sampleProof : ChallengeProof where
  requestId := 1
  challengeId := List.replicate 16 2
  signatureDer := ((buildTranscript ((sampleIssue.stored (List.replicate 32 3)).transcript (List.replicate 16 2))).toOption).getD []

/-- the proof is accepted, its connection is cancelled, and it is presented again -/
def sampleReplay : List ChallengeOp :=
  [.issue sampleIssue (List.replicate 16 2) (List.replicate 32 3), .verify "conn-a" sampleProof [] false 5,
    .cancel "conn-a", .verify "conn-a" sampleProof [] false 6, .verify "conn-b" sampleProof [] false 7]

theorem challenge_once_sample : (runFrom (step plainSignature) {} sampleReplay).accepted.length = 1 ∧
    ((runFrom (step plainSignature) {} sampleReplay).accepted.map (·.proof)).Nodup := by
  have hrun : Along (step plainSignature) Fresh {} sampleReplay := by
    refine ⟨?_, trivial, trivial, trivial, trivial, trivial⟩
    intro i hi
    cases hi
  exact ⟨by decide +kernel, (challenge_once hrun).2.2.1⟩

end ChallengeLog

end Kaleido.Transport
