/-
Addresses that a host keeps and hands to its phones (`kaleido-transport`, `bootstrap.rs`, `tls.rs` and `remote.rs`): the
endpoint of a service, the pin of its key, and the bootstrap of a remote pairing.

The parsers of the standard library for the two kinds of IP addresses are parameters. What they accept is short
(`AddressEnv.Short`), and so is every endpoint (`length_of_validateEndpoint`).
-/
import Kaleido.Transport.Remote

namespace Kaleido.Transport

open Check Proto State

/-- `parse::<Ipv4Addr>` and `parse::<Ipv6Addr>`, up to success -/
structure AddressEnv where
  isIpv4 : List Char → Bool
  isIpv6 : List Char → Bool

/-- an address in dotted notation has at most fifteen characters, one of the other kind at most forty-five -/
structure AddressEnv.Short (env : AddressEnv) : Prop where
  ipv4 : ∀ text, env.isIpv4 text = true → text.length ≤ 15
  ipv6 : ∀ text, env.isIpv6 text = true → text.length ≤ 45

/-! ## Endpoints -/

/-- a label of a name -/
def validLabel (label : List Char) : Bool :=
  !label.isEmpty && label.length ≤ 63 && label.head? != some '-' && label.getLast? != some '-' &&
    label.all fun c => c.isAlphanum || c == '-'

/-- `valid_dns_or_ipv4`, on ASCII text -/
def validDnsOrIpv4 (env : AddressEnv) (host : List Char) : Bool :=
  env.isIpv4 host || (!(host.isEmpty || host.length > 253 || host.head? == some '.' || host.getLast? == some '.') &&
    (host.splitOn '.').all validLabel)

/-- the number that decimal digits stand for -/
def decimalValue (digits : List Char) : Nat := digits.foldl (fun n c => 10 * n + (c.toNat - 48)) 0

/-- `valid_port` -/
def validPort (port : List Char) : Bool :=
  !port.isEmpty && port.all Char.isDigit && (port.length == 1 || port.head? != some '0') &&
    1 ≤ decimalValue port && decimalValue port ≤ 65535

/-- `split_once` -/
def splitOnce (separator : Char) : List Char → Option (List Char × List Char)
  | [] => none
  | c :: rest => if c = separator then some ([], rest) else (splitOnce separator rest).map fun parts => (c :: parts.1, parts.2)

/-- the host and the port of an endpoint whose host stands in brackets, after the first bracket -/
def bracketed (env : AddressEnv) (rest : List Char) : Option (List Char × List Char) :=
  match splitOnce ']' rest with
  | some (host, ':' :: port) => if '%' ∈ host ∨ ¬ env.isIpv6 host then none else some (host, port)
  | _ => none

/-- the host and the port of any other endpoint -/
def named (env : AddressEnv) (endpoint : List Char) : Option (List Char × List Char) :=
  match splitOnce ':' endpoint with
  | some (host, port) => if ':' ∈ port ∨ ¬ validDnsOrIpv4 env host then none else some (host, port)
  | none => none

/-- `validate_endpoint` -/
def validateEndpoint (env : AddressEnv) (endpoint : String) : Except TransportError Unit := do
  ensure (¬ (endpoint = "" ∨ ¬ endpoint.toList.all (·.toNat < 128) ∨
    endpoint.toList.any fun c => c == '/' || c == '?' || c == '#' || c == '@')) .malformedFrame
  let parts := match endpoint.toList with
    | '[' :: rest => bracketed env rest
    | text => named env text
  match parts with
  | none => .error .malformedFrame
  | some (host, port) => ensure (¬ (host.isEmpty ∨ ¬ validPort port)) .malformedFrame

/-! ### Endpoints are short -/

section

variable {env : AddressEnv}

theorem splitOnce_eq_some {separator : Char} {text before after : List Char}
    (h : splitOnce separator text = some (before, after)) : text = before ++ separator :: after := by
  induction text generalizing before with
  | nil => cases h
  | cons c rest ih =>
    unfold splitOnce at h
    split_ifs at h with hseparator
    · cases h
      rw [hseparator, List.nil_append]
    · obtain ⟨parts, hparts, hpair⟩ := Option.map_eq_some_iff.mp h
      cases hpair
      rw [List.cons_append, ← ih hparts]

theorem decimalValue_append (digits : List Char) (n : Nat) :
    n * 10 ^ digits.length ≤ digits.foldl (fun n c => 10 * n + (c.toNat - 48)) n := by
  induction digits generalizing n with
  | nil => simp
  | cons c digits ih =>
    calc n * 10 ^ (digits.length + 1) = 10 * n * 10 ^ digits.length := by ring
      _ ≤ (10 * n + (c.toNat - 48)) * 10 ^ digits.length := Nat.mul_le_mul_right _ (Nat.le_add_right _ _)
      _ ≤ _ := ih _

/-- a port has at most five digits -/
theorem length_of_validPort {port : List Char} (h : validPort port = true) : port.length ≤ 5 := by
  simp only [validPort, Bool.and_eq_true, Bool.or_eq_true, beq_iff_eq, bne_iff_ne, decide_eq_true_eq] at h
  obtain ⟨⟨⟨⟨-, hdigits⟩, hlead⟩, -⟩, hvalue⟩ := h
  cases port with
  | nil => simp
  | cons c rest =>
    rcases hlead with hone | hlead
    · omega
    · have hdigit := Json.isDigit_toNat (List.all_eq_true.mp hdigits c List.mem_cons_self)
      have hne : c.toNat ≠ 48 := fun hzero => hlead (congrArg some (Char.ext (UInt32.toNat_inj.mp hzero)))
      have hlow : (c.toNat - 48) * 10 ^ rest.length ≤ decimalValue (c :: rest) := by
        rw [decimalValue, List.foldl_cons]
        simpa using decimalValue_append rest (10 * 0 + (c.toNat - 48))
      have hpow : 10 ^ rest.length ≤ (c.toNat - 48) * 10 ^ rest.length :=
        Nat.le_mul_of_pos_left _ (by omega)
      have hbound : 10 ^ rest.length < 10 ^ 5 := by omega
      have hrest : rest.length < 5 := (Nat.pow_lt_pow_iff_right (by norm_num)).mp hbound
      rw [List.length_cons]
      omega

theorem length_of_bracketed (hshort : env.Short) {rest host port : List Char}
    (h : bracketed env rest = some (host, port)) : rest.length ≤ port.length + 47 := by
  unfold bracketed at h
  split at h
  · rename_i found after hsplit
    split_ifs at h with hrefused
    cases h
    have hhost := hshort.ipv6 host (not_not.mp (not_or.mp hrefused).2)
    rw [splitOnce_eq_some hsplit, List.length_append, List.length_cons, List.length_cons]
    omega
  · cases h

theorem length_of_named (hshort : env.Short) {endpoint host port : List Char}
    (h : named env endpoint = some (host, port)) : endpoint.length ≤ port.length + 254 := by
  unfold named at h
  split at h
  · rename_i found after hsplit
    split_ifs at h with hrefused
    cases h
    have hhost : host.length ≤ 253 := by
      have hvalid := not_not.mp (not_or.mp hrefused).2
      simp only [validDnsOrIpv4, Bool.or_eq_true, Bool.and_eq_true, Bool.not_eq_true', Bool.or_eq_false_iff,
        decide_eq_false_iff_not] at hvalid
      rcases hvalid with hipv4 | hname
      · exact (hshort.ipv4 host hipv4).trans (by norm_num)
      · omega
    rw [splitOnce_eq_some hsplit, List.length_append, List.length_cons]
    omega
  · cases h

/-- an endpoint has at most 259 bytes -/
theorem length_of_validateEndpoint (hshort : env.Short) {endpoint : String} (h : validateEndpoint env endpoint = .ok ()) :
    endpoint.utf8ByteSize ≤ 259 := by
  simp only [validateEndpoint, seq_eq_ok, ensure_eq_ok, not_or, not_not] at h
  obtain ⟨⟨-, hascii, -⟩, h⟩ := h
  have hbytes : endpoint.utf8ByteSize = endpoint.toList.length := by
    have hsize := Json.utf8ByteSize_ofList_ascii (l := endpoint.toList) fun c hc =>
      Json.utf8Size_ascii (of_decide_eq_true (List.all_eq_true.mp hascii c hc))
    rwa [String.ofList_toList] at hsize
  rw [hbytes]
  split at h
  · cases h
  · rename_i host port hparts
    have hlength := length_of_validPort (ensure_eq_ok.mp h).2
    split at hparts
    · rename_i rest htext
      have hrest := length_of_bracketed hshort hparts
      rw [htext, List.length_cons]
      omega
    · have hrest := length_of_named hshort hparts
      omega

end

/-! ## Pins and bootstraps -/

/-- `SpkiPin::parse`, up to success -/
def parseSpkiPin (encoded : String) : Except TransportError Unit :=
  match stripStart "sha256:".toList encoded.toList with
  | none => .error .invalidKeyMaterial
  | some digest => do
    ensure (¬ (digest.length ≠ 43 ∨ '=' ∈ digest)) .invalidKeyMaterial
    match Base64.decode digest with
    | none => .error .invalidKeyMaterial
    | some bytes => ensure (¬ (bytes.length ≠ 32 ∨ Base64.encode bytes ≠ digest)) .invalidKeyMaterial

theorem stripStart_eq_some {start text rest : List Char} (h : stripStart start text = some rest) : text = start ++ rest := by
  induction start generalizing text with
  | nil =>
    cases h
    rfl
  | cons p start ih =>
    cases text with
    | nil => cases h
    | cons c text =>
      unfold stripStart at h
      split_ifs at h with hsame
      rw [hsame, List.cons_append, ← ih h]

/-- a pin is the prefix and 43 characters of base64 -/
theorem parseSpkiPin_eq_ok {encoded : String} (h : parseSpkiPin encoded = .ok ()) :
    ∃ digest, encoded.toList = "sha256:".toList ++ digest ∧ digest.length = 43 ∧ ∀ c ∈ digest, c ∈ Base64.alphabet := by
  unfold parseSpkiPin at h
  cases hdigest : stripStart "sha256:".toList encoded.toList with
  | none =>
    rw [hdigest] at h
    cases h
  | some digest =>
    simp only [hdigest, seq_eq_ok, ensure_eq_ok, not_or, not_not] at h
    obtain ⟨⟨hlength, -⟩, h⟩ := h
    refine ⟨digest, stripStart_eq_some hdigest, hlength, ?_⟩
    cases hdecoded : Base64.decode digest with
    | none =>
      rw [hdecoded] at h
      cases h
    | some bytes => exact (Base64.decode_isSome_iff.mp (by rw [hdecoded]; rfl)).1

structure RemotePairingBootstrap where
  routeId : String
  routeHint : String
  deviceSlotId : String
  accessToken : String
  hostEndpointId : String
  relayUrl : String
  serviceEndpoint : String
  servicePublicKeyPin : String
  expiresAtMs : Int
  deriving DecidableEq

def maxBootstrapJsonBytes : Nat := 2048

/-- `validate_remote_bootstrap` -/
def validateRemoteBootstrap (env : AddressEnv) (bootstrap : RemotePairingBootstrap) : Except TransportError Unit := do
  validateRandomId bootstrap.routeId
  validateRandomId bootstrap.routeHint
  validateRandomId bootstrap.deviceSlotId
  validateToken bootstrap.accessToken
  validateEndpointId bootstrap.hostEndpointId
  validateRelayUrl bootstrap.relayUrl
  validateEndpoint env bootstrap.serviceEndpoint
  parseSpkiPin bootstrap.servicePublicKeyPin
  ensure (¬ bootstrap.expiresAtMs < 0) .malformedFrame

/-- the text inside the URI -/
instance : ToJson RemotePairingBootstrap := ⟨fun b => .obj
  [("version", toJson 1), ("route_id", toJson b.routeId), ("route_hint", toJson b.routeHint),
    ("device_slot_id", toJson b.deviceSlotId), ("access_token", toJson b.accessToken),
    ("host_endpoint_id", toJson b.hostEndpointId), ("relay_url", toJson b.relayUrl),
    ("service_endpoint", toJson b.serviceEndpoint), ("service_public_key_pin", toJson b.servicePublicKeyPin),
    ("expires_at_ms", toJson b.expiresAtMs)]⟩

/-- `encode_remote_bootstrap` -/
def encodeRemoteBootstrap (env : AddressEnv) (bootstrap : RemotePairingBootstrap) : Except TransportError String := do
  validateRemoteBootstrap env bootstrap
  ensure (¬ (toJson bootstrap).size > maxBootstrapJsonBytes) .frameTooLarge
  return "onekaleidoscope://remote/v1?data=" ++ String.ofList (Base64.encode (utf8 (toJson bootstrap).render))

end Kaleido.Transport
