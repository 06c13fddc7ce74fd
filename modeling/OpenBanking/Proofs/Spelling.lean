import OpenBanking.Proofs.Keys.Matching
import OpenBanking.Proofs.Text.Strict
import OpenBanking.Proofs.TokenRequest.CallbackState

/-!
# One spelling of octets

Whoever takes a signature or a callback state takes its base64url text, and octets have one text
that is taken. So nothing that is signed or handed back can be changed into another text that passes
for it: padding, foreign symbols, a symbol too many and stray bits are all refused.
-/

namespace OpenBanking

/-- A text is read, and it is the only text that is read as the same octets. -/
def SpeltOnce (text : String) : Prop :=
  ∃ octets, ∀ other, decodeBase64url other = .ok octets ↔ other = text

/-- A text that is read is the one spelling of what it is read as. -/
theorem speltOnce_of_decodeBase64url {text : String} {octets : List UInt8}
    (read : decodeBase64url text = .ok octets) : SpeltOnce text := by
  refine ⟨octets, fun other => ?_⟩
  rw [decodeBase64url_eq_ok_iff, decodeBase64url_eq_ok_iff.1 read]

/-- A signature that is accepted has one spelling. -/
theorem Verifier.speltOnce_of_verifyOctets {verifier : Verifier} {message : List UInt8}
    {signature : String} (accepted : verifier.verifyOctets message signature = .ok ()) :
    SpeltOnce signature := by
  unfold verifyOctets at accepted
  split at accepted
  next => cases accepted
  next octets read => exact speltOnce_of_decodeBase64url read

/-- A callback state that is accepted has one spelling. -/
theorem CallbackState.speltOnce_of_parse {text : String} {x : CallbackState}
    (accepted : parse text = .ok x) : SpeltOnce text := by
  unfold parse at accepted
  split at accepted
  next => cases accepted
  next octets read => exact speltOnce_of_decodeBase64url read

/-- A text is refused exactly if it is not accepted. -/
theorem exists_error_decodeBase64url_iff {text : String} :
    (∃ error, decodeBase64url text = .error error) ↔ ¬Base64url.Coded text.toList := by
  rw [← exists_decodeBase64url_iff]
  cases decodeBase64url text <;> simp

/-- Octets are written with letters, digits, hyphens and underscores, and exactly what is written
for octets is read as them. The texts that are read hold symbols of the alphabet only (the padding
sign is none), do not end in a single symbol left over, and have no stray bits; every other text is
refused. So the text of an accepted signature or callback state is the only one for its octets. -/
theorem base64url_spells_once :
    (∀ octets, (∀ c ∈ (Base64url.encode octets).toList, c ∈ Base64url.alphabet) ∧
      decodeBase64url (Base64url.encode octets) = .ok octets) ∧
    (∀ text octets, decodeBase64url text = .ok octets → text = Base64url.encode octets) ∧
    (∀ text, ((∃ octets, decodeBase64url text = .ok octets) ↔ Base64url.Coded text.toList) ∧
      ((∃ error, decodeBase64url text = .error error) ↔ ¬Base64url.Coded text.toList)) ∧
    '=' ∉ Base64url.alphabet ∧
    (∀ (verifier : Verifier) message signature,
      verifier.verifyOctets message signature = .ok () → SpeltOnce signature) ∧
    ∀ text x, CallbackState.parse text = .ok x → SpeltOnce text := by
  refine ⟨fun octets => ⟨?_, decodeBase64url_encode octets⟩,
    fun text octets read => decodeBase64url_eq_ok_iff.1 read,
    fun text => ⟨exists_decodeBase64url_iff, exists_error_decodeBase64url_iff⟩, by decide,
    fun verifier message signature => Verifier.speltOnce_of_verifyOctets,
    fun text x => CallbackState.speltOnce_of_parse⟩
  rw [Base64url.encode, String.toList_ofList]
  exact (Base64url.coded_encodeChars octets).symbols

/-- The signature of no octets by the seed of ones and the empty callback state have one spelling
each. -/
theorem base64url_spells_once_ones :
    (∃ (verifier : Verifier) (signature : String),
      verifier.verifyOctets [] signature = .ok () ∧ SpeltOnce signature) ∧
    CallbackState.parse (CallbackState.serialize {}) = .ok {} ∧
    SpeltOnce (CallbackState.serialize {}) := by
  obtain ⟨_, _, _, _, signatures, states⟩ := base64url_spells_once
  obtain ⟨pair, found⟩ := KeyText.exists_ofSeed_ones
  have accepted : (Verifier.mk pair.publicOctets).verifyOctets [] (Base64url.encode (pair.sign [])) =
      .ok () :=
    Verifier.verifyOctets_of_ok (decodeBase64url_encode _) (KeyText.verify_sign_of_ofSeed found [])
  have parsed := CallbackState.parse_serialize {}
  exact ⟨⟨_, _, accepted, signatures _ _ _ accepted⟩, parsed, states _ _ parsed⟩

end OpenBanking
