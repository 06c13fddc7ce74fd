import OpenBanking.Proofs.Json.Lossless
import OpenBanking.Proofs.Lossless.Request
import OpenBanking.Proofs.Text.Base64url
import OpenBanking.Proofs.TokenRequest.Beginning

/-!
# Callback states survive the web flow

A request carries its callback state as text of the URL-safe alphabet, from which the state is read
back: the digest of the mark that was set last, which is empty only if none was set, and the text
that was set last. A text that holds no state is refused with that very text.
-/

namespace OpenBanking

/-! ## Digests -/

/-- A digest has thirty-two octets. -/
theorem Digest.Sha256.length_hash (message : List UInt8) : (hash message).length = 32 := by
  simp [hash, Block.length_octets]

/-- The text of a digest is not empty. -/
theorem Digest.sha256Text_ne_empty (message : List UInt8) : sha256Text message ≠ "" := by
  intro empty
  have octets : Sha256.hash message = [] := by
    have read := Base64url.decode_encode (Sha256.hash message)
    rw [← sha256Text, empty] at read
    exact (Except.ok.inj read).symm
  have count := Sha256.length_hash message
  rw [octets] at count
  cases count

namespace CallbackState

/-! ## States and texts -/

/-- A state is read back from its text. -/
theorem parse_serialize (x : CallbackState) : parse x.serialize = .ok x := by
  rw [parse, serialize, decodeBase64url_encode]
  simp only [Json.decode_encode]

/-- A text holds a state or is refused as it is. -/
theorem parse_cases (text : String) :
    (∃ x, parse text = .ok x) ∨ ∃ reason, parse text = .error (.invalidCallbackState text reason) := by
  unfold parse
  split
  · exact .inr ⟨_, rfl⟩
  · split
    · exact .inl ⟨_, rfl⟩
    · exact .inr ⟨_, rfl⟩

/-- The digest of a state is empty exactly if no mark was set. -/
theorem csrfTokenHash_recorded_eq_empty_iff (sheet : Sheet) :
    (recorded sheet).csrfTokenHash = "" ↔ sheet.last? .csrfToken = none := by
  rw [recorded]
  cases sheet.last? .csrfToken with
  | none => simp
  | some token => simp [Digest.sha256Text_ne_empty]

end CallbackState

/-! ## States of requests -/

namespace Beginning

/-- The callback state of a request is written with letters, digits, hyphens and underscores and is
read back as what was set last; every state is read back from its text, and a text that holds none
is refused as it is. -/
theorem callbackState_survives (beginning : Beginning) (settings : List beginning.Setting) :
    (∀ c ∈ (beginning.request settings).payload.callbackState.toList,
      c.isAlphanum ∨ c = '-' ∨ c = '_') ∧
    (∃ x, CallbackState.parse (beginning.request settings).payload.callbackState = .ok x ∧
      x.csrfTokenHash = (((Sheet.of settings).last? .csrfToken).map fun token =>
        Digest.sha256Text (Utf8.encode token)).getD "" ∧
      (x.csrfTokenHash = "" ↔ (Sheet.of settings).last? .csrfToken = none) ∧
      x.state = ((Sheet.of settings).last? .state).getD "") ∧
    (∀ x, CallbackState.parse x.serialize = .ok x) ∧
    ∀ text, (∃ x, CallbackState.parse text = .ok x) ∨
      ∃ reason, CallbackState.parse text = .error (.invalidCallbackState text reason) := by
  have carried : (beginning.request settings).payload.callbackState =
      (CallbackState.recorded (.of settings)).serialize := by
    rw [request_eq]
    rfl
  refine ⟨fun c held => ?_, ⟨.recorded (.of settings), ?_, rfl, ?_, rfl⟩,
    CallbackState.parse_serialize, CallbackState.parse_cases⟩
  · rw [carried] at held
    exact Base64url.mem_alphabet_of_mem_encode held
  · rw [carried]
    exact CallbackState.parse_serialize _
  · exact CallbackState.csrfTokenHash_recorded_eq_empty_iff _

/-- The callback state of a standing order with an empty mark and two texts is written so. -/
theorem callbackState_survives_empty_mark :
    'e' ∈ ((standingOrder.request [.payment (.common (.state "first")),
      .payment (.common (.csrfToken "")), .payment (.common (.state "second"))]).payload.callbackState
        ).toList ∧
    ('e'.isAlphanum ∨ 'e' = '-' ∨ 'e' = '_') := by
  have held : 'e' ∈ ((standingOrder.request [.payment (.common (.state "first")),
      .payment (.common (.csrfToken "")), .payment (.common (.state "second"))]).payload.callbackState
        ).toList := by
    decide +kernel
  exact ⟨held, (callbackState_survives standingOrder _).1 _ held⟩

end Beginning

end OpenBanking
