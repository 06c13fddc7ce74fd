import OpenBanking.Config
import OpenBanking.Gateway.Identity
import OpenBanking.Gateway.Message
import OpenBanking.Proofs.Json.Choice
import OpenBanking.Proofs.Keys.Secret
import OpenBanking.Proofs.Keys.Store
import OpenBanking.Proofs.Text.Numeral

/-!
# Signed calls read back

A signed call carries its own evidence. Whoever gets it can read from its headers which key of which
level signed it and when, and the signature there is the one of that key over the body that stands
in the call and the time that the headers name.
-/

namespace OpenBanking

open Json

namespace Headers

/-- Headers of other names in front hide no header. -/
theorem value?_append_of_forall_ne {front : Headers} {name : String}
    (free : ∀ header ∈ front, header.1 ≠ name) (back : Headers) :
    (front ++ back : Headers).value? name = back.value? name := by
  have missing : front.find? (·.1 = name) = none := by
    rw [List.find?_eq_none]
    intro header held
    simpa using free header held
  rw [value?, List.find?_append, missing]
  rfl

end Headers

namespace HeaderName

/-- The headers by which a call names its member and its signature. -/
def ofIdentity : List String := [memberId, keyId, signature, createdAt]

/-- The headers by which a call names its context. -/
def ofContext : List String := [keyLevel, onBehalfOf, customerInitiated, tracking]

end HeaderName

/-- The static headers of a channel use none of the names that a signed call uses. -/
def Channel.LeavesNames (channel : Channel) : Prop :=
  ∀ header ∈ channel.headers, header.1 ∉ HeaderName.ofIdentity ++ HeaderName.ofContext

/-- The channel of every configuration leaves the names of signed calls. -/
theorem Config.leavesNames_channel {config : Config} {channel : Channel}
    (built : config.channel = .ok channel) : channel.LeavesNames := by
  unfold Config.channel at built
  split at built
  · cases built
  · split at built
    · cases built
    · cases built
      have apart : ∀ name ∈ [HeaderName.developerKey, HeaderName.platform, HeaderName.version],
          name ∉ HeaderName.ofIdentity ++ HeaderName.ofContext := by decide
      intro header held
      simp only [List.mem_cons, List.not_mem_nil, or_false] at held
      rcases held with rfl | rfl | rfl <;> exact apart _ (by simp)

/-- The text of a time is read as the time. -/
theorem timeOf?_integer (time : Int64) :
    timeOf? (String.ofList (Text.integer time.toInt)) = some time := by
  have least := Int64.le_toInt time
  have greatest := Int64.toInt_lt time
  have fits : -0x8000000000000000 ≤ time.toInt ∧ time.toInt ≤ 0x7FFFFFFFFFFFFFFF := by omega
  have back : Int64.ofInt time.toInt = time := Int64.ofInt_toInt time
  generalize time.toInt = k at fits back ⊢
  unfold timeOf?
  rw [String.toList_ofList]
  cases k with
  | ofNat n =>
    have number := Text.naturalOf?_natural n
    have unsigned := Text.head?_natural_ne_minus n
    rw [Text.integer]
    split
    next negative digits parted =>
      split at parted
      next rest written =>
        rw [written] at unsigned
        exact absurd rfl unsigned
      next =>
        cases parted
        simp only [number, Bool.false_eq_true, ↓reduceIte]
        exact (if_pos fits).trans (congrArg some back)
  | negSucc n =>
    have number := Text.naturalOf?_natural (n + 1)
    have value : -((n + 1 : Nat) : Int) = Int.negSucc n := rfl
    simp only [Text.integer, number, ↓reduceIte, value]
    exact (if_pos fits).trans (congrArg some back)

namespace Identity

variable {who : Identity} {session : Session}

/-- The signature of a body with a key at a time. -/
def bodySignature (key : SecretKey) (createdAt : Int64) (body : List UInt8) : String :=
  Base64url.encode
    (key.pair.sign (canonicalOctets (⟨Base64url.encode body, createdAt⟩ : Envelope)))

/-- The headers that sign a body with a key at a time. -/
def signedHeaders (who : Identity) (key : SecretKey) (createdAt : Int64) (body : List UInt8) :
    Headers :=
  [(HeaderName.memberId, who.memberId), (HeaderName.keyId, key.id),
      (HeaderName.signature, bodySignature key createdAt body),
      (HeaderName.createdAt, String.ofList (Text.integer createdAt.toInt))]
    ++ who.context.headers

/-- The call that sends a body signed with a key at a time. -/
def signedCall (who : Identity) (channel : Channel) (key : SecretKey) (createdAt : Int64)
    (method : Method) (body : List UInt8) : Call :=
  channel.callOf method (who.signedHeaders key createdAt body) body

/-- A body is signed with the key that is found, now. -/
theorem run_headers_of_byLevel {key : SecretKey}
    (found : session.keys.byLevel session.now who.engine.memberId who.context.keyLevel = .ok key)
    (body : List UInt8) :
    (who.headers body).run session = (.ok (who.signedHeaders key session.now body), session) := by
  refine (Flow.run_bind_of_ok (Engine.run_signer_of_byLevel found) _).trans ?_
  refine (Flow.run_bind_of_ok (Flow.run_read _ session) _).trans ?_
  exact (Flow.run_bind_of_ok (Flow.run_ofCrypto_ok _ session) _).trans rfl

/-- Without a key nothing is signed. -/
theorem run_headers_of_error {error : CryptoError}
    (missing :
      session.keys.byLevel session.now who.engine.memberId who.context.keyLevel = .error error)
    (body : List UInt8) : (who.headers body).run session = (.error (.crypto error), session) :=
  Flow.run_bind_of_error (Engine.run_signer_of_error missing) _

/-- Over an open channel an exchange is one signed call, and its answer is read. -/
theorem run_exchange_of_byLevel {α β : Type} [Wire α] [Wire β] {key : SecretKey}
    (found : session.keys.byLevel session.now who.engine.memberId who.context.keyLevel = .ok key)
    (opened : session.channel.closed = false) (method : Method) (x : α) :
    (who.exchange method x : Flow Session β).run session =
      (Session.read β (session.gateway session.calls
          (who.signedCall session.channel key session.now method (encode x))),
        session.answered (who.signedCall session.channel key session.now method (encode x))) :=
  (Flow.run_bind_of_ok (run_headers_of_byLevel found (encode x)) _).trans
    (Session.run_exchange_of_open opened method _ x)

/-- Without a key nothing is sent. -/
theorem run_exchange_of_error {α β : Type} [Wire α] [Wire β] {error : CryptoError}
    (missing :
      session.keys.byLevel session.now who.engine.memberId who.context.keyLevel = .error error)
    (method : Method) (x : α) :
    (who.exchange method x : Flow Session β).run session = (.error (.crypto error), session) :=
  Flow.run_bind_of_error (run_headers_of_error missing (encode x)) _

end Identity

/-! ## Reading a call back -/

/-- What a call says of itself: its headers name a time, and a key with its level, and the signature
among them is the one of this key over the body of the call and that time. -/
structure Call.Attests (call : Call) (key : SecretKey) (createdAt : Int64) : Prop where
  /-- The time can be read. -/
  createdAt_eq : (call.header? HeaderName.createdAt).bind timeOf? = some createdAt
  /-- The key is named. -/
  keyId_eq : call.header? HeaderName.keyId = some key.id
  /-- Its level can be read. -/
  keyLevel_eq : (call.header? HeaderName.keyLevel).bind ofName? = some key.level
  /-- The signature covers the body and the time. -/
  signature_eq : ∃ signature, call.header? HeaderName.signature = some signature ∧
    (Signer.ofSecret key).signOctets
      (canonicalOctets (⟨Base64url.encode call.body, createdAt⟩ : Envelope)) = .ok signature

/-- A signed call over a channel that leaves the names attests the key and the time. -/
theorem Identity.attests_signedCall {who : Identity} {channel : Channel}
    (leaves : channel.LeavesNames) {key : SecretKey} (level : key.level = who.context.keyLevel)
    (createdAt : Int64) (method : Method) (body : List UInt8) :
    (who.signedCall channel key createdAt method body).Attests key createdAt := by
  have own {name : String} (reserved : name ∈ HeaderName.ofIdentity ++ HeaderName.ofContext) :
      (who.signedCall channel key createdAt method body).header? name =
        (who.signedHeaders key createdAt body).value? name := by
    refine Headers.value?_append_of_forall_ne ?_ _
    intro header held same
    exact leaves header held (same ▸ reserved)
  constructor
  · have value : (who.signedHeaders key createdAt body).value? HeaderName.createdAt =
        some (String.ofList (Text.integer createdAt.toInt)) := rfl
    rw [own (by decide), value]
    exact timeOf?_integer createdAt
  · rw [own (by decide)]
    rfl
  · have value : (who.signedHeaders key createdAt body).value? HeaderName.keyLevel =
        some (toString who.context.keyLevel) := rfl
    rw [own (by decide), value, KeyLevel.toString_eq_nameOf, level]
    exact ofName?_nameOf _
  · exact ⟨_, (own (by decide)).trans rfl, rfl⟩

/-- A signed exchange over an open channel authenticates itself. If the member has a key of the
level that has not expired, exactly one call is sent: its headers are the static ones, member, key,
signature and time, then those of the context; and from the call alone the time and a key of the
member can be read, whose signature over the body and that time stands in the call. Otherwise the
exchange fails for want of a key, and nothing is sent. -/
theorem Identity.exchange_authenticates {α β : Type} [Wire α] [Wire β] (who : Identity)
    (own : who.engine.memberId = who.memberId) (method : Method) (x : α) (session : Session)
    (opened : session.channel.closed = false) (leaves : session.channel.LeavesNames) :
    ((∃ key, session.keys.CanSign session.now who.memberId who.context.keyLevel key) →
      ∃ call keyId signature createdAt,
        ((who.exchange method x : Flow Session β).run session).2.calls = session.calls ++ [call] ∧
          call.method = method ∧
          call.headers = session.channel.headers ++
            [(HeaderName.memberId, who.memberId), (HeaderName.keyId, keyId),
              (HeaderName.signature, signature), (HeaderName.createdAt, createdAt)] ++
            who.context.headers ∧
          call.body = encode x ∧
          ∃ key, session.keys.CanSign session.now who.memberId who.context.keyLevel key ∧
            call.Attests key session.now ∧
            (session.keys.Distinct →
              session.keys.byId session.now who.memberId keyId = .ok key)) ∧
    ((¬∃ key, session.keys.CanSign session.now who.memberId who.context.keyLevel key) →
      (who.exchange method x : Flow Session β).run session =
        (.error (.crypto (.noKey who.context.keyLevel who.memberId)), session)) := by
  constructor
  · rintro ⟨able, canSign⟩
    obtain ⟨key, found⟩ := KeyStore.exists_byLevel canSign
    have signs := KeyStore.canSign_of_byLevel found
    rw [← own] at found
    have ran := run_exchange_of_byLevel (β := β) found opened method x
    have attests := attests_signedCall leaves signs.level_eq session.now method (encode x)
    refine ⟨who.signedCall session.channel key session.now method (encode x), key.id,
      bodySignature key session.now (encode x), String.ofList (Text.integer session.now.toInt),
      ?_, rfl, ?_, rfl, key, signs, attests, ?_⟩
    · rw [ran, Session.answered_calls]
    · exact (List.append_assoc _ _ _).symm
    · intro distinct
      exact KeyStore.byId_of_canSign distinct signs
  · intro unable
    have missing := KeyStore.byLevel_of_forall_not (not_exists.1 unable)
    rw [← own] at missing
    have ran := run_exchange_of_error (β := β) missing method x
    rw [ran, own]

/-- A member with one key, which does not expire, asks for its aliases over a channel with the
headers of a developer. -/
theorem Identity.exchange_authenticates_seedOfOnes :
    ∃ key, SecretKey.ofSeed KeyText.seedOfOnes .low = .ok key ∧
      ∃ call signer,
        (((⟨"m:1", ⟨"m:1"⟩, {}⟩ : Identity).exchange .getAliases ({} : Empty) :
            Flow Session GetAliasesResponse).run
          (.steady { headers := [(HeaderName.developerKey, "d")] } (fun _ => [])
            (KeyStore.empty.put "m:1" key) [])).2.calls = [call] ∧ call.Attests signer 0 := by
  obtain ⟨pair, found⟩ := KeyText.exists_ofSeed_ones
  obtain ⟨key, made, _, level, lasting⟩ := SecretKey.exists_ofSeed found .low
  have leaves : ({ headers := [(HeaderName.developerKey, "d")] } : Channel).LeavesNames := by
    unfold Channel.LeavesNames
    decide
  have able : (KeyStore.empty.put "m:1" key).CanSign 0 "m:1" .low key :=
    ⟨KeyStore.mem_keysOf_put _ _ _, level, SecretKey.isExpired_of_eq_none lasting 0⟩
  obtain ⟨call, _, _, _, sent, _, _, _, signer, _, attests, _⟩ :=
    (exchange_authenticates (β := GetAliasesResponse) ⟨"m:1", ⟨"m:1"⟩, {}⟩ rfl .getAliases
      ({} : Empty) (.steady _ (fun _ => []) (KeyStore.empty.put "m:1" key) []) rfl leaves).1
      ⟨key, able⟩
  exact ⟨key, made, call, signer, sent, attests⟩

end OpenBanking
