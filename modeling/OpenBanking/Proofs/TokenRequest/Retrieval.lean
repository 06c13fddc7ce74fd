import OpenBanking.Proofs.Asking
import OpenBanking.Proofs.Json.NormalForm
import OpenBanking.Proofs.Keys.Fresh
import OpenBanking.Proofs.TokenRequest.Legible
import OpenBanking.TokenRequest.CallbackState

/-!
# Stored token requests are retrieved as they were

A token request is stored as one message and retrieved as another one, which have only the JSON of
the payload and of the options in common. Whatever an answer does to their members, as long as it
keeps them, the request that is retrieved is the one that was stored.
-/

namespace OpenBanking

open Json

/-- The members of the body that stores a token request. -/
def TokenRequest.sent (request : TokenRequest) : List (String × Value) :=
  [("request_payload", toValue request.payload), ("request_options", toValue request.options)]

/-- The members of a stored token request hand back members that were sent: it has an id, and under
the names of payload and options stand the values that were sent, the members of objects in whatever
order. Members of other names may stand among them, but none stands twice. -/
structure HandsBack (sent stored : List (String × Value)) : Prop where
  /-- No name stands twice. -/
  once : (names stored).Nodup
  /-- The request has an id. -/
  id : ∃ id, ("id", .string id) ∈ stored
  /-- Payload and options are those that were sent. -/
  same : ∀ name ∈ ["request_payload", "request_options"], ∃ value written,
    (name, value) ∈ stored ∧ (name, written) ∈ sent ∧ Reordered value written

namespace TokenRequest

variable {request : TokenRequest} {stored : List (String × Value)}

/-- A stored token request that hands back what was sent tells the payload and the options. The
answer and the stored request take two of the levels that arrays and objects may nest. -/
theorem exists_tells (back : HandsBack request.sent stored) :
    ∃ id, StoredTokenRequest.fields.Tells 125 stored
      (id, request.payload, request.options, ()) := by
  obtain ⟨id, named⟩ := back.id
  obtain ⟨payload, written, held, sent, reordered⟩ := back.same "request_payload" (by simp)
  obtain ⟨options, writtenToo, heldToo, sentToo, reorderedToo⟩ :=
    back.same "request_options" (by simp)
  obtain rfl : written = toValue request.payload := by simpa [TokenRequest.sent] using sent
  obtain rfl : writtenToo = toValue request.options := by simpa [TokenRequest.sent] using sentToo
  exact ⟨id, .inl ⟨_, named, Legible.understands id (.string id)⟩,
    .inl ⟨payload, held, Legible.understands _ reordered⟩,
    .inl ⟨options, heldToo, Legible.understands _ reorderedToo⟩, trivial⟩

/-- Every text of an answer that hands back what was sent holds the payload and the options. -/
theorem exists_decode_of_handsBack (back : HandsBack request.sent stored)
    {members : List (String × Value)} (once : (names members).Nodup)
    (held : ("token_request", .object stored) ∈ members) {body : List UInt8}
    (spells : Spells body (.object members)) :
    ∃ id, decode body = .ok (⟨⟨id, request.payload, request.options⟩⟩ : TokenRequestResponse) := by
  obtain ⟨id, tells⟩ := exists_tells back
  have inner : Understands ((Wire.codec : Codec StoredTokenRequest).read 126) (.object stored)
      ⟨id, request.payload, request.options⟩ :=
    Codec.record_understands "StoredTokenRequest" tells (by decide) back.once
  have outer : TokenRequestResponse.fields.Tells 126 members
      (⟨id, request.payload, request.options⟩, ()) := ⟨.inl ⟨_, held, inner⟩, trivial⟩
  have response : Understands ((Wire.codec : Codec TokenRequestResponse).read depthLimit)
      (.object members) ⟨⟨id, request.payload, request.options⟩⟩ :=
    Codec.record_understands "TokenRequestResponse" outer (by decide) once
  exact ⟨id, response.whole spells⟩

end TokenRequest

/-- With a low key a token request is stored in one call, whose body is an object of its payload and
its options. -/
theorem Client.exists_call_storeTokenRequest (request : TokenRequest) {client : Client}
    {session : Session} {low : SecretKey} (opened : session.channel.closed = false)
    (found : session.keys.byLevel session.now client.engine.memberId .low = .ok low) :
    ∃ call : Call, ((client.storeTokenRequest request).run session).2.calls =
        session.calls ++ [call] ∧
      call.method = .storeTokenRequest ∧ call.body = (Value.object request.sent).octets := by
  obtain ⟨call, method, body, ran⟩ := Client.exists_run_ask (β := TokenRequestResponse) opened found
    .storeTokenRequest (⟨request.payload, request.options⟩ : StoreTokenRequestRequest)
  refine ⟨call, ?_, method, body⟩
  rw [Client.storeTokenRequest, Flow.run_bind_pure, ran]
  rfl

/-- The payload and the options that an answer holds are retrieved. -/
theorem Anonymous.run_retrieveTokenRequest {session : Session}
    (opened : session.channel.closed = false) {requestId : String} {body : List UInt8}
    (answered : (session.gateway session.calls (session.channel.plainCall .retrieveTokenRequest
      (⟨requestId⟩ : RetrieveTokenRequestRequest))).result = .ok body)
    (nonempty : body ≠ []) {response : TokenRequestResponse}
    (decoded : decode body = .ok response) :
    ((Anonymous.retrieveTokenRequest requestId).run session).1 =
      .ok ⟨response.stored.payload, response.stored.options⟩ := by
  have some : body.isEmpty = false := List.isEmpty_eq_false_iff.2 nonempty
  have read : Session.read TokenRequestResponse (session.gateway session.calls
      (session.channel.plainCall .retrieveTokenRequest
        (⟨requestId⟩ : RetrieveTokenRequestRequest))) = .ok response := by
    rw [Session.read, answered]
    simp only [Session.readAnswer, some, Bool.false_eq_true, ↓reduceIte, decoded]
  have ran := run_ask_of_open (β := TokenRequestResponse) opened .retrieveTokenRequest
    (⟨requestId⟩ : RetrieveTokenRequestRequest)
  rw [retrieveTokenRequest, Flow.run_bind_pure, ran, ← Channel.plainCall, read]
  rfl

/-- A client with a low key stores a token request in one call, whose body is an object of its
payload and its options. Whoever asks for a token request later, and is answered with these two
members in any text and any order, at every depth, gets the request that was stored, and so the same
callback state. -/
theorem TokenRequest.retrieved_as_stored (request : TokenRequest) {client : Client}
    {session : Session} {low : SecretKey} (opened : session.channel.closed = false)
    (found : session.keys.byLevel session.now client.engine.memberId .low = .ok low) :
    ∃ call : Call,
      ((client.storeTokenRequest request).run session).2.calls = session.calls ++ [call] ∧
      call.method = .storeTokenRequest ∧ call.body = (Value.object request.sent).octets ∧
      ∀ (later : Session) (requestId : String) (body : List UInt8)
        (members stored : List (String × Value)),
        later.channel.closed = false →
        (later.gateway later.calls (later.channel.plainCall .retrieveTokenRequest
          (⟨requestId⟩ : RetrieveTokenRequestRequest))).result = .ok body →
        Spells body (.object members) → (names members).Nodup →
        ("token_request", .object stored) ∈ members → HandsBack request.sent stored →
        ∃ retrieved, ((Anonymous.retrieveTokenRequest requestId).run later).1 = .ok retrieved ∧
          retrieved = request ∧
          CallbackState.parse retrieved.payload.callbackState =
            CallbackState.parse request.payload.callbackState := by
  obtain ⟨call, sent, method, body⟩ := Client.exists_call_storeTokenRequest request opened found
  refine ⟨call, sent, method, body, ?_⟩
  intro later requestId answer members stored openedLater answered spells once held back
  obtain ⟨id, decoded⟩ := exists_decode_of_handsBack back once held spells
  exact ⟨request, Anonymous.run_retrieveTokenRequest openedLater answered spells.opens.ne_nil decoded,
    rfl, rfl⟩

namespace TokenRequest

/-- A request for accounts on behalf of someone. -/
def onBehalf : TokenRequest where
  payload :=
    { refId := "rf", actingAs := some { displayName := "Ann" }, body := .access ⟨[.accounts]⟩ }
  options := { bankId := "iron" }

/-- The members of its options, the other way round. -/
def onBehalfOptions : List (String × Value) :=
  [("receipt_requested", .bool false), ("source_account_id", .string ""),
    ("from", .object [("id", .string "")]), ("bank_id", .string "iron")]

/-- The members of its payload, every object the other way round. -/
def onBehalfPayload : List (String × Value) :=
  [("request_body", .object [("access", .object [("type", .array [.string "ACCOUNTS"])])]),
    ("destination_country", .string ""), ("callback_state", .string ""), ("description", .string ""),
    ("acting_as", .object [("secondary_name", .string ""), ("logo_url", .string ""),
      ("ref_id", .string ""), ("display_name", .string "Ann")]),
    ("to", .object [("id", .string "")]), ("ref_id", .string "rf"), ("redirect_url", .string ""),
    ("customization_id", .string ""), ("user_ref_id", .string "")]

/-- The stored request, with a mark among its members. -/
def onBehalfStored : List (String × Value) :=
  [("request_options", .object onBehalfOptions), ("stored", .bool true), ("id", .string "rq:1"),
    ("request_payload", .object onBehalfPayload)]

/-- The answer with the stored request is spelled by its text. -/
theorem spells_onBehalfStored :
    Spells (Value.object [("token_request", .object onBehalfStored)]).octets
      (.object [("token_request", .object onBehalfStored)]) := by
  have text := spells_octets_string
  have one (name : String) {value : Value} (spells : Spells value.octets value) :
      Spells (Value.object [(name, value)]).octets (.object [(name, value)]) :=
    spells_octets_object (List.forall_mem_singleton.2 spells)
  have kinds := spells_octets_array (List.forall_mem_singleton.2 (text "ACCOUNTS"))
  refine one _ (spells_octets_object ?_)
  simp only [onBehalfStored, onBehalfOptions, onBehalfPayload, List.forall_mem_cons]
  refine ⟨spells_octets_object ?_, .true, text _, spells_octets_object ?_, nofun⟩
  · simp only [List.forall_mem_cons]
    exact ⟨.false, text _, one _ (text _), text _, nofun⟩
  · simp only [List.forall_mem_cons]
    refine ⟨one _ (one _ kinds), text _, text _, text _, spells_octets_object ?_, one _ (text _),
      text _, text _, text _, text _, nofun⟩
    simp only [List.forall_mem_cons]
    exact ⟨text _, text _, text _, text _, nofun⟩

/-- The options are those that were sent. -/
theorem reordered_onBehalfOptions :
    Reordered (.object onBehalfOptions) (toValue onBehalf.options) :=
  .object (List.reverse_perm onBehalfOptions).symm rfl <|
    .cons (.string "iron") <| .cons (reordered_single "id" (.string "")) <| .cons (.string "") <|
      .cons (.bool false) .nil

/-- The payload is the one that was sent. -/
theorem reordered_onBehalfPayload :
    Reordered (.object onBehalfPayload) (toValue onBehalf.payload) := by
  have empty := Reordered.string ""
  have actingAs : Reordered (.object [("secondary_name", .string ""), ("logo_url", .string ""),
      ("ref_id", .string ""), ("display_name", .string "Ann")])
      (toValue ({ displayName := "Ann" } : ActingAs)) :=
    .object (List.reverse_perm _).symm rfl <|
      .cons (.string "Ann") <| .cons empty <| .cons empty <| .cons empty .nil
  have access : Reordered (.object [("access", .object [("type", .array [.string "ACCOUNTS"])])])
      (toValue (RequestBody.access ⟨[.accounts]⟩)) :=
    reordered_single "access" (reordered_single "type" (.array (.cons (.string "ACCOUNTS") .nil)))
  exact .object (List.reverse_perm onBehalfPayload).symm rfl <|
    .cons empty <| .cons empty <| .cons empty <| .cons (.string "rf") <|
    .cons (reordered_single "id" empty) <| .cons actingAs <| .cons empty <| .cons empty <|
    .cons empty <| .cons access .nil

/-- The answer hands back what was sent. -/
theorem handsBack_onBehalfStored : HandsBack onBehalf.sent onBehalfStored := by
  refine ⟨by decide, ⟨"rq:1", by simp [onBehalfStored]⟩, ?_⟩
  simp only [List.forall_mem_cons]
  refine ⟨⟨_, _, ?_, List.mem_cons_self, reordered_onBehalfPayload⟩,
    ⟨_, _, List.mem_cons_self, ?_, reordered_onBehalfOptions⟩, nofun⟩
  · simp [onBehalfStored]
  · simp [TokenRequest.sent]

/-- A client of a member with one key stores the request, and someone without keys retrieves it. -/
theorem retrieved_as_stored_onBehalf :
    ∃ low, SecretKey.ofSeed KeyText.seedOfOnes .low = .ok low ∧
      ∃ call : Call, (((Client.new "m:1" ⟨"m:1"⟩).storeTokenRequest onBehalf).run
          (.steady {} (fun _ => []) (KeyStore.empty.put "m:1" low) [])).2.calls = [call] ∧
        call.body = (Value.object onBehalf.sent).octets ∧
        ((Anonymous.retrieveTokenRequest "rq:1").run
          (.steady {} (fun _ => (Value.object [("token_request", .object onBehalfStored)]).octets) .empty
            [])).1 = .ok onBehalf := by
  obtain ⟨pair, known⟩ := KeyText.exists_ofSeed_ones
  obtain ⟨low, made, _⟩ := SecretKey.exists_ofSeed known .low
  have found := KeyStore.byLevel_put_of_ofSeed made .empty "m:1" 0
  have spells := spells_onBehalfStored
  generalize (Value.object [("token_request", .object onBehalfStored)]).octets = answer at spells ⊢
  obtain ⟨call, sent, _, body, retrieves⟩ := @retrieved_as_stored onBehalf (.new "m:1" ⟨"m:1"⟩)
    (.steady {} (fun _ => []) (KeyStore.empty.put "m:1" low) []) low rfl found
  obtain ⟨retrieved, gave, rfl, _⟩ := retrieves (.steady {} (fun _ => answer) .empty []) "rq:1"
    answer _ _ rfl rfl spells (by decide) List.mem_cons_self handsBack_onBehalfStored
  exact ⟨low, made, call, sent, body, gave⟩

end TokenRequest

end OpenBanking
