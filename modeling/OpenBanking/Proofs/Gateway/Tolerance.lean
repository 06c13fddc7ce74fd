import OpenBanking.Proofs.Asking
import OpenBanking.Proofs.Json.Altered
import OpenBanking.Proofs.Keys.Fresh
import OpenBanking.Proofs.Lossless.Message

/-!
# Answers of other gateways

A gateway may be older than the client and leave out members of its answers, or newer and add some.
Every response is a record, so an altered answer is read as the response with the deleted fields at
their defaults. One field has no default: the status of a verified certificate, whose absence is an
error.
-/

namespace OpenBanking

open Json

/-- A type written as a record of lossless fields with distinct names. -/
class Recorded (α : Type) [Wire α] where
  /-- The product of the fields. -/
  Row : Type
  /-- What messages call it. -/
  label : String
  /-- Its fields. -/
  fields : Fields Row
  /-- The value of a row. -/
  pack : Row → α
  /-- The row of a value. -/
  unpack : α → Row
  /-- It is written as that record. -/
  codec_eq : (Wire.codec : Codec α) = .record label fields pack unpack
  /-- Rows lose nothing. -/
  pack_unpack : ∀ x, pack (unpack x) = x
  /-- The fields lose nothing on the levels that the record leaves them. -/
  lossless : fields.Lossless 126
  /-- No two fields have one name. -/
  nodup_names : fields.names.Nodup

namespace Recorded

variable {α : Type} [Wire α]

/-- A type whose form is a record. -/
@[reducible]
def of {ρ : Type} (label : String) (fields : Fields ρ) (pack : ρ → α) (unpack : α → ρ)
    (lossless : fields.Lossless 126 := by
      first | show Fields.Lossless _ (.cons _ _) | show Fields.Lossless _ .nil
      infer_instance)
    (codec_eq : (Wire.codec : Codec α) = .record label fields pack unpack := by rfl)
    (pack_unpack : ∀ x, pack (unpack x) = x := by exact fun _ => rfl)
    (nodup_names : fields.names.Nodup := by decide) : Recorded α :=
  ⟨ρ, label, fields, pack, unpack, codec_eq, pack_unpack, lossless, nodup_names⟩

variable [Recorded α]

instance : (fields : Fields (Row α)).Lossless 126 := lossless

/-- A value with the fields of some names at their defaults. -/
def reset [Inhabited α] (names : List String) (x : α) : α :=
  pack (fields.reset names (unpack default) (unpack x))

/-- A value of which every field is reset is the default. -/
theorem reset_names [Inhabited α] (x : α) :
    reset (fields : Fields (Row α)).names x = default := by
  rw [reset, fields.reset_of_subset _ _ fun name known => known, pack_unpack]

/-- A value is written as the members of its row. -/
theorem toValue_eq (x : α) :
    toValue x = .object ((fields : Fields (Row α)).members (unpack x)) := by
  rw [toValue, codec_eq]
  rfl

/-- An altered text of a value holds the value without what is deleted. -/
theorem decode_altered {x : α} {members : List (String × Value)}
    (written : toValue x = .object members) {deleted : List String}
    {added placed : List (String × List UInt8)}
    (unknown : ∀ member ∈ added, (fields : Fields (Row α)).Unknown member)
    (order : Altered members deleted added placed) :
    decode (objectOctets placed) =
      ((fields : Fields (Row α)).without deleted (unpack x)).map pack := by
  obtain rfl : (fields : Fields (Row α)).members (unpack x) = members := by
    simpa using (toValue_eq x).symm.trans written
  rw [decode, Codec.decode, codec_eq]
  exact Codec.record_read_altered (label α) nodup_names x unknown order

end Recorded

/-! ## The response of each method -/

instance : Recorded CreateMemberResponse :=
  .of "CreateMemberResponse" CreateMemberResponse.fields _ _

instance : Recorded MemberResponse :=
  .of "MemberResponse" MemberResponse.fields _ _

instance : Recorded Empty :=
  .of "Empty" Empty.fields _ _

instance : Recorded ResolveAliasResponse :=
  .of "ResolveAliasResponse" ResolveAliasResponse.fields _ _

instance : Recorded GetAliasesResponse :=
  .of "GetAliasesResponse" GetAliasesResponse.fields _ _

instance : Recorded GetDefaultAgentResponse :=
  .of "GetDefaultAgentResponse" GetDefaultAgentResponse.fields _ _

instance : Recorded VerificationIdResponse :=
  .of "VerificationIdResponse" VerificationIdResponse.fields _ _

instance : Recorded CompleteRecoveryResponse :=
  .of "CompleteRecoveryResponse" CompleteRecoveryResponse.fields _ _

instance : Recorded GetAccountResponse :=
  .of "GetAccountResponse" GetAccountResponse.fields _ _

instance : Recorded GetAccountsResponse :=
  .of "GetAccountsResponse" GetAccountsResponse.fields _ _

instance : Recorded GetBalanceResponse :=
  .of "GetBalanceResponse" GetBalanceResponse.fields _ _

instance : Recorded GetBalancesResponse :=
  .of "GetBalancesResponse" GetBalancesResponse.fields _ _

instance : Recorded GetTransactionResponse :=
  .of "GetTransactionResponse" GetTransactionResponse.fields _ _

instance : Recorded GetTransactionsResponse :=
  .of "GetTransactionsResponse" GetTransactionsResponse.fields _ _

instance : Recorded ResolveDestinationsResponse :=
  .of "ResolveTransferDestinationsResponse" ResolveDestinationsResponse.fields _ _

instance : Recorded GetBankInfoResponse :=
  .of "GetBankInfoResponse" GetBankInfoResponse.fields _ _

instance : Recorded GetBanksResponse :=
  .of "GetBanksResponse" GetBanksResponse.fields _ _

instance : Recorded NotifyResponse :=
  .of "NotifyResponse" NotifyResponse.fields _ _

instance : Recorded GetBlobResponse :=
  .of "GetBlobResponse" GetBlobResponse.fields _ _

instance : Recorded TokenRequestResponse :=
  .of "TokenRequestResponse" TokenRequestResponse.fields _ _

instance : Recorded EidasResponse :=
  .of "VerifyEidasResponse" EidasResponse.fields _ _

/-- What an answer is read as. -/
structure Response where
  /-- Its values. -/
  Carrier : Type
  /-- How they are written and read. -/
  wire : Wire Carrier
  /-- All fields at their defaults. -/
  blank : Inhabited Carrier
  /-- They are records. -/
  recorded : Recorded Carrier

namespace Response

/-- The values of a type. -/
def of (α : Type) [wire : Wire α] [blank : Inhabited α] [recorded : Recorded α] : Response :=
  ⟨α, wire, blank, recorded⟩

variable (response : Response)

instance : Wire response.Carrier := response.wire

instance : Inhabited response.Carrier := response.blank

instance : Recorded response.Carrier := response.recorded

/-- The fields of a response. -/
def fields : Fields (Recorded.Row response.Carrier) := Recorded.fields

end Response

/-- What the answer to a method is read as. -/
def Method.response : Method → Response
  | createMember => .of CreateMemberResponse
  | updateMember => .of MemberResponse
  | getMember => .of MemberResponse
  | deleteMember => .of Empty
  | resolveAlias => .of ResolveAliasResponse
  | getAliases => .of GetAliasesResponse
  | getDefaultAgent => .of GetDefaultAgentResponse
  | retryVerification => .of VerificationIdResponse
  | verifyAlias => .of Empty
  | beginRecovery => .of VerificationIdResponse
  | completeRecovery => .of CompleteRecoveryResponse
  | getAccount => .of GetAccountResponse
  | getAccounts => .of GetAccountsResponse
  | getBalance => .of GetBalanceResponse
  | getBalances => .of GetBalancesResponse
  | getTransaction => .of GetTransactionResponse
  | getTransactions => .of GetTransactionsResponse
  | resolveTransferDestinations => .of ResolveDestinationsResponse
  | getBankInfo => .of GetBankInfoResponse
  | getBanks => .of GetBanksResponse
  | notify => .of NotifyResponse
  | invalidateNotification => .of NotifyResponse
  | getBlob => .of GetBlobResponse
  | storeTokenRequest => .of TokenRequestResponse
  | retrieveTokenRequest => .of TokenRequestResponse
  | verifyEidas => .of EidasResponse

/-- Every field of every response has a default, save those of a verification. -/
theorem Method.defaults_fields {method : Method} (other : method ≠ .verifyEidas) :
    method.response.fields.Defaults
      (Recorded.unpack (default : method.response.Carrier)) := by
  cases method with
  | verifyEidas => exact absurd rfl other
  | _ => repeat' constructor

/-- The first field of a verification has to be given, the others have defaults. -/
theorem EidasResponse.without_fields (deleted : List String) (x : EidasResponse) :
    EidasResponse.fields.without deleted (Recorded.unpack x) =
      if "status" ∈ deleted then .error (.missingField "status")
      else .ok (EidasResponse.fields.reset deleted (Recorded.unpack (default : EidasResponse))
        (Recorded.unpack x)) := by
  have others : (Fields.cons (.withDefault "status_details" "")
      (.cons (.withDefault "verification_id" "") .nil)).Defaults ("", "", ()) :=
    ⟨rfl, rfl, trivial⟩
  exact Fields.without_of_required rfl others deleted _ _ _

namespace Method

/-- A response without some members has these fields at their defaults. -/
theorem without_fields (method : Method) (deleted : List String) (x : method.response.Carrier) :
    (method.response.fields.without deleted (Recorded.unpack x)).map Recorded.pack =
      if method = .verifyEidas ∧ "status" ∈ deleted then .error (.missingField "status")
      else .ok (Recorded.reset deleted x) := by
  by_cases own : method = .verifyEidas
  · subst own
    have row : (verifyEidas.response.fields.without deleted (Recorded.unpack x)) = _ :=
      EidasResponse.without_fields deleted x
    by_cases gone : "status" ∈ deleted
    · rw [row, if_pos gone, if_pos ⟨rfl, gone⟩]
      rfl
    · rw [row, if_neg gone, if_neg fun both => gone both.2]
      rfl
  · have row := Fields.without_of_defaults (defaults_fields own) deleted (Recorded.unpack x)
    rw [row, if_neg fun both => own both.1]
    rfl

/-- An altered answer is read as the response with the deleted fields at their defaults, unless it
is a verification without its status. -/
theorem readAnswer_objectOctets (method : Method) {x : method.response.Carrier}
    {members : List (String × Value)} (written : toValue x = .object members)
    {deleted : List String} {added placed : List (String × List UInt8)}
    (unknown : ∀ member ∈ added, method.response.fields.Unknown member)
    (order : Altered members deleted added placed) :
    Session.readAnswer (objectOctets placed) =
      if method = .verifyEidas ∧ "status" ∈ deleted then
        .error (.serialization (.missingField "status"))
      else .ok (Recorded.reset deleted x) := by
  have decoded := Recorded.decode_altered written unknown order
  have row := without_fields method deleted x
  have some : (objectOctets placed).isEmpty = false := rfl
  rw [show (Recorded.fields : Fields (Recorded.Row method.response.Carrier)) =
    method.response.fields from rfl, row] at decoded
  simp only [Session.readAnswer, some, Bool.false_eq_true, ↓reduceIte, decoded]
  by_cases refused : method = .verifyEidas ∧ "status" ∈ deleted
  · simp only [refused, and_self, ↓reduceIte]
  · simp only [refused, ↓reduceIte]

/-- An answer without body is read like an object without members. -/
theorem readAnswer_nil (method : Method) :
    (Session.readAnswer [] : Except ClientError method.response.Carrier) =
      if method = .verifyEidas then .error (.serialization (.missingField "status"))
      else .ok default := by
  have emptied := altered_names method.response.fields
    (Recorded.unpack (default : method.response.Carrier))
  have read := readAnswer_objectOctets method (Recorded.toValue_eq _)
    (fun _ new => absurd new List.not_mem_nil) emptied
  have hollow :
    (Session.readAnswer (objectOctets []) : Except ClientError method.response.Carrier) =
    Session.readAnswer [] := rfl
  have blank : Recorded.reset method.response.fields.names
      (default : method.response.Carrier) = default := Recorded.reset_names _
  rw [← hollow, read, blank]
  by_cases own : method = .verifyEidas
  · subst own
    exact if_pos ⟨rfl, by decide⟩
  · rw [if_neg own, if_neg fun both => own both.1]

/-- The answer to a method that is altered is read as the response with the deleted fields at their
defaults, and an answer without body as the default. Only a verification without its status is
refused. -/
theorem readAnswer_altered (method : Method) {x : method.response.Carrier}
    {members : List (String × Value)} (written : toValue x = .object members)
    {deleted : List String} {added placed : List (String × List UInt8)}
    (unknown : ∀ member ∈ added, method.response.fields.Unknown member)
    (order : Altered members deleted added placed) :
    (Session.readAnswer (objectOctets placed) =
      if method = .verifyEidas ∧ "status" ∈ deleted then
        .error (.serialization (.missingField "status"))
      else .ok (Recorded.reset deleted x)) ∧
    ((Session.readAnswer [] : Except ClientError method.response.Carrier) =
      if method = .verifyEidas then .error (.serialization (.missingField "status"))
      else .ok default) := by
  have altered := readAnswer_objectOctets method written unknown order
  have empty := readAnswer_nil method
  exact ⟨altered, empty⟩

/-- A verification loses its details, and in front it gets a member that no client knows. -/
theorem readAnswer_altered_pending :
    IsJson [Octet.openList, 0x31, Octet.closeList] ∧
      (Session.readAnswer (objectOctets (("risk", [Octet.openList, 0x31, Octet.closeList]) ::
        memberTexts [("status", .string "PENDING"), ("verification_id", .string "v:1")])) :
          Except ClientError EidasResponse) = .ok ⟨.pending, "", "v:1"⟩ := by
  have digits : IsDigits [0x31] := isDigits_singleton (by decide)
  have one : IsNumber ([] ++ ([0x31] ++ ([] ++ []))) :=
    .parts (by simp) (.digits (by decide) digits) .absent .absent
  have risk : IsJson (Octet.openList :: ([] ++ (parted [[0x31]] ++ [Octet.closeList]))) :=
    .array (by simp [IsBlanks]) (by simpa using IsJson.number one)
  have written : toValue (⟨.pending, "more", "v:1"⟩ : EidasResponse) =
      .object [("status", .string "PENDING"), ("status_details", .string "more"),
        ("verification_id", .string "v:1")] := rfl
  have unknown : ∀ member ∈ [("risk", [Octet.openList, 0x31, Octet.closeList])],
      verifyEidas.response.fields.Unknown member := by
    intro member new
    rw [List.mem_singleton.1 new]
    exact ⟨by decide, risk⟩
  have order : Altered
      [("status", .string "PENDING"), ("status_details", .string "more"),
        ("verification_id", .string "v:1")] ["status_details"]
      [("risk", [Octet.openList, 0x31, Octet.closeList])]
      (("risk", [Octet.openList, 0x31, Octet.closeList]) ::
        memberTexts [("status", .string "PENDING"), ("verification_id", .string "v:1")]) :=
    (List.perm_append_singleton _ _).symm
  have read := (readAnswer_altered verifyEidas written unknown order).1
  exact ⟨risk, read⟩

end Method

/-- Whoever has a certificate verified gets an error if the gateway answers without a body. -/
theorem Client.run_verifyEidas_of_empty {client : Client} {session : Session}
    (opened : session.channel.closed = false) {low : SecretKey}
    (found : session.keys.byLevel session.now client.engine.memberId .low = .ok low)
    (empty : ∀ call, (session.gateway session.calls call).result = .ok [])
    (payload : EidasPayload) (signature : String) :
    ((client.verifyEidas payload signature).run session).1 =
      .error (.serialization (.missingField "status")) := by
  obtain ⟨call, _, _, ran⟩ := exists_run_ask (β := EidasResponse) opened found .verifyEidas
    (⟨payload, signature⟩ : VerifyEidasRequest)
  have unread := Method.readAnswer_nil .verifyEidas
  rw [verifyEidas, ran, Session.read, empty call]
  exact unread

/-- A client has a certificate verified, and the gateway answers without a body: where every other
method gives its default, the client gets an error. -/
theorem Client.verifyEidas_fails_on_empty :
    ∃ low, SecretKey.ofSeed KeyText.seedOfOnes .low = .ok low ∧
      (((Client.new "m:1" ⟨"m:1"⟩).verifyEidas {} "").run
        (.steady {} (fun _ => []) (KeyStore.empty.put "m:1" low) [])).1 =
          .error (.serialization (.missingField "status")) := by
  obtain ⟨pair, known⟩ := KeyText.exists_ofSeed_ones
  obtain ⟨low, made, _⟩ := SecretKey.exists_ofSeed known .low
  have found := KeyStore.byLevel_put_of_ofSeed made .empty "m:1" 0
  have failed := @run_verifyEidas_of_empty (.new "m:1" ⟨"m:1"⟩)
    (.steady {} (fun _ => []) (KeyStore.empty.put "m:1" low) []) rfl low found (fun _ => rfl) {} ""
  exact ⟨low, made, failed⟩

end OpenBanking
