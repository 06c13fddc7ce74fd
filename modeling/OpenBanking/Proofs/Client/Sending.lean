import OpenBanking.Client.Action
import OpenBanking.Proofs.Sending.Order

/-!
# What the requests of a client send

Each request sends calls of fixed methods in a fixed order, all under one context: the one of the
client where accounts are asked about, and otherwise the one that tells neither an access token nor
that a person asked.
-/

namespace OpenBanking

open Json

/-! ## Contexts as headers -/

namespace Headers

/-- All values of a name, in order. -/
def values (headers : Headers) (name : String) : List String :=
  (headers.filter (·.1 = name)).map (·.2)

/-- The values in front come first. -/
theorem values_append (front back : Headers) (name : String) :
    (front ++ back : Headers).values name = front.values name ++ back.values name := by
  rw [values, List.filter_append, List.map_append]
  rfl

end Headers

/-- A call tells a context: besides what stands in front it carries the access token, the mark that
a person asked and the tracking if there are such, each once, and the level of the key. -/
structure Call.Tells (call : Call) (front : Headers) (context : CallContext) : Prop where
  /-- The access token, if there is one. -/
  onBehalfOf_eq : call.headers.values HeaderName.onBehalfOf =
    front.values HeaderName.onBehalfOf ++ context.onBehalfOf.toList
  /-- The mark, if a person asked. -/
  customerInitiated_eq : call.headers.values HeaderName.customerInitiated =
    front.values HeaderName.customerInitiated ++ if context.customerInitiated then ["true"] else []
  /-- The level. -/
  keyLevel_eq : call.headers.values HeaderName.keyLevel =
    front.values HeaderName.keyLevel ++ [nameOf context.keyLevel]
  /-- The tracking, if anything is told of the device. -/
  tracking_eq : call.headers.values HeaderName.tracking =
    front.values HeaderName.tracking ++ if context.tracking.isEmpty then [] else
      [Base64url.encode (canonicalOctets context.tracking)]

/-- What a member signs tells its context. -/
theorem Identity.tells_of_headers_eq {who : Identity} {front : Headers} {key : SecretKey}
    {createdAt : Int64} {call : Call}
    (headers : call.headers = front ++ who.signedHeaders key createdAt call.body) :
    call.Tells front who.context := by
  obtain ⟨memberId, engine, token, initiated, level, tracking⟩ := who
  constructor
  all_goals
    rw [headers, Headers.values_append]
    congr 1
    cases token <;> cases initiated <;> cases told : tracking.isEmpty <;>
      simp [signedHeaders, CallContext.headers, Headers.values, told, HeaderName.memberId,
        HeaderName.keyId, HeaderName.signature, HeaderName.createdAt, HeaderName.onBehalfOf,
        HeaderName.customerInitiated, HeaderName.keyLevel, HeaderName.tracking]

/-! ## Requests -/

/-- The method asks about accounts. -/
def Method.isAboutAccounts : Method → Bool
  | .getAccount | .getAccounts | .getBalance | .getBalances | .getTransaction | .getTransactions
  | .resolveTransferDestinations => true
  | _ => false

namespace Client

/-- Under what a client calls a method, signed at a level. -/
def contextOf (client : Client) (level : KeyLevel) (method : Method) : CallContext :=
  if method.isAboutAccounts then client.accountContext level else client.memberContext level

namespace Request

/-- The methods that a request calls, in order. -/
def methods : Request → List Method
  | getMember _ => [.getMember]
  | updateMember _ operations _ => if operations.isEmpty then [] else [.updateMember]
  | useDefaultRecoveryRule => [.getMember, .getDefaultAgent, .updateMember]
  | getAliases => [.getAliases]
  | retryVerification _ => [.retryVerification]
  | verifyAlias _ _ => [.verifyAlias]
  | authorizeRecovery _ => []
  | getDefaultAgent => [.getDefaultAgent]
  | deleteMember => [.deleteMember]
  | storeTokenRequest _ => [.storeTokenRequest]
  | verifyEidas _ _ => [.verifyEidas]
  | getBankInfo _ => [.getBankInfo]
  | getAccount _ => [.getAccount]
  | getAccounts => [.getAccounts]
  | getBalance _ _ => [.getBalance]
  | getBalances _ _ => [.getBalances]
  | getTransaction _ _ _ => [.getTransaction]
  | getTransactions _ _ _ => [.getTransactions]
  | resolveTransferDestinations _ => [.resolveTransferDestinations]

/-- The level that a request is signed at: the one it names, privileged to delete the member, and
low otherwise. -/
def level : Request → KeyLevel
  | deleteMember => .privileged
  | getBalance _ level | getBalances _ level | getTransaction _ _ level
  | getTransactions _ _ level => level
  | _ => .low

end Request

/-- Giving what is served sends nothing. -/
theorem silent_served {α : Type} (reason : String) (x : Option α) :
    Session.Silent (served reason x) := by
  cases x with
  | none => exact Session.silent_fail _
  | some x => exact Session.silent_pure x

section Sends

variable (client : Client) {α β : Type} [Wire α] [Wire β] {method : Method}

/-- A call is signed by a client at a level: with some key at some time, and under the context in
which the client calls its method. -/
def Signs (level : KeyLevel) (channel : Channel) (call : Call) : Prop :=
  ∃ key createdAt, call.headers = channel.headers ++
    (client.identity (client.contextOf level call.method)).signedHeaders key createdAt call.body

/-- A call tells the context under which a client calls its method at a level. -/
def Tells (level : KeyLevel) (channel : Channel) (call : Call) : Prop :=
  call.Tells channel.headers (client.contextOf level call.method)

/-- What a client signs tells its context. -/
theorem tells_of_signs (level : KeyLevel) (channel : Channel) (call : Call)
    (signs : client.Signs level channel call) : client.Tells level channel call := by
  obtain ⟨key, createdAt, headers⟩ := signs
  exact Identity.tells_of_headers_eq headers

/-- A call that is signed under the context of its method is signed by the client. -/
theorem signs_signedCall {level : KeyLevel} {method : Method} {context : CallContext}
    (own : client.contextOf level method = context) (channel : Channel) (key : SecretKey)
    (createdAt : Int64) (body : List UInt8) :
    client.Signs level channel
      ((client.identity context).signedCall channel key createdAt method body) := by
  subst own
  exact ⟨key, createdAt, rfl⟩

/-- A call about the member is signed under its context. -/
theorem sends_member (level : KeyLevel) (own : method.isAboutAccounts = false) (x : α) :
    Session.Sends (client.Signs level) [method]
      ((client.identity (client.memberContext level)).exchange method x : Flow Session β) := by
  have context : client.contextOf level method = client.memberContext level := by
    rw [contextOf, own]
    rfl
  exact Identity.sends_exchange _ fun channel key createdAt =>
    client.signs_signedCall context channel key createdAt _

/-- A call about accounts is signed under its context. -/
theorem sends_askAccounts (level : KeyLevel) (about : method.isAboutAccounts = true) (x : α) :
    Session.Sends (client.Signs level) [method]
      (client.askAccounts level method x : Flow Session β) := by
  have context : client.contextOf level method = client.accountContext level := by
    rw [contextOf, about]
    rfl
  exact Identity.sends_exchange _ fun channel key createdAt =>
    client.signs_signedCall context channel key createdAt _

/-- Fetching a record is one call. -/
theorem sends_getMember (memberId : String) :
    Session.Sends (client.Signs .low) [.getMember] (client.getMember memberId) :=
  (client.sends_member .low rfl _).map _

/-- Fetching the default agent is one call. -/
theorem sends_getDefaultAgent :
    Session.Sends (client.Signs .low) [.getDefaultAgent] client.getDefaultAgent :=
  (client.sends_member .low rfl _).map _

/-- An update is one call, and none without operations. -/
theorem sends_update (record : MemberRecord) (operations : List MemberOperation)
    (metadata : List OperationMetadata) :
    Session.Sends (client.Signs .low) (if operations.isEmpty then [] else [.updateMember])
      (client.updateMember record operations metadata) :=
  client.sends_updateMember record operations metadata fun channel key createdAt _ =>
    client.signs_signedCall rfl channel key createdAt _

/-- What a request sends: calls of its methods, in order and signed by the client. -/
theorem Request.sends_signed (request : Request) :
    Session.Sends (client.Signs request.level) request.methods (request.send client) := by
  cases request with
  | getMember memberId => exact (client.sends_getMember memberId).map _
  | updateMember record operations metadata =>
    exact (client.sends_update record operations metadata).map _
  | useDefaultRecoveryRule =>
    refine Session.Sends.map ?_ _
    refine (client.sends_getMember client.memberId).bind fun record => ?_
    refine client.sends_getDefaultAgent.bind fun agentId => ?_
    exact client.sends_update record [.ofAgent agentId] []
  | getAliases => exact ((client.sends_member .low rfl _).map _).map _
  | retryVerification x => exact ((client.sends_member .low rfl _).map _).map _
  | verifyAlias verificationId code => exact (client.sends_member .low rfl _).map _
  | authorizeRecovery authorization =>
    exact (client.silent_signPrivileged authorization).sends.map _
  | getDefaultAgent => exact client.sends_getDefaultAgent.map _
  | deleteMember => exact (client.sends_member .privileged rfl _).map _
  | storeTokenRequest request => exact ((client.sends_member .low rfl _).map _).map _
  | verifyEidas payload signature => exact (client.sends_member .low rfl _).map _
  | getBankInfo bankId => exact ((client.sends_member .low rfl _).map _).map _
  | getAccount accountId => exact ((client.sends_askAccounts .low rfl _).map _).map _
  | getAccounts => exact ((client.sends_askAccounts .low rfl _).map _).map _
  | getBalance accountId level =>
    exact ((client.sends_askAccounts level rfl _).bind fun _ => (silent_served _ _).sends).map _
  | getBalances accountIds level => exact ((client.sends_askAccounts level rfl _).map _).map _
  | getTransaction accountId transactionId level =>
    exact ((client.sends_askAccounts level rfl _).bind fun _ => (silent_served _ _).sends).map _
  | getTransactions accountId page level =>
    exact ((client.sends_askAccounts level rfl _).bind fun _ => (silent_served _ _).sends).map _
  | resolveTransferDestinations accountId =>
    exact ((client.sends_askAccounts .low rfl _).map _).map _

/-- What a request sends tells the context of the client. -/
theorem Request.sends (request : Request) :
    Session.Sends (client.Tells request.level) request.methods (request.send client) :=
  (request.sends_signed client).mono (client.tells_of_signs request.level)

end Sends

end Client

end OpenBanking
