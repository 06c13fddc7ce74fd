import OpenBanking.Client.Accounts
import OpenBanking.Proofs.Asking
import OpenBanking.Proofs.Keys.Fresh
import OpenBanking.Proofs.Lossless.Message

/-!
# Balances together and one by one

The answer about several accounts has an entry for each of them, which reads like the answer about
that account alone. Asked alone, an entry gives its balance or wants a higher level; asked together,
the entries are sifted twice, by status and by balance. Both come to the same, entry by entry.
-/

namespace OpenBanking

open Json

/-- The gateway answers the next call by a value, if it is a call of the method. -/
def Session.Gives {β : Type} [Wire β] (session : Session) (method : Method) (y : β) : Prop :=
  ∀ call : Call, call.method = method →
    Session.read β (session.gateway session.calls call) = .ok y

/-- An entry serves a balance if it reports success and has one. -/
theorem GetBalanceResponse.served?_eq_some_iff {entry : GetBalanceResponse} {balance : Balance} :
    entry.served? = some balance ↔ entry.status = .successful ∧ entry.balance = some balance := by
  obtain ⟨held, status⟩ := entry
  cases status <;> cases held <;> simp [served?]

/-- Entries that report success, and of these the ones with a balance, are those that serve one. -/
theorem GetBalancesResponse.filterMap_balance_filter (entries : List GetBalanceResponse) :
    (entries.filter (·.status = .successful)).filterMap (·.balance) =
      entries.filterMap (·.served?) := by
  induction entries with
  | nil => rfl
  | cons entry entries ih =>
    obtain ⟨held, status⟩ := entry
    by_cases success : status = .successful
    · subst success
      cases held with
      | none => simpa [GetBalanceResponse.served?] using ih
      | some balance => simpa [GetBalanceResponse.served?] using ih
    · have unserved : GetBalanceResponse.served? ⟨held, status⟩ = none := by
        cases served : GetBalanceResponse.served? ⟨held, status⟩ with
        | none => rfl
        | some balance =>
          exact absurd (GetBalanceResponse.served?_eq_some_iff.1 served).1 success
      simpa [success, unserved] using ih

namespace Client

variable {client : Client} {level : KeyLevel} {session : Session}

/-- A client can ask at a level: the channel is open, and its member has a key that signs. -/
structure CanAsk (client : Client) (level : KeyLevel) (session : Session) : Prop where
  /-- The channel takes calls. -/
  opened : session.channel.closed = false
  /-- Some key signs at the level. -/
  able : ∃ key, session.keys.CanSign session.now client.engine.memberId level key

/-- Who can ask about accounts gets what the gateway gives. -/
theorem CanAsk.exists_run_askAccounts {α β : Type} [Wire α] [Wire β]
    (asks : client.CanAsk level session) {method : Method} {y : β} (given : session.Gives method y)
    (x : α) :
    ∃ later, (client.askAccounts level method x : Flow Session β).run session = (.ok y, later) := by
  obtain ⟨key, canSign⟩ := asks.able
  obtain ⟨signer, found⟩ := KeyStore.exists_byLevel canSign
  have ran : ((client.identity (client.accountContext level)).exchange method x :
      Flow Session β).run session = _ :=
    Identity.run_exchange_of_byLevel found asks.opened method x
  rw [given _ rfl] at ran
  exact ⟨_, ran⟩

/-- A balance that is asked for alone is the one that the answer serves, or else a higher level is
wanted. -/
theorem CanAsk.run_getBalance (asks : client.CanAsk level session) {entry : GetBalanceResponse}
    (given : session.Gives .getBalance entry) (accountId : String) :
    ((client.getBalance accountId level).run session).1 =
      entry.served?.elim (.error (.stepUpRequired "Balance step up required.")) .ok := by
  obtain ⟨later, ran⟩ := asks.exists_run_askAccounts given (⟨accountId⟩ : AccountRequest)
  rw [getBalance, Flow.run_bind_of_ok ran]
  cases entry.served? <;> rfl

/-- Balances that are asked for together are those that the entries serve. -/
theorem CanAsk.run_getBalances (asks : client.CanAsk level session)
    {entries : List GetBalanceResponse}
    (given : session.Gives .getBalances (⟨entries⟩ : GetBalancesResponse))
    (accountIds : List String) :
    ((client.getBalances accountIds level).run session).1 =
      .ok (entries.filterMap (·.served?)) := by
  obtain ⟨later, ran⟩ := asks.exists_run_askAccounts given (⟨accountIds⟩ : GetBalancesRequest)
  rw [getBalances, Flow.run_bind_of_ok ran, ← GetBalancesResponse.filterMap_balance_filter]
  rfl

/-- The balances of several accounts are those that the client would get for the entries one by one,
in the same order and as often. An entry that reports success and has a balance gives this balance
alone, and for any other entry a higher level is wanted; no entry makes the whole call fail. -/
theorem getBalances_entrywise (client : Client) {level : KeyLevel} {session : Session}
    (asks : client.CanAsk level session) {entries : List GetBalanceResponse}
    (given : session.Gives .getBalances (⟨entries⟩ : GetBalancesResponse))
    (accountIds : List String) {levelAlone : KeyLevel} {alone : GetBalanceResponse → Session}
    (asksAlone : ∀ entry ∈ entries, client.CanAsk levelAlone (alone entry))
    (givenAlone : ∀ entry ∈ entries, (alone entry).Gives .getBalance entry) (accountId : String) :
    ((client.getBalances accountIds level).run session).1 = .ok (entries.filterMap fun entry =>
      ((client.getBalance accountId levelAlone).run (alone entry)).1.toOption) ∧
    ∀ entry ∈ entries,
      (∃ balance, entry.status = .successful ∧ entry.balance = some balance ∧
        ((client.getBalance accountId levelAlone).run (alone entry)).1 = .ok balance) ∨
      (entry.status = .successful → entry.balance = none) ∧
        ((client.getBalance accountId levelAlone).run (alone entry)).1 =
          .error (.stepUpRequired "Balance step up required.") := by
  have single : ∀ entry ∈ entries,
      ((client.getBalance accountId levelAlone).run (alone entry)).1 =
        entry.served?.elim (.error (.stepUpRequired "Balance step up required.")) .ok :=
    fun entry held => (asksAlone entry held).run_getBalance (givenAlone entry held) accountId
  constructor
  · rw [asks.run_getBalances given]
    refine congrArg Except.ok (List.filterMap_congr fun entry held => ?_)
    rw [single entry held]
    cases entry.served? <;> rfl
  · intro entry held
    rw [single entry held]
    cases served : entry.served? with
    | some balance =>
      obtain ⟨success, present⟩ := GetBalanceResponse.served?_eq_some_iff.1 served
      exact .inl ⟨balance, success, present, rfl⟩
    | none =>
      refine .inr ⟨fun success => ?_, rfl⟩
      refine Option.eq_none_iff_forall_ne_some.2 fun balance present => ?_
      rw [GetBalanceResponse.served?_eq_some_iff.2 ⟨success, present⟩] at served
      cases served

/-- A new client whose member has one key, which does not expire, can ask behind every gateway that
always answers. -/
theorem canAsk_steady {key : SecretKey}
    (made : SecretKey.ofSeed KeyText.seedOfOnes .low = .ok key) (answer : Call → List UInt8) :
    (Client.new "m:1" ⟨"m:1"⟩).CanAsk .low (.steady {} answer (KeyStore.empty.put "m:1" key) []) where
  opened := rfl
  able := ⟨key, KeyStore.canSign_of_byLevel (KeyStore.byLevel_put_of_ofSeed made .empty "m:1" 0)⟩

/-- Of five entries the one that reports no success and the two without a balance are left out, and
a balance that stands twice is given twice. -/
theorem getBalances_entrywise_of_five :
    ∃ key, SecretKey.ofSeed KeyText.seedOfOnes .low = .ok key ∧
      let served : GetBalanceResponse := ⟨some { accountId := "a:1" }, .successful⟩
      let entries := [served, ⟨some { accountId := "a:2" }, .moreSignaturesNeeded⟩,
        ⟨none, .successful⟩, {}, served]
      (((Client.new "m:1" ⟨"m:1"⟩).getBalances ["a:1", "a:2", "a:3", "a:4", "a:1"] .low).run
        (.steady {} (fun _ => encode (⟨entries⟩ : GetBalancesResponse))
          (KeyStore.empty.put "m:1" key) [])).1 =
        .ok [{ accountId := "a:1" }, { accountId := "a:1" }] := by
  obtain ⟨_, known⟩ := KeyText.exists_ofSeed_ones
  obtain ⟨key, made, _⟩ := SecretKey.exists_ofSeed known .low
  refine ⟨key, made, ?_⟩
  intro served entries
  have alone : ∀ entry ∈ entries, (Session.steady {} (fun _ => encode entry)
      (KeyStore.empty.put "m:1" key) []).Gives .getBalance entry :=
    fun entry _ call _ => Session.read_encode entry _
  have together : (Session.steady {} (fun _ => encode (⟨entries⟩ : GetBalancesResponse))
      (KeyStore.empty.put "m:1" key) []).Gives .getBalances (⟨entries⟩ : GetBalancesResponse) :=
    fun call _ => Session.read_encode _ _
  have each := getBalances_entrywise (.new "m:1" ⟨"m:1"⟩) (canAsk_steady made _) together
    ["a:1", "a:2", "a:3", "a:4", "a:1"] (fun entry _ => canAsk_steady made _) alone "a:1"
  have taken := List.filterMap_congr fun entry held =>
    congrArg Except.toOption ((canAsk_steady made _).run_getBalance (alone entry held) "a:1")
  rw [each.1, taken]
  rfl

end Client

end OpenBanking
