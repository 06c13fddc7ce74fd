import Mathlib.Data.List.Forall2
import OpenBanking.Proofs.Alias.Normal
import OpenBanking.Proofs.Keys.Fresh
import OpenBanking.Proofs.Member.Update
import OpenBanking.Proofs.Sending.Order

/-!
# What is said of an alias

Operations name an alias by its hash and realm, and metadata tell it beside them. An alias passes
through its normal spelling several times on the way there: before the list of operations is made,
within each operation, and within the hash. Since normal spellings are stable, all of them say the
same, and the gateway can match each operation with the metadata at its place.
-/

namespace OpenBanking

open Json

/-! ## One alias -/

/-- Metadata describe an operation: it adds an alias of the hash and the realm that they tell. -/
def OperationMetadata.Describes : OperationMetadata → MemberOperation → Prop
  | .addAlias entry, .addAlias change =>
    entry.aliasHash = change.aliasHash ∧ entry.knownAs.realmId = change.realmId
  | .addAlias _, _ => False

/-- Its metadata hold its hash and its normal spelling. -/
theorem OperationMetadata.ofAlias_eq (x : Alias) : ofAlias x = .addAlias ⟨x.hash, x.normalize⟩ := by
  rw [ofAlias, Alias.hash_normalize]

/-! ## Lists of aliases -/

/-- A call adds aliases: its body holds an update with one operation for each of them, and metadata
that describe these, in the order of the aliases. -/
structure Call.AddsAliases (call : Call) (aliases : List Alias) (request : UpdateMemberRequest) :
    Prop where
  /-- It is the call for updates. -/
  method_eq : call.method = .updateMember
  /-- The body holds the request. -/
  decoded : decode call.body = .ok request
  /-- One operation for each alias. -/
  operations_eq : request.update.operations =
    aliases.map fun x => .addAlias ⟨x.hash, x.normalize.realmId⟩
  /-- One entry for each alias. -/
  metadata_eq : request.metadata = aliases.map fun x => .addAlias ⟨x.hash, x.normalize⟩
  /-- Entries and operations agree place by place. -/
  describes : List.Forall₂ OperationMetadata.Describes request.metadata request.update.operations

namespace Alias

variable (aliases : List Alias)

/-- The operations that add normal spellings are those that add the aliases. -/
theorem map_ofAlias_normalize :
    (aliases.map (·.normalize)).map MemberOperation.ofAlias =
      aliases.map fun x => .addAlias ⟨x.hash, x.normalize.realmId⟩ := by
  rw [List.map_map]
  refine List.map_congr_left fun x _ => ?_
  rw [Function.comp_apply, MemberOperation.ofAlias_eq, hash_normalize, normalize_normalize]

/-- The metadata of normal spellings are those of the aliases. -/
theorem map_metadata_normalize :
    (aliases.map (·.normalize)).map OperationMetadata.ofAlias =
      aliases.map fun x => .addAlias ⟨x.hash, x.normalize⟩ := by
  rw [List.map_map]
  refine List.map_congr_left fun x _ => ?_
  rw [Function.comp_apply, OperationMetadata.ofAlias_eq, hash_normalize, normalize_normalize]

/-- Metadata and operations of a list of aliases agree place by place. -/
theorem forall₂_describes :
    List.Forall₂ OperationMetadata.Describes
      (aliases.map fun x => .addAlias ⟨x.hash, x.normalize⟩)
      (aliases.map fun x => .addAlias ⟨x.hash, x.normalize.realmId⟩) := by
  rw [List.forall₂_map_left_iff, List.forall₂_map_right_iff, List.forall₂_same]
  intro x _
  exact ⟨rfl, rfl⟩

end Alias

/-- A request with the operations and metadata of aliases adds them. -/
theorem Call.addsAliases_of_eq {call : Call} {aliases : List Alias} {request : UpdateMemberRequest}
    (method : call.method = .updateMember) (decoded : decode call.body = .ok request)
    (operations : request.update.operations =
      (aliases.map (·.normalize)).map MemberOperation.ofAlias)
    (metadata : request.metadata = (aliases.map (·.normalize)).map OperationMetadata.ofAlias) :
    call.AddsAliases aliases request := by
  rw [Alias.map_ofAlias_normalize] at operations
  rw [Alias.map_metadata_normalize] at metadata
  refine ⟨method, decoded, operations, metadata, ?_⟩
  rw [operations, metadata]
  exact Alias.forall₂_describes aliases

namespace Member

/-- Whatever adding aliases sends, it asks for the record of the member first and then sends at most
one update, which adds the aliases. -/
theorem sends_acting_addAliases (member : Member) (aliases : List Alias) :
    Session.Sends
      (fun _ call => call.method = .updateMember → ∃ request, call.AddsAliases aliases request)
      (.getMember :: if aliases.isEmpty then [] else [.updateMember])
      (member.acting (addAliases aliases)) := by
  have asks : Session.Sends
      (fun _ call => call.method = .updateMember → ∃ request, call.AddsAliases aliases request)
      [.getMember] (member.client.getMember member.id) := by
    have sends : Session.Sends (fun _ call => call.method = .getMember) [.getMember]
        (member.client.ask .getMember (GetMemberRequest.mk member.id) :
          Flow Session MemberResponse) :=
      Identity.sends_exchange _ fun _ _ _ => rfl
    refine (sends.map _).mono fun _ call isFetch isUpdate => ?_
    rw [isFetch] at isUpdate
    cases isUpdate
  rw [addAliases, update]
  refine member.sends_acting_renew ?_
  refine asks.bind fun latest => ?_
  have updates := member.client.sends_updateMember
    (P := fun _ call => call.method = .updateMember → ∃ request, call.AddsAliases aliases request)
    latest ((aliases.map (·.normalize)).map .ofAlias) ((aliases.map (·.normalize)).map .ofAlias)
  rw [List.isEmpty_map, List.isEmpty_map] at updates
  refine updates fun channel key createdAt signature isUpdate => ?_
  refine ⟨⟨⟨latest.id, latest.lastHash, (aliases.map (·.normalize)).map .ofAlias⟩, signature,
    (aliases.map (·.normalize)).map .ofAlias⟩, ?_⟩
  refine Call.addsAliases_of_eq isUpdate ?_ rfl rfl
  dsimp only [Identity.signedCall, Channel.callOf]
  exact decode_encode _

/-- With keys at hand, and a gateway that tells the record, the update is sent. -/
theorem exists_sent_addAliases (member : Member) {aliases : List Alias} (nonempty : aliases ≠ [])
    {session : Session} (opened : session.channel.closed = false)
    (able : ∃ low, session.keys.CanSign session.now member.client.engine.memberId .low low)
    (told : ∀ fetch : Call, fetch.method = .getMember → ∃ record privileged low,
      Session.read MemberResponse (session.gateway session.calls fetch) = .ok ⟨record⟩ ∧
        session.keys.CanSign (session.gateway session.calls fetch).arrival
          member.client.engine.memberId .privileged privileged ∧
        session.keys.CanSign (session.gateway session.calls fetch).arrival
          member.client.engine.memberId .low low) :
    ∃ fetch call request, ((member.acting (addAliases aliases)).run session).2.calls =
        session.calls ++ [fetch, call] ∧
      fetch.method = .getMember ∧ call.AddsAliases aliases request := by
  obtain ⟨_, canCall⟩ := able
  obtain ⟨low, found⟩ := KeyStore.exists_byLevel canCall
  obtain ⟨fetch, method, _, ran⟩ : ∃ fetch : Call, fetch.method = .getMember ∧ _ ∧
      (member.client.ask .getMember (GetMemberRequest.mk member.id) :
        Flow Session MemberResponse).run session = _ :=
    Client.exists_run_ask opened found .getMember _
  obtain ⟨record, _, _, answer, canSign, canSend⟩ := told fetch method
  obtain ⟨privileged, signs⟩ := KeyStore.exists_byLevel canSign
  obtain ⟨laterLow, calls⟩ := KeyStore.exists_byLevel canSend
  -- The clock stands at the arrival of the record when the update is signed.
  have still : (session.answered fetch).channel.closed = false := opened
  have some : (aliases.map (·.normalize)).map MemberOperation.ofAlias ≠ [] := by simpa using nonempty
  obtain ⟨call, request, carries, sent⟩ := member.client.exists_run_updateMember still record some
    ((aliases.map (·.normalize)).map .ofAlias) signs calls
  refine ⟨fetch, call, request, ?_, method, ?_⟩
  · have fetched : (member.client.getMember member.id).run session =
        (.ok record, session.answered fetch) := by
      rw [Client.getMember, Flow.run_bind_pure, ran, answer]
      rfl
    rw [addAliases, update, run_acting_renew, Flow.run_bind_of_ok fetched, sent,
      Session.answered_calls, List.append_assoc]
    rfl
  · refine Call.addsAliases_of_eq carries.method_eq carries.decoded ?_ carries.metadata_eq
    rw [carries.update_eq]

end Member

/-- All that is said of an alias agrees. A normal spelling is its own normal spelling and has the
hash of the alias; the operations and metadata of an alias hold this hash, the operations the realm
of its normal spelling and the metadata that spelling itself, whether the alias was normalized
before or not. A member that adds aliases sends no update but one with one operation and one entry
for each alias, in the order of the list and agreeing place by place; and this one it does send if
there are aliases to add, keys to sign with and a record that is told. -/
theorem Alias.artefacts_agree :
    (∀ x : Alias, x.normalize.normalize = x.normalize ∧ x.normalize.hash = x.hash ∧
      ∀ y ∈ [x, x.normalize],
        MemberOperation.ofAlias y = .addAlias ⟨x.hash, x.normalize.realmId⟩ ∧
        MemberOperation.withoutAlias y = .removeAlias ⟨x.hash, x.normalize.realmId⟩ ∧
        OperationMetadata.ofAlias y = .addAlias ⟨x.hash, x.normalize⟩) ∧
    ∀ (member : Member) (aliases : List Alias) (session : Session),
      (∃ sent, ((member.acting (Member.addAliases aliases)).run session).2.calls =
          session.calls ++ sent ∧
        sent.map (·.method) <+: .getMember :: (if aliases.isEmpty then [] else [.updateMember]) ∧
        ∀ call ∈ sent, call.method = .updateMember → ∃ request, call.AddsAliases aliases request) ∧
      (aliases ≠ [] → session.channel.closed = false →
        (∃ low, session.keys.CanSign session.now member.client.engine.memberId .low low) →
        (∀ fetch : Call, fetch.method = .getMember → ∃ record privileged low,
          Session.read MemberResponse (session.gateway session.calls fetch) = .ok ⟨record⟩ ∧
            session.keys.CanSign (session.gateway session.calls fetch).arrival
              member.client.engine.memberId .privileged privileged ∧
            session.keys.CanSign (session.gateway session.calls fetch).arrival
              member.client.engine.memberId .low low) →
        ∃ fetch call request, ((member.acting (Member.addAliases aliases)).run session).2.calls =
            session.calls ++ [fetch, call] ∧
          fetch.method = .getMember ∧ call.AddsAliases aliases request) := by
  constructor
  · intro x
    refine ⟨x.normalize_normalize, x.hash_normalize, ?_⟩
    intro y mem
    have same : y.normalize = x.normalize := by
      rcases List.mem_cons.1 mem with rfl | again
      · rfl
      · rw [List.mem_singleton.1 again, x.normalize_normalize]
    rw [MemberOperation.ofAlias_eq, MemberOperation.withoutAlias_eq, OperationMetadata.ofAlias_eq,
      Alias.hash_eq_of_normalize_eq same, same]
    exact ⟨rfl, rfl, rfl⟩
  · intro member aliases session
    constructor
    · obtain ⟨sent, all⟩ := member.sends_acting_addAliases aliases session
      exact ⟨sent, all.calls_eq, all.isPrefix_methods, all.holds⟩
    · intro nonempty opened able told
      exact member.exists_sent_addAliases nonempty opened able told

/-- A member with a privileged and a low key adds an address and a domain of a realm, neither in its
normal spelling. -/
theorem Alias.artefacts_agree_email_domain :
    ∃ keys, ∃ fetch call request,
      ((Member.acting ⟨{ id := "m:1" }, .new "m:1" ⟨"m:1"⟩, .sandbox⟩ (Member.addAliases
          [.email " Alice@Example.com ", (Alias.domain "Shop.Example.com").inRealm " m:2 "])).run
        (.steady {} (fun _ => encode (MemberResponse.mk { id := "m:1" })) keys [])).2.calls =
          [fetch, call] ∧
      call.AddsAliases
        [.email " Alice@Example.com ", (Alias.domain "Shop.Example.com").inRealm " m:2 "]
        request := by
  obtain ⟨privileged, low, _, _, madePrivileged, madeLow, _, _, ids⟩ :=
    SecretKey.exists_ones_twos_threes_fours .privileged .low .low .low
  have distinct : ([privileged, low].map (·.id)).Nodup :=
    ids.sublist (List.Sublist.map _ (List.prefix_append [privileged, low] _).sublist)
  obtain ⟨_, isPrivileged, lasting⟩ := SecretKey.of_ofSeed madePrivileged
  obtain ⟨_, isLow, lastingLow⟩ := SecretKey.of_ofSeed madeLow
  have levels : ([privileged, low].map (·.level)).Nodup := by
    simp [isPrivileged, isLow]
  have held {key : SecretKey} (made : key ∈ [privileged, low]) (lasting : key.expiresAt = none) :
      (KeyStore.empty.putAll "m:1" [privileged, low]).CanSign 0 "m:1" key.level key :=
    KeyStore.canSign_of_byLevel (KeyStore.byLevel_putAll_of_mem distinct levels made
      (SecretKey.isExpired_of_eq_none lasting 0))
  have canSign := held List.mem_cons_self lasting
  have canCall := held (List.mem_cons_of_mem _ List.mem_cons_self) lastingLow
  rw [isPrivileged] at canSign
  rw [isLow] at canCall
  have told (earlier : List Call) (fetch : Call) : Session.read MemberResponse
      ((Session.steady {} (fun _ => encode (MemberResponse.mk { id := "m:1" }))
        (KeyStore.empty.putAll "m:1" [privileged, low]) []).gateway earlier fetch) =
          .ok ⟨{ id := "m:1" }⟩ :=
    Session.read_encode (MemberResponse.mk { id := "m:1" }) 0
  obtain ⟨fetch, call, request, calls, _, adds⟩ :=
    (artefacts_agree.2 ⟨{ id := "m:1" }, .new "m:1" ⟨"m:1"⟩, .sandbox⟩
      [.email " Alice@Example.com ", (Alias.domain "Shop.Example.com").inRealm " m:2 "]
      (.steady {} (fun _ => encode (MemberResponse.mk { id := "m:1" }))
        (KeyStore.empty.putAll "m:1" [privileged, low]) [])).2 (List.cons_ne_nil _ _) rfl
      ⟨low, canCall⟩ fun fetch _ => ⟨_, privileged, low, told _ fetch, canSign, canCall⟩
  exact ⟨KeyStore.empty.putAll "m:1" [privileged, low], fetch, call, request, calls, adds⟩

end OpenBanking
