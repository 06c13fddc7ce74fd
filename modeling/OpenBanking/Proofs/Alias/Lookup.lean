import OpenBanking.Membership
import OpenBanking.Proofs.Asking
import OpenBanking.Proofs.Keys.Fresh
import OpenBanking.Proofs.Lossless.Message

/-!
# Lookups of an alias

Four operations ask whom an alias names. They send the same call and read the answer alike: a member
counts if it has an id. The last one goes on to make keys for a new device of this member; before
that it touches none, so a lookup that fails leaves all keys where they were.
-/

namespace OpenBanking

open Json

/-- The member that an answer names, if it has an id. -/
def ResolveAliasResponse.owner? (response : ResolveAliasResponse) : Option Party :=
  response.member.filter fun member => !member.id.isEmpty

/-- An answer names an owner if it has a member whose id is not empty. -/
theorem ResolveAliasResponse.owner?_eq_some_iff {response : ResolveAliasResponse} {member : Party} :
    response.owner? = some member ↔ response.member = some member ∧ member.id ≠ "" := by
  simp [owner?, Option.filter_eq_some_iff]

/-- An answer names no owner if it has no member or one with an empty id. -/
theorem ResolveAliasResponse.owner?_eq_none_iff {response : ResolveAliasResponse} :
    response.owner? = none ↔ ∀ member, response.member = some member → member.id = "" := by
  simp [owner?, Option.filter_eq_none_iff]

/-- The call that looks an alias up. -/
abbrev Channel.lookup (channel : Channel) (x : Alias) : Call :=
  channel.plainCall .resolveAlias (⟨x⟩ : ResolveAliasRequest)

namespace Anonymous

variable {session : Session}

/-- A closed channel refuses a lookup. -/
theorem run_resolveAlias_of_closed (closed : session.channel.closed = true) (x : Alias) :
    (resolveAlias x).run session = (.error .channelClosed, session) :=
  Flow.run_bind_of_error (Session.run_exchange_of_closed closed _ _ _) _

/-- Over an open channel a lookup is one call, and the owner is the member of its answer, if that
has an id. -/
theorem run_resolveAlias_of_open (opened : session.channel.closed = false) (x : Alias) :
    (resolveAlias x).run session =
      ((Session.read ResolveAliasResponse
          (session.gateway session.calls (session.channel.lookup x))).map ResolveAliasResponse.owner?,
        session.answered (session.channel.lookup x)) := by
  have asked := run_ask_of_open (β := ResolveAliasResponse) opened .resolveAlias
    (⟨x⟩ : ResolveAliasRequest)
  rw [← Channel.plainCall] at asked
  have mapped := Flow.run_bind_pure (ask .resolveAlias (⟨x⟩ : ResolveAliasRequest))
    ResolveAliasResponse.owner? session
  rw [asked] at mapped
  exact mapped

/-- The id is that of the owner; without one there is none. -/
theorem run_getMemberId_of_ok {x : Alias} {owner : Option Party} {later : Session}
    (resolved : (resolveAlias x).run session = (.ok owner, later)) :
    (getMemberId x).run session =
      (owner.elim (.error (.notFound ("no member with alias " ++ x.value))) fun member => .ok member.id,
        later) := by
  rw [getMemberId, Flow.run_bind_of_ok resolved]
  cases owner <;> rfl

/-- Whoever was told an owner, or that there is none, was answered. -/
theorem of_run_resolveAlias_ok {x : Alias} {owner : Option Party} {later : Session}
    (gave : (resolveAlias x).run session = (.ok owner, later)) :
    ∃ response : ResolveAliasResponse, session.Answers session.calls .resolveAlias
        (⟨x⟩ : ResolveAliasRequest) response ∧
      response.owner? = owner ∧ later = session.answered (session.channel.lookup x) := by
  cases closed : session.channel.closed with
  | true =>
    rw [run_resolveAlias_of_closed closed] at gave
    cases gave
  | false =>
    rw [run_resolveAlias_of_open closed] at gave
    cases told : Session.read ResolveAliasResponse
        (session.gateway session.calls (session.channel.lookup x)) with
    | error error =>
      rw [told] at gave
      cases gave
    | ok response =>
      rw [told] at gave
      cases gave
      exact ⟨response, told, rfl, rfl⟩

/-- Whoever was told an id has sent the lookup and nothing else, and the id is not empty. -/
theorem of_run_getMemberId_ok {x : Alias} {memberId : String} {later : Session}
    (gave : (getMemberId x).run session = (.ok memberId, later)) :
    memberId ≠ "" ∧ later = session.answered (session.channel.lookup x) := by
  obtain ⟨owner, middle, resolved, _⟩ := Flow.exists_of_run_bind_ok gave
  rw [run_getMemberId_of_ok resolved] at gave
  obtain ⟨response, _, rfl, rfl⟩ := of_run_resolveAlias_ok resolved
  cases found : response.owner? with
  | none =>
    rw [found] at gave
    cases gave
  | some member =>
    rw [found] at gave
    cases gave
    exact ⟨(ResolveAliasResponse.owner?_eq_some_iff.1 found).2, rfl⟩

/-- Looking for an id leaves the keys, whatever becomes of it. -/
theorem keeps_keys_getMemberId (x : Alias) : (getMemberId x).Keeps (·.keys) := by
  have resolves : (resolveAlias x).Keeps (·.keys) :=
    (Session.keeps_keys_exchange _ _ _).bind fun _ => Flow.keeps_pure _
  refine resolves.bind fun owner => ?_
  cases owner with
  | none => exact Flow.keeps_fail _
  | some member => exact Flow.keeps_pure _

end Anonymous

namespace Membership

/-! ## Keys for a device -/

/-- Makes the keys of a new device of a member. -/
def deviceKeys (memberId : String) : Flow Session DeviceKeys := do
  let engine : Engine := ⟨memberId⟩
  let privileged ← engine.generate .privileged
  let standard ← engine.generate .standard
  let low ← engine.generate .low
  return ⟨memberId, [privileged, standard, low]⟩

/-- However making keys ends, what the seeds made was put, and nothing else was changed in the
store. -/
theorem makes_deviceKeys (memberId : String) :
    (⟨memberId⟩ : Engine).Makes [.privileged, .standard, .low] (deviceKeys memberId) :=
  Engine.Makes.generate fun _ => Engine.Makes.generate fun _ => Engine.Makes.generate fun _ =>
    Engine.makes_nil (Flow.keeps_pure _)

/-- Making keys sends nothing. -/
theorem silent_deviceKeys (memberId : String) : Session.Silent (deviceKeys memberId) :=
  (Engine.silent_generate _ _).bind fun _ => (Engine.silent_generate _ _).bind fun _ =>
    (Engine.silent_generate _ _).bind fun _ => Session.silent_pure _

variable {session : Session} {privileged standard low : SecretKey}

/-- Seeds that make three keys make those of a device. -/
theorem exists_run_deviceKeys
    (made : SecretKey.ofSeeds [.privileged, .standard, .low] session.seeds =
      [privileged, standard, low]) (memberId : String) :
    ∃ later, (deviceKeys memberId).run session =
      (.ok ⟨memberId, [privileged, standard, low].map (·.publicKey)⟩, later) := by
  obtain ⟨first, seeds, ahead, madePrivileged, made⟩ := SecretKey.exists_of_ofSeeds_eq_cons made
  obtain ⟨second, later, rfl, madeStandard, made⟩ := SecretKey.exists_of_ofSeeds_eq_cons made
  obtain ⟨third, rest, rfl, madeLow, _⟩ := SecretKey.exists_of_ofSeeds_eq_cons made
  rw [deviceKeys, Flow.run_bind_of_ok (Engine.run_generate_of_ofSeed ahead madePrivileged),
    Flow.run_bind_of_ok (Engine.run_generate_of_ofSeed rfl madeStandard),
    Flow.run_bind_of_ok (Engine.run_generate_of_ofSeed rfl madeLow)]
  exact ⟨_, rfl⟩

/-! ## Lookups that agree -/

/-- A member owns an alias: all lookups say so, and give its id, which is not empty. -/
structure OwnedBy (member : Party) (x : Alias) (session : Session) : Prop where
  /-- The id of the member is not empty. -/
  id_ne_empty : member.id ≠ ""
  /-- The alias exists. -/
  exists_eq : ((Anonymous.aliasExists x).run session).1 = .ok true
  /-- The member is told. -/
  resolved_eq : ((Anonymous.resolveAlias x).run session).1 = .ok (some member)
  /-- Its id is told. -/
  id_eq : ((Anonymous.getMemberId x).run session).1 = .ok member.id
  /-- A new device gets keys of this member. -/
  provisioned : ∃ keys, ((provisionDevice x).run session).1 = .ok ⟨member.id, keys⟩

/-- No member owns an alias: all lookups say so. -/
structure Unowned (x : Alias) (session : Session) : Prop where
  /-- The alias does not exist. -/
  exists_eq : ((Anonymous.aliasExists x).run session).1 = .ok false
  /-- No member is told. -/
  resolved_eq : ((Anonymous.resolveAlias x).run session).1 = .ok none
  /-- There is no id. -/
  id_eq : ((Anonymous.getMemberId x).run session).1 =
    .error (.notFound ("no member with alias " ++ x.value))
  /-- A new device gets no keys, for the same reason. -/
  provisioned_eq : ((provisionDevice x).run session).1 =
    .error (.notFound ("no member with alias " ++ x.value))

/-- A device got keys, and they were kept. -/
structure Provided (x : Alias) (session : Session) (keys : List SecretKey) (device : DeviceKeys)
    (later : Session) : Prop where
  /-- The lookup gave the id of the member. -/
  looked : ((Anonymous.getMemberId x).run session).1 = .ok device.memberId
  /-- It is not empty. -/
  memberId_ne_empty : device.memberId ≠ ""
  /-- The device got the public halves of the new keys. -/
  keys_eq : device.keys = keys.map (·.publicKey)
  /-- There is one of each level. -/
  levels_eq : device.keys.map (·.level) = [.privileged, .standard, .low]
  /-- Nothing was sent but the lookup. -/
  calls_eq : later.calls = session.calls ++ [session.channel.lookup x]
  /-- The new keys stand behind those that the member had, unless two of them have one id or one of
  them has the id of a key that the member had. -/
  keysOf_self (distinct : (keys.map (·.id)).Nodup)
    (unstored : ∀ key ∈ keys, ∀ old ∈ session.keys.keysOf device.memberId, key.id ≠ old.id) :
    later.keys.keysOf device.memberId = session.keys.keysOf device.memberId ++ keys
  /-- Other members keep their keys. -/
  keysOf_of_ne {other : String} (apart : device.memberId ≠ other) :
    later.keys.keysOf other = session.keys.keysOf other

/-- A device whose keys can be made gets them if the lookup gives an id. -/
theorem exists_provided_of_run_getMemberId
    (made : SecretKey.ofSeeds [.privileged, .standard, .low] session.seeds =
      [privileged, standard, low]) {x : Alias} {memberId : String} {middle : Session}
    (looked : (Anonymous.getMemberId x).run session = (.ok memberId, middle)) :
    ∃ device later, (provisionDevice x).run session = (.ok device, later) ∧
      device.memberId = memberId ∧ Provided x session [privileged, standard, low] device later := by
  obtain ⟨named, rfl⟩ := Anonymous.of_run_getMemberId_ok looked
  have ready : SecretKey.ofSeeds [.privileged, .standard, .low]
      (session.answered (session.channel.lookup x)).seeds = [privileged, standard, low] := made
  obtain ⟨later, keyed⟩ := exists_run_deviceKeys ready memberId
  have way := silent_deviceKeys memberId (session.answered (session.channel.lookup x))
  have put := makes_deviceKeys memberId (session.answered (session.channel.lookup x))
  rw [keyed] at way put
  rw [Session.answered_keys, ready] at put
  refine ⟨_, later, (Flow.run_bind_of_ok looked _).trans keyed, rfl,
    congrArg Prod.fst looked, named, rfl, ?levels, way.calls_eq, ?self, ?others⟩
  case levels =>
    have asked := SecretKey.isPrefix_levels_ofSeeds [.privileged, .standard, .low] session.seeds
    rw [made] at asked
    exact asked.eq_of_length rfl
  case self =>
    intro distinct unstored
    have kept : (session.keys.keysOf memberId).filter (fun old =>
        !([privileged, standard, low].any (·.id = old.id))) = session.keys.keysOf memberId := by
      refine List.filter_eq_self.2 fun old held => ?_
      simpa using fun key mem => unstored key mem old held
    rw [put, KeyStore.keysOf_putAll_self, kept, KeyStore.unreplaced_eq_self distinct]
  case others =>
    intro other apart
    rw [put, KeyStore.keysOf_putAll_of_ne _ apart]

/-- The lookups of an alias agree. Whatever can be read of an answer, either it names a member with
an id, and all of them give this member or its id, or it names none, and all of them say so.
Whatever the answer and the store, a device that gets no keys changes no keys, and one that does
gets three new ones of the member that was looked up, which is all that changes. Three new keys can
be made of the seeds ahead. -/
theorem lookups_agree (x : Alias)
    (made : SecretKey.ofSeeds [.privileged, .standard, .low] session.seeds =
      [privileged, standard, low]) :
    (∀ response : ResolveAliasResponse, session.channel.closed = false →
      session.Answers session.calls .resolveAlias (⟨x⟩ : ResolveAliasRequest) response →
      (∃ member, response.member = some member ∧ OwnedBy member x session) ∨
        (∀ member, response.member = some member → member.id = "") ∧ Unowned x session) ∧
    (∀ error later, (provisionDevice x).run session = (.error error, later) →
      later.keys = session.keys ∧ ((Anonymous.getMemberId x).run session).1 = .error error) ∧
    ∀ device later, (provisionDevice x).run session = (.ok device, later) →
      Provided x session [privileged, standard, low] device later := by
  refine ⟨fun response opened answers => ?read, fun error later failed => ?error,
    fun device later gave => ?ok⟩
  case read =>
    have resolved := Anonymous.run_resolveAlias_of_open opened x
    rw [answers, Except.map] at resolved
    have existing : (Anonymous.aliasExists x).run session =
        (.ok response.owner?.isSome, session.answered (session.channel.lookup x)) :=
      Flow.run_bind_of_ok resolved _
    have looked := Anonymous.run_getMemberId_of_ok resolved
    cases found : response.owner? with
    | none =>
      rw [found] at resolved existing looked
      have failed : (provisionDevice x).run session = (.error _, _) := Flow.run_bind_of_error looked _
      exact .inr ⟨ResolveAliasResponse.owner?_eq_none_iff.1 found, congrArg Prod.fst existing,
        congrArg Prod.fst resolved, congrArg Prod.fst looked, congrArg Prod.fst failed⟩
    | some member =>
      rw [found] at resolved existing looked
      obtain ⟨told, named⟩ := ResolveAliasResponse.owner?_eq_some_iff.1 found
      obtain ⟨device, later, gave, same, _⟩ := exists_provided_of_run_getMemberId made looked
      refine .inl ⟨member, told, named, congrArg Prod.fst existing, congrArg Prod.fst resolved,
        congrArg Prod.fst looked, device.keys, ?_⟩
      rw [gave, ← same]
  -- The other two cases are those of the lookup.
  case error =>
    cases looked : (Anonymous.getMemberId x).run session with
    | mk result middle =>
      cases result with
      | error _ =>
        have kept := Anonymous.keeps_keys_getMemberId x session
        rw [looked] at kept
        cases (Flow.run_bind_of_error looked deviceKeys).symm.trans failed
        exact ⟨kept, rfl⟩
      | ok memberId =>
        obtain ⟨_, _, gave, _⟩ := exists_provided_of_run_getMemberId made looked
        cases gave.symm.trans failed
  case ok =>
    obtain ⟨memberId, middle, looked, _⟩ := Flow.exists_of_run_bind_ok gave
    obtain ⟨_, _, again, _, provided⟩ := exists_provided_of_run_getMemberId made looked
    cases again.symm.trans gave
    exact provided

/-- Behind a gateway that names a member with an id a new device of this member, which has a key
already, gets three more. -/
theorem lookups_agree_of_known :
    ∃ older privileged standard low session,
      session = Session.steady {}
        (fun _ => encode (⟨some { id := "m:1" }⟩ : ResolveAliasResponse))
        (KeyStore.empty.put "m:1" older)
        [KeyText.seedOfTwos, KeyText.seedOfThrees, KeyText.seedOfFours] ∧
      SecretKey.ofSeeds [.privileged, .standard, .low] session.seeds =
        [privileged, standard, low] ∧
      OwnedBy { id := "m:1" } (.email "alice@example.com") session ∧
      ∃ keys later, (provisionDevice (.email "alice@example.com")).run session =
          (.ok ⟨"m:1", keys⟩, later) ∧
        later.keys.keysOf "m:1" = [older, privileged, standard, low] := by
  obtain ⟨older, privileged, standard, low, madeOlder, madePrivileged, madeStandard, madeLow,
    distinct⟩ := SecretKey.exists_ones_twos_threes_fours .low .privileged .standard .low
  generalize start : Session.steady {}
    (fun _ => encode (⟨some { id := "m:1" }⟩ : ResolveAliasResponse)) (KeyStore.empty.put "m:1" older)
    [KeyText.seedOfTwos, KeyText.seedOfThrees, KeyText.seedOfFours] = session
  have made : SecretKey.ofSeeds [.privileged, .standard, .low] session.seeds =
      [privileged, standard, low] := by
    rw [← start]
    exact (SecretKey.ofSeeds_cons_of_ok madePrivileged _ _).trans (congrArg _
      ((SecretKey.ofSeeds_cons_of_ok madeStandard _ _).trans (congrArg _
        (SecretKey.ofSeeds_cons_of_ok madeLow _ _))))
  have opened : session.channel.closed = false := by
    rw [← start]
    rfl
  have answers : session.Answers session.calls .resolveAlias
      (⟨.email "alice@example.com"⟩ : ResolveAliasRequest)
      (⟨some { id := "m:1" }⟩ : ResolveAliasResponse) := by
    rw [← start]
    exact Session.read_encode _ _
  have held : session.keys.keysOf "m:1" = [older] := by
    rw [← start]
    exact KeyStore.keysOf_put_self _ _ _
  obtain ⟨agree, _, provided⟩ := lookups_agree (.email "alice@example.com") made
  rcases agree _ opened answers with ⟨_, ⟨⟩, owned⟩ | ⟨empty, _⟩
  · obtain ⟨keys, gave⟩ := owned.provisioned
    have all := (provided ⟨"m:1", keys⟩ _ (Prod.ext gave rfl)).keysOf_self
      (List.nodup_cons.1 distinct).2
    rw [held] at all
    refine ⟨older, privileged, standard, low, session, start.symm, made, owned, keys, _,
      Prod.ext gave rfl, all ?_⟩
    intro key mem old isOlder same
    rw [List.mem_singleton.1 isOlder] at same
    exact (List.nodup_cons.1 distinct).1 (List.mem_map.2 ⟨key, mem, same⟩)
  · exact absurd (empty _ rfl) (by decide)

end Membership

end OpenBanking
