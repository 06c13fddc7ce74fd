import OpenBanking.Proofs.Lossless.Request

/-!
# What a signature is for

A key of a member signs updates, authorizations of recoveries and envelopes of calls, and the key of
a certificate signs its payload. Nothing in the octets that are signed names the purpose. But their
canonical texts are objects, and the names of the first two members tell which of the four an object
is, whatever stands in the values: a string ends where its reader ends it. So no signature covers a
text of another purpose, and none covers two texts of one purpose.
-/

namespace OpenBanking

open Json

/-- What a signature can cover. -/
inductive Signable where
  /-- An update of a member. -/
  | update (x : MemberUpdate)
  /-- The word of an agent in a recovery. -/
  | authorization (x : Authorization)
  /-- The body of a call with its time. -/
  | envelope (x : Envelope)
  /-- The payload of a certificate. -/
  | certificate (x : EidasPayload)

namespace Signable

/-- The octets that are signed. -/
def octets : Signable → List UInt8
  | update x => canonicalOctets x
  | authorization x => canonicalOctets x
  | envelope x => canonicalOctets x
  | certificate x => canonicalOctets x

/-- The members of the object in the order of their declaration. -/
def given : Signable → List (String × Value)
  | update x =>
    [("member_id", .string x.memberId), ("prev_hash", .string x.prevHash),
      ("operations", toValue x.operations)]
  | authorization x =>
    [("member_id", .string x.memberId), ("prev_hash", .string x.prevHash),
      ("member_key", toValue x.memberKey)]
  | envelope x =>
    [("request", .string x.request), ("created_at_ms", .number (.whole x.createdAt.toInt))]
  | certificate x =>
    [("algorithm", .string (nameOf x.algorithm)), ("alias", toValue x.knownAs),
      ("certificate", .string x.certificate), ("member_id", .string x.memberId)]

/-- The members of the canonical object, in the order of their names. -/
def members : Signable → List (String × Value)
  | update x =>
    [("member_id", .string x.memberId), ("operations", (toValue x.operations).canonical),
      ("prev_hash", .string x.prevHash)]
  | authorization x =>
    [("member_id", .string x.memberId), ("member_key", (toValue x.memberKey).canonical),
      ("prev_hash", .string x.prevHash)]
  | envelope x =>
    [("created_at_ms", .number (.whole x.createdAt.toInt)), ("request", .string x.request)]
  | certificate x =>
    [("algorithm", .string (nameOf x.algorithm)), ("alias", (toValue x.knownAs).canonical),
      ("certificate", .string x.certificate), ("member_id", .string x.memberId)]

/-- Sorting brings the members into the order of their names. -/
theorem sortMembers_given (x : Signable) :
    sortMembers (mapValues Value.canonical x.given) = x.members := by
  cases x <;>
    simp only [given, members, mapValues, List.map_cons, List.map_nil, Value.canonical, sortMembers,
      List.foldl_cons, List.foldl_nil, insertMember, String.reduceLT, String.reduceEq, ↓reduceIte]

/-- The octets that are signed are those of an object with the sorted members. -/
theorem octets_eq (x : Signable) : x.octets = (Value.object x.members).octets := by
  have written : x.octets = (Value.object x.given).canonicalOctets := by
    cases x <;> rfl
  rw [written, Value.canonicalOctets, canonical_object, sortMembers_given]

/-- One text has one name for the first member. -/
theorem firstName_eq_of_octets_eq {x y : Signable} (same : x.octets = y.octets) :
    x.members.head?.map (·.1) = y.members.head?.map (·.1) := by
  rw [octets_eq, octets_eq] at same
  cases x <;> cases y <;> exact congrArg some (eq_of_octets_object_eq same).1

/-- No text is both an update and an authorization: behind the id of the member stands another
name. -/
theorem octets_update_ne_authorization (u : MemberUpdate) (a : Authorization) :
    (update u).octets ≠ (authorization a).octets := by
  intro same
  rw [octets_eq, octets_eq] at same
  have second : "operations" = "member_key" := eq_of_octets_object_string_eq same
  exact absurd second (by decide)

/-- Whoever knows the octets that were signed knows what was meant. -/
theorem octets_injective : Function.Injective octets := by
  intro x y same
  -- The first name tells all purposes apart but those of an update and an authorization.
  have first := firstName_eq_of_octets_eq same
  have distinct {α : Type} [Wire α] [Lossless depthLimit α] {x y : α}
      (same : canonicalOctets x = canonicalOctets y) : x = y :=
    (Codec.losesNothing Lossless.readsBack).distinct x y same
  cases x with
  | update u =>
    cases y with
    | update v => exact congrArg update (distinct same)
    | authorization a => exact absurd same (octets_update_ne_authorization u a)
    | envelope g => exact absurd first (by simp [members])
    | certificate e => exact absurd first (by simp [members])
  | authorization a =>
    cases y with
    | update u => exact absurd same.symm (octets_update_ne_authorization u a)
    | authorization b => exact congrArg authorization (distinct same)
    | envelope g => exact absurd first (by simp [members])
    | certificate e => exact absurd first (by simp [members])
  | envelope g =>
    cases y with
    | envelope h => exact congrArg envelope (distinct same)
    | update _ | authorization _ | certificate _ => exact absurd first (by simp [members])
  | certificate e =>
    cases y with
    | certificate f => exact congrArg certificate (distinct same)
    | update _ | authorization _ | envelope _ => exact absurd first (by simp [members])

end Signable

/-- An update, an authorization, an envelope and a payload never have the same canonical octets, so
a signature made for one purpose covers nothing of another. -/
theorem nodup_canonicalOctets_of_purposes (update : MemberUpdate) (authorization : Authorization)
    (envelope : Envelope) (payload : EidasPayload) :
    [canonicalOctets update, canonicalOctets authorization, canonicalOctets envelope,
      canonicalOctets payload].Nodup := by
  have apart : [Signable.update update, .authorization authorization, .envelope envelope,
      .certificate payload].Nodup := by simp
  exact List.Pairwise.map Signable.octets
    (fun _ _ other same => other (Signable.octets_injective same)) apart

end OpenBanking
