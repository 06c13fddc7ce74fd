import OpenBanking.Proofs.Gateway.Identity
import OpenBanking.Proofs.Lossless.Member
import OpenBanking.Proofs.Text.Base64url

/-!
# Headers read back

Headers of different names are found by their names. The context of a call has a header for each
field that is set, and none for the others, so that every context is read back from its headers: an
empty access token is told from none, and tracking goes through its canonical text. The static
headers of a configuration, those of the identity and those of the context have no name in common.
-/

namespace OpenBanking

open Json

namespace Headers

/-- The names, in order. -/
def names (headers : Headers) : List String := headers.map (·.1)

/-- The names of appended headers are appended. -/
@[simp]
theorem names_append (front back : Headers) :
    (front ++ back : Headers).names = front.names ++ back.names :=
  List.map_append

/-- Where no name stands twice, every header is found by its name. -/
theorem value?_of_mem {headers : Headers} (nodup : headers.names.Nodup) {header : String × String}
    (held : header ∈ headers) : headers.value? header.1 = some header.2 := by
  induction headers with
  | nil => cases held
  | cons first later ih =>
    obtain ⟨fresh, nodup⟩ := List.nodup_cons.1 nodup
    rcases List.mem_cons.1 held with rfl | held
    · simp [value?]
    · have apart : first.1 ≠ header.1 := fun same => fresh (List.mem_map.2 ⟨header, held, same.symm⟩)
      rw [← ih nodup held]
      simp [value?, apart]

end Headers

/-! ## One context -/

/-- Tracking that tells nothing has all fields at their defaults. -/
theorem Tracking.eq_default_of_isEmpty {tracking : Tracking} (told : tracking.isEmpty = true) :
    tracking = {} := by
  obtain ⟨ipAddress, geoLocation, deviceFingerprint⟩ := tracking
  simp only [Tracking.isEmpty, Bool.and_eq_true, String.isEmpty_iff] at told
  obtain ⟨⟨rfl, rfl⟩, rfl⟩ := told
  rfl

namespace CallContext

variable (context : CallContext)

/-- The names of the headers of a context. -/
theorem names_headers :
    context.headers.names =
      HeaderName.keyLevel :: ((if context.onBehalfOf.isSome then [HeaderName.onBehalfOf] else []) ++
        (if context.customerInitiated then [HeaderName.customerInitiated] else []) ++
        if context.tracking.isEmpty then [] else [HeaderName.tracking]) := by
  unfold headers
  cases context.onBehalfOf <;> cases context.customerInitiated <;> cases context.tracking.isEmpty <;>
    rfl

/-- The headers of a context stand in a fixed order, each at most once. -/
theorem names_headers_sublist : context.headers.names.Sublist HeaderName.ofContext := by
  rw [names_headers]
  generalize context.onBehalfOf.isSome = delegated
  generalize context.customerInitiated = initiated
  generalize context.tracking.isEmpty = untold
  revert delegated initiated untold
  decide

/-- What the headers of a context hold: the level; the access token, be it empty, if there is one;
the mark if a person asked; and the tracking if anything is told of the device. -/
theorem value?_headers :
    context.headers.value? HeaderName.keyLevel = some (nameOf context.keyLevel) ∧
      context.headers.value? HeaderName.onBehalfOf = context.onBehalfOf ∧
      context.headers.value? HeaderName.customerInitiated =
        (if context.customerInitiated then some "true" else none) ∧
      context.headers.value? HeaderName.tracking =
        if context.tracking.isEmpty then none
        else some (Base64url.encode (canonicalOctets context.tracking)) := by
  obtain ⟨token, initiated, level, tracking⟩ := context
  cases token <;> cases initiated <;> cases told : tracking.isEmpty <;>
    simp [headers, Headers.value?, told, HeaderName.onBehalfOf, HeaderName.customerInitiated,
      HeaderName.keyLevel, HeaderName.tracking]

/-- Tracking is read from its header, or from none if it tells nothing. -/
theorem trackingOf?_headers :
    trackingOf? (context.headers.value? HeaderName.tracking) = some context.tracking := by
  rw [context.value?_headers.2.2.2]
  cases told : context.tracking.isEmpty with
  | true => exact congrArg some (Tracking.eq_default_of_isEmpty told).symm
  | false =>
    have octets := Base64url.decode_encode (canonicalOctets context.tracking)
    have tracking : decode (canonicalOctets context.tracking) = .ok context.tracking :=
      (Codec.losesNothing Lossless.readsBack).canonical context.tracking
    rw [if_neg Bool.false_ne_true, trackingOf?, octets]
    simp only [tracking]
    rfl

/-- The level is read from its header. -/
theorem keyLevel_headers :
    (context.headers.value? HeaderName.keyLevel).bind ofName? = some context.keyLevel := by
  rw [context.value?_headers.1]
  exact ofName?_nameOf _

/-- A person asked if there is a mark. -/
theorem isSome_customerInitiated_headers :
    (context.headers.value? HeaderName.customerInitiated).isSome = context.customerInitiated := by
  rw [context.value?_headers.2.2.1]
  cases context.customerInitiated <;> rfl

/-- A context is read from its headers. -/
theorem ofHeaders?_headers : ofHeaders? context.headers = some context := by
  simp only [ofHeaders?, keyLevel_headers, context.value?_headers.2.1,
    isSome_customerInitiated_headers, trackingOf?_headers]
  rfl

/-- No two contexts have the same headers. -/
theorem headers_injective : Function.Injective headers := by
  intro context other same
  have read := context.ofHeaders?_headers
  rw [same, other.ofHeaders?_headers] at read
  exact (Option.some.inj read).symm

/-- Headers of other names in front do not change the context that is read. -/
theorem ofHeaders?_append {front : Headers}
    (free : ∀ header ∈ front, header.1 ∉ HeaderName.ofContext) (back : Headers) :
    ofHeaders? (front ++ back) = ofHeaders? back := by
  have behind {name : String} (own : name ∈ HeaderName.ofContext) :
      (front ++ back : Headers).value? name = back.value? name :=
    Headers.value?_append_of_forall_ne (fun header held same => free header held (same ▸ own)) back
  rw [ofHeaders?, ofHeaders?, behind (by decide), behind (by decide), behind (by decide),
    behind (by decide)]

end CallContext

/-! ## Calls -/

/-- The headers of every call over the channel of a configuration. -/
def HeaderName.ofChannel : List String := [developerKey, platform, version]

/-- Static headers, those of the identity and those of the context have different names. -/
theorem HeaderName.nodup_names : (ofChannel ++ ofIdentity ++ ofContext).Nodup := by decide

/-- The channel of a configuration has its key of the developer, the platform and the version. -/
theorem Config.exists_headers_channel {config : Config} {channel : Channel}
    (built : config.channel = .ok channel) : ∃ key, config.developerKey = some key ∧
      channel.headers = [(HeaderName.developerKey, key), (HeaderName.platform, platformName),
        (HeaderName.version, versionName)] := by
  unfold Config.channel at built
  split at built
  next => cases built
  next key given =>
    split at built
    next => cases built
    next =>
      cases built
      exact ⟨key, given, rfl⟩

/-- The headers of a call are clear: whoever gets it finds each of them by its name, and among them
the key of the developer that is configured. -/
structure Call.Clear (call : Call) (config : Config) : Prop where
  /-- No name stands twice. -/
  nodup : call.headers.names.Nodup
  /-- Every header is found by its name. -/
  header?_eq : ∀ header ∈ call.headers, call.header? header.1 = some header.2
  /-- There is a key of the developer, and it is found. -/
  developerKey_eq : ∃ key, config.developerKey = some key ∧
    call.header? HeaderName.developerKey = some key

/-- Headers are clear that have, behind the static ones, some of those of a signed call in order. -/
theorem Call.clear_of_sublist {config : Config} {channel : Channel}
    (built : config.channel = .ok channel)
    {call : Call} {signed : Headers} (headers : call.headers = channel.headers ++ signed)
    (ordered : signed.names.Sublist (HeaderName.ofIdentity ++ HeaderName.ofContext)) :
    call.Clear config := by
  obtain ⟨key, given, static⟩ := Config.exists_headers_channel built
  have names : call.headers.names = HeaderName.ofChannel ++ signed.names := by
    rw [headers, Headers.names_append, static]
    rfl
  have nodup : call.headers.names.Nodup := by
    rw [names]
    refine HeaderName.nodup_names.sublist ?_
    rw [List.append_assoc]
    exact ordered.append_left _
  have found : ∀ header ∈ call.headers, call.header? header.1 = some header.2 :=
    fun header held => Headers.value?_of_mem nodup held
  refine ⟨nodup, found, key, given, found (HeaderName.developerKey, key) ?_⟩
  rw [headers, static]
  exact List.mem_cons_self

/-- The headers that sign a body have names of a signed call in order. -/
theorem Identity.names_signedHeaders_sublist (who : Identity) (key : SecretKey) (createdAt : Int64)
    (body : List UInt8) :
    (who.signedHeaders key createdAt body).names.Sublist
      (HeaderName.ofIdentity ++ HeaderName.ofContext) := by
  rw [signedHeaders, Headers.names_append]
  exact who.context.names_headers_sublist.append_left _

/-- The context is read from a call that is signed under it, over a channel that leaves the names.
-/
theorem Identity.ofHeaders?_of_headers_eq {who : Identity} {channel : Channel}
    (leaves : channel.LeavesNames) {key : SecretKey} {createdAt : Int64} {call : Call}
    (headers : call.headers = channel.headers ++ who.signedHeaders key createdAt call.body) :
    CallContext.ofHeaders? call.headers = some who.context := by
  have identity : ∀ name ∈ HeaderName.ofIdentity, name ∉ HeaderName.ofContext := by decide
  rw [headers, CallContext.ofHeaders?_append, signedHeaders, CallContext.ofHeaders?_append]
  · exact who.context.ofHeaders?_headers
  · intro header held
    refine identity header.1 ?_
    exact List.mem_map_of_mem (f := (·.1)) held
  · exact fun header held named => leaves header held (List.mem_append_right _ named)

end OpenBanking
