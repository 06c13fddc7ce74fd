import OpenBanking.ClientError
import OpenBanking.Proofs.Json.NormalForm
import OpenBanking.Proofs.Json.RecordText
import OpenBanking.Proofs.Lossless.Message
import OpenBanking.Proofs.Text.Lossy

/-!
# Responses that report a failure

A response that reports a failure is an error body or anything else: what a proxy sends, or nothing.
Which octets are an error body is settled by a grammar, and each of them by its code and message. A
code that is the name of a status is taken at its word; for all other codes, and all other bodies,
the status of HTTP decides.
-/

namespace OpenBanking

open Json

namespace ErrorBody

instance (depth : Nat) : fields.Exact depth := by
  unfold fields
  infer_instance

/-- Octets are the text of an error body: a JSON object with a code, a message or none, and whatever
other members, or an array of the code and the message or of the code alone. -/
abbrev IsText (error : ErrorBody) (body : List UInt8) : Prop :=
  fields.IsText body (error.code, error.message, ())

/-- Octets are decoded as an error body if they are a text of it, and only then. -/
theorem decode_eq_ok_iff {body : List UInt8} {error : ErrorBody} :
    decode body = .ok error ↔ error.IsText body :=
  Codec.record_whole_eq_ok_iff "ErrorBody" (by decide) (fun _ => rfl) fun _ => rfl

/-- Octets are the text of one error body at most. -/
theorem IsText.unique {body : List UInt8} {error other : ErrorBody} (written : error.IsText body)
    (also : other.IsText body) : error = other :=
  Except.ok.inj ((decode_eq_ok_iff.2 written).symm.trans (decode_eq_ok_iff.2 also))

/-- An error body is written as a text of it. -/
theorem isText_encode (error : ErrorBody) : error.IsText (encode error) :=
  decode_eq_ok_iff.1 (decode_encode error)

section Members

variable {extra placed : List (String × List UInt8)}
  (unknown : ∀ member ∈ extra, member.1 ∉ ["code", "message"] ∧ IsJson member.2)
include unknown

/-- The members of an error body may stand in any order, and others among them. -/
theorem isText_of_perm {code message : String}
    (order : placed.Perm ([("code", encode code), ("message", encode message)] ++ extra)) :
    (⟨code, message⟩ : ErrorBody).IsText (objectOctets placed) := by
  have gives : fields.Gives [("code", encode code), ("message", encode message)]
      (code, message, ()) :=
    ⟨.inl ⟨encode code, List.mem_cons_self, spells_octets_string code⟩,
      .inl ⟨encode message, List.mem_cons_of_mem _ List.mem_cons_self,
        spells_octets_string message⟩,
      trivial⟩
  refine gives.isText_objectOctets ?_ ?_ unknown order
  · simp
  · simp [fields, Fields.names, Field.required, Field.withDefault]

/-- An error body without a message has the empty one. -/
theorem isText_of_perm_of_code {code : String}
    (order : placed.Perm ([("code", encode code)] ++ extra)) :
    (⟨code, ""⟩ : ErrorBody).IsText (objectOctets placed) := by
  have gives : fields.Gives [("code", encode code)] (code, "", ()) :=
    ⟨.inl ⟨encode code, List.mem_cons_self, spells_octets_string code⟩,
      .inr ⟨by simp [Field.withDefault], rfl⟩, trivial⟩
  refine gives.isText_objectOctets ?_ ?_ unknown order
  · simp
  · simp [fields, Fields.names, Field.required]

end Members

end ErrorBody

namespace Status

/-- The status that a response with a code reports: the one that the code names, or else the one
closest to that of HTTP. -/
inductive Reported (http : Nat) : (code : String) → Status → Prop where
  | named (status : Status) : Reported http (nameOf status) status
  | other {code : String} (unknown : ∀ status : Status, nameOf status ≠ code) :
    Reported http code (ofHttp http)

/-- No status has a name that is not found. -/
theorem getD_ofName?_of_reported {http : Nat} {code : String} {status : Status}
    (reported : Reported http code status) : (ofName? code).getD (ofHttp http) = status := by
  cases reported with
  | named => rw [ofName?_nameOf, Option.getD_some]
  | other unknown =>
    have none : (ofName? code : Option Status) = .none :=
      List.find?_eq_none.2 fun status _ => by simpa [nameOf] using unknown status
    rw [none, Option.getD_none]

/-- Every code reports a status. -/
theorem exists_reported (http : Nat) (code : String) : ∃ status, Reported http code status := by
  by_cases known : ∃ status : Status, nameOf status = code
  · obtain ⟨status, rfl⟩ := known
    exact ⟨status, .named status⟩
  · exact ⟨_, .other (not_exists.1 known)⟩

/-- A failure of HTTP is closest to no success. -/
theorem ofHttp_ne_ok {http : Nat} (failed : isHttpSuccess http = false) : ofHttp http ≠ .ok := by
  unfold ofHttp
  rw [failed]
  simp only [Bool.false_eq_true, ↓reduceIte]
  -- Only within the last range is there another choice.
  split <;> first | decide | (split <;> decide)

/-- A failure of HTTP is a success only by the name of its code. -/
theorem Reported.eq_ok_iff {http : Nat} {code : String} {status : Status}
    (reported : Reported http code status) (failed : isHttpSuccess http = false) :
    status = .ok ↔ code = "OK" := by
  cases reported with
  | named =>
    constructor
    · rintro rfl
      rfl
    · exact fun same => Named.name_injective (same : nameOf status = nameOf Status.ok)
  | other unknown =>
    exact iff_of_false (ofHttp_ne_ok failed) fun same => unknown .ok same.symm

end Status

namespace ClientError

/-- The error of an error body has its message, and the status that its code reports. -/
theorem ofResponse_of_isText {http : Nat} {body : List UInt8} {error : ErrorBody} {status : Status}
    (written : error.IsText body) (reported : Status.Reported http error.code status) :
    ofResponse http body = .status status error.message := by
  have decoded := ErrorBody.decode_eq_ok_iff.2 written
  simp only [ofResponse, decoded, Status.getD_ofName?_of_reported reported]

/-- The error of any other body has the status closest to that of HTTP, and the body as its message,
read leniently. -/
theorem ofResponse_of_not_isText {http : Nat} {body : List UInt8}
    (other : ∀ error : ErrorBody, ¬error.IsText body) :
    ofResponse http body = .status (.ofHttp http) (Utf8.lossy body) := by
  cases decoded : decode (α := ErrorBody) body with
  | ok error => exact absurd (ErrorBody.decode_eq_ok_iff.1 decoded) (other error)
  | error error => simp only [ofResponse, decoded]

/-- A text that is no error body, such as a proxy sends, is kept as the message. -/
theorem ofResponse_encode_of_not_isText {http : Nat} {text : String}
    (other : ∀ error : ErrorBody, ¬error.IsText (Utf8.encode text)) :
    ofResponse http (Utf8.encode text) = .status (.ofHttp http) text := by
  rw [ofResponse_of_not_isText other, Utf8.lossy_encode]

/-- What the gateway reports arrives. Whatever the status of HTTP, the members of an error body are
arranged and the others among them, the error has the status that the code names and the message,
the empty one if there is none. All that is not an error body gives the status closest to that of
HTTP, and is itself the message. -/
theorem ofResponse_reports (http : Nat) :
    (∀ {error : ErrorBody} {status : Status}, Status.Reported http error.code status →
      ofResponse http (encode error) = .status status error.message) ∧
    (∀ {code : String} {status : Status} {extra placed : List (String × List UInt8)},
      Status.Reported http code status →
      (∀ member ∈ extra, member.1 ∉ ["code", "message"] ∧ IsJson member.2) →
      (∀ message : String,
        placed.Perm ([("code", encode code), ("message", encode message)] ++ extra) →
        ofResponse http (objectOctets placed) = .status status message) ∧
      (placed.Perm ([("code", encode code)] ++ extra) →
        ofResponse http (objectOctets placed) = .status status "")) ∧
    (∀ {body : List UInt8} {error : ErrorBody} {status : Status}, error.IsText body →
      Status.Reported http error.code status →
      ofResponse http body = .status status error.message) ∧
    ∀ {body : List UInt8}, (∀ error : ErrorBody, ¬error.IsText body) →
      ∃ text, Utf8.ReadsLeniently body text.toList ∧
        ofResponse http body = .status (.ofHttp http) text := by
  refine ⟨?_, ?_, ofResponse_of_isText, ?_⟩
  · intro error status reported
    exact ofResponse_of_isText error.isText_encode reported
  · intro code status extra placed reported unknown
    constructor
    · intro message order
      exact ofResponse_of_isText (ErrorBody.isText_of_perm unknown order) reported
    · intro order
      exact ofResponse_of_isText (ErrorBody.isText_of_perm_of_code unknown order) reported
  · intro body other
    exact ⟨Utf8.lossy body, Utf8.readsLeniently_iff.2 rfl, ofResponse_of_not_isText other⟩

/-- An error body is as written; a code comes last, behind a member of a later gateway; a code is
none of a status; an error body is an array; a proxy sends what is no text. -/
theorem ofResponse_reports_of_each :
    ofResponse 409 (encode (⟨"ABORTED", "stale hash"⟩ : ErrorBody)) =
      .status .aborted "stale hash" ∧
    ofResponse 404 (objectOctets [("message", encode "stale hash"), ("trace", Value.null.octets),
      ("code", encode "FAILED_PRECONDITION")]) = .status .failedPrecondition "stale hash" ∧
    ofResponse 401 (objectOctets [("code", encode "WHATEVER")]) = .status .unauthenticated "" ∧
    ofResponse 409 (Utf8.encode "[\"NOT_FOUND\",\"gone\"]") = .status .notFound "gone" ∧
    ∃ text, Utf8.ReadsLeniently [0xE2, 0x82, 0x21] text.toList ∧
      ofResponse 503 [0xE2, 0x82, 0x21] = .status .unavailable text := by
  have unknown : ∀ member ∈ [("trace", Value.null.octets)],
      member.1 ∉ ["code", "message"] ∧ IsJson member.2 := by
    intro member new
    rw [List.mem_singleton.1 new]
    exact ⟨by decide, .word List.mem_cons_self⟩
  have order : [("message", encode "stale hash"), ("trace", Value.null.octets),
      ("code", encode "FAILED_PRECONDITION")].Perm
      ([("code", encode "FAILED_PRECONDITION"), ("message", encode "stale hash")] ++
        [("trace", Value.null.octets)]) :=
    List.perm_append_singleton ("code", _) [("message", _), ("trace", _)]
  have unnamed : ∀ status : Status, nameOf status ≠ "WHATEVER" := by
    intro status
    cases status <;> decide
  have alone : ∀ member ∈ ([] : List (String × List UInt8)),
      member.1 ∉ ["code", "message"] ∧ IsJson member.2 := nofun
  have listed : (⟨"NOT_FOUND", "gone"⟩ : ErrorBody).IsText
      (Utf8.encode "[\"NOT_FOUND\",\"gone\"]") := ErrorBody.decode_eq_ok_iff.1 (by rfl)
  have other : ∀ error : ErrorBody, ¬error.IsText [0xE2, 0x82, 0x21] := by
    intro error written
    cases ErrorBody.decode_eq_ok_iff.2 written
  exact ⟨(ofResponse_reports 409).1 (.named .aborted),
    ((ofResponse_reports 404).2.1 (.named .failedPrecondition) unknown).1 _ order,
    ((ofResponse_reports 401).2.1 (.other unnamed) alone).2 (.refl _),
    (ofResponse_reports 409).2.2.1 listed (.named .notFound), (ofResponse_reports 503).2.2.2 other⟩

/-- A response that is not a success is reported as an error with a status. This is no success
unless the body itself names it. -/
theorem exists_ofResponse_of_failed {http : Nat} (failed : isHttpSuccess http = false)
    (body : List UInt8) :
    ∃ code message, ofResponse http body = .status code message ∧
      (code = .ok ↔ ∃ message, (⟨"OK", message⟩ : ErrorBody).IsText body) := by
  by_cases read : ∃ error : ErrorBody, error.IsText body
  · obtain ⟨error, written⟩ := read
    obtain ⟨status, reported⟩ := Status.exists_reported http error.code
    refine ⟨status, error.message, ofResponse_of_isText written reported, ?_⟩
    rw [reported.eq_ok_iff failed]
    constructor
    · intro named
      exact ⟨error.message, named ▸ written⟩
    · rintro ⟨message, own⟩
      rw [written.unique own]
  · have other := not_exists.1 read
    refine ⟨_, _, ofResponse_of_not_isText other, ?_⟩
    exact iff_of_false (Status.ofHttp_ne_ok failed) fun ⟨_, own⟩ => other _ own

/-- A page of a proxy is reported as no success. -/
theorem exists_ofResponse_of_failed_502 :
    isHttpSuccess 502 = false ∧ ∃ code message,
      ofResponse 502 (Utf8.encode "<html>") = .status code message ∧ code ≠ .ok := by
  have failed : isHttpSuccess 502 = false := by decide
  obtain ⟨code, message, reported, success⟩ :=
    exists_ofResponse_of_failed failed (Utf8.encode "<html>")
  refine ⟨failed, code, message, reported, fun isOk => ?_⟩
  obtain ⟨_, written⟩ := success.1 isOk
  cases ErrorBody.decode_eq_ok_iff.2 written

/-- A gateway that fails, and names it no error, is reported as a success. -/
theorem ofResponse_ok_of_failed :
    isHttpSuccess 500 = false ∧
      ofResponse 500 (Utf8.encode "\x7b\"code\":\"OK\"\x7d") = .status .ok "" :=
  ⟨by decide, by rfl⟩

end ClientError

end OpenBanking
