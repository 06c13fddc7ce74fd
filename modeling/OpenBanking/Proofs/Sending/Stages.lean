import OpenBanking.Proofs.Gateway.Tolerance
import OpenBanking.Proofs.Sending.Dialogue

/-!
# Stages of flows

A flow of several calls goes through fixed stages. At each of them it sends one call, and the answer
either lets it go on or ends it with an error. It may also end on its own between two stages. So
what it has sent are the calls of the first stages, and its error is that of the last answer unless
it is its own.
-/

namespace OpenBanking

open Json

/-- One call of a flow, and what its answer has to say for the flow to go on. -/
structure Stage where
  /-- The method of the call. -/
  method : Method
  /-- What is wrong with a response, if anything. -/
  check : method.response.Carrier → Except ClientError Unit

namespace Stage

/-- Every response lets the flow go on. -/
def plain (method : Method) : Stage where
  method := method
  check _ := .ok ()

/-- A member with an id owns the alias. -/
def owner (x : Alias) : Stage where
  method := .resolveAlias
  check (response : ResolveAliasResponse) :=
    if ∃ member, response.member = some member ∧ member.id ≠ "" then .ok ()
    else .error (.notFound ("no member with alias " ++ x.value))

/-- The code is accepted. -/
def acceptance : Stage where
  method := .completeRecovery
  check (response : CompleteRecoveryResponse) :=
    if response.status = .success then .ok ()
    else .error (.verification (nameOf response.status))

/-- A stage is passed with an answer that holds a response with nothing wrong. -/
def Accepts (stage : Stage) (answer : Answer) : Prop :=
  ∃ response, Session.read stage.method.response.Carrier answer = .ok response ∧
    stage.check response = .ok ()

/-- An answer ends a flow with an error. -/
inductive Refuses (stage : Stage) (answer : Answer) : ClientError → Prop where
  /-- No body came back. -/
  | unanswered {error : ClientError} (result : answer.result = .error error) :
    Refuses stage answer error
  /-- The body cannot be read as a response. -/
  | undecodable {body : List UInt8} {error : ReadError} (result : answer.result = .ok body)
    (unread : (decode (if body.isEmpty then Utf8.encode "\x7b\x7d" else body) :
      Except ReadError stage.method.response.Carrier) = .error error) :
    Refuses stage answer (.serialization error)
  /-- The response is not what the flow needs. -/
  | unfit {response : stage.method.response.Carrier} {error : ClientError}
    (told : Session.read stage.method.response.Carrier answer = .ok response)
    (checked : stage.check response = .error error) : Refuses stage answer error

/-- What comes of an answer: nothing wrong, or an error. -/
def verdict (stage : Stage) (answer : Answer) : Except ClientError Unit :=
  Session.read stage.method.response.Carrier answer >>= stage.check

/-- What is accepted has nothing wrong. -/
theorem accepts_iff {stage : Stage} {answer : Answer} :
    stage.Accepts answer ↔ stage.verdict answer = .ok () := by
  rw [Accepts, verdict]
  cases Session.read stage.method.response.Carrier answer with
  | ok response => simp [bind, Except.bind]
  | error error => simp [bind, Except.bind]

/-- What is refused has the error that it is refused with. -/
theorem Refuses.verdict_eq {stage : Stage} {answer : Answer} {error : ClientError}
    (refuses : stage.Refuses answer error) : stage.verdict answer = .error error := by
  rw [verdict]
  cases refuses with
  | unanswered result =>
    rw [Session.read, result]
    rfl
  | undecodable result unread =>
    simp only [Session.read, result, Session.readAnswer, unread]
    rfl
  | unfit told checked =>
    rw [told]
    exact checked

/-- A plain stage only needs an answer that can be read. -/
theorem verdict_plain (method : Method) (answer : Answer) :
    (plain method).verdict answer =
      (Session.read method.response.Carrier answer).map fun _ => () := by
  have verdict : (plain method).verdict answer =
      Session.read method.response.Carrier answer >>= fun _ => .ok () := rfl
  rw [verdict]
  cases Session.read method.response.Carrier answer <;> rfl

end Stage

namespace Session

/-- Calls were sent at the first of some stages, and what comes of it: a value once all of them are
passed, the error of the answer that is refused, or an error before the next call. -/
inductive Passed {α : Type} (gateway : Gateway) :
    List Call → List Stage → List Call → Except ClientError α → Prop where
  | done {earlier : List Call} (x : α) : Passed gateway earlier [] [] (.ok x)
  | unsent {earlier : List Call} {stages : List Stage} (error : ClientError) :
    Passed gateway earlier stages [] (.error error)
  | refused {earlier : List Call} {stage : Stage} {stages : List Stage} {call : Call}
    {error : ClientError} (isNext : call.method = stage.method)
    (verdict : stage.verdict (gateway earlier call) = .error error) :
    Passed gateway earlier (stage :: stages) [call] (.error error)
  | passed {earlier : List Call} {stage : Stage} {stages : List Stage} {call : Call}
    {sent : List Call} {result : Except ClientError α} (isNext : call.method = stage.method)
    (verdict : stage.verdict (gateway earlier call) = .ok ())
    (later : Passed gateway (earlier ++ [call]) stages sent result) :
    Passed gateway earlier (stage :: stages) (call :: sent) result

section Passed

variable {α β : Type} {gateway : Gateway} {earlier sent : List Call} {stages : List Stage}

/-- A run that has ended does not reach any further stages. -/
theorem Passed.of_error {result : Except ClientError α}
    (passed : Passed gateway earlier stages sent result) {error : ClientError}
    (failed : result = .error error) (more : List Stage) :
    Passed gateway earlier (stages ++ more) sent (.error error : Except ClientError β) := by
  induction passed with
  | done x => cases failed
  | unsent other =>
    cases failed
    exact .unsent error
  | refused isNext verdict =>
    cases failed
    exact .refused isNext verdict
  | passed isNext verdict later ih => exact .passed isNext verdict (ih failed)

/-- A run that has passed its stages goes on with those that follow. -/
theorem Passed.append {first : Except ClientError α}
    (passed : Passed gateway earlier stages sent first) {x : α} (gave : first = .ok x)
    {more : List Stage} {after : List Call} {result : Except ClientError β}
    (later : Passed gateway (earlier ++ sent) more after result) :
    Passed gateway earlier (stages ++ more) (sent ++ after) result := by
  induction passed with
  | done x =>
    rw [List.append_nil] at later
    exact later
  | unsent error => cases gave
  | refused isNext verdict => cases gave
  | passed isNext verdict _ ih =>
    refine .passed isNext verdict (ih gave ?_)
    rwa [List.append_assoc]

/-- Each call belongs to its stage. If the answer is refused the call is the last one, and the run
has the same error. -/
theorem Passed.stops {result : Except ClientError α}
    (passed : Passed gateway earlier stages sent result) {k : Nat} {call : Call}
    (isSent : sent[k]? = some call) :
    ∃ stage, stages[k]? = some stage ∧ call.method = stage.method ∧
      ∀ error, stage.verdict (gateway (earlier ++ sent.take k) call) = .error error →
        sent.length = k + 1 ∧ result = .error error := by
  induction passed generalizing k with
  | done x => simp at isSent
  | unsent error => simp at isSent
  | @refused earlier stage stages only error isNext verdict =>
    cases k with
    | zero =>
      cases isSent
      refine ⟨stage, rfl, isNext, fun other refused => ⟨rfl, ?_⟩⟩
      rw [List.take_zero, List.append_nil, verdict] at refused
      cases refused
      rfl
    | succ k => simp at isSent
  | @passed earlier stage stages first sent result isNext verdict later ih =>
    cases k with
    | zero =>
      cases isSent
      refine ⟨stage, rfl, isNext, fun other refused => ?_⟩
      rw [List.take_zero, List.append_nil, verdict] at refused
      cases refused
    | succ k =>
      -- Behind its first call the run is one of the later stages, after one call more.
      obtain ⟨own, isOwn, same, stops⟩ := ih isSent
      refine ⟨own, isOwn, same, fun error refused => ?_⟩
      rw [List.take_succ_cons, List.append_cons] at refused
      obtain ⟨isLast, failed⟩ := stops error refused
      exact ⟨congrArg (· + 1) isLast, failed⟩

/-- The methods come in the order of the stages. -/
theorem Passed.isPrefix_methods {result : Except ClientError α}
    (passed : Passed gateway earlier stages sent result) :
    sent.map (·.method) <+: stages.map (·.method) := by
  induction passed with
  | done x => exact List.prefix_refl []
  | unsent error => exact List.nil_prefix
  | refused isNext verdict =>
    rw [List.map_cons, List.map_cons, isNext, List.prefix_cons_inj]
    exact List.nil_prefix
  | passed isNext verdict later ih =>
    rwa [List.map_cons, List.map_cons, isNext, List.prefix_cons_inj]

/-- A run that gives a value has passed all stages. -/
theorem Passed.completes {result : Except ClientError α}
    (passed : Passed gateway earlier stages sent result) (succeeded : result.isOk = true) :
    sent.map (·.method) = stages.map (·.method) ∧
      ∀ (k : Nat) (call : Call) (stage : Stage), sent[k]? = some call → stages[k]? = some stage →
        stage.verdict (gateway (earlier ++ sent.take k) call) = .ok () := by
  induction passed with
  | done x => simp
  | unsent error => cases succeeded
  | refused isNext verdict => cases succeeded
  | passed isNext verdict later ih =>
    obtain ⟨methods, accepted⟩ := ih succeeded
    refine ⟨by rw [List.map_cons, List.map_cons, isNext, methods], ?_⟩
    intro k call stage isSent isStage
    cases k with
    | zero =>
      cases isSent
      cases isStage
      rwa [List.take_zero, List.append_nil]
    | succ k =>
      rw [List.take_succ_cons, List.append_cons]
      exact accepted k call stage isSent isStage

end Passed

/-- Every run of a flow goes through these stages. -/
def Passes {α : Type} (stages : List Stage) (flow : Flow Session α) : Prop :=
  Performs (fun session sent result => Passed session.gateway session.calls stages sent result) flow

section Passes

variable {α β : Type} {stages more : List Stage}

/-- A flow that sends nothing has no stages. -/
theorem Silent.passes {flow : Flow Session α} (silent : Silent flow) : Passes [] flow := by
  refine silent.performs fun session => ?_
  cases (flow.run session).1 with
  | ok x => exact .done x
  | error error => exact .unsent error

/-- The stages of a sequence are those of its flows, one after the other. -/
theorem Passes.bind {flow : Flow Session α} {next : α → Flow Session β}
    (first : Passes stages flow) (later : ∀ x, Passes more (next x)) :
    Passes (stages ++ more) (flow >>= next) := by
  refine Performs.bind first later ?_ ?_
  · intro session sent error passed
    exact passed.of_error rfl more
  · intro session middle sent sentLater x result went passed passedLater
    rw [went.gateway_eq, went.calls_eq] at passedLater
    exact passed.append rfl passedLater

/-- What sends nothing may come first. -/
theorem Passes.after {flow : Flow Session α} {next : α → Flow Session β}
    (later : ∀ x, Passes stages (next x)) (silent : Silent flow) : Passes stages (flow >>= next) :=
  silent.passes.bind later

/-- It may also come last. -/
theorem Passes.before {flow : Flow Session α} (first : Passes stages flow)
    {next : α → Flow Session β} (silent : ∀ x, Silent (next x)) :
    Passes stages (flow >>= next) := by
  have both := first.bind fun x => (silent x).passes
  rwa [List.append_nil] at both

/-- A question is one stage, if its reading is that of the stage. -/
theorem Performs.passes {stage : Stage} {reading : Answer → Except ClientError α}
    {flow : Flow Session α}
    (asks : Performs (Asked (fun _ call => call.method = stage.method) reading) flow)
    (judges : ∀ answer, stage.verdict answer = (reading answer).map fun _ => ()) :
    Passes [stage] flow := by
  refine asks.mono ?_
  rintro session sent result asked
  cases asked with
  | unsent error => exact .unsent error
  | @answered call _ isNext gives =>
    have judged := judges (session.gateway session.calls call)
    cases result with
    | error error =>
      rw [gives] at judged
      exact .refused isNext judged
    | ok x =>
      rw [gives] at judged
      exact .passed isNext judged (.done x)

/-- A question whose response is checked is a stage with this check. -/
theorem Performs.passes_check {stage : Stage}
    {checked : stage.method.response.Carrier → Except ClientError α} {flow : Flow Session α}
    (asks : Performs (Asked (fun _ call => call.method = stage.method)
      fun answer => read stage.method.response.Carrier answer >>= checked) flow)
    (judges : ∀ response, stage.check response = (checked response).map fun _ => ()) :
    Passes [stage] flow := by
  refine asks.passes fun answer => ?_
  rw [Stage.verdict]
  cases read stage.method.response.Carrier answer with
  | error error => rfl
  | ok response => exact judges response

/-- A question whose response is only mapped is a plain stage. -/
theorem Performs.passes_plain {method : Method} {f : method.response.Carrier → α}
    {flow : Flow Session α}
    (asks : Performs (Asked (fun _ call => call.method = method)
      fun answer => (read method.response.Carrier answer).map f) flow) :
    Passes [.plain method] flow := by
  refine asks.passes fun answer => (Stage.verdict_plain method answer).trans ?_
  cases read method.response.Carrier answer <;> rfl

end Passes

end Session

end OpenBanking
