import OpenBanking.Anonymous
import OpenBanking.Client.Own
import OpenBanking.Proofs.Gateway.Identity

/-!
# What asking sends

Whoever asks over an open channel, with or without an identity, sends one call of the method, whose
body is the written value, and gets what can be read from the answer.
-/

namespace OpenBanking

open Json

/-- The call that asks for something without identity. -/
def Channel.plainCall {α : Type} [Wire α] (channel : Channel) (method : Method) (x : α) : Call :=
  ⟨method, channel.headers, encode x⟩

/-- After earlier calls the gateway answers one value by another, if it is asked without identity.
-/
def Session.Answers {α β : Type} [Wire α] [Wire β] (session : Session) (earlier : List Call)
    (method : Method) (x : α) (y : β) : Prop :=
  Session.read β (session.gateway earlier (session.channel.plainCall method x)) = .ok y

namespace Anonymous

variable {session : Session}

/-- Over an open channel a call without identity is one call with the headers of the channel. -/
theorem run_ask_of_open {α β : Type} [Wire α] [Wire β] (opened : session.channel.closed = false)
    (method : Method) (x : α) :
    (ask method x : Flow Session β).run session =
      (Session.read β (session.gateway session.calls
          ⟨method, session.channel.headers, encode x⟩),
        session.answered ⟨method, session.channel.headers, encode x⟩) := by
  have ran := Session.run_exchange_of_open (β := β) opened method [] x
  rw [Channel.callOf, List.append_nil] at ran
  exact ran

end Anonymous

namespace Client

variable {client : Client} {session : Session}

/-- With a low key a call about the member is one call. -/
theorem exists_run_ask {α β : Type} [Wire α] [Wire β] (opened : session.channel.closed = false)
    {low : SecretKey}
    (found : session.keys.byLevel session.now client.engine.memberId .low = .ok low)
    (method : Method) (x : α) :
    ∃ call : Call, call.method = method ∧ call.body = encode x ∧
      (client.ask method x : Flow Session β).run session =
        (Session.read β (session.gateway session.calls call), session.answered call) :=
  ⟨_, rfl, rfl, Identity.run_exchange_of_byLevel found opened method x⟩

/-- The privileged key signs a value in the name of the member. -/
theorem run_signPrivileged {α : Type} [Wire α] {privileged : SecretKey}
    (found :
      session.keys.byLevel session.now client.engine.memberId .privileged = .ok privileged)
    {x : α} {signature : String}
    (signed : (Signer.ofSecret privileged).signOctets (canonicalOctets x) = .ok signature) :
    (client.signPrivileged x).run session =
      (.ok ⟨client.memberId, privileged.id, signature⟩, session) := by
  have made : (Flow.ofCrypto ((Signer.ofSecret privileged).sign x)).run session =
      (.ok signature, session) := by
    rw [Signer.sign, signed]
    rfl
  rw [signPrivileged, Flow.run_bind_of_ok (Engine.run_signer_of_byLevel found),
    Flow.run_bind_of_ok made]
  rfl

end Client

end OpenBanking
