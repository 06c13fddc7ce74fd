import OpenBanking.Session

/-!
# Scripted gateways

A script lists replies for methods. Each reply answers one call of its method, except that
the last one answers all later calls too; where there is no reply the answer is an object
without members.
-/

namespace OpenBanking

/-- What a gateway replies. -/
inductive Reply where
  /-- A body. -/
  | body (octets : List UInt8)
  /-- An error. -/
  | failure (error : ClientError)
deriving DecidableEq

/-- What a reply makes of a call. -/
def Reply.result : Reply → Except ClientError (List UInt8)
  | .body octets => .ok octets
  | .failure error => .error error

/-- The replies to one method, from a certain number of its calls on. -/
structure Script.Part where
  /-- The method. -/
  method : Method
  /-- How many calls of the method came before these replies. -/
  earlier : Nat
  /-- The replies in order. -/
  replies : List Reply

/-- The replies to methods; the first part of a method counts. -/
abbrev Script := List Script.Part

namespace Script

/-- How many of the calls are of a method. -/
def countOf (method : Method) (calls : List Call) : Nat :=
  calls.countP (·.method = method)

/-- The reply to a call after others. -/
def replyTo (script : Script) (earlier : List Call) (method : Method) : Reply :=
  match script.find? (·.method = method) with
  | none => .body (Utf8.encode "\x7b\x7d")
  | some part =>
    let place := countOf method earlier - part.earlier
    (part.replies[place]?.or part.replies.getLast?).getD (.body (Utf8.encode "\x7b\x7d"))

/-- The gateway of a script, on which no time passes. -/
def gateway (script : Script) (now : Int64) : Gateway := fun earlier call =>
  ⟨(script.replyTo earlier call.method).result, now⟩

/-- The script with other replies to a method after some calls. -/
def replace (script : Script) (calls : List Call) (method : Method) (replies : List Reply) :
    Script :=
  ⟨method, countOf method calls, replies⟩ :: script

end Script

end OpenBanking
