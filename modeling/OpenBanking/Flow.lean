import OpenBanking.ClientError

/-!
# Flows

A flow reads and changes a state and either gives a value or fails. What it changed before
it failed stays changed, as calls that were sent stay sent.
-/

namespace OpenBanking

/-- A computation over a state that may fail. -/
def Flow (σ α : Type) : Type := σ → Except ClientError α × σ

namespace Flow

variable {σ τ α β : Type}

/-- Runs a flow from a state. -/
def run (flow : Flow σ α) (s : σ) : Except ClientError α × σ := flow s

/-- Gives a value. -/
def give (x : α) : Flow σ α := fun s => (.ok x, s)

/-- Fails. -/
def fail (error : ClientError) : Flow σ α := fun s => (.error error, s)

/-- Goes on with the value of a flow, unless it failed. -/
def andThen (flow : Flow σ α) (next : α → Flow σ β) : Flow σ β := fun s =>
  match flow s with
  | (.ok x, s) => next x s
  | (.error error, s) => (.error error, s)

/-- Flows in sequence. -/
instance : Monad (Flow σ) where
  pure := give
  bind := andThen

/-- Gives a value that is there, or fails with its error. -/
def ofExcept : Except ClientError α → Flow σ α
  | .ok x => give x
  | .error error => fail error

/-- Gives a value, or fails as a key does. -/
def ofCrypto : Except CryptoError α → Flow σ α
  | .ok x => give x
  | .error error => fail (.crypto error)

/-- Reads from the state. -/
def read (f : σ → α) : Flow σ α := fun s => (.ok (f s), s)

/-- Changes the state. -/
def change (f : σ → σ) : Flow σ Unit := fun s => (.ok (), f s)

/-- A flow over the second part of a pair. -/
def onSecond (flow : Flow τ α) : Flow (σ × τ) α := fun (a, b) =>
  let (result, b) := flow b
  (result, a, b)

end Flow

end OpenBanking
