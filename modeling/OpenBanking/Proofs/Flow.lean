import OpenBanking.Flow

/-!
# Runs of flows

What a run of each kind of flow gives, the two ways in which a sequence of flows goes on, with the
value of the first one or not at all, and what a sequence leaves alone.
-/

namespace OpenBanking.Flow

variable {σ α β : Type}

/-- A flow that only gives a value leaves the state. -/
@[simp]
theorem run_pure (x : α) (s : σ) : (pure x : Flow σ α).run s = (.ok x, s) := rfl

/-- A flow that fails leaves the state. -/
@[simp]
theorem run_fail (error : ClientError) (s : σ) :
    (fail error : Flow σ α).run s = (.error error, s) := rfl

/-- Reading the state leaves it. -/
@[simp]
theorem run_read (f : σ → α) (s : σ) : (read f).run s = (.ok (f s), s) := rfl

/-- A change puts the changed state in place. -/
@[simp]
theorem run_change (f : σ → σ) (s : σ) : (change f).run s = (.ok (), f s) := rfl

/-- What keys give is given, and the state is left. -/
@[simp]
theorem run_ofCrypto_ok (x : α) (s : σ) : (ofCrypto (.ok x) : Flow σ α).run s = (.ok x, s) := rfl

/-- What keys refuse fails as an error of keys, and the state is left. -/
@[simp]
theorem run_ofCrypto_error (error : CryptoError) (s : σ) :
    (ofCrypto (.error error) : Flow σ α).run s = (.error (.crypto error), s) := rfl

/-- What keys gave was there, and the state is the same. -/
theorem of_run_ofCrypto_ok {result : Except CryptoError α} {s t : σ} {x : α}
    (gave : (ofCrypto result : Flow σ α).run s = (.ok x, t)) : result = .ok x ∧ s = t := by
  cases result with
  | error error => cases gave
  | ok y =>
    cases gave
    exact ⟨rfl, rfl⟩

/-- A flow that gives what is there leaves the state. -/
theorem run_ofExcept (result : Except ClientError α) (s : σ) :
    (ofExcept result).run s = (result, s) := by
  cases result <;> rfl

/-- What a sequence does, by what its first flow does. -/
theorem run_bind (flow : Flow σ α) (next : α → Flow σ β) (s : σ) :
    (flow >>= next).run s =
      match flow.run s with
      | (.ok x, t) => (next x).run t
      | (.error error, t) => (.error error, t) := rfl

/-- A sequence goes on with the value of its first flow. -/
theorem run_bind_of_ok {flow : Flow σ α} {s t : σ} {x : α} (gave : flow.run s = (.ok x, t))
    (next : α → Flow σ β) : (flow >>= next).run s = (next x).run t := by
  rw [run_bind, gave]

/-- A sequence ends where its first flow fails. -/
theorem run_bind_of_error {flow : Flow σ α} {s t : σ} {error : ClientError}
    (failed : flow.run s = (.error error, t)) (next : α → Flow σ β) :
    (flow >>= next).run s = (.error error, t) := by
  rw [run_bind, failed]

/-- A sequence that gives a value has a first flow that gave one. -/
theorem exists_of_run_bind_ok {flow : Flow σ α} {next : α → Flow σ β} {s u : σ} {y : β}
    (gave : (flow >>= next).run s = (.ok y, u)) :
    ∃ x t, flow.run s = (.ok x, t) ∧ (next x).run t = (.ok y, u) := by
  rw [run_bind] at gave
  cases ran : flow.run s with
  | mk result t =>
    rw [ran] at gave
    cases result with
    | ok x => exact ⟨x, t, rfl, gave⟩
    | error error => cases gave

/-- Flows with the same runs are the same. -/
theorem ext {flow other : Flow σ α} (same : ∀ s, flow.run s = other.run s) : flow = other :=
  funext same

/-- Flows in sequence follow the laws of monads. -/
instance : LawfulMonad (Flow σ) := by
  refine LawfulMonad.mk' (Flow σ) ?_ (fun _ _ => rfl) ?_
  · intro α flow
    refine ext fun s => ?_
    have step : (id <$> flow).run s = (flow >>= fun x => pure (id x)).run s := rfl
    rw [step, run_bind]
    rcases flow.run s with ⟨result, t⟩
    cases result <;> rfl
  · intro α β γ flow next last
    refine ext fun s => ?_
    rw [run_bind, run_bind, run_bind]
    rcases flow.run s with ⟨result, t⟩
    cases result <;> rfl

/-- A sequence that only maps the value of its first flow ends as that flow does. -/
theorem run_bind_pure (flow : Flow σ α) (f : α → β) (s : σ) :
    (flow >>= fun x => pure (f x)).run s = ((flow.run s).1.map f, (flow.run s).2) := by
  rw [run_bind]
  rcases flow.run s with ⟨result, t⟩
  cases result <;> rfl

/-! ## What flows leave alone -/

/-- A flow leaves a part of the state, whether it fails or not. -/
def Keeps {τ : Type} (part : σ → τ) (flow : Flow σ α) : Prop :=
  ∀ s, part (flow.run s).2 = part s

section Keeps

variable {τ : Type} {part : σ → τ}

/-- A sequence leaves what each of its flows leaves. -/
theorem Keeps.bind {flow : Flow σ α} {next : α → Flow σ β} (first : Keeps part flow)
    (later : ∀ x, Keeps part (next x)) : Keeps part (flow >>= next) := by
  intro s
  have before := first s
  rw [run_bind]
  generalize flow.run s = ran at before ⊢
  obtain ⟨result, t⟩ := ran
  cases result with
  | error error => exact before
  | ok x => exact (later x t).trans before

/-- A value leaves the state. -/
theorem keeps_pure (x : α) : Keeps part (pure x : Flow σ α) := fun _ => rfl

/-- Failing leaves the state. -/
theorem keeps_fail (error : ClientError) : Keeps part (fail error : Flow σ α) := fun _ => rfl

/-- Reading leaves the state. -/
theorem keeps_read (f : σ → α) : Keeps part (read f) := fun _ => rfl

/-- What keys give or refuse leaves the state. -/
theorem keeps_ofCrypto (result : Except CryptoError α) :
    Keeps part (ofCrypto result : Flow σ α) := by
  intro s
  cases result <;> rfl

end Keeps

end OpenBanking.Flow
