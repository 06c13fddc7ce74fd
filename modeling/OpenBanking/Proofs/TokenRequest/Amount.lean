import OpenBanking.Proofs.Double.Plain
import OpenBanking.TokenRequest.Draft

/-!
# Texts of amounts

The text of a finite amount is in plain decimal notation, whatever its magnitude, and the number
that it writes rounds to the amount. So a request never states one amount by the text of another.
-/

namespace OpenBanking

open Double (Between Decimal PlainDecimal RoundsTo)

/-! ## The fraction -/

/-- Digits have no point. -/
theorem point_notMem_toDigits (n : Nat) : '.' ∉ Nat.toDigits 10 n := by
  intro held
  exact absurd (Nat.isDigit_of_mem_toDigits (by decide) (by decide) held) (by decide)

/-- Positional notation is the bare one, with a fraction of zero where that has no point. -/
theorem positional_eq_bare (d : Decimal) :
    d.positional = if '.' ∈ d.bare then d.bare else d.bare ++ ['.', '0'] := by
  unfold Decimal.bare
  split
  next whole =>
    have noPoint : '.' ∉ Nat.toDigits 10 d.digits ++ List.replicate d.scale.toNat '0' := by
      simp [point_notMem_toDigits, List.mem_replicate]
    rw [if_neg noPoint, Decimal.positional, if_pos whole]
  next notWhole =>
    have point : '.' ∈ d.positional := by
      simp only [Decimal.positional, if_neg notWhole]
      split <;> simp
    rw [if_pos point]

namespace Double

variable {x : Double}

/-- A finite double is written by its sign and its digits. -/
theorem plain_of_isFinite (finite : x.isFinite = true) :
    x.plain = String.ofList (x.signChars ++
      if x.isZero then ['0'] else (x.shortest .upward).bare) := by
  have number : x.isNaN = false := by
    have field : x.exponentField ≠ 2047 := of_decide_eq_true finite
    simp [isNaN, field]
  rw [plain, number, finite]
  cases x.isZero <;> rfl

/-- A double that is not finite is written by a word. -/
theorem plain_of_not_isFinite (infinite : x.isFinite = false) :
    x.plain = if x.isNaN then "NaN" else if x.negative then "-inf" else "inf" := by
  simp [plain, infinite]

end Double

/-- The text of a finite amount is its sign and its digits in positional notation. -/
theorem amountText_of_isFinite {x : Double} (finite : x.isFinite = true) :
    amountText x = String.ofList (x.signChars ++
      if x.isZero then ['0', '.', '0'] else (x.shortest .upward).positional) := by
  have noSign : '.' ∉ x.signChars := by
    unfold Double.signChars
    split <;> decide
  have patched (digits : List Char) (written : x.plain = String.ofList (x.signChars ++ digits)) :
      amountText x =
        String.ofList (x.signChars ++ if '.' ∈ digits then digits else digits ++ ['.', '0']) := by
    unfold amountText
    rw [written, finite]
    by_cases point : '.' ∈ digits
    · simp [point]
    · have fraction : ".0" = String.ofList ['.', '0'] := rfl
      rw [fraction]
      simp [point, noSign, String.append_assoc]
  rw [patched _ (Double.plain_of_isFinite finite)]
  cases x.isZero with
  | true => rfl
  | false => rw [if_neg Bool.false_ne_true, if_neg Bool.false_ne_true, positional_eq_bare]

/-- The text of a finite amount is in plain decimal notation, with the sign of the amount and within
the midpoints to its neighbours. -/
theorem exists_plain_amountText {x : Double} (finite : x.isFinite = true) :
    ∃ d : PlainDecimal, d.text = amountText x ∧ d.negative = x.negative ∧
      Between d.distance x.magnitude := by
  rw [amountText_of_isFinite finite]
  by_cases zero : x.isZero = true
  · rw [if_pos zero]
    have none : x.magnitude = 0 := of_decide_eq_true zero
    refine ⟨.zero x.negative, rfl, rfl, ?_⟩
    rw [none, PlainDecimal.distance_zero]
    exact Double.between_zero le_rfl (half_pos (Double.distanceOf_zero ▸
      Double.strictMono_distanceOf Nat.zero_lt_one)).le
  · rw [if_neg zero]
    have nonzero : x.magnitude ≠ 0 := fun none => zero (decide_eq_true none)
    obtain ⟨d, sign, digits, distance⟩ := Double.exists_plain_positional x.negative
      (Double.digits_shortest_ne_zero nonzero .upward)
    refine ⟨d, ?_, sign, ?_⟩
    · rw [PlainDecimal.text, sign, digits]
      rfl
    · rw [distance]
      exact Double.between_shortest nonzero .upward

/-- The text of a finite amount is read as the amount. -/
theorem ofText?_amountText {x : Double} (finite : x.isFinite = true) :
    Double.ofText? (amountText x) = some x := by
  obtain ⟨d, text, sign, between⟩ := exists_plain_amountText finite
  rw [← text, PlainDecimal.ofText?_text]
  obtain ⟨rounds, readSign⟩ := Double.roundsTo_ofDecimal d.negative _ _
    (between.inRange (x.isFinite_iff.1 finite))
  have own := Double.roundsTo_of_between finite between
  rw [← sign] at own
  exact congrArg some (rounds.unique own (readSign.trans sign))

/-- For every double: if it is finite, its text is in plain decimal notation and has a minus sign if
the sign bit is set; otherwise it is one of three words. -/
theorem amountText_isPlain (x : Double) :
    if x.isFinite then ∃ d : PlainDecimal, d.text = amountText x ∧ d.negative = x.negative
    else amountText x = if x.isNaN then "NaN" else if x.negative then "-inf" else "inf" := by
  cases finite : x.isFinite with
  | true =>
    obtain ⟨d, text, sign, _⟩ := exists_plain_amountText finite
    exact ⟨d, text, sign⟩
  | false =>
    have patched : amountText x = x.plain := by simp [amountText, finite]
    rw [if_neg Bool.false_ne_true, patched, Double.plain_of_not_isFinite finite]

/-- Zero keeps its sign. -/
example : amountText ⟨0x8000000000000000⟩ = "-0.0" := by decide +kernel

/-- The text of a finite amount writes one number in plain decimal notation. That number rounds to
the amount, and to no other double of its sign; and the text is read as the amount. Two finite
amounts have the same text, as the amount of a transfer in all, at once or of a standing order, only
if they are the same. -/
theorem amountText_roundsBack {x y : Double} (finite : x.isFinite = true) (other : y.isFinite = true) :
    (∃ d : PlainDecimal, (∀ e : PlainDecimal, e.text = amountText x ↔ e = d) ∧
      d.negative = x.negative ∧
      (∀ z : Double, RoundsTo d.value z ∧ z.negative = d.negative ↔ z = x) ∧
      Double.ofText? (amountText x) = some x) ∧
    (∀ currency currency' : String, (Draft.transfer x currency).body.lifetimeAmount =
      (Draft.transfer y currency').body.lifetimeAmount ↔ x = y) ∧
    (∀ draft draft' : Draft TransferBody, (draft.setTransfer (.chargeAmount x)).body.amount =
      (draft'.setTransfer (.chargeAmount y)).body.amount ↔ x = y) ∧
    (∀ draft draft' : Draft StandingOrderBody, (draft.setOrder (.amount x)).body.amount =
      (draft'.setOrder (.amount y)).body.amount ↔ x = y) := by
  have injective : amountText x = amountText y ↔ x = y := by
    refine ⟨fun same => ?_, congrArg amountText⟩
    have read := congrArg Double.ofText? same
    rw [ofText?_amountText finite, ofText?_amountText other] at read
    exact Option.some.inj read
  refine ⟨?_, fun _ _ => injective, fun _ _ => injective, fun _ _ => injective⟩
  obtain ⟨d, text, sign, between⟩ := exists_plain_amountText finite
  have rounds : RoundsTo d.value x := by
    rw [PlainDecimal.value, sign]
    exact Double.roundsTo_of_between finite between
  refine ⟨d, fun e => ?_, sign, fun z => ⟨fun ⟨roundsZ, signZ⟩ => ?_, ?_⟩, ofText?_amountText finite⟩
  · rw [← text, PlainDecimal.text_injective.eq_iff]
  · exact roundsZ.unique rounds (signZ.trans sign)
  · rintro rfl
    exact ⟨rounds, sign.symm⟩

/-- A tenth is no double, but rounds to one, which is written as a tenth; and negative zero is
written otherwise. -/
theorem amountText_roundsBack_tenth :
    amountText ⟨0x3FB999999999999A⟩ = "0.1" ∧ RoundsTo (1 / 10) ⟨0x3FB999999999999A⟩ ∧
      Double.ofText? "0.1" = some ⟨0x3FB999999999999A⟩ ∧
      (Draft.transfer ⟨0x3FB999999999999A⟩ "EUR").body.lifetimeAmount ≠
        (Draft.transfer ⟨0x8000000000000000⟩ "EUR").body.lifetimeAmount := by
  have written : amountText ⟨0x3FB999999999999A⟩ = "0.1" := by decide +kernel
  obtain ⟨⟨d, text, _, rounds, read⟩, transfer, _⟩ :=
    amountText_roundsBack (x := ⟨0x3FB999999999999A⟩) (y := ⟨0x8000000000000000⟩)
      (by decide) (by decide)
  let tenth : PlainDecimal := ⟨false, [0], [1], by decide, by decide, by decide, by decide⟩
  obtain rfl : tenth = d := (text tenth).1 (written ▸ rfl)
  have value : tenth.value = 1 / 10 := by
    simp [tenth, PlainDecimal.value, PlainDecimal.distance, Double.signed, Double.decimalValue,
      Text.ofDigits]
  refine ⟨written, value ▸ ((rounds _).2 rfl).1, written ▸ read, ?_⟩
  exact mt (transfer "EUR" "EUR").1 (by decide)

end OpenBanking
