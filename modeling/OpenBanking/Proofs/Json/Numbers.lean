import OpenBanking.Json.Token
import OpenBanking.Proofs.Text.Numeral
import OpenBanking.Proofs.Text.Utf8

/-!
# Whole numbers read back

A number has no mark at its end: its digits go on as long as there are digits. So what follows a
number decides whether it is read back. Behind a value stands nothing, a comma or a closing
bracket, and there every whole number of sixty-four bits is read as itself.
-/

namespace OpenBanking.Json

open Text (IsDecimal ofDigits)
open Utf8 (octets)

/-- Octets that no number goes on with: nothing at all, or the first is neither a digit, nor a
point, nor the mark of a power of ten. -/
def EndsNumber (rest : List UInt8) : Prop :=
  ∀ b ∈ rest.head?, Octet.digit? b = none ∧ b ≠ Octet.point ∧ Octet.isExponentMark b = false

namespace EndsNumber

/-- Nothing follows. -/
theorem nil : EndsNumber [] := by simp [EndsNumber]

/-- A comma follows. -/
theorem comma (rest : List UInt8) : EndsNumber (Octet.comma :: rest) := by
  simp only [EndsNumber, List.head?_cons, Option.mem_some_iff, forall_eq']
  decide

/-- The end of an array follows. -/
theorem closeList (rest : List UInt8) : EndsNumber (Octet.closeList :: rest) := by
  simp only [EndsNumber, List.head?_cons, Option.mem_some_iff, forall_eq']
  decide

/-- The end of an object follows. -/
theorem closeObject (rest : List UInt8) : EndsNumber (Octet.closeObject :: rest) := by
  simp only [EndsNumber, List.head?_cons, Option.mem_some_iff, forall_eq']
  decide

end EndsNumber

/-- The octet of a decimal digit. -/
def digitOctet (digit : Nat) : UInt8 := UInt8.ofNat (0x30 + digit)

/-- The octet of a digit has its value, and is no minus sign. -/
theorem digit?_digitOctet : ∀ digit < 10,
    Octet.digit? (digitOctet digit) = some digit ∧ digitOctet digit ≠ Octet.minus ∧
      String.utf8EncodeChar digit.digitChar = [digitOctet digit] := by
  decide

/-- Digits are an octet each. -/
theorem octets_digitChar {digits : List Nat} (small : ∀ digit ∈ digits, digit < 10) :
    octets (digits.map Nat.digitChar) = digits.map digitOctet := by
  induction digits with
  | nil => rfl
  | cons digit digits ih =>
    obtain ⟨first, later⟩ := List.forall_mem_cons.1 small
    rw [List.map_cons, Utf8.octets_cons, (digit?_digitOctet digit first).2.2, ih later]
    rfl

/-- The digits are taken up to the end of the number. -/
theorem spanDigits_append {digits : List Nat} (small : ∀ digit ∈ digits, digit < 10)
    {rest : List UInt8} (ends : EndsNumber rest) :
    spanDigits (digits.map digitOctet ++ rest) = (digits, rest) := by
  induction digits with
  | nil =>
    cases rest with
    | nil => rfl
    | cons b rest =>
      have noDigit := (ends b rfl).1
      simp [spanDigits, noDigit]
  | cons digit digits ih =>
    obtain ⟨first, later⟩ := List.forall_mem_cons.1 small
    simp [spanDigits, (digit?_digitOctet digit first).1, ih later]

/-- The literal of digits without sign, fraction and power of ten. -/
theorem readLiteral_digits (negative : Bool) {n : Nat} {digits : List Nat}
    (decimal : IsDecimal n digits) {rest : List UInt8} (ends : EndsNumber rest) :
    readLiteral negative (digits.map digitOctet ++ rest) =
      .ok (⟨negative, digits, [], false, []⟩, rest) := by
  have taken : someDigits (digits.map digitOctet ++ rest) = .ok (digits, rest) := by
    rw [someDigits, spanDigits_append decimal.small ends]
    cases digits with
    | nil => exact absurd rfl decimal.ne_nil
    | cons digit digits => rfl
  have last : readExponent negative digits [] rest =
      .ok (⟨negative, digits, [], false, []⟩, rest) := by
    cases rest with
    | nil => rfl
    | cons b rest =>
      have noMark := (ends b rfl).2.2
      simp [readExponent, noMark]
  unfold readLiteral
  simp only [taken, bind, Except.bind]
  split
  next first later =>
    have single := decimal.eq_zero_of_head rfl
    cases single
  next =>
    cases rest with
    | nil => exact last
    | cons b rest =>
      have noPoint := (ends b rfl).2.1
      simp only [noPoint, ↓reduceIte]
      exact last

/-- A natural number of sixty-four bits is read as itself. -/
theorem readNumber_natural {n : Nat} (fits : n < UInt64.size) {rest : List UInt8}
    (ends : EndsNumber rest) :
    readNumber (octets (Text.natural n) ++ rest) = .ok (.whole n, rest) := by
  obtain ⟨digits, decimal, written⟩ := Text.exists_isDecimal n
  have literal := readLiteral_digits false decimal ends
  have number : Literal.number ⟨false, digits, [], false, []⟩ = .ok (.whole n) := by
    simp [Literal.number, decimal.denotes, fits]
  rw [written, octets_digitChar decimal.small]
  cases digits with
  | nil => exact absurd rfl decimal.ne_nil
  | cons digit digits =>
    have noSign := (digit?_digitOctet digit (decimal.small digit List.mem_cons_self)).2.1
    simp only [List.map_cons, List.cons_append] at literal ⊢
    simp only [readNumber, noSign, ↓reduceIte, literal, bind, Except.bind, number]

/-- A negative number of sixty-four bits is read as itself. -/
theorem readNumber_negSucc {n : Nat} (fits : n + 1 ≤ 0x8000000000000000) {rest : List UInt8}
    (ends : EndsNumber rest) :
    readNumber (octets (Text.integer (.negSucc n)) ++ rest) = .ok (.whole (.negSucc n), rest) := by
  obtain ⟨digits, decimal, written⟩ := Text.exists_isDecimal (n + 1)
  have literal := readLiteral_digits true decimal ends
  have number : Literal.number ⟨true, digits, [], false, []⟩ = .ok (.whole (.negSucc n)) := by
    simp [Literal.number, decimal.denotes, fits, Int.negSucc_eq]
  have signed : octets (Text.integer (.negSucc n)) = Octet.minus :: digits.map digitOctet := by
    rw [Text.integer, written, Utf8.octets_cons, octets_digitChar decimal.small]
    rfl
  rw [signed]
  simp only [List.cons_append, readNumber, ↓reduceIte, literal, bind, Except.bind, number]

/-- A whole number that sixty-four bits hold with its sign. -/
structure FitsWord (k : Int) : Prop where
  /-- It is not below the least number. -/
  least : -0x8000000000000000 ≤ k
  /-- It is not above the greatest number. -/
  greatest : k < UInt64.size

/-- A whole number of sixty-four bits is read as itself. -/
theorem readNumber_integer {k : Int} (fits : FitsWord k) {rest : List UInt8}
    (ends : EndsNumber rest) :
    readNumber (octets (Text.integer k) ++ rest) = .ok (.whole k, rest) := by
  obtain ⟨least, greatest⟩ := fits
  cases k with
  | ofNat n => exact readNumber_natural (Int.ofNat_lt.1 greatest) ends
  | negSucc n => exact readNumber_negSucc (by omega) ends

/-- A number begins with an octet that begins numbers. -/
theorem exists_octets_integer (k : Int) :
    ∃ b later, octets (Text.integer k) = b :: later ∧ beginsNumber b = true := by
  cases k with
  | ofNat n =>
    obtain ⟨digits, decimal, written⟩ := Text.exists_isDecimal n
    rw [Text.integer, written, octets_digitChar decimal.small]
    cases digits with
    | nil => exact absurd rfl decimal.ne_nil
    | cons digit digits =>
      have value := (digit?_digitOctet digit (decimal.small digit List.mem_cons_self)).1
      exact ⟨_, _, rfl, by simp [beginsNumber, value]⟩
  | negSucc n => exact ⟨_, _, rfl, by decide⟩

end OpenBanking.Json
