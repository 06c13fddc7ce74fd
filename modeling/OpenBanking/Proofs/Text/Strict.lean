import OpenBanking.Proofs.Text.Base64url

/-!
# Only written texts are read

Base64url gives every octet list one text and reads no other: a text that is read is the one that is
written for what was read. Which texts these are can be told without reading them: they hold symbols
of the alphabet only, no single symbol is left over, and the bits of the last symbol that no octet
uses are zero.
-/

namespace OpenBanking

namespace Utf8

/-- Texts of the same octets are the same. -/
theorem encode_inj {text other : String} (same : encode text = encode other) : text = other :=
  Option.some.inj <| by rw [← decode?_encode text, ← decode?_encode other, same]

end Utf8

namespace Base64url

/-! ## Symbols that are read -/

/-- An octet that is read is that of a symbol. -/
theorem eq_mark_of_value? {octet : UInt8} {n : Nat} (read : value? octet = some n) :
    n < 64 ∧ octet = mark n := by
  have all : ∀ k < 256, ∀ n ∈ value? (UInt8.ofNat k), n < 64 ∧ UInt8.ofNat k = mark n := by
    decide +kernel
  have own := all octet.toNat octet.toNat_lt n
  rw [UInt8.ofNat_toNat] at own
  exact own read

/-- What goes on after an octet goes on after the symbol that it is. -/
theorem exists_of_valueAt_bind {α : Type} {offset : Nat} {octet : UInt8} {next : Nat → Except Error α}
    {x : α} (read : (valueAt offset octet >>= next) = .ok x) :
    ∃ n, next n = .ok x ∧ n < 64 ∧ octet = mark n := by
  unfold valueAt at read
  split at read
  next n found =>
    obtain ⟨six, own⟩ := eq_mark_of_value? found
    exact ⟨n, read, six, own⟩
  next => cases read

/-! ## Groups that are written again -/

/-- A number below 256 is the one of its octet. -/
theorem toNat_ofNat_of_lt {n : Nat} (below : n < 256) : (UInt8.ofNat n).toNat = n :=
  UInt8.toNat_ofNat_of_lt' below

section Groups

variable {a b c d : Nat} (first : a < 64) (second : b < 64) (third : c < 64) (fourth : d < 64)

include first second in
/-- The octet of two symbols is written as these, if the second has no stray bits. -/
theorem encodeChars_of_two (unused : b % 16 = 0) :
    encodeChars [UInt8.ofNat (a * 4 + b / 16)] = [symbol a, symbol b] := by
  have one : (UInt8.ofNat (a * 4 + b / 16)).toNat = a * 4 + b / 16 :=
    toNat_ofNat_of_lt (by omega)
  have front : (a * 4 + b / 16) / 4 = a := by omega
  have back : (a * 4 + b / 16) % 4 * 16 = b := by omega
  rw [encodeChars, one, front, back]

include first second third in
/-- The octets of three symbols are written as these, if the third has no stray bits. -/
theorem encodeChars_of_three (unused : c % 4 = 0) :
    encodeChars [UInt8.ofNat (a * 4 + b / 16), UInt8.ofNat (b % 16 * 16 + c / 4)] =
      [symbol a, symbol b, symbol c] := by
  have one : (UInt8.ofNat (a * 4 + b / 16)).toNat = a * 4 + b / 16 :=
    toNat_ofNat_of_lt (by omega)
  have two : (UInt8.ofNat (b % 16 * 16 + c / 4)).toNat = b % 16 * 16 + c / 4 :=
    toNat_ofNat_of_lt (by omega)
  have front : (a * 4 + b / 16) / 4 = a := by omega
  have middle : (a * 4 + b / 16) % 4 * 16 + (b % 16 * 16 + c / 4) / 16 = b := by omega
  have back : (b % 16 * 16 + c / 4) % 16 * 4 = c := by omega
  rw [encodeChars, one, two, front, middle, back]

include first second third fourth in
/-- The octets of four symbols are written as these, in front of whatever is written after them. -/
theorem encodeChars_joinFour_append (octets : List UInt8) :
    encodeChars (joinFour a b c d ++ octets) =
      symbol a :: symbol b :: symbol c :: symbol d :: encodeChars octets := by
  have one : (UInt8.ofNat (a * 4 + b / 16)).toNat = a * 4 + b / 16 :=
    toNat_ofNat_of_lt (by omega)
  have two : (UInt8.ofNat (b % 16 * 16 + c / 4)).toNat = b % 16 * 16 + c / 4 :=
    toNat_ofNat_of_lt (by omega)
  have three : (UInt8.ofNat (c % 4 * 64 + d)).toNat = c % 4 * 64 + d :=
    toNat_ofNat_of_lt (by omega)
  have front : (a * 4 + b / 16) / 4 = a := by omega
  have next : (a * 4 + b / 16) % 4 * 16 + (b % 16 * 16 + c / 4) / 16 = b := by omega
  have later : (b % 16 * 16 + c / 4) % 16 * 4 + (c % 4 * 64 + d) / 64 = c := by omega
  have back : (c % 4 * 64 + d) % 64 = d := by omega
  simp only [joinFour, List.cons_append, List.nil_append, encodeChars, one, two, three, front, next,
    later, back]

end Groups

/-! ## Texts that are read -/

/-- A symbol in front of characters is its mark in front of their octets. -/
theorem octets_symbol_cons {n : Nat} (six : n < 64) (cs : List Char) :
    Utf8.octets (symbol n :: cs) = mark n :: Utf8.octets cs := by
  rw [Utf8.octets_cons, utf8EncodeChar_symbol six, List.singleton_append]

/-- A last group that is read is the one that is written for what was read. -/
theorem eq_octets_of_decodeLast {offset : Nat} {written octets : List UInt8}
    (short : ∀ x y z w next rest, written = x :: y :: z :: w :: next :: rest → False)
    (read : decodeLast offset written = .ok octets) :
    written = Utf8.octets (encodeChars octets) := by
  unfold decodeLast at read
  split at read
  next =>
    cases read
    rfl
  next x =>
    obtain ⟨a, refused, _⟩ := exists_of_valueAt_bind read
    cases refused
  next x y =>
    obtain ⟨a, afterFirst, first, rfl⟩ := exists_of_valueAt_bind read
    obtain ⟨b, afterSecond, second, rfl⟩ := exists_of_valueAt_bind afterFirst
    unfold decodeTwo at afterSecond
    split at afterSecond
    next unused =>
      cases afterSecond
      rw [encodeChars_of_two first second unused]
      rw [octets_symbol_cons first, octets_symbol_cons second, Utf8.octets_nil]
    next => cases afterSecond
  next x y z =>
    obtain ⟨a, afterFirst, first, rfl⟩ := exists_of_valueAt_bind read
    obtain ⟨b, afterSecond, second, rfl⟩ := exists_of_valueAt_bind afterFirst
    split at afterSecond
    next => cases afterSecond
    next =>
      obtain ⟨c, afterThird, third, rfl⟩ := exists_of_valueAt_bind afterSecond
      unfold decodeThree at afterThird
      split at afterThird
      next unused =>
        cases afterThird
        rw [encodeChars_of_three first second third unused]
        rw [octets_symbol_cons first, octets_symbol_cons second, octets_symbol_cons third,
          Utf8.octets_nil]
      next => cases afterThird
  next x y z w rest =>
    obtain rfl : rest = [] := by
      cases rest with
      | nil => rfl
      | cons next rest => exact (short x y z w next rest rfl).elim
    obtain ⟨a, afterFirst, first, rfl⟩ := exists_of_valueAt_bind read
    obtain ⟨b, afterSecond, second, rfl⟩ := exists_of_valueAt_bind afterFirst
    split at afterSecond
    next => split at afterSecond <;> cases afterSecond
    next =>
      obtain ⟨c, afterThird, third, rfl⟩ := exists_of_valueAt_bind afterSecond
      split at afterThird
      next => cases afterThird
      next =>
        obtain ⟨d, afterFourth, fourth, rfl⟩ := exists_of_valueAt_bind afterThird
        cases afterFourth
        rw [← List.append_nil (joinFour a b c d),
          encodeChars_joinFour_append first second third fourth, octets_symbol_cons first,
          octets_symbol_cons second, octets_symbol_cons third, octets_symbol_cons fourth]
        rfl

/-- Groups that are read are the ones that are written for what was read. -/
theorem eq_octets_of_decodeGroups {offset : Nat} {written octets : List UInt8}
    (read : decodeGroups offset written = .ok octets) :
    written = Utf8.octets (encodeChars octets) := by
  fun_induction decodeGroups offset written generalizing octets with
  | case1 offset x y z w next rest ih =>
    obtain ⟨a, afterFirst, first, rfl⟩ := exists_of_valueAt_bind read
    obtain ⟨b, afterSecond, second, rfl⟩ := exists_of_valueAt_bind afterFirst
    obtain ⟨c, afterThird, third, rfl⟩ := exists_of_valueAt_bind afterSecond
    obtain ⟨d, afterFourth, fourth, rfl⟩ := exists_of_valueAt_bind afterThird
    cases after : decodeGroups (offset + 4) (next :: rest) with
    | error refusal =>
      rw [after] at afterFourth
      cases afterFourth
    | ok later =>
      rw [after] at afterFourth
      cases afterFourth
      rw [encodeChars_joinFour_append first second third fourth, octets_symbol_cons first,
        octets_symbol_cons second, octets_symbol_cons third, octets_symbol_cons fourth, ← ih after]
  | case2 offset last short => exact eq_octets_of_decodeLast short read

/-- A text that is read is the one that is written for what was read. -/
theorem eq_encode_of_decode {text : String} {octets : List UInt8}
    (read : decode text = .ok octets) : text = encode octets := by
  have groups : Utf8.encode text = Utf8.octets (encodeChars octets) := by
    unfold decode decodeOctets at read
    split at read
    next last found =>
      split at read
      next => cases read
      next => exact eq_octets_of_decodeGroups read
    next none =>
      cases read
      rw [List.getLast?_eq_none_iff.1 none]
      rfl
  rw [← Utf8.encode_ofList] at groups
  exact Utf8.encode_inj groups

/-- Exactly the text of octets is read as them. -/
theorem decode_eq_ok_iff {text : String} {octets : List UInt8} :
    decode text = .ok octets ↔ text = encode octets :=
  ⟨eq_encode_of_decode, fun same => same ▸ decode_encode octets⟩

/-! ## The accepted texts -/

/-- The symbols in the order of their values. -/
def alphabet : List Char :=
  "ABCDEFGHIJKLMNOPQRSTUVWXYZabcdefghijklmnopqrstuvwxyz0123456789-_".toList

/-- Characters that write octets. -/
structure Coded (cs : List Char) : Prop where
  /-- They are symbols of the alphabet. -/
  symbols : ∀ c ∈ cs, c ∈ alphabet
  /-- No single symbol is left over by groups of four. -/
  length_mod : cs.length % 4 ≠ 1
  /-- Of two symbols left over, the last has four bits that no octet uses, all of them zero. -/
  unused_of_two : cs.length % 4 = 2 → ∀ c ∈ cs.getLast?, alphabet.idxOf c % 16 = 0
  /-- Of three symbols left over, the last has two bits that no octet uses, both of them zero. -/
  unused_of_three : cs.length % 4 = 3 → ∀ c ∈ cs.getLast?, alphabet.idxOf c % 4 = 0

/-- The symbol of a value stands at its place in the alphabet. -/
theorem idxOf_symbol {n : Nat} (six : n < 64) :
    symbol n ∈ alphabet ∧ alphabet.idxOf (symbol n) = n := by
  have all : ∀ n < 64, symbol n ∈ alphabet ∧ alphabet.idxOf (symbol n) = n := by decide +kernel
  exact all n six

/-- A symbol of the alphabet is the one of its place. -/
theorem exists_symbol_of_mem_alphabet {c : Char} (held : c ∈ alphabet) :
    ∃ n < 64, c = symbol n := by
  have all : alphabet.all fun c => alphabet.idxOf c < 64 ∧ c = symbol (alphabet.idxOf c) := by
    decide +kernel
  exact ⟨_, of_decide_eq_true (List.all_eq_true.1 all c held)⟩

/-- A group of four symbols in front changes nothing. -/
theorem coded_group_iff {a b c d : Char} {cs : List Char} :
    Coded (a :: b :: c :: d :: cs) ↔
      (a ∈ alphabet ∧ b ∈ alphabet ∧ c ∈ alphabet ∧ d ∈ alphabet) ∧ Coded cs := by
  have count : (a :: b :: c :: d :: cs).length % 4 = cs.length % 4 := Nat.add_mod_right cs.length 4
  have last : cs ≠ [] → (a :: b :: c :: d :: cs).getLast? = cs.getLast? := by
    intro some
    obtain ⟨e, later, rfl⟩ := List.exists_cons_of_ne_nil some
    simp only [List.getLast?_cons_cons]
  have inner : cs.length % 4 ≠ 0 → cs ≠ [] := by
    rintro left rfl
    exact left rfl
  constructor
  · intro coded
    obtain ⟨symbols, length, two, three⟩ := coded
    rw [count] at length two three
    simp only [List.forall_mem_cons] at symbols
    obtain ⟨first, second, third, fourth, later⟩ := symbols
    refine ⟨⟨first, second, third, fourth⟩, later, length, fun left => ?_, fun left => ?_⟩
    · rw [← last (inner (by omega))]
      exact two left
    · rw [← last (inner (by omega))]
      exact three left
  · rintro ⟨⟨first, second, third, fourth⟩, later, length, two, three⟩
    refine ⟨?_, ?_, fun left => ?_, fun left => ?_⟩
    · simp only [List.forall_mem_cons]
      exact ⟨first, second, third, fourth, later⟩
    · rwa [count]
    · rw [count] at left
      rw [last (inner (by omega))]
      exact two left
    · rw [count] at left
      rw [last (inner (by omega))]
      exact three left

/-- What is written for octets is accepted. -/
theorem coded_encodeChars (octets : List UInt8) : Coded (encodeChars octets) := by
  have held {n : Nat} (six : n < 64) : symbol n ∈ alphabet := (idxOf_symbol six).1
  fun_induction encodeChars octets with
  | case1 => exact ⟨by simp, by simp, by simp, by simp⟩
  | case2 a =>
    have := a.toNat_lt
    have first : a.toNat / 4 < 64 := by omega
    have second : a.toNat % 4 * 16 < 64 := by omega
    refine ⟨by simp [held first, held second], by simp, fun _ c last => ?_, by simp⟩
    obtain rfl : symbol (a.toNat % 4 * 16) = c := Option.some.inj last
    rw [(idxOf_symbol second).2, Nat.mul_mod_left]
  | case3 a b =>
    have := a.toNat_lt
    have := b.toNat_lt
    have first : a.toNat / 4 < 64 := by omega
    have second : a.toNat % 4 * 16 + b.toNat / 16 < 64 := by omega
    have third : b.toNat % 16 * 4 < 64 := by omega
    refine ⟨by simp [held first, held second, held third], by simp, by simp, fun _ c last => ?_⟩
    obtain rfl : symbol (b.toNat % 16 * 4) = c := Option.some.inj last
    rw [(idxOf_symbol third).2, Nat.mul_mod_left]
  | case4 a b c rest ih =>
    have := a.toNat_lt
    have := b.toNat_lt
    have := c.toNat_lt
    exact coded_group_iff.2
      ⟨⟨held (by omega), held (by omega), held (by omega), held (by omega)⟩, ih⟩

/-- What is accepted is written for some octets. -/
theorem Coded.exists_encodeChars : {cs : List Char} → Coded cs → ∃ octets, encodeChars octets = cs
  | [], _ => ⟨[], rfl⟩
  | [a], coded => absurd rfl coded.length_mod
  | [x, y], coded => by
    obtain ⟨first, second, -⟩ := by simpa only [List.forall_mem_cons] using coded.symbols
    obtain ⟨a, sixA, rfl⟩ := exists_symbol_of_mem_alphabet first
    obtain ⟨b, sixB, rfl⟩ := exists_symbol_of_mem_alphabet second
    have unused := coded.unused_of_two rfl (symbol b) rfl
    rw [(idxOf_symbol sixB).2] at unused
    exact ⟨_, encodeChars_of_two sixA sixB unused⟩
  | [x, y, z], coded => by
    obtain ⟨first, second, third, -⟩ := by simpa only [List.forall_mem_cons] using coded.symbols
    obtain ⟨a, sixA, rfl⟩ := exists_symbol_of_mem_alphabet first
    obtain ⟨b, sixB, rfl⟩ := exists_symbol_of_mem_alphabet second
    obtain ⟨c, sixC, rfl⟩ := exists_symbol_of_mem_alphabet third
    have unused := coded.unused_of_three rfl (symbol c) rfl
    rw [(idxOf_symbol sixC).2] at unused
    exact ⟨_, encodeChars_of_three sixA sixB sixC unused⟩
  | x :: y :: z :: w :: rest, coded => by
    obtain ⟨⟨first, second, third, fourth⟩, later⟩ := coded_group_iff.1 coded
    obtain ⟨octets, rfl⟩ := later.exists_encodeChars
    obtain ⟨a, sixA, rfl⟩ := exists_symbol_of_mem_alphabet first
    obtain ⟨b, sixB, rfl⟩ := exists_symbol_of_mem_alphabet second
    obtain ⟨c, sixC, rfl⟩ := exists_symbol_of_mem_alphabet third
    obtain ⟨d, sixD, rfl⟩ := exists_symbol_of_mem_alphabet fourth
    exact ⟨_, encodeChars_joinFour_append sixA sixB sixC sixD octets⟩

/-- The accepted texts are those that are read. -/
theorem exists_decode_iff {text : String} :
    (∃ octets, decode text = .ok octets) ↔ Coded text.toList := by
  constructor
  · rintro ⟨octets, read⟩
    rw [eq_encode_of_decode read, encode, String.toList_ofList]
    exact coded_encodeChars octets
  · intro coded
    obtain ⟨octets, same⟩ := coded.exists_encodeChars
    refine ⟨octets, decode_eq_ok_iff.2 ?_⟩
    rw [encode, same, String.ofList_toList]

end Base64url

/-! ## Texts that carry octets -/

/-- Exactly the text of octets is read as them. -/
theorem decodeBase64url_eq_ok_iff {text : String} {octets : List UInt8} :
    decodeBase64url text = .ok octets ↔ text = Base64url.encode octets := by
  rw [← Base64url.decode_eq_ok_iff, decodeBase64url]
  cases Base64url.decode text with
  | error refusal =>
    constructor <;>
    · intro same
      cases same
  | ok found =>
    exact ⟨fun same => congrArg _ (Except.ok.inj same), fun same => congrArg _ (Except.ok.inj same)⟩

/-- A text that is read is accepted, and every accepted text is read. -/
theorem exists_decodeBase64url_iff {text : String} :
    (∃ octets, decodeBase64url text = .ok octets) ↔ Base64url.Coded text.toList := by
  simp only [← Base64url.exists_decode_iff, decodeBase64url_eq_ok_iff, Base64url.decode_eq_ok_iff]

end OpenBanking
