import OpenBanking.Proofs.Json.Grammar

/-!
# What tokens denote

What a string denotes is settled apart from its reader: every character may stand for itself or be
escaped, in one way or another. The reader reads as a text the strings that denote it, and nothing
else. A whole number has a single spelling.
-/

namespace OpenBanking.Json

open Text (IsDecimal ofDigits)
open Utf8 (octets)

/-- A sequence that succeeds has a first part that does. -/
theorem exists_of_bind_eq_ok {ε α β : Type} {first : Except ε α} {next : α → Except ε β} {y : β}
    (gave : (first >>= next) = .ok y) : ∃ x, first = .ok x ∧ next x = .ok y := by
  cases first with
  | error error => cases gave
  | ok x => exact ⟨x, rfl, gave⟩

/-! ## Strings -/

/-- The text of a string after its opening quote, with the octets that it denotes. -/
inductive SpellsOctets : List UInt8 → List UInt8 → Prop where
  | close : SpellsOctets [Octet.quote] []
  | plain {b : UInt8} {s denoted : List UInt8} (plain : IsPlain b) (later : SpellsOctets s denoted) :
    SpellsOctets (b :: s) (b :: denoted)
  | letter {b d : UInt8} {s denoted : List UInt8} (denotes : Octet.escape? b = some d)
    (later : SpellsOctets s denoted) : SpellsOctets (Octet.backslash :: b :: s) (d :: denoted)
  | codeUnit {a b c d : UInt8} {n : Nat} {s denoted : List UInt8}
    (denotes : codeUnit? a b c d = some n) (single : isTrailing n = false ∧ isLeading n = false)
    (later : SpellsOctets s denoted) :
    SpellsOctets (Octet.backslash :: Octet.letterU :: a :: b :: c :: d :: s)
      (String.utf8EncodeChar (Char.ofNat n) ++ denoted)
  | pair {a b c d e f g h : UInt8} {n m : Nat} {s denoted : List UInt8}
    (denotes : codeUnit? a b c d = some n) (leading : isTrailing n = false ∧ isLeading n = true)
    (denotesToo : codeUnit? e f g h = some m) (trailing : isTrailing m = true)
    (later : SpellsOctets s denoted) :
    SpellsOctets (Octet.backslash :: Octet.letterU :: a :: b :: c :: d ::
        Octet.backslash :: Octet.letterU :: e :: f :: g :: h :: s)
      (String.utf8EncodeChar (Char.ofNat (pairedCodePoint n m)) ++ denoted)

/-- What a string denotes is collected up to its closing quote. -/
theorem SpellsOctets.stringFrom_append {s denoted : List UInt8} (spells : SpellsOctets s denoted)
    (acc rest : List UInt8) :
    stringFrom acc (s ++ rest) = closeString (denoted.reverse ++ acc) rest := by
  induction spells generalizing acc with
  | close =>
    rw [List.singleton_append, stringFrom.eq_def]
    simp
  | plain plain _ ih =>
    rw [List.cons_append, stringFrom_plain plain, ih]
    simp
  | @letter b d s denoted denotes _ ih =>
    rw [List.cons_append, List.cons_append, stringFrom_escape (ne_letterU_of_escape? denotes) denotes,
      ih]
    simp
  | codeUnit denotes single _ ih =>
    simp only [List.cons_append]
    rw [stringFrom_codeUnit denotes single, ih, pushCodePoint]
    simp
  | pair denotes leading denotesToo trailing _ ih =>
    simp only [List.cons_append]
    rw [stringFrom.eq_def]
    simp only [denotes, leading, denotesToo, trailing, ↓reduceIte, Bool.false_eq_true, ne_eq,
      not_true_eq_false, show Octet.backslash ≠ Octet.quote by decide]
    rw [ih, pushCodePoint]
    simp

/-- What is read as a string spells octets that are those of the text with those read before. -/
theorem exists_spellsOctets {acc s rest : List UInt8} {text : String}
    (read : stringFrom acc s = .ok (text, rest)) :
    ∃ t denoted, s = t ++ rest ∧ SpellsOctets t denoted ∧
      Utf8.decode? (acc.reverse ++ denoted) = some text := by
  -- Along the reader; all cases but these end in an error.
  fun_induction stringFrom acc s with
  | case2 acc later =>
    unfold closeString at read
    split at read
    next found =>
      cases read
      exact ⟨[Octet.quote], [], rfl, .close, by rwa [List.append_nil]⟩
    next => cases read
  | case11 acc a b c d n denotes single leads _ backslash _ letterU e f g h later m denotesToo trails
      _ ih =>
    obtain ⟨t, denoted, rfl, spells, decoded⟩ := ih read
    obtain rfl := not_not.1 backslash
    obtain rfl := not_not.1 letterU
    refine ⟨_, _, rfl, .pair denotes ⟨by simpa using single, leads⟩ denotesToo trails spells, ?_⟩
    simpa [pushCodePoint] using decoded
  | case14 acc a b c d later n denotes notTrailing notLeading _ ih =>
    obtain ⟨t, denoted, rfl, spells, decoded⟩ := ih read
    refine ⟨_, _, rfl, .codeUnit denotes ⟨by simpa using notTrailing, by simpa using notLeading⟩
      spells, ?_⟩
    simpa [pushCodePoint] using decoded
  | case16 acc b later _ octet denotes _ ih =>
    obtain ⟨t, denoted, rfl, spells, decoded⟩ := ih read
    exact ⟨_, _, rfl, .letter denotes spells, by simpa using decoded⟩
  | case19 acc b later notQuote notBackslash notControl ih =>
    obtain ⟨t, denoted, rfl, spells, decoded⟩ := ih read
    exact ⟨_, _, rfl, .plain ⟨notQuote, notBackslash, notControl⟩ spells, by simpa using decoded⟩
  | _ => cases read

/-- Only the octets of a text are decoded as it. -/
theorem encode_of_decode? {s : List UInt8} {text : String} (decoded : Utf8.decode? s = some text) :
    Utf8.encode text = s := by
  unfold Utf8.decode? String.fromUTF8? at decoded
  split at decoded
  · cases decoded
    rfl
  · cases decoded

/-- A string is read as the text of the octets that it denotes. -/
theorem readString_append {s : List UInt8} {text : String}
    (spells : SpellsOctets s (Utf8.encode text)) (rest : List UInt8) :
    readString (s ++ rest) = .ok (text, rest) := by
  rw [readString, spells.stringFrom_append, closeString, List.append_nil, List.reverse_reverse,
    Utf8.decode?_encode]

/-- What is read as a string spells its octets. -/
theorem exists_spells_of_readString {s rest : List UInt8} {text : String}
    (read : readString s = .ok (text, rest)) :
    ∃ t, s = t ++ rest ∧ SpellsOctets t (Utf8.encode text) := by
  obtain ⟨t, denoted, rfl, spells, decoded⟩ := exists_spellsOctets read
  obtain rfl := encode_of_decode? decoded
  exact ⟨t, rfl, spells⟩

/-- The octets that write a character denote those of the character. -/
theorem SpellsOctets.escaped {s denoted : List UInt8} (later : SpellsOctets s denoted) (c : Char) :
    SpellsOctets (octets (escaped c) ++ s) (String.utf8EncodeChar c ++ denoted) := by
  generalize written : octets (Json.escaped c) = front
  cases written ▸ writes_escaped c with
  | letter denotes held =>
    rw [held]
    exact .letter denotes later
  | codeUnit denotes single =>
    have spells := SpellsOctets.codeUnit denotes single later
    rwa [Char.ofNat_toNat] at spells
  | plain plain =>
    have each (run : List UInt8) (plain : ∀ b ∈ run, IsPlain b) :
        SpellsOctets (run ++ s) (run ++ denoted) := by
      induction run with
      | nil => exact later
      | cons b run ih =>
        obtain ⟨own, others⟩ := List.forall_mem_cons.1 plain
        exact .plain own (ih others)
    exact each _ plain

/-- The text of a string denotes it. -/
theorem spellsOctets_encode (text : String) :
    SpellsOctets (octets (text.toList.flatMap escaped) ++ [Octet.quote]) (Utf8.encode text) := by
  rw [Utf8.encode_eq_octets]
  induction text.toList with
  | nil => exact .close
  | cons c cs ih =>
    rw [List.flatMap_cons, Utf8.octets_append, List.append_assoc, Utf8.octets_cons]
    exact ih.escaped c

/-! ## Whole numbers -/

/-- The octet of a digit is that of its value. -/
theorem eq_digitOctet {b : UInt8} {digit : Nat} (value : Octet.digit? b = some digit) :
    b = digitOctet digit ∧ digit < 10 := by
  unfold Octet.digit? at value
  split at value
  next bounds =>
    have least : (0x30 : UInt8).toNat ≤ b.toNat := UInt8.le_iff_toNat_le.1 bounds.1
    have greatest : b.toNat ≤ (0x39 : UInt8).toNat := UInt8.le_iff_toNat_le.1 bounds.2
    have first : (0x30 : UInt8).toNat = 48 := rfl
    have last : (0x39 : UInt8).toNat = 57 := rfl
    have same := Option.some.inj value
    refine ⟨UInt8.toNat_inj.1 ?_, by omega⟩
    rw [digitOctet, UInt8.toNat_ofNat', Nat.mod_eq_of_lt (by omega)]
    omega
  next => cases value

/-- Leading digits are written by their octets. -/
theorem of_spanDigits {s rest : List UInt8} {digits : List Nat}
    (taken : spanDigits s = (digits, rest)) :
    s = digits.map digitOctet ++ rest ∧ ∀ digit ∈ digits, digit < 10 := by
  induction s generalizing digits with
  | nil =>
    cases taken
    exact ⟨rfl, nofun⟩
  | cons b s ih =>
    rw [spanDigits] at taken
    split at taken
    next digit value =>
      cases taken
      obtain ⟨written, small⟩ := ih (Prod.eta _).symm
      obtain ⟨same, first⟩ := eq_digitOctet value
      refine ⟨?_, List.forall_mem_cons.2 ⟨first, small⟩⟩
      rw [List.map_cons, List.cons_append, ← written, same]
    next =>
      cases taken
      exact ⟨rfl, nofun⟩

/-- Digits that must stand somewhere do, and are written by their octets. -/
theorem of_someDigits {s rest : List UInt8} {digits : List Nat}
    (taken : someDigits s = .ok (digits, rest)) :
    s = digits.map digitOctet ++ rest ∧ (∀ digit ∈ digits, digit < 10) ∧ digits ≠ [] := by
  rcases parts : spanDigits s with ⟨leading, behind⟩
  rw [someDigits, parts] at taken
  cases leading with
  | nil => cases behind <;> cases taken
  | cons digit leading =>
    cases taken
    obtain ⟨written, small⟩ := of_spanDigits parts
    exact ⟨written, small, List.cons_ne_nil digit leading⟩

/-- Behind digits stands a power of ten, or nothing that belongs to the number. -/
theorem of_readExponent {negative : Bool} {whole fraction : List Nat} {s rest : List UInt8}
    {literal : Literal} (read : readExponent negative whole fraction s = .ok (literal, rest))
    (unscaled : literal.exponent = []) :
    literal = ⟨negative, whole, fraction, false, []⟩ ∧ s = rest := by
  cases s with
  | nil =>
    cases read
    exact ⟨rfl, rfl⟩
  | cons b s =>
    rw [readExponent] at read
    split at read
    · obtain ⟨⟨digits, later⟩, taken, gave⟩ := exists_of_bind_eq_ok read
      cases gave
      exact absurd unscaled (of_someDigits taken).2.2
    · cases read
      exact ⟨rfl, rfl⟩

/-- Behind the whole digits stands a fraction or a power of ten, or nothing that belongs to the
number. -/
theorem of_readFraction {negative : Bool} {digits : List Nat} {s rest : List UInt8}
    {literal : Literal} (read : readFraction negative digits s = .ok (literal, rest))
    (integral : literal.fraction = []) (unscaled : literal.exponent = []) :
    literal = ⟨negative, digits, [], false, []⟩ ∧ s = rest := by
  cases s with
  | nil =>
    cases read
    exact ⟨rfl, rfl⟩
  | cons b s =>
    rw [readFraction] at read
    split at read
    · obtain ⟨⟨fraction, later⟩, taken, gave⟩ := exists_of_bind_eq_ok read
      obtain ⟨rfl, _⟩ := of_readExponent gave unscaled
      exact absurd integral (of_someDigits taken).2.2
    · exact of_readExponent read unscaled

/-- A literal without fraction and power of ten is read from its digits alone. -/
theorem of_readLiteral {negative : Bool} {s rest : List UInt8} {literal : Literal}
    (read : readLiteral negative s = .ok (literal, rest)) (integral : literal.fraction = [])
    (unscaled : literal.exponent = []) :
    ∃ digits, IsDecimal (ofDigits digits) digits ∧ s = digits.map digitOctet ++ rest ∧
      literal = ⟨negative, digits, [], false, []⟩ := by
  obtain ⟨⟨digits, behind⟩, taken, gave⟩ := exists_of_bind_eq_ok read
  obtain ⟨written, small, nonempty⟩ := of_someDigits taken
  have noZero (n : Nat) (later : List Nat) : digits ≠ 0 :: n :: later := by
    rintro rfl
    cases gave
  rw [readLiteral_of_digits taken noZero] at read
  obtain ⟨rfl, rfl⟩ := of_readFraction read integral unscaled
  refine ⟨digits, ⟨small, rfl, nonempty, fun head => ?_⟩, written, rfl⟩
  rcases digits with _ | ⟨digit, _ | ⟨n, later⟩⟩
  · exact absurd rfl nonempty
  · exact congrArg ([·]) (Option.some.inj head)
  · exact absurd (congrArg (· :: n :: later) (Option.some.inj head)) (noZero n later)

/-- A number that counts as whole has neither fraction nor power of ten, and its digits fit. -/
theorem of_number_whole {literal : Literal} {k : Int} (denotes : literal.number = .ok (.whole k)) :
    literal.fraction = [] ∧ literal.exponent = [] ∧ FitsWord k ∧
      if literal.negative then ofDigits literal.whole ≠ 0 ∧ k = -ofDigits literal.whole
      else k = ofDigits literal.whole := by
  simp only [Literal.number] at denotes
  split at denotes
  next fits =>
    cases denotes
    simp only [Bool.and_eq_true, List.isEmpty_iff, Bool.not_eq_true', decide_eq_true_eq] at fits
    obtain ⟨⟨⟨integral, unscaled⟩, positive⟩, below⟩ := fits
    exact ⟨integral, unscaled, ⟨by omega, by omega⟩, by rw [positive]; rfl⟩
  next =>
    split at denotes
    next fits =>
      cases denotes
      simp only [Bool.and_eq_true, List.isEmpty_iff, decide_eq_true_eq, ne_eq] at fits
      obtain ⟨⟨⟨⟨integral, unscaled⟩, negative⟩, nonzero⟩, below⟩ := fits
      refine ⟨integral, unscaled, ⟨by omega, ?_⟩, ?_⟩
      · have positive : (0 : Int) < UInt64.size := by decide
        omega
      · rw [if_pos negative]
        exact ⟨nonzero, rfl⟩
    next =>
      split at denotes <;> cases denotes

/-- The octets of a number that decimal digits write. -/
theorem octets_natural_of_isDecimal {n : Nat} {digits : List Nat} (decimal : IsDecimal n digits) :
    octets (Text.natural n) = digits.map digitOctet := by
  rw [decimal.natural_eq, octets_digitChar decimal.small]

/-- What is read after the sign of a whole number is written by the digits of its value. -/
theorem of_readLiteral_whole (negative : Bool) {s rest : List UInt8} {k : Int}
    (read : (readLiteral negative s >>= fun (literal, rest) =>
      literal.number >>= fun n => .ok (n, rest)) = .ok (Number.whole k, rest)) :
    FitsWord k ∧ ∃ n, s = octets (Text.natural n) ++ rest ∧
      if negative then n ≠ 0 ∧ k = -n else k = n := by
  obtain ⟨⟨literal, behind⟩, taken, gave⟩ := exists_of_bind_eq_ok read
  obtain ⟨number, denotes, same⟩ := exists_of_bind_eq_ok gave
  cases same
  obtain ⟨integral, unscaled, fits, value⟩ := of_number_whole denotes
  obtain ⟨digits, decimal, written, rfl⟩ := of_readLiteral taken integral unscaled
  exact ⟨fits, _, by rw [octets_natural_of_isDecimal decimal, written], value⟩

/-- What is read as a whole number is its written form. -/
theorem of_readNumber {s rest : List UInt8} {k : Int} (read : readNumber s = .ok (.whole k, rest)) :
    s = octets (Text.integer k) ++ rest ∧ FitsWord k := by
  cases s with
  | nil =>
    obtain ⟨fits, n, written, rfl⟩ := of_readLiteral_whole false read
    exact ⟨written, fits⟩
  | cons b later =>
    rw [readNumber] at read
    split at read
    next sign =>
      obtain ⟨fits, n, written, nonzero, rfl⟩ := of_readLiteral_whole true read
      obtain ⟨n, rfl⟩ := Nat.exists_eq_succ_of_ne_zero nonzero
      refine ⟨?_, fits⟩
      rw [sign, written]
      rfl
    next =>
      obtain ⟨fits, n, written, rfl⟩ := of_readLiteral_whole false read
      exact ⟨written, fits⟩

end OpenBanking.Json
