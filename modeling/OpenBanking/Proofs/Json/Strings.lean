import OpenBanking.Json.Token
import OpenBanking.Proofs.Text.Utf8

/-!
# Strings read back

The octets of a string are those of its characters, where quotes, backslashes and controls stand
behind a backslash. The reader collects the octets that each character denotes, so what it has
collected when it meets the closing quote are the octets of the text, and these are read as that
text only.
-/

namespace OpenBanking.Json

open Utf8 (octets)

/-- An octet that stands for itself inside a string. -/
structure IsPlain (b : UInt8) : Prop where
  /-- It does not end the string. -/
  ne_quote : b ≠ Octet.quote
  /-- It does not begin an escape. -/
  ne_backslash : b ≠ Octet.backslash
  /-- It is no control character. -/
  not_control : ¬b < 0x20

/-- A plain octet is collected. -/
theorem stringFrom_plain {b : UInt8} (plain : IsPlain b) (acc rest : List UInt8) :
    stringFrom acc (b :: rest) = stringFrom (b :: acc) rest := by
  rw [stringFrom.eq_def]
  simp only [plain.ne_quote, plain.ne_backslash, plain.not_control, ↓reduceIte]

/-- Plain octets are collected in order. -/
theorem stringFrom_plain_append {run : List UInt8} (plain : ∀ b ∈ run, IsPlain b)
    (acc rest : List UInt8) : stringFrom acc (run ++ rest) = stringFrom (run.reverse ++ acc) rest := by
  induction run generalizing acc with
  | nil => rfl
  | cons b run ih =>
    obtain ⟨first, later⟩ := List.forall_mem_cons.1 plain
    rw [List.cons_append, stringFrom_plain first, ih later]
    simp

/-- An escape of one letter stands for the octet of the letter. -/
theorem stringFrom_escape {letter b : UInt8} (other : letter ≠ Octet.letterU)
    (denoted : Octet.escape? letter = some b) (acc rest : List UInt8) :
    stringFrom acc (Octet.backslash :: letter :: rest) = stringFrom (b :: acc) rest := by
  rw [stringFrom.eq_def]
  simp only [other, denoted, ↓reduceIte, show Octet.backslash ≠ Octet.quote by decide]

/-- An escape of four digits stands for a code point outside the surrogates. -/
theorem stringFrom_codeUnit {a b c d : UInt8} {n : Nat} (unit : codeUnit? a b c d = some n)
    (single : isTrailing n = false ∧ isLeading n = false) (acc rest : List UInt8) :
    stringFrom acc (Octet.backslash :: Octet.letterU :: a :: b :: c :: d :: rest) =
      stringFrom (pushCodePoint n acc) rest := by
  rw [stringFrom.eq_def]
  simp only [unit, single, ↓reduceIte, show Octet.backslash ≠ Octet.quote by decide,
    Bool.false_eq_true]

/-- A character that is written as it is has plain octets. -/
theorem isPlain_of_mem_utf8EncodeChar {c : Char} (notQuote : c ≠ '"') (notBackslash : c ≠ '\\')
    (notControl : ¬c.toNat < 0x20) {b : UInt8} (held : b ∈ String.utf8EncodeChar c) : IsPlain b := by
  by_cases low : c.toNat < 0x80
  · rw [Utf8.utf8EncodeChar_of_lt low, List.mem_singleton] at held
    subst held
    have same : (UInt8.ofNat c.toNat).toNat = c.toNat := by
      rw [UInt8.toNat_ofNat', Nat.mod_eq_of_lt (by omega)]
    have apart (d : Char) (other : c ≠ d) : (UInt8.ofNat c.toNat).toNat ≠ d.toNat := by
      rw [same]
      exact fun equal => other (Char.toNat_inj.1 equal)
    refine ⟨fun equal => apart '"' notQuote ?_, fun equal => apart '\\' notBackslash ?_, ?_⟩
    · rw [equal]
      rfl
    · rw [equal]
      rfl
    · rw [UInt8.lt_iff_toNat_lt, same]
      exact notControl
  · have high := Utf8.le_of_mem_utf8EncodeChar (Nat.le_of_not_lt low) held
    rw [UInt8.le_iff_toNat_le] at high
    have atLeast : 0x80 ≤ b.toNat := high
    refine ⟨?_, ?_, ?_⟩
    · rintro rfl
      exact absurd atLeast (by decide)
    · rintro rfl
      exact absurd atLeast (by decide)
    · rw [UInt8.lt_iff_toNat_lt]
      have control : (0x20 : UInt8).toNat = 0x20 := rfl
      omega

/-- A hexadecimal digit is one octet, which has its value. -/
theorem hex?_hexDigit : ∀ n < 16,
    String.utf8EncodeChar (Text.hexDigit n) = [UInt8.ofNat (Text.hexDigit n).toNat] ∧
      Octet.hex? (UInt8.ofNat (Text.hexDigit n).toNat) = some n := by
  decide

/-- How a character is written. -/
inductive WritesChar (c : Char) : List UInt8 → Prop where
  | letter {b d : UInt8} (denoted : Octet.escape? b = some d) (held : String.utf8EncodeChar c = [d]) :
    WritesChar c [Octet.backslash, b]
  | codeUnit {high low : UInt8} (denoted : codeUnit? 0x30 0x30 high low = some c.toNat)
    (single : isTrailing c.toNat = false ∧ isLeading c.toNat = false) :
    WritesChar c [Octet.backslash, Octet.letterU, 0x30, 0x30, high, low]
  | plain (plain : ∀ b ∈ String.utf8EncodeChar c, IsPlain b) : WritesChar c (String.utf8EncodeChar c)

/-- A character is written by a letter behind a backslash, by its code point, or by itself. -/
theorem writes_escaped (c : Char) : WritesChar c (octets (escaped c)) := by
  unfold escaped
  split
  next quote => subst quote; exact .letter rfl rfl
  split
  next backslash => subst backslash; exact .letter rfl rfl
  split
  next backspace => subst backspace; exact .letter rfl rfl
  split
  next tab => subst tab; exact .letter rfl rfl
  split
  next lineFeed => subst lineFeed; exact .letter rfl rfl
  split
  next formFeed => subst formFeed; exact .letter rfl rfl
  split
  next carriageReturn => subst carriageReturn; exact .letter rfl rfl
  split
  next control =>
    obtain ⟨highOctet, highValue⟩ := hex?_hexDigit (c.toNat / 16) (by omega)
    obtain ⟨lowOctet, lowValue⟩ := hex?_hexDigit (c.toNat % 16) (by omega)
    have unit : codeUnit? 0x30 0x30 (UInt8.ofNat (Text.hexDigit (c.toNat / 16)).toNat)
        (UInt8.ofNat (Text.hexDigit (c.toNat % 16)).toNat) = some c.toNat := by
      have zero : Octet.hex? 0x30 = some 0 := rfl
      simp only [codeUnit?, zero, highValue, lowValue, bind, Option.bind, Option.some.injEq]
      omega
    have single : isTrailing c.toNat = false ∧ isLeading c.toNat = false := by
      simp only [isTrailing, isLeading, Bool.and_eq_false_iff, decide_eq_false_iff_not]
      omega
    simp only [Utf8.octets_cons, Utf8.octets_nil, highOctet, lowOctet]
    exact .codeUnit unit single
  next notQuote notBackslash _ _ _ _ _ notControl =>
    rw [Utf8.octets_cons, Utf8.octets_nil, List.append_nil]
    exact .plain fun b => isPlain_of_mem_utf8EncodeChar notQuote notBackslash notControl

/-- No octet is denoted by the letter that begins a code unit. -/
theorem ne_letterU_of_escape? {b d : UInt8} (denoted : Octet.escape? b = some d) :
    b ≠ Octet.letterU := by
  rintro rfl
  have none : Octet.escape? Octet.letterU = none := by decide
  rw [none] at denoted
  cases denoted

/-- The octets that write a character are collected as the octets of the character. -/
theorem stringFrom_escaped (c : Char) (acc rest : List UInt8) :
    stringFrom acc (octets (escaped c) ++ rest) =
      stringFrom ((String.utf8EncodeChar c).reverse ++ acc) rest := by
  generalize written : octets (escaped c) = s
  cases written ▸ writes_escaped c with
  | letter denoted held =>
    rw [held]
    exact stringFrom_escape (ne_letterU_of_escape? denoted) denoted acc rest
  | codeUnit denoted single =>
    have collected := stringFrom_codeUnit denoted single acc rest
    rwa [pushCodePoint, Char.ofNat_toNat] at collected
  | plain plain => exact stringFrom_plain_append plain acc rest

/-- The octets that write characters are collected as the octets of the characters. -/
theorem stringFrom_flatMap_escaped (cs : List Char) (acc rest : List UInt8) :
    stringFrom acc (octets (cs.flatMap escaped) ++ rest) =
      stringFrom ((octets cs).reverse ++ acc) rest := by
  induction cs generalizing acc with
  | nil => rfl
  | cons c cs ih =>
    rw [List.flatMap_cons, Utf8.octets_append, List.append_assoc, stringFrom_escaped, ih,
      Utf8.octets_cons, List.reverse_append, List.append_assoc]

/-- The octets of a string after its opening quote are read as the string. -/
theorem readString_octets (text : String) (rest : List UInt8) :
    readString (octets (text.toList.flatMap escaped) ++ Octet.quote :: rest) = .ok (text, rest) := by
  rw [readString, stringFrom_flatMap_escaped, stringFrom.eq_def]
  simp only [↓reduceIte, closeString, List.append_nil, List.reverse_reverse]
  rw [← Utf8.encode_eq_octets, Utf8.decode?_encode]

/-- The octets of a string between its quotes. -/
theorem octets_stringChars (text : String) :
    octets (stringChars text) =
      Octet.quote :: (octets (text.toList.flatMap escaped) ++ [Octet.quote]) := by
  rw [stringChars, List.cons_append, Utf8.octets_cons, Utf8.octets_append]
  rfl

end OpenBanking.Json
