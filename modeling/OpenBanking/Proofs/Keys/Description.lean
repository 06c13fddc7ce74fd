import Mathlib.Data.Nat.Digits.Defs
import OpenBanking.Keys.Signer
import OpenBanking.Proofs.Keys.Secret
import OpenBanking.Proofs.Keys.Text
import OpenBanking.Proofs.Text.Runs
import OpenBanking.Proofs.Text.Strict

/-!
# Descriptions of keys do not show the seed

The text of a seed is fifty-eight symbols of base32. In the description of a key such symbols stand
between quotes and words, and the longest piece that could hold them is the public key, which has
fifty-six. So the seed cannot stand anywhere in the description, not even across its pieces.
-/

namespace OpenBanking

/-! ## Symbols of seeds -/

namespace Utf8

/-- Characters whose octets are all below `0x80` are these octets. -/
theorem octets_of_ascii {cs : List Char} (ascii : ∀ octet ∈ octets cs, octet < 0x80) :
    octets cs = cs.map (fun c => UInt8.ofNat c.toNat) ∧ ∀ c ∈ cs, c.toNat < 0x80 := by
  induction cs with
  | nil => exact ⟨rfl, by simp⟩
  | cons c cs ih =>
    rw [octets_cons] at ascii ⊢
    obtain ⟨same, later⟩ := ih fun octet held => ascii octet (List.mem_append_right _ held)
    have low : c.toNat < 0x80 := by
      by_contra high
      obtain ⟨octet, rest, written⟩ :=
        List.exists_cons_of_ne_nil (String.utf8EncodeChar_ne_nil (c := c))
      have held : octet ∈ String.utf8EncodeChar c := written ▸ List.mem_cons_self
      have above := le_of_mem_utf8EncodeChar (Nat.le_of_not_lt high) held
      exact absurd (ascii octet (List.mem_append_left _ held)) (UInt8.not_lt.2 above)
    rw [utf8EncodeChar_of_lt low, same]
    exact ⟨rfl, List.forall_mem_cons.2 ⟨low, later⟩⟩

end Utf8

namespace Base32

/-- The symbols in the order of their values. -/
def alphabet : List Char := "ABCDEFGHIJKLMNOPQRSTUVWXYZ234567".toList

/-- Symbols are of the alphabet. -/
theorem symbol_mem_alphabet {n : Nat} (five : n < 32) : symbol n ∈ alphabet := by
  have all : ∀ n < 32, symbol n ∈ alphabet := by decide
  exact all n five

/-- An octet that is read is below `0x80`. -/
theorem lt_of_value? {octet : UInt8} (read : (value? octet).isSome = true) : octet < 0x80 := by
  have all : ∀ k < 256, (value? (UInt8.ofNat k)).isSome = true → UInt8.ofNat k < 0x80 := by
    decide +kernel
  have own := all octet.toNat octet.toNat_lt
  rw [UInt8.ofNat_toNat] at own
  exact own read

/-- A character that is read is of the alphabet. -/
theorem mem_alphabet_of_value? {c : Char} (low : c.toNat < 0x80)
    (read : (value? (UInt8.ofNat c.toNat)).isSome = true) : c ∈ alphabet := by
  have all : ∀ k < 0x80, (value? (UInt8.ofNat k)).isSome = true → Char.ofNat k ∈ alphabet := by
    decide +kernel
  have own := all c.toNat low read
  rwa [Char.ofNat_toNat] at own

/-- All octets that have values are read. -/
theorem isSome_value?_of_values {offset : Nat} {written : List UInt8} {digits : List Nat}
    (read : values offset written = .ok digits) : ∀ octet ∈ written, (value? octet).isSome = true := by
  induction written generalizing offset digits with
  | nil => simp
  | cons x rest ih =>
    rw [values] at read
    split at read
    next => cases read
    next n found =>
      split at read
      next later after => exact List.forall_mem_cons.2 ⟨by rw [found]; rfl, ih after⟩
      next => cases read

/-- Octets that are decoded are all read. -/
theorem isSome_value?_of_decode {written octets : List UInt8} (read : decode written = .ok octets) :
    ∀ octet ∈ written, (value? octet).isSome = true := by
  unfold decode at read
  simp only at read
  split at read
  next => cases read
  next =>
    cases symbols : values 0 written with
    | error refusal =>
      rw [symbols] at read
      cases read
    | ok digits => exact isSome_value?_of_values symbols

end Base32

/-! ## Texts of keys -/

namespace KeyText

/-- What is read as marked octets is base32. -/
theorem exists_decode_of_read {written marked : List UInt8} (found : read written = .ok marked) :
    ∃ octets, Base32.decode written = .ok octets := by
  unfold read at found
  split at found
  next => cases found
  next octets decoded => exact ⟨octets, decoded⟩

/-- A seed is fifty-eight symbols. -/
theorem symbols_of_ofSeed {text : String} {pair : Pair} (found : ofSeed text = .ok pair) :
    text.toList.length = 58 ∧ ∀ c ∈ text.toList, c ∈ Base32.alphabet := by
  obtain ⟨length, marked, readable⟩ : (Utf8.encode text).length = 58 ∧
      ∃ marked, read (Utf8.encode text) = .ok marked := by
    simp only [ofSeed] at found
    split at found
    next => cases found
    next length =>
      cases readable : read (Utf8.encode text) with
      | error error =>
        rw [readable] at found
        cases found
      | ok marked => exact ⟨by omega, marked, rfl⟩
  obtain ⟨octets, decoded⟩ := exists_decode_of_read readable
  have symbols := Base32.isSome_value?_of_decode decoded
  rw [Utf8.encode_eq_octets] at symbols length
  obtain ⟨same, low⟩ := Utf8.octets_of_ascii fun octet held => Base32.lt_of_value? (symbols octet held)
  rw [same] at symbols length
  refine ⟨by rwa [List.length_map] at length, fun c held => ?_⟩
  exact Base32.mem_alphabet_of_value? (low c held) (symbols _ (List.mem_map_of_mem held))

/-- A public key is fifty-six symbols. -/
theorem symbols_publicText (role : Role) {octets : List UInt8} (length : octets.length = 32) :
    (publicText role octets).toList.length = 56 ∧
      ∀ c ∈ (publicText role octets).toList, c ∈ Base32.alphabet := by
  rw [publicText, write, String.toList_ofList, Base32.encodeChars]
  constructor
  · rw [List.length_map, Base32.length_digitsOf, List.length_append, List.length_cons, length,
      Digest.Block.length_littleOctets]
  · intro c held
    obtain ⟨n, own, rfl⟩ := List.mem_map.1 held
    exact Base32.symbol_mem_alphabet (Base32.lt_of_mem_digitsOf (by decide) own)

end KeyText

/-- An id is at most sixteen symbols of base64url. -/
theorem symbols_keyId (publicText : String) : (keyId publicText).toList.length ≤ 16 ∧
    ∀ c ∈ (keyId publicText).toList, c ∈ Base64url.alphabet := by
  rw [keyId, String.toList_ofList]
  refine ⟨List.length_take_le _ _, fun c held => ?_⟩
  have own := List.mem_of_mem_take held
  rw [Digest.sha256Text, Base64url.encode, String.toList_ofList] at own
  exact (Base64url.coded_encodeChars _).symbols c own

/-! ## Descriptions -/

/-- Symbols are quoted as they are. -/
theorem quotedChar_of_mem_alphabet {c : Char} (held : c ∈ Base64url.alphabet) :
    Text.quotedChar c = [c] := by
  have all : Base64url.alphabet.all fun c => Text.quotedChar c = [c] := by decide +kernel
  exact of_decide_eq_true (List.all_eq_true.1 all c held)

/-- The symbols of base32 are among those of base64url. -/
theorem mem_alphabet_of_mem_base32 {c : Char} (held : c ∈ Base32.alphabet) :
    c ∈ Base64url.alphabet := by
  have all : Base32.alphabet.all (· ∈ Base64url.alphabet) := by decide +kernel
  exact of_decide_eq_true (List.all_eq_true.1 all c held)

/-- A time takes at most twenty characters. -/
theorem length_integer_le (time : Int64) : (Text.integer time.toInt).length ≤ 20 := by
  have least := Int64.le_toInt time
  have greatest := Int64.toInt_lt time
  cases written : time.toInt with
  | ofNat n =>
    have value : time.toInt = (n : Int) := written
    have digits : (Text.natural n).length ≤ 19 :=
      Nat.toDigits_length 10 n 19 (by decide) (by omega)
    exact Nat.le_succ_of_le digits
  | negSucc n =>
    have digits : (Text.natural (n + 1)).length ≤ 19 :=
      Nat.toDigits_length 10 (n + 1) 19 (by decide) (by omega)
    exact Nat.succ_le_succ digits

namespace SecretKey

/-- What the description says of the expiry of a key. -/
def describedExpiry (key : SecretKey) : String :=
  Text.describedOption (key.expiresAt.map fun limit => String.ofList (Text.integer limit.toInt))

/-- It takes at most twenty-six characters. -/
theorem length_describedExpiry_le (key : SecretKey) : key.describedExpiry.toList.length ≤ 26 := by
  rw [describedExpiry]
  cases key.expiresAt with
  | none => decide
  | some limit =>
    have digits := length_integer_le limit
    simp [Text.describedOption]
    omega

/-- The pieces of a description. -/
theorem toList_description (key : SecretKey) : key.description.toList =
    "SecretKey \x7b id: ".toList ++ (Text.quoted key.id).toList ++
      ((", level: " ++ key.level.label ++ ", public_key: ").toList ++
        (Text.quoted key.publicText).toList ++
          (", expires_at_ms: " ++ key.describedExpiry ++ ", .. \x7d").toList) := by
  simp [description, Text.described, describedExpiry, String.join]

/-- No more than fifty-six symbols of base32 stand next to each other in a description. -/
theorem runsWithin_description (key : SecretKey) :
    Text.RunsWithin (· ∈ Base32.alphabet) 56 key.description.toList := by
  have quote : '"' ∉ Base32.alphabet := by decide
  obtain ⟨idLength, idSymbols⟩ := symbols_keyId key.publicText
  rw [← key.id_of_publicText] at idLength idSymbols
  obtain ⟨publicLength, publicSymbols⟩ : key.publicText.toList.length = 56 ∧
      ∀ c ∈ key.publicText.toList, c ∈ Base32.alphabet := by
    rw [key.publicText_of_pair, KeyText.Pair.publicText]
    refine KeyText.symbols_publicText key.pair.role ?_
    rw [KeyText.publicOctets_of_ofSeed key.pair_of_seed]
    exact Ed25519.length_publicKey key.pair.seed
  have level : (", level: " ++ key.level.label ++ ", public_key: ").toList.length ≤ 56 := by
    cases key.level <;> decide
  have expiry : (", expires_at_ms: " ++ key.describedExpiry ++ ", .. \x7d").toList.length ≤ 56 := by
    have few := key.length_describedExpiry_le
    simp only [String.toList_append, List.length_append]
    exact Nat.add_le_add (Nat.add_le_add (by decide : _ ≤ 17) few) (by decide : _ ≤ 13)
  rw [toList_description]
  refine .append_quoted quote (fun c held => quotedChar_of_mem_alphabet (idSymbols c held))
    (Text.runsWithin_of_length_le (by decide)) (Nat.le_trans idLength (by decide)) ?_
  exact .append_quoted quote
    (fun c held => quotedChar_of_mem_alphabet (mem_alphabet_of_mem_base32 (publicSymbols c held)))
    (Text.runsWithin_of_length_le level) (Nat.le_of_eq publicLength)
    (Text.runsWithin_of_length_le expiry)

/-- Fewer still stand in the description of its signer. -/
theorem runsWithin_description_ofSecret (key : SecretKey) :
    Text.RunsWithin (· ∈ Base32.alphabet) 56 (Signer.ofSecret key).description.toList := by
  obtain ⟨length, symbols⟩ := symbols_keyId key.publicText
  rw [← key.id_of_publicText] at length symbols
  have pieces : (Signer.ofSecret key).description.toList =
      "Ed25519Signer \x7b key_id: ".toList ++ (Text.quoted key.id).toList ++ ", .. \x7d".toList := by
    simp [Signer.description, Signer.ofSecret, Text.described, String.join]
  rw [pieces]
  exact .append_quoted (by decide) (fun c held => quotedChar_of_mem_alphabet (symbols c held))
    (Text.runsWithin_of_length_le (by decide)) (Nat.le_trans length (by decide))
    (Text.runsWithin_of_length_le (by decide))

/-- The key with a time at which it expires, if there is one. -/
def lasting (key : SecretKey) (expiry : Option Int64) : SecretKey := expiry.elim key key.expiring

/-- The seed stands nowhere in the description of its key, of whatever level and expiry, nor in that
of the signer with the key; and both descriptions are told by the id, the level, the public key and
the expiry alone. -/
theorem description_hides_seed {seed : String} {level : KeyLevel} {key : SecretKey}
    (made : ofSeed seed level = .ok key) (expiry : Option Int64) :
    ¬seed.toList <:+: (key.lasting expiry).description.toList ∧
    ¬seed.toList <:+: (Signer.ofSecret (key.lasting expiry)).description.toList ∧
    ∀ other : SecretKey, other.id = key.id → other.level = level →
      other.publicText = key.publicText → other.expiresAt = expiry →
      other.description = (key.lasting expiry).description ∧
      (Signer.ofSecret other).description = (Signer.ofSecret (key.lasting expiry)).description := by
  obtain ⟨rfl, rfl, never⟩ := of_ofSeed made
  obtain ⟨length, symbols⟩ := KeyText.symbols_of_ofSeed key.pair_of_seed
  have long : 56 < key.seed.toList.length := by omega
  refine ⟨(runsWithin_description _).absent_of_long symbols long,
    (runsWithin_description_ofSecret _).absent_of_long symbols long, ?_⟩
  intro other id level publicText expires
  have same : (key.lasting expiry).id = key.id ∧ (key.lasting expiry).level = key.level ∧
      (key.lasting expiry).publicText = key.publicText ∧ (key.lasting expiry).expiresAt = expiry := by
    cases expiry with
    | none => exact ⟨rfl, rfl, rfl, never⟩
    | some limit => exact ⟨rfl, rfl, rfl, rfl⟩
  obtain ⟨sameId, sameLevel, samePublic, sameExpiry⟩ := same
  constructor
  · rw [description, description, id, level, publicText, expires, sameId, sameLevel, samePublic,
      sameExpiry]
  · simp only [Signer.ofSecret, Signer.description, id, sameId]

/-- The seed of ones stands neither in the description of its low key that expires before 1970 nor
in that of the signer. -/
theorem description_hides_seed_ones : ∃ key, ofSeed KeyText.seedOfOnes .low = .ok key ∧
    ¬KeyText.seedOfOnes.toList <:+: (key.expiring (-1)).description.toList ∧
    ¬KeyText.seedOfOnes.toList <:+: (Signer.ofSecret (key.expiring (-1))).description.toList := by
  obtain ⟨pair, found⟩ := KeyText.exists_ofSeed_ones
  obtain ⟨key, made, -⟩ := exists_ofSeed found .low
  obtain ⟨hidden, hiddenToo, -⟩ := description_hides_seed made (some (-1))
  exact ⟨key, made, hidden, hiddenToo⟩

end SecretKey

end OpenBanking
