import OpenBanking.Proofs.Text.Blank
import OpenBanking.Proofs.Text.Utf8
import OpenBanking.Text.Lowercase

/-!
# Texts in lower case

Lower-casing leaves a character if it is neither a capital sigma nor a dotted capital I and no run
of the table maps it. The images of every run are such characters, so lower-casing a text twice is
lower-casing it once. No image is a blank either, so a trimmed text stays trimmed.
-/

namespace OpenBanking.Text

/-! ## Images of the table -/

namespace CaseRun

/-- The greatest image of a run. -/
def greatestImage (run : CaseRun) : Nat := run.image + (run.last - run.first)

/-- Every image of a run lies outside an interval. -/
def leaves (run : CaseRun) (least greatest : Nat) : Bool :=
  Nat.blt greatest run.image || Nat.blt run.greatestImage least

/-- No image of a run is mapped by another: it lies outside, or between two neighbours. -/
def avoids (run other : CaseRun) : Bool :=
  run.leaves other.first other.last ||
    (Nat.beq other.step 2 && (Nat.beq run.step 2 || Nat.beq run.first run.last) &&
      Nat.beq ((run.image + other.first) % 2) 1)

/-- The blanks in runs. -/
def blankRuns : List (Nat × Nat) :=
  [(9, 13), (0x20, 0x20), (0x85, 0x85), (0xA0, 0xA0), (0x1680, 0x1680), (0x2000, 0x200A),
    (0x2028, 0x2029), (0x202F, 0x202F), (0x205F, 0x205F), (0x3000, 0x3000)]

/-- The images of a run are characters, and none of them is a dotted capital I or a blank. -/
def isPlain (run : CaseRun) : Bool :=
  run.leaves 0xD800 0xDFFF && Nat.blt run.greatestImage 0x110000 && run.leaves 0x130 0x130 &&
    blankRuns.all fun (least, greatest) => run.leaves least greatest

end CaseRun

/-- No run maps the image of a run. -/
theorem avoids_of_mem_lowerRuns :
    (lowerRuns.all fun run => lowerRuns.all fun other => run.avoids other) = true := by
  decide +kernel

/-- The images of all runs are plain. -/
theorem isPlain_of_mem_lowerRuns : (lowerRuns.all fun run => run.isPlain) = true := by
  decide +kernel

/-- A run maps a code point to one between its least and its greatest image. -/
theorem CaseRun.between_of_covers {run : CaseRun} {n : Nat} (covered : run.covers n = true) :
    run.image ≤ run.image + (n - run.first) ∧ run.image + (n - run.first) ≤ run.greatestImage := by
  simp only [covers, Bool.and_eq_true, decide_eq_true_eq] at covered
  rw [greatestImage]
  omega

/-- A run that leaves an interval maps no code point into it. -/
theorem CaseRun.outside_of_leaves {run : CaseRun} {least greatest n : Nat}
    (leaves : run.leaves least greatest = true) (covered : run.covers n = true) :
    greatest < run.image + (n - run.first) ∨ run.image + (n - run.first) < least := by
  have between := between_of_covers covered
  simp only [CaseRun.leaves, Bool.or_eq_true, Nat.blt_eq] at leaves
  omega

/-- A run that avoids another maps no code point to one that the other maps. -/
theorem CaseRun.not_covers_of_avoids {run other : CaseRun} {n : Nat}
    (avoids : run.avoids other = true) (covered : run.covers n = true) :
    other.covers (run.image + (n - run.first)) = false := by
  rw [Bool.eq_false_iff]
  intro again
  rw [CaseRun.avoids, Bool.or_eq_true] at avoids
  rcases avoids with outside | between
  · have apart := outside_of_leaves outside covered
    simp only [covers, Bool.and_eq_true, decide_eq_true_eq] at again
    omega
  · simp only [Bool.and_eq_true, Bool.or_eq_true, Nat.beq_eq, covers, decide_eq_true_eq,
      beq_iff_eq] at between covered again
    -- Capital and small letters stand in turn, so the image is an odd way off every capital.
    obtain ⟨⟨two, steps⟩, odd⟩ := between
    rw [two] at again
    rcases steps with same | single
    · rw [same] at covered
      omega
    · omega

/-! ## Characters in lower case -/

/-- A character that lower-casing leaves. -/
structure IsLower (c : Char) : Prop where
  /-- It is no capital sigma. -/
  ne_sigma : c ≠ 'Σ'
  /-- It is no dotted capital I. -/
  ne_dotted : c ≠ 'İ'
  /-- The table leaves it. -/
  lowerChar_eq : lowerChar c = c

/-- The image of a run is in lower case, and is no blank. -/
theorem isLower_image {run : CaseRun} (listed : run ∈ lowerRuns) {n : Nat}
    (covered : run.covers n = true) :
    IsLower (Char.ofNat (run.image + (n - run.first))) ∧
      isBlank (Char.ofNat (run.image + (n - run.first))) = false := by
  have avoids := List.all_eq_true.1 avoids_of_mem_lowerRuns run listed
  have plain := List.all_eq_true.1 isPlain_of_mem_lowerRuns run listed
  simp only [CaseRun.isPlain, Bool.and_eq_true, Nat.blt_eq] at plain
  obtain ⟨⟨⟨noSurrogate, small⟩, notDotted⟩, notBlank⟩ := plain
  have between := CaseRun.between_of_covers covered
  have surrogate := CaseRun.outside_of_leaves noSurrogate covered
  have dotted := CaseRun.outside_of_leaves notDotted covered
  have unmapped : ∀ other ∈ lowerRuns, other.covers (run.image + (n - run.first)) = false := by
    intro other also
    exact CaseRun.not_covers_of_avoids (List.all_eq_true.1 avoids other also) covered
  have value : (Char.ofNat (run.image + (n - run.first))).toNat = run.image + (n - run.first) :=
    Utf8.toNat_ofNat_of_valid (by omega)
  have outside : ∀ bounds ∈ CaseRun.blankRuns, bounds.2 < run.image + (n - run.first) ∨
      run.image + (n - run.first) < bounds.1 := by
    intro bounds blank
    exact CaseRun.outside_of_leaves (List.all_eq_true.1 notBlank bounds blank) covered
  generalize run.image + (n - run.first) = image at *
  refine ⟨⟨?_, ?_, ?_⟩, ?_⟩
  · intro same
    -- A run maps the capital sigma, though lower-casing never comes to it.
    have mapped : ∃ other ∈ lowerRuns, other.covers 0x3A3 = true := by decide
    obtain ⟨other, also, covers⟩ := mapped
    have sigma : image = 0x3A3 := by
      rw [← value, same]
      rfl
    rw [sigma] at unmapped
    simp [unmapped other also] at covers
  · intro same
    have dottedI : image = 0x130 := by
      rw [← value, same]
      rfl
    omega
  · have unfound : lowerRuns.find? (·.covers image) = none := by
      rw [List.find?_eq_none]
      intro other also
      simp [unmapped other also]
    rw [lowerChar, value, unfound, ite_self]
  · simp only [CaseRun.blankRuns, List.mem_cons, List.not_mem_nil, or_false, forall_eq_or_imp,
      forall_eq] at outside
    rw [isBlank, value, Bool.eq_false_iff]
    simp only [ne_eq, Bool.or_eq_true, Bool.and_eq_true, decide_eq_true_eq, beq_iff_eq]
    omega

/-- What the table makes of a character is in lower case, unless the character has a rule of its
own; and it makes no blank of what is none. -/
theorem isLower_lowerChar {c : Char} (ne_sigma : c ≠ 'Σ') (ne_dotted : c ≠ 'İ') :
    IsLower (lowerChar c) ∧ (isBlank c = false → isBlank (lowerChar c) = false) := by
  by_cases small : c.toNat < 0x41
  · have left : lowerChar c = c := by rw [lowerChar, if_pos small]
    rw [left]
    exact ⟨⟨ne_sigma, ne_dotted, left⟩, id⟩
  · cases found : lowerRuns.find? (·.covers c.toNat) with
    | none =>
      have left : lowerChar c = c := by rw [lowerChar, if_neg small, found]
      rw [left]
      exact ⟨⟨ne_sigma, ne_dotted, left⟩, id⟩
    | some run =>
      have mapped : lowerChar c = Char.ofNat (run.image + (c.toNat - run.first)) := by
        rw [lowerChar, if_neg small, found]
      have covered : run.covers c.toNat = true := by
        have holds := List.find?_some found
        exact holds
      obtain ⟨lower, solid⟩ := isLower_image (List.mem_of_find?_eq_some found) covered
      rw [mapped]
      exact ⟨lower, fun _ => solid⟩

/-! ## Texts -/

/-- What the first character becomes, one character or two, is in lower case and stands in front of
what the others become; it holds no blank unless the character is one. -/
theorem exists_lowerFrom_cons (before : List Char) (c : Char) (after : List Char) :
    ∃ image, image ≠ [] ∧ lowerFrom before (c :: after) = image ++ lowerFrom (c :: before) after ∧
      (∀ d ∈ image, IsLower d) ∧ (isBlank c = false → ∀ d ∈ image, isBlank d = false) := by
  have small : IsLower 'σ' := ⟨by decide, by decide, by decide⟩
  have final : IsLower 'ς' := ⟨by decide, by decide, by decide⟩
  have i : IsLower 'i' := ⟨by decide, by decide, by decide⟩
  have dot : IsLower '\u0307' := ⟨by decide, by decide, by decide⟩
  by_cases sigma : c = 'Σ'
  · by_cases last : (casedAfterIgnorable before && !casedAfterIgnorable after) = true
    · refine ⟨['ς'], by simp, by simp [lowerFrom, sigma, last], by simp [final], ?_⟩
      intro _ d mem
      cases List.mem_singleton.1 mem
      decide
    · refine ⟨['σ'], by simp, by simp [lowerFrom, sigma, last], by simp [small], ?_⟩
      intro _ d mem
      cases List.mem_singleton.1 mem
      decide
  · by_cases dotted : c = 'İ'
    · refine ⟨['i', '\u0307'], by simp, by simp [lowerFrom, dotted], by simp [i, dot], ?_⟩
      intro _ d mem
      simp only [List.mem_cons, List.not_mem_nil, or_false] at mem
      cases mem with
      | inl first =>
        rw [first]
        decide
      | inr second =>
        rw [second]
        decide
    · obtain ⟨lower, solid⟩ := isLower_lowerChar sigma dotted
      exact ⟨[lowerChar c], by simp, by simp [lowerFrom, sigma, dotted], by simp [lower],
        by simpa using solid⟩

/-- Lower-casing puts every character in lower case. -/
theorem isLower_of_mem_lowerFrom {before cs : List Char} {c : Char}
    (mem : c ∈ lowerFrom before cs) : IsLower c := by
  induction cs generalizing before with
  | nil => cases mem
  | cons d cs ih =>
    obtain ⟨image, _, parts, lower, _⟩ := exists_lowerFrom_cons before d cs
    rw [parts, List.mem_append] at mem
    cases mem with
    | inl here => exact lower c here
    | inr later => exact ih later

/-- Characters in lower case are left by lower-casing. -/
theorem lowerFrom_eq_self {before cs : List Char} (lower : ∀ c ∈ cs, IsLower c) :
    lowerFrom before cs = cs := by
  induction cs generalizing before with
  | nil => rfl
  | cons c cs ih =>
    have first := lower c List.mem_cons_self
    rw [lowerFrom, if_neg first.ne_sigma, if_neg first.ne_dotted, first.lowerChar_eq,
      ih fun d later => lower d (List.mem_cons_of_mem c later)]

/-- A text in lower case is left by lower-casing. -/
theorem lowercase_lowercase (text : String) : lowercase (lowercase text) = lowercase text := by
  rw [lowercase, lowercase, String.toList_ofList,
    lowerFrom_eq_self fun c mem => isLower_of_mem_lowerFrom mem]

/-- No blank stands in front of what becomes of characters in front of which none stands. -/
theorem lowerFrom_front {before cs : List Char} (front : ∀ c ∈ cs.head?, isBlank c = false) :
    ∀ c ∈ (lowerFrom before cs).head?, isBlank c = false := by
  cases cs with
  | nil => exact front
  | cons d cs =>
    obtain ⟨image, inhabited, parts, _, solid⟩ := exists_lowerFrom_cons before d cs
    obtain ⟨e, others, rfl⟩ := List.exists_cons_of_ne_nil inhabited
    intro c first
    rw [parts, List.cons_append, List.head?_cons] at first
    cases first
    exact solid (front d rfl) e List.mem_cons_self

/-- No blank stands behind what becomes of characters behind which none stands. -/
theorem lowerFrom_back {before cs : List Char} (back : ∀ c ∈ cs.getLast?, isBlank c = false) :
    ∀ c ∈ (lowerFrom before cs).getLast?, isBlank c = false := by
  induction cs generalizing before with
  | nil => exact back
  | cons d cs ih =>
    obtain ⟨image, inhabited, parts, _, solid⟩ := exists_lowerFrom_cons before d cs
    intro c last
    rw [parts, List.getLast?_append] at last
    cases cs with
    | nil => exact solid (back d rfl) c (List.mem_of_getLast? last)
    | cons e cs =>
      have behind : ∀ c ∈ (e :: cs).getLast?, isBlank c = false := by
        intro c mem
        apply back c
        rwa [List.getLast?_cons_cons]
      cases later : (lowerFrom (d :: before) (e :: cs)).getLast? with
      | none =>
        -- The characters that are left become something.
        obtain ⟨next, inhabitedNext, nextParts, _⟩ := exists_lowerFrom_cons (d :: before) e cs
        rw [List.getLast?_eq_none_iff, nextParts, List.append_eq_nil_iff] at later
        exact absurd later.1 inhabitedNext
      | some f =>
        rw [later, Option.some_or] at last
        cases last
        exact ih behind c later

/-- Trimmed characters stay trimmed in lower case. -/
theorem Trimmed.lowerFrom {cs : List Char} (trimmed : Trimmed cs) (before : List Char) :
    Trimmed (Text.lowerFrom before cs) :=
  ⟨lowerFrom_front trimmed.front, lowerFrom_back trimmed.back⟩

/-- The lower case of a trimmed text is left by trimming and lower-casing. -/
theorem lowercase_trim_lowercase_trim (text : String) :
    lowercase (trim (lowercase (trim text))) = lowercase (trim text) := by
  have trimmed : trim (lowercase (trim text)) = lowercase (trim text) := by
    rw [trim, lowercase, trim, String.toList_ofList, String.toList_ofList,
      ((trimmed_trimChars _).lowerFrom []).trimChars_eq]
  rw [trimmed, lowercase_lowercase]

end OpenBanking.Text
