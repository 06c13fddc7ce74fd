import Mathlib.Data.List.TakeWhile
import OpenBanking.Text.Blank

/-!
# Trimmed texts

Characters are trimmed if no blank stands at either end. Trimming makes them so, and leaves those
that are so.
-/

namespace OpenBanking.Text

/-- No blank stands at either end. -/
structure Trimmed (cs : List Char) : Prop where
  /-- None stands in front. -/
  front : ∀ c ∈ cs.head?, isBlank c = false
  /-- None stands behind. -/
  back : ∀ c ∈ cs.getLast?, isBlank c = false

/-- What is left of characters after the blanks in front begins with none. -/
theorem isBlank_of_mem_head?_dropWhile {cs : List Char} {c : Char}
    (first : c ∈ (cs.dropWhile isBlank).head?) : isBlank c = false := by
  induction cs with
  | nil => cases first
  | cons d cs ih =>
    by_cases blank : isBlank d = true
    · rw [List.dropWhile_cons_of_pos blank] at first
      exact ih first
    · rw [List.dropWhile_cons_of_neg blank] at first
      cases first
      simpa using blank

/-- Characters in front of which no blank stands are left by dropping blanks. -/
theorem dropWhile_isBlank_of_head? {cs : List Char} (front : ∀ c ∈ cs.head?, isBlank c = false) :
    cs.dropWhile isBlank = cs := by
  cases cs with
  | nil => rfl
  | cons c cs =>
    have first := front c rfl
    exact List.dropWhile_cons_of_neg (by simp [first])

/-- Trimmed characters are left by trimming. -/
theorem Trimmed.trimChars_eq {cs : List Char} (trimmed : Trimmed cs) : trimChars cs = cs := by
  have behind : ∀ c ∈ cs.reverse.head?, isBlank c = false := by
    intro c last
    rw [List.head?_reverse] at last
    exact trimmed.back c last
  rw [trimChars, dropWhile_isBlank_of_head? trimmed.front, dropWhile_isBlank_of_head? behind,
    List.reverse_reverse]

/-- Trimming trims. -/
theorem trimmed_trimChars (cs : List Char) : Trimmed (trimChars cs) := by
  constructor
  · intro c first
    -- What is left is a prefix of the characters after the blanks in front.
    have suffix : ((cs.dropWhile isBlank).reverse.dropWhile isBlank) <:+
        (cs.dropWhile isBlank).reverse := List.dropWhile_suffix _
    obtain ⟨dropped, whole⟩ := suffix
    have parts : trimChars cs ++ dropped.reverse = cs.dropWhile isBlank := by
      rw [trimChars, ← List.reverse_append, whole, List.reverse_reverse]
    have kept : c ∈ (cs.dropWhile isBlank).head? := by
      rw [← parts, List.head?_append, Option.mem_def.1 first]
      rfl
    exact isBlank_of_mem_head?_dropWhile kept
  · intro c last
    rw [trimChars, List.getLast?_reverse] at last
    exact isBlank_of_mem_head?_dropWhile last

/-- A trimmed text is left by trimming. -/
theorem trim_trim (text : String) : trim (trim text) = trim text := by
  rw [trim, trim, String.toList_ofList, (trimmed_trimChars _).trimChars_eq]

/-- Nothing is left by trimming a text of blanks, and of no other text. -/
theorem isEmpty_trim_iff {text : String} :
    (trim text).isEmpty = true ↔ ∀ c ∈ text.toList, isBlank c = true := by
  rw [trim, String.isEmpty_iff, String.ofList_eq_empty_iff]
  constructor
  · intro none
    -- Nothing is left in front of the last character that is no blank, so there is none.
    have allBehind : ∀ c ∈ (text.toList.dropWhile isBlank).reverse, isBlank c = true := by
      rw [← List.dropWhile_eq_nil_iff]
      exact List.reverse_eq_nil_iff.1 none
    have gone : text.toList.dropWhile isBlank = [] := by
      cases left : text.toList.dropWhile isBlank with
      | nil => rfl
      | cons c cs =>
        have solid : isBlank c = false := isBlank_of_mem_head?_dropWhile (by rw [left]; rfl)
        rw [left] at allBehind
        rw [allBehind c (by simp)] at solid
        cases solid
    exact List.dropWhile_eq_nil_iff.1 gone
  · intro blank
    rw [trimChars, List.dropWhile_eq_nil_iff.2 blank]
    rfl

end OpenBanking.Text
