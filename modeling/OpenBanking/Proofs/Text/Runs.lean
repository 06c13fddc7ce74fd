import Mathlib.Data.List.Infix
import OpenBanking.Text.Description

/-!
# Runs of characters

A text that is cut at characters without a property has no longer run of characters with it than its
pieces have. So characters that all have the property cannot stand anywhere in the text, if they are
more than any piece holds.
-/

namespace OpenBanking.Text

/-- No more than `most` characters with a property stand next to each other. -/
def RunsWithin (p : Char → Prop) (most : Nat) (cs : List Char) : Prop :=
  ∀ run, run <:+: cs → (∀ c ∈ run, p c) → run.length ≤ most

variable {p : Char → Prop} {most : Nat}

/-- Few characters have no long run. -/
theorem runsWithin_of_length_le {cs : List Char} (few : cs.length ≤ most) : RunsWithin p most cs :=
  fun _ inside _ => Nat.le_trans inside.length_le few

/-- No run goes past a character without the property. -/
theorem RunsWithin.append_cons {front back : List Char} {c : Char} (apart : ¬p c)
    (before : RunsWithin p most front) (after : RunsWithin p most back) :
    RunsWithin p most (front ++ c :: back) := by
  intro run inside own
  -- A run that begins at `c` or takes it in would have it as a member.
  have stops {later : List Char} (held : ∀ d ∈ later, p d) (here : later <+: c :: back) :
      later = [] := by
    rcases List.prefix_cons_iff.1 here with none | ⟨tail, rfl, _⟩
    · exact none
    · exact absurd (held c List.mem_cons_self) apart
  rcases List.infix_append_iff.1 inside with inFront | inBack | ⟨early, late, rfl, ends, begins⟩
  · exact before run inFront own
  · rcases List.infix_cons_iff.1 inBack with here | later
    · rw [stops own here]
      exact Nat.zero_le _
    · exact after run later own
  · have none := stops (fun d held => own d (List.mem_append_right _ held)) begins
    rw [none, List.append_nil] at own ⊢
    exact before early ends.isInfix own

/-- Too long a run is nowhere. -/
theorem RunsWithin.absent_of_long {cs run : List Char} (within : RunsWithin p most cs)
    (own : ∀ c ∈ run, p c) (long : most < run.length) : ¬run <:+: cs :=
  fun inside => absurd (within run inside own) (Nat.not_le_of_lt long)

/-- Characters that need no escape are quoted as they are. -/
theorem toList_quoted {text : String} (plain : ∀ c ∈ text.toList, quotedChar c = [c]) :
    (quoted text).toList = '"' :: (text.toList ++ ['"']) := by
  have same : text.toList.flatMap quotedChar = text.toList := by
    rw [List.flatMap_congr plain, List.flatMap_singleton']
  rw [quoted, String.toList_ofList, same]
  rfl

/-- A quoted text between others has no longer run of characters with a property than the pieces, if
quotes do not have it. -/
theorem RunsWithin.append_quoted {front back : List Char} {text : String} (apart : ¬p '"')
    (plain : ∀ c ∈ text.toList, quotedChar c = [c]) (before : RunsWithin p most front)
    (inside : text.toList.length ≤ most) (after : RunsWithin p most back) :
    RunsWithin p most (front ++ (quoted text).toList ++ back) := by
  rw [toList_quoted plain, List.append_assoc, List.cons_append, List.append_assoc,
    List.singleton_append]
  exact before.append_cons apart ((runsWithin_of_length_le inside).append_cons apart after)

end OpenBanking.Text
