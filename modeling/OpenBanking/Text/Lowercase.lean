import OpenBanking.Text.CaseTable

/-!
# Lower case

Full lower-casing of Unicode text: one character at a time by the table of simple
mappings, U+0130 into two characters, and capital sigma by its place in the word.
-/

namespace OpenBanking.Text

/-- Whether some run holds the code point. -/
def inRuns (runs : List (Nat × Nat)) (n : Nat) : Bool :=
  runs.any fun (first, last) => first ≤ n && n ≤ last

/-- Whether the run maps the code point. -/
def CaseRun.covers (run : CaseRun) (n : Nat) : Bool :=
  run.first ≤ n && n ≤ run.last && (n - run.first) % run.step == 0

/-- The lower-case form of one character by the table, itself where the table is silent. -/
def lowerChar (c : Char) : Char :=
  if c.toNat < 0x41 then c
  else match lowerRuns.find? (·.covers c.toNat) with
    | some run => Char.ofNat (run.image + (c.toNat - run.first))
    | none => c

/-- Whether a cased letter comes first once the ignorable characters are passed over. -/
def casedAfterIgnorable (cs : List Char) : Bool :=
  match cs.dropWhile (inRuns caseIgnorableRuns ·.toNat) with
  | [] => false
  | c :: _ => inRuns casedRuns c.toNat

/-- Lower-cases the characters that follow `before`, whose last character stands first. -/
def lowerFrom (before : List Char) : List Char → List Char
  | [] => []
  | c :: after =>
    if c = 'Σ' then
      (if casedAfterIgnorable before && !casedAfterIgnorable after then 'ς' else 'σ')
        :: lowerFrom (c :: before) after
    else if c = 'İ' then 'i' :: '\u0307' :: lowerFrom (c :: before) after
    else lowerChar c :: lowerFrom (c :: before) after

/-- The text in lower case. -/
def lowercase (text : String) : String := String.ofList (lowerFrom [] text.toList)

end OpenBanking.Text
