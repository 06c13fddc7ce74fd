import OpenBanking.Text.Numeral
import OpenBanking.Text.Quoted

/-!
# Descriptions

How a value is shown to a programmer: a title and some of its fields. Fields that are not
shown are hinted at by two dots, so a description tells nothing of them.
-/

namespace OpenBanking.Text

/-- A description that shows some fields and hints at others. -/
def described (title : String) (fields : List (String × String)) : String :=
  title ++ " \x7b " ++ String.join (fields.map fun (name, value) => name ++ ": " ++ value ++ ", ")
    ++ ".. \x7d"

/-- The description of a value that may be missing. -/
def describedOption : Option String → String
  | none => "None"
  | some value => "Some(" ++ value ++ ")"

end OpenBanking.Text
