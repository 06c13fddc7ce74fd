import OpenBanking.Text.PrintTable
import OpenBanking.Text.Lowercase

/-!
# Quoted texts

The form in which a text is shown inside a message or a description: between double
quotes, with controls, quotes, backslashes and characters without a glyph escaped.
-/

namespace OpenBanking.Text

/-- A code point in braces, as lower-case hexadecimal digits. -/
def bracedCodePoint (c : Char) : List Char :=
  '\\' :: 'u' :: '\x7b' :: Nat.toDigits 16 c.toNat ++ ['\x7d']

/-- One character of a quoted text. -/
def quotedChar (c : Char) : List Char :=
  if c = '\x00' then ['\\', '0']
  else if c = '\t' then ['\\', 't']
  else if c = '\r' then ['\\', 'r']
  else if c = '\n' then ['\\', 'n']
  else if c = '\\' then ['\\', '\\']
  else if c = '"' then ['\\', '"']
  else if 0x20 ≤ c.toNat && c.toNat ≤ 0x7E then [c]
  else if inRuns extendingRuns c.toNat || inRuns glyphlessRuns c.toNat then bracedCodePoint c
  else [c]

/-- The text between double quotes. -/
def quoted (text : String) : String :=
  String.ofList ('"' :: text.toList.flatMap quotedChar ++ ['"'])

end OpenBanking.Text
