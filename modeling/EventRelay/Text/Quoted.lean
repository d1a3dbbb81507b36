import EventRelay.Text.CharClass

namespace EventRelay.Text

/-- A code point in braces, for a character that would not show. -/
def codePoint (c : Char) : List Char :=
  "\\u\x7b".toList ++ Nat.toDigits 16 c.toNat ++ ['\x7d']

/-- Marks that shape the text are written with a backslash, and what would not show by its code point. -/
def escape (c : Char) : List Char :=
  if c = '\x00' then ['\\', '0']
  else if c = '\t' then ['\\', 't']
  else if c = '\r' then ['\\', 'r']
  else if c = '\n' then ['\\', 'n']
  else if c = '\"' ∨ c = '\\' then ['\\', c]
  else if 0x20 ≤ c.toNat ∧ c.toNat < 0x7f then [c]
  else if extendsCharacter c || !isPrintable c then codePoint c
  else [c]

def quote (s : String) : String :=
  String.ofList ('\"' :: s.toList.flatMap escape ++ ['\"'])

/-- The text of an optional value. -/
def optional : Option String → String
  | none => "None"
  | some s => "Some(" ++ s ++ ")"

/-- The text of a record: its name, then its fields in braces. -/
def record (name : String) (fields : List (String × String)) : String :=
  name ++ " \x7b " ++ ", ".intercalate (fields.map (fun f => f.1 ++ ": " ++ f.2)) ++ " \x7d"

end EventRelay.Text
