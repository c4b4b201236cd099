import DualBank.Text.Unprintable

/-! The quoted form in which the console shows a text that came from outside: between double
quotes, with everything that would not show up as itself written as an escape. -/

namespace DualBank.Text

def hexadecimal (value : Nat) : String :=
  String.ofList (Nat.toDigits 16 value)

def quotedCharacter (character : Char) : String :=
  if character = '"' then "\\\""
  else if character = '\\' then "\\\\"
  else if character = '\n' then "\\n"
  else if character = '\r' then "\\r"
  else if character = '\t' then "\\t"
  else if character = '\x00' then "\\0"
  else if isUnprintable character then "\\u\x7b" ++ hexadecimal character.toNat ++ "\x7d"
  else character.toString

def quoted (text : String) : String :=
  "\"" ++ String.join (text.toList.map quotedCharacter) ++ "\""

end DualBank.Text
