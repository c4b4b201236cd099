import DualBank.Json.Basic

/-! The compact written form of a JSON value: nothing between its parts, and only those characters
escaped that a string cannot hold. -/

namespace DualBank.Json

def escapedCharacter (character : Char) : List Char :=
  if character = '"' then ['\\', '"']
  else if character = '\\' then ['\\', '\\']
  else if character = '\x08' then ['\\', 'b']
  else if character = '\t' then ['\\', 't']
  else if character = '\n' then ['\\', 'n']
  else if character = '\x0c' then ['\\', 'f']
  else if character = '\r' then ['\\', 'r']
  else if character.toNat < 32 then
    ['\\', 'u', '0', '0', Nat.digitChar (character.toNat / 16),
      Nat.digitChar (character.toNat % 16)]
  else [character]

def quotedText (text : String) : List Char :=
  '"' :: text.toList.flatMap escapedCharacter ++ ['"']

mutual

def Value.characters : Value → List Char
  | .null => "null".toList
  | .boolean true => "true".toList
  | .boolean false => "false".toList
  | .integer value => (toString value).toList
  | .real literal => literal.map Char.ofUInt8
  | .string text => quotedText (text.getD "")
  | .array items => '[' :: itemCharacters items ++ [']']
  | .object members => '{' :: memberCharacters members ++ ['}']

def itemCharacters : List Value → List Char
  | [] => []
  | [item] => item.characters
  | item :: rest => item.characters ++ ',' :: itemCharacters rest

def memberCharacters : List (Option String × Value) → List Char
  | [] => []
  | [(name, value)] => quotedText (name.getD "") ++ ':' :: value.characters
  | (name, value) :: rest =>
      quotedText (name.getD "") ++ ':' :: value.characters ++ ',' :: memberCharacters rest

end

def Value.print (value : Value) : String :=
  String.ofList value.characters

def Value.encode (value : Value) : Bytes :=
  Bytes.ofText value.print

end DualBank.Json
