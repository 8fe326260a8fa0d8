import Courier.Json.Basic
import Courier.Text.Quoted
import Courier.Text.Utf8

/-! JSON text of a value: no blanks, keys in their order, only quotes, backslashes and controls
    escaped. Diagnostics show a value in another way, with the kind of each part. -/

namespace Courier.Json

/-- One character of a JSON string. -/
def escapedChar (c : Char) : List Char :=
  if c == '"' then ['\\', '"']
  else if c == '\\' then ['\\', '\\']
  else if c == '\n' then ['\\', 'n']
  else if c == '\r' then ['\\', 'r']
  else if c == '\t' then ['\\', 't']
  else if c.toNat == 8 then ['\\', 'b']
  else if c.toNat == 12 then ['\\', 'f']
  else if c.toNat < 32 then
    ['\\', 'u', '0', '0', Nat.digitChar (c.toNat / 16), Nat.digitChar (c.toNat % 16)]
  else [c]

/-- A string with its quotation marks. -/
def stringChars (s : String) : List Char := '"' :: s.toList.flatMap escapedChar ++ ['"']

mutual

/-- The characters of a value. -/
def chars : Json → List Char
  | .null => ['n', 'u', 'l', 'l']
  | .bool true => ['t', 'r', 'u', 'e']
  | .bool false => ['f', 'a', 'l', 's', 'e']
  | .number n => n.text.toList
  | .string s => stringChars s
  | .array [] => ['[', ']']
  | .array (item :: items) => '[' :: chars item ++ itemsChars items
  | .object [] => ['\x7b', '\x7d']
  | .object ((k, v) :: ms) => '\x7b' :: stringChars k ++ ':' :: chars v ++ membersChars ms
termination_by structural j => j

/-- The items after the first, and the closing bracket. -/
def itemsChars : List Json → List Char
  | [] => [']']
  | item :: items => ',' :: chars item ++ itemsChars items
termination_by structural js => js

/-- The members after the first, and the closing brace. -/
def membersChars : List (String × Json) → List Char
  | [] => ['\x7d']
  | (k, v) :: ms => ',' :: stringChars k ++ ':' :: chars v ++ membersChars ms
termination_by structural ms => ms

end

/-- The text of a value. -/
def text (j : Json) : String := String.ofList j.chars

/-- The text of a value as bytes. -/
def toBytes (j : Json) : Bytes := Text.charsBytes j.chars

mutual

/-- A value as diagnostics show it. -/
def quoted : Json → String
  | .null => "Null"
  | .bool b => "Bool(" ++ toString b ++ ")"
  | .number n => "Number(" ++ n.text ++ ")"
  | .string s => "String(" ++ Text.quoted s ++ ")"
  | .array items => "Array [" ++ String.intercalate ", " (quotedItems items) ++ "]"
  | .object ms => "Object \x7b" ++ String.intercalate ", " (quotedMembers ms) ++ "\x7d"
termination_by structural j => j

/-- Items as diagnostics show them. -/
def quotedItems : List Json → List String
  | [] => []
  | item :: items => quoted item :: quotedItems items
termination_by structural js => js

/-- Members as diagnostics show them. -/
def quotedMembers : List (String × Json) → List String
  | [] => []
  | (k, v) :: ms => (Text.quoted k ++ ": " ++ quoted v) :: quotedMembers ms
termination_by structural ms => ms

end

end Courier.Json
