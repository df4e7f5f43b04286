import CaskAudit.Json.Basic

/-!
# Writing JSON

Two layouts of a JSON value: on one line without blanks, and indented by two blanks a level. Only
quotes, backslashes and control characters are escaped.
-/

namespace CaskAudit.Json

/-- The hexadecimal digit of a number below sixteen, in lower case. -/
def hexDigit (n : Nat) : Char :=
  if n < 10 then Char.ofNat ('0'.toNat + n) else Char.ofNat ('a'.toNat + (n - 10))

/-- The text that stands for a character inside a string literal. -/
def escape (c : Char) : List Char :=
  if c = '"' then ['\\', '"']
  else if c = '\\' then ['\\', '\\']
  else if c = '\x08' then ['\\', 'b']
  else if c = '\x0c' then ['\\', 'f']
  else if c = '\n' then ['\\', 'n']
  else if c = '\r' then ['\\', 'r']
  else if c = '\t' then ['\\', 't']
  else if c.toNat < 0x20 then
    ['\\', 'u', '0', '0', hexDigit (c.toNat / 16), hexDigit (c.toNat % 16)]
  else [c]

/-- A string literal. -/
def quoted (s : String) : String :=
  "\"" ++ String.ofList (s.toList.flatMap escape) ++ "\""

mutual

/-- A value on one line. -/
def compact : Json → String
  | .null => "null"
  | .bool true => "true"
  | .bool false => "false"
  | .int n => toString n
  | .decimal text => text
  | .string s => quoted s
  | .brokenString => "null"
  | .array items => "[" ++ ",".intercalate (compactItems items) ++ "]"
  | .object members => "\x7b" ++ ",".intercalate (compactMembers members) ++ "\x7d"

/-- The items of an array, each on one line. -/
def compactItems : List Json → List String
  | [] => []
  | item :: items => compact item :: compactItems items

/-- The members of an object, each on one line. -/
def compactMembers : List (String × Json) → List String
  | [] => []
  | (name, value) :: members => (quoted name ++ ":" ++ compact value) :: compactMembers members

end

/-- A line break followed by the blanks of a level of indentation. -/
def newline (depth : Nat) : String := "\n" ++ String.ofList (List.replicate (2 * depth) ' ')

mutual

/-- A value at a level of indentation, its parts on lines of their own. -/
def indented (depth : Nat) : Json → String
  | .array [] => "[]"
  | .array (item :: items) =>
    "[" ++ newline (depth + 1) ++
      ("," ++ newline (depth + 1)).intercalate (indentedItems (depth + 1) (item :: items)) ++
      newline depth ++ "]"
  | .object [] => "\x7b\x7d"
  | .object (m :: members) =>
    "\x7b" ++ newline (depth + 1) ++
      ("," ++ newline (depth + 1)).intercalate (indentedMembers (depth + 1) (m :: members)) ++
      newline depth ++ "\x7d"
  | j => compact j

/-- The items of an array at a level of indentation. -/
def indentedItems (depth : Nat) : List Json → List String
  | [] => []
  | item :: items => indented depth item :: indentedItems depth items

/-- The members of an object at a level of indentation. -/
def indentedMembers (depth : Nat) : List (String × Json) → List String
  | [] => []
  | (name, value) :: members =>
    (quoted name ++ ": " ++ indented depth value) :: indentedMembers depth members

end

/-- A value laid out over several lines. -/
def pretty (j : Json) : String := indented 0 j

end CaskAudit.Json
