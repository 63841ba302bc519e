import Candidacy.Binary64.Shortest
import Candidacy.Json.Value

/-!
JSON text of a value: compact, and indented for a reader.
-/

namespace Candidacy.Json

/-! Strings: quotes, backslashes and controls are escaped, all else stands for itself. -/

/-- The two hexadecimal digits of a control character. -/
def controlDigits (c : Char) : List Char :=
  [Nat.digitChar (c.toNat / 16), Nat.digitChar (c.toNat % 16)]

def escapeChar (c : Char) : List Char :=
  if c = '"' then ['\\', '"']
  else if c = '\\' then ['\\', '\\']
  else if c = '\x08' then ['\\', 'b']
  else if c = '\x0c' then ['\\', 'f']
  else if c = '\n' then ['\\', 'n']
  else if c = '\r' then ['\\', 'r']
  else if c = '\t' then ['\\', 't']
  else if c.toNat < 0x20 then ['\\', 'u', '0', '0'] ++ controlDigits c
  else [c]

def stringText (s : String) : List Char :=
  '"' :: s.toList.flatMap escapeChar ++ ['"']

def Number.text : Number → List Char
  | .int (.ofNat n) => Nat.toDigits 10 n
  | .int (.negSucc n) => '-' :: Nat.toDigits 10 (n + 1)
  | .double x => x.text

/-! Compact text. -/

mutual
def Value.text : Value → List Char
  | .null => ['n', 'u', 'l', 'l']
  | .bool true => ['t', 'r', 'u', 'e']
  | .bool false => ['f', 'a', 'l', 's', 'e']
  | .number n => n.text
  | .string s => stringText s
  | .array items => '[' :: itemsText items ++ [']']
  | .object members => '\x7b' :: membersText members ++ ['\x7d']

def itemsText : List Value → List Char
  | [] => []
  | [v] => v.text
  | v :: rest => v.text ++ ',' :: itemsText rest

def membersText : List (String × Value) → List Char
  | [] => []
  | [(k, v)] => stringText k ++ ':' :: v.text
  | (k, v) :: rest => stringText k ++ ':' :: (v.text ++ ',' :: membersText rest)
end

/-- The compact JSON text of a value. -/
def Value.compact (v : Value) : String :=
  String.ofList v.text

/-! Indented text: each item and member on a line of its own, two blanks deeper. -/

def newLine (depth : Nat) : List Char :=
  '\n' :: List.replicate (2 * depth) ' '

mutual
def Value.indentedText (depth : Nat) : Value → List Char
  | .array [] => ['[', ']']
  | .array (v :: rest) =>
      '[' :: newLine (depth + 1) ++ v.indentedText (depth + 1) ++
        indentedItems (depth + 1) rest ++ newLine depth ++ [']']
  | .object [] => ['\x7b', '\x7d']
  | .object ((k, v) :: rest) =>
      '\x7b' :: newLine (depth + 1) ++ stringText k ++ [':', ' '] ++
        v.indentedText (depth + 1) ++ indentedMembers (depth + 1) rest ++
        newLine depth ++ ['\x7d']
  | .null => Value.null.text
  | .bool b => (Value.bool b).text
  | .number n => n.text
  | .string s => stringText s

def indentedItems (depth : Nat) : List Value → List Char
  | [] => []
  | v :: rest => ',' :: newLine depth ++ v.indentedText depth ++ indentedItems depth rest

def indentedMembers (depth : Nat) : List (String × Value) → List Char
  | [] => []
  | (k, v) :: rest =>
      ',' :: newLine depth ++ stringText k ++ [':', ' '] ++ v.indentedText depth ++
        indentedMembers depth rest
end

/-- The JSON text of a value, indented. -/
def Value.indented (v : Value) : String :=
  String.ofList (v.indentedText 0)

end Candidacy.Json
