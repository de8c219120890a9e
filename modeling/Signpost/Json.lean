/-!
# JSON text

The values that the program reports are texts, integers and objects. An object
is written with its fields in the order given, repeated names included.
-/

namespace Signpost

inductive Json where
  | text (s : String)
  | int (n : Int)
  | object (fields : List (String × Json))

namespace Json

/-- A digit in base sixteen, small letters. -/
def hexDigit (n : Nat) : Char := Nat.digitChar n

/-- One character inside a JSON string: the two delimiters and the controls are
escaped, all else stands as it is. -/
def escapedChar (c : Char) : List Char :=
  match c with
  | '\x22' => ['\\', '\x22']
  | '\\' => ['\\', '\\']
  | '\x08' => ['\\', 'b']
  | '\x0c' => ['\\', 'f']
  | '\n' => ['\\', 'n']
  | '\r' => ['\\', 'r']
  | '\t' => ['\\', 't']
  | c =>
    if c.toNat < 32 then
      ['\\', 'u', '0', '0', hexDigit (c.toNat / 16), hexDigit (c.toNat % 16)]
    else [c]

def escaped (s : String) : String :=
  "\"" ++ String.ofList (s.toList.flatMap escapedChar) ++ "\""

mutual

/-- The text on one line, without blanks. -/
def compact : Json → String
  | text s => escaped s
  | int n => toString n
  | object fields => "\x7b" ++ ",".intercalate (compactFields fields) ++ "\x7d"

def compactFields : List (String × Json) → List String
  | [] => []
  | (name, v) :: fields => (escaped name ++ ":" ++ compact v) :: compactFields fields

end

/-- A line break and the indentation of `depth` levels, two blanks each. -/
def lineBreak (depth : Nat) : String := String.ofList ('\n' :: List.replicate (2 * depth) ' ')

mutual

/-- The text with one field a line, `depth` levels in. An object without fields
stays on its line. -/
def indented (depth : Nat) : Json → String
  | text s => escaped s
  | int n => toString n
  | object [] => "\x7b\x7d"
  | object (f :: fields) =>
    "\x7b" ++ ",".intercalate (indentedFields (depth + 1) (f :: fields)) ++ lineBreak depth ++ "\x7d"

def indentedFields (depth : Nat) : List (String × Json) → List String
  | [] => []
  | (name, v) :: fields =>
    (lineBreak depth ++ escaped name ++ ": " ++ indented depth v) :: indentedFields depth fields

end

def pretty (v : Json) : String := indented 0 v

end Json

end Signpost
