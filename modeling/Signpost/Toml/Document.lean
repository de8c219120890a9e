import Signpost.Toml.Node
import Signpost.Toml.Token
/-!
# TOML documents

A document is a list of statements, one a line: a key with its value, or the
header of a table. `Toml.parse?` gives the table that they build together.
-/

namespace Signpost.Toml

inductive Statement where
  | assign (path : List String) (v : Value)
  | openTable (path : List String)
  | openElement (path : List String)

/-- Arrays and tables may be this deep inside one another, and a key may have this
many parts. -/
def levelLimit : Nat := 80

/-! ## Keys -/

def isKeyChar (c : Char) : Bool := c.isAlphanum || c = '_' || c = '-'

/-- Whether a bare word is a key: letters, digits, underscores and hyphens. -/
def isBareKey (cs : List Char) : Bool := cs.all isKeyChar

/-- The parts of a key at the front of the tokens, and what follows. `inside` says
whether the next token must be a part, or may be a dot. -/
def keyParts? : (inside : Bool) → List Token → Option (List String × List Token)
  | inside, .blank _ :: ts => keyParts? inside ts
  | true, .bare cs :: ts =>
    if isBareKey cs then (keyParts? false ts).map fun r => (String.ofList cs :: r.1, r.2) else none
  | true, .quoted s :: ts => (keyParts? false ts).map fun r => (s :: r.1, r.2)
  | false, .dot :: ts => keyParts? true ts
  | true, _ => none
  | false, ts => some ([], ts)

/-- A key at the front of the tokens. -/
def key? (ts : List Token) : Option (List String × List Token) :=
  (keyParts? true ts).filter fun r => r.1.length ≤ levelLimit

/-! ## Values -/

def dropBlanks : List Token → List Token
  | .blank _ :: ts => dropBlanks ts
  | ts => ts

def dropLines : List Token → List Token
  | .blank _ :: ts => dropLines ts
  | .newline :: ts => dropLines ts
  | ts => ts

/-- The text of a value without quotes, and what follows it. Blanks belong to it
where more of a bare word follows, as between a date and a time. -/
def bareText : List Token → List Char × List Token
  | .bare cs :: ts => let r := bareText ts; (cs ++ r.1, r.2)
  | .dot :: ts => let r := bareText ts; ('.' :: r.1, r.2)
  | .blank gap :: .bare cs :: ts => let r := bareText ts; (gap ++ cs ++ r.1, r.2)
  | ts => ([], ts)

/-- A value without quotes. -/
def bareValue? (ts : List Token) : Option (Value × List Token) :=
  let r := bareText ts
  (scalar? r.1).map fun v => (v, r.2)

mutual

/-- A value at the front of the tokens, with `levels` arrays or tables still
allowed inside one another. Each call passes a token or hands over to another kind
of call, so twice the number of tokens is fuel enough. -/
def value? : (fuel levels : Nat) → List Token → Option (Value × List Token)
  | 0, _, _ => none
  | _, _, [] => none
  | _ + 1, _, .quoted s :: ts => some (.string s, ts)
  | _ + 1, _, .block s :: ts => some (.string s, ts)
  | fuel + 1, levels, .openBracket :: ts =>
    match levels with
    | 0 => none
    | levels + 1 => (elements? fuel levels ts).map fun r => (.array r.1, r.2)
  | fuel + 1, levels, .openBrace :: ts =>
    match levels with
    | 0 => none
    | levels + 1 => do
      let (fields, rest) ← fields? fuel levels ts
      let entries ← Node.ofAssignments fields []
      some (.table (Node.toEntries entries), rest)
  | _ + 1, _, ts => bareValue? ts

/-- The elements of an array up to its end. -/
def elements? : (fuel levels : Nat) → List Token → Option (List Value × List Token)
  | 0, _, _ => none
  | fuel + 1, levels, ts =>
    match dropLines ts with
    | .closeBracket :: ts => some ([], ts)
    | ts => do
      let (v, rest) ← value? fuel levels ts
      match dropLines rest with
      | .closeBracket :: ts => some ([v], ts)
      | .comma :: ts => (elements? fuel levels ts).map fun r => (v :: r.1, r.2)
      | _ => none

/-- The fields of a table written on the spot, up to its end. Lines may end around
each mark, but not inside a key. -/
def fields? :
    (fuel levels : Nat) → List Token → Option (List (List String × Value) × List Token)
  | 0, _, _ => none
  | fuel + 1, levels, ts =>
    match dropLines ts with
    | .closeBrace :: ts => some ([], ts)
    | ts => do
      let (path, rest) ← key? ts
      let .equals :: rest := dropLines rest | none
      let (v, rest) ← value? fuel levels (dropLines rest)
      match dropLines rest with
      | .closeBrace :: ts => some ([(path, v)], ts)
      | .comma :: ts => (fields? fuel levels ts).map fun r => ((path, v) :: r.1, r.2)
      | _ => none

end

/-! ## Statements -/

/-- A statement at the front of the tokens, and what follows it. -/
def statement? : List Token → Option (Statement × List Token)
  | .openBracket :: .openBracket :: ts => do
    let (path, rest) ← key? ts
    let .closeBracket :: .closeBracket :: rest := rest | none
    some (.openElement path, rest)
  | .openBracket :: ts => do
    let (path, rest) ← key? ts
    let .closeBracket :: rest := rest | none
    some (.openTable path, rest)
  | ts => do
    let (path, rest) ← key? ts
    let .equals :: rest := rest | none
    let (v, rest) ← value? (2 * rest.length) levelLimit (dropBlanks rest)
    some (.assign path v, rest)

/-- The statements of a document. Each takes a token at least. -/
def statements? : (fuel : Nat) → List Token → Option (List Statement)
  | 0, ts => if (dropLines ts).isEmpty then some [] else none
  | fuel + 1, ts =>
    match dropLines ts with
    | [] => some []
    | ts => do
      let (s, rest) ← statement? ts
      match dropBlanks rest with
      | [] => some [s]
      | .newline :: rest => (statements? fuel rest).map (s :: ·)
      | _ => none

/-- Carries out statements on the tables built so far, where `header` is the path
of the header that is in force. -/
def build? : (header : List String) → List Statement → Node.Entries → Option Node.Entries
  | _, [], es => some es
  | header, .assign path v :: rest, es =>
    (Node.descend (Node.assign v true path) header es).bind (build? header rest)
  | _, .openTable path :: rest, es =>
    (Node.descend (Node.openTable (path.getLastD "")) path.dropLast es).bind (build? path rest)
  | _, .openElement path :: rest, es =>
    (Node.descend (Node.openElement (path.getLastD "")) path.dropLast es).bind (build? path rest)

/-- The table of a document. -/
def parse? (document : String) : Option Table := do
  let tokens ← Token.ofDocument? document
  let statements ← statements? tokens.length tokens
  let entries ← build? [] statements []
  some (Node.toEntries entries)

end Signpost.Toml
