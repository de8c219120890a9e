import Signpost.Toml.Scalar
/-!
# TOML tokens

A document is cut into marks, blanks, line ends, strings and bare words. Comments
are checked and dropped. Strings are read on the way: a token holds the text that
a string stands for.
-/

namespace Signpost.Toml

inductive Token where
  | dot
  | equals
  | comma
  | openBracket
  | closeBracket
  | openBrace
  | closeBrace
  /-- Spaces and tabs. -/
  | blank (cs : List Char)
  | newline
  /-- A string on one line, which may also be a key. -/
  | quoted (s : String)
  /-- A string between triple quotes. -/
  | block (s : String)
  /-- Any other run of characters. -/
  | bare (cs : List Char)

namespace Token

/-- Characters that strings and comments may hold as they are. -/
def isText (c : Char) : Bool := c = '\t' || (' ' ≤ c && c ≠ '\x7f')

/-- Spaces and tabs stand between tokens. -/
def isGap (c : Char) : Bool := c = ' ' || c = '\t'

/-- Characters that end a bare word. -/
def endsBare (c : Char) : Bool :=
  isGap c || c = '\n' || c = '\r' || c = '.' || c = '=' || c = ',' || c = '[' || c = ']' ||
    c = '\x7b' || c = '\x7d' || c = '#'

/-- What follows a comment: a line end or nothing. -/
def afterComment? : List Char → Option (List Char)
  | [] => some []
  | '\n' :: cs => some ('\n' :: cs)
  | '\r' :: '\n' :: cs => some ('\n' :: cs)
  | c :: cs => if isText c then afterComment? cs else none

/-! ## Strings without escapes -/

/-- The rest of a string between single quotes, and what follows it. -/
def literal? : List Char → Option (List Char × List Char)
  | [] => none
  | '\x27' :: cs => some ([], cs)
  | c :: cs => if isText c then (literal? cs).map fun r => (c :: r.1, r.2) else none

/-- Up to two quotes right after a closing triple belong to the string. -/
def closing (quote : Char) : List Char → List Char × List Char
  | a :: b :: cs =>
    if a = quote then if b = quote then ([a, b], cs) else ([a], b :: cs) else ([], a :: b :: cs)
  | [a] => if a = quote then ([a], []) else ([], [a])
  | [] => ([], [])

/-- The rest of a string between triple single quotes, and what follows it. -/
def literalBlock? : List Char → Option (List Char × List Char)
  | [] => none
  | '\x27' :: '\x27' :: '\x27' :: cs => some (closing '\x27' cs)
  | '\r' :: '\n' :: cs => (literalBlock? cs).map fun r => ('\r' :: '\n' :: r.1, r.2)
  | c :: cs =>
    if isText c || c = '\n' then (literalBlock? cs).map fun r => (c :: r.1, r.2) else none

/-! ## Strings with escapes -/

/-- The character whose code point the first `n` digits write, and what follows. -/
def codePoint? (n : Nat) (cs : List Char) : Option (Char × List Char) :=
  if (cs.take n).length = n ∧ (cs.take n).all Digit.isHex then
    (Digit.character? (cs.take n)).map fun c => (c, cs.drop n)
  else none

/-- The character that an escape stands for, after the backslash, and what follows. -/
def escape? : List Char → Option (Char × List Char)
  | [] => none
  | c :: cs =>
    match c with
    | 'b' => some ('\x08', cs)
    | 't' => some ('\t', cs)
    | 'n' => some ('\n', cs)
    | 'f' => some ('\x0c', cs)
    | 'r' => some ('\r', cs)
    | 'e' => some ('\x1b', cs)
    | '\x22' => some ('\x22', cs)
    | '\\' => some ('\\', cs)
    | 'x' => codePoint? 2 cs
    | 'u' => codePoint? 4 cs
    | 'U' => codePoint? 8 cs
    | _ => none

/-- The rest of a string between double quotes, and what follows it. Every round
takes a character, so their number bounds the rounds. -/
def basic? : Nat → List Char → Option (List Char × List Char)
  | 0, _ => none
  | _, [] => none
  | _ + 1, '\x22' :: cs => some ([], cs)
  | n + 1, '\\' :: cs =>
    match escape? cs with
    | none => none
    | some (c, cs) => (basic? n cs).map fun r => (c :: r.1, r.2)
  | n + 1, c :: cs => if isText c then (basic? n cs).map fun r => (c :: r.1, r.2) else none

/-- What follows line ends, spaces and tabs. -/
def afterLines : List Char → List Char
  | '\r' :: '\n' :: cs => afterLines cs
  | c :: cs => if isGap c || c = '\n' then afterLines cs else c :: cs
  | [] => []

/-- What follows a line end at the front of `cs`, spaces and tabs before it aside. -/
def afterLineEnd? (cs : List Char) : Option (List Char) :=
  match cs.dropWhile isGap with
  | '\n' :: cs => some cs
  | '\r' :: '\n' :: cs => some cs
  | _ => none

/-- The rest of a string between triple double quotes, and what follows it. A
backslash at the end of a line takes away all blanks up to the next text. -/
def basicBlock? : Nat → List Char → Option (List Char × List Char)
  | 0, _ => none
  | _, [] => none
  | _ + 1, '\x22' :: '\x22' :: '\x22' :: cs => some (closing '\x22' cs)
  | n + 1, '\\' :: cs =>
    match afterLineEnd? cs with
    | some cs => basicBlock? n (afterLines cs)
    | none =>
      match escape? cs with
      | none => none
      | some (c, cs) => (basicBlock? n cs).map fun r => (c :: r.1, r.2)
  | n + 1, '\r' :: '\n' :: cs => (basicBlock? n cs).map fun r => ('\r' :: '\n' :: r.1, r.2)
  | n + 1, c :: cs =>
    if isText c || c = '\n' then (basicBlock? n cs).map fun r => (c :: r.1, r.2) else none

/-- A line end right after opening triple quotes is no part of the string. -/
def afterOpening : List Char → List Char
  | '\n' :: cs => cs
  | '\r' :: '\n' :: cs => cs
  | cs => cs

/-! ## Tokens -/

/-- The token at the front of a text, and what follows it. A comment is no token,
so it counts as a blank. -/
def next? : List Char → Option (Token × List Char)
  | [] => none
  | '\n' :: cs => some (.newline, cs)
  | '\r' :: '\n' :: cs => some (.newline, cs)
  | '\x22' :: '\x22' :: '\x22' :: cs =>
    (basicBlock? (cs.length + 1) (afterOpening cs)).map fun r => (.block (String.ofList r.1), r.2)
  | '\x22' :: cs => (basic? (cs.length + 1) cs).map fun r => (.quoted (String.ofList r.1), r.2)
  | '\x27' :: '\x27' :: '\x27' :: cs =>
    (literalBlock? (afterOpening cs)).map fun r => (.block (String.ofList r.1), r.2)
  | '\x27' :: cs => (literal? cs).map fun r => (.quoted (String.ofList r.1), r.2)
  | c :: cs =>
    match c with
    | '.' => some (.dot, cs)
    | '=' => some (.equals, cs)
    | ',' => some (.comma, cs)
    | '[' => some (.openBracket, cs)
    | ']' => some (.closeBracket, cs)
    | '\x7b' => some (.openBrace, cs)
    | '\x7d' => some (.closeBrace, cs)
    | '#' => (afterComment? cs).map fun rest => (.blank [], rest)
    | c =>
      if isGap c then some (.blank ((c :: cs).takeWhile isGap), (c :: cs).dropWhile isGap)
      else if endsBare c then none
      else
        some (.bare ((c :: cs).takeWhile fun d => !endsBare d),
          (c :: cs).dropWhile fun d => !endsBare d)

/-- The tokens of a text. Each takes a character at least, so there are at most as
many as the fuel allows when it is the length of the text. -/
def all? : Nat → List Char → Option (List Token)
  | _, [] => some []
  | 0, _ => none
  | n + 1, cs =>
    match next? cs with
    | none => none
    | some (t, rest) => (all? n rest).map (t :: ·)

/-- The tokens of a document, which may start with a byte order mark. -/
def ofDocument? (document : String) : Option (List Token) :=
  match document.toList with
  | '\ufeff' :: cs => all? cs.length cs
  | cs => all? cs.length cs

end Token

end Signpost.Toml
