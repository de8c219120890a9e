/-!
# Words of a command line
-/

namespace Signpost.Command

/-- What the shape of a word says about it. -/
inductive Word where
  /-- `--`: all that follows is plain. -/
  | escape
  /-- `--name` or `--name=value`. -/
  | long (name : String) (value : Option String)
  /-- `-abc`: one or more letters. -/
  | short (letters : List Char)
  | plain (text : String)

/-- Cuts a text at the first equals sign. -/
def cutAtEquals (cs : List Char) : String × Option String :=
  match cs.dropWhile (· ≠ '=') with
  | [] => (String.ofList cs, none)
  | _ :: value => (String.ofList (cs.takeWhile (· ≠ '=')), some (String.ofList value))

def Word.ofString (text : String) : Word :=
  match text.toList with
  | ['-', '-'] => .escape
  | '-' :: '-' :: cs => .long (cutAtEquals cs).1 (cutAtEquals cs).2
  | '-' :: c :: cs => .short (c :: cs)
  | _ => .plain text

end Signpost.Command
