/-!
# Files

What a path leads to in a tree of files, and why a file cannot be read as text. A
path is walked name by name from the root or from the working folder. All that is
not the last name has to be a folder, and so has the last one before a slash.
-/

namespace Signpost.Command

/-- Why a file cannot be read as text. -/
inductive ReadError where
  /-- The system refuses, with a number for the reason. -/
  | system (description : String) (code : Nat)
  /-- No file can have the name. -/
  | nulInName
  | notText
deriving DecidableEq

namespace ReadError

def notFound : ReadError := system "No such file or directory" 2

def notAFolder : ReadError := system "Not a directory" 20

def isAFolder : ReadError := system "Is a directory" 21

def nameTooLong : ReadError := system "File name too long" 36

def message : ReadError → String
  | system description code => description ++ " (os error " ++ toString code ++ ")"
  | nulInName => "file name contained an unexpected NUL byte"
  | notText => "stream did not contain valid UTF-8"

end ReadError

inductive Entry where
  | file (content : ByteArray)
  | folder (entries : List (String × Entry))

namespace Entry

/-- A name has this many bytes at most. -/
def nameLimit : Nat := 255

/-- A path has fewer bytes than this. -/
def pathLimit : Nat := 4096

/-- What names lead to from an entry, where `above` are the folders around it, the
innermost first. An empty name or a dot leads nowhere else, but only from a folder. -/
def walk : (above : List Entry) → Entry → List String → Except ReadError Entry
  | _, e, [] => .ok e
  | _, .file _, _ :: _ => .error .notAFolder
  | above, .folder entries, name :: names =>
    if name = "" || name = "." then walk above (.folder entries) names
    else if name = ".." then
      match above with
      | [] => walk [] (.folder entries) names
      | outer :: above => walk above outer names
    else if nameLimit < name.utf8ByteSize then .error .nameTooLong
    else
      match entries.lookup name with
      | some e => walk (.folder entries :: above) e names
      | none => .error .notFound

/-- The content of the file at a path, in a tree with a root and a working folder
that is found at a path of its own. -/
def read (root : Entry) (workingFolder path : String) : Except ReadError ByteArray :=
  if path = "" then .error .notFound
  else if pathLimit ≤ path.utf8ByteSize then .error .nameTooLong
  else
    let names := path.splitOn "/"
    let fromRoot := if path.startsWith "/" then names else workingFolder.splitOn "/" ++ names
    match walk [] root fromRoot with
    | .error e => .error e
    | .ok (.folder _) => .error .isAFolder
    | .ok (.file content) => .ok content

end Entry

end Signpost.Command
