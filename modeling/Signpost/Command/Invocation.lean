import Signpost.Command.Word
/-!
# Invocations

A command line is a command with its options, and the switch `-v` before or after
the command. An option that has met its value is not stored at once: it stays
pending until the next word that is understood, so a word that is not understood is
reported first.
-/

namespace Signpost.Command

/-- Why a command line is not carried out. -/
inductive UsageFault where
  | missingArgument
  | unknownArgument
  | unknownCommand
  | badValue
  /-- An option or switch is given twice. -/
  | repeated
  /-- A switch is given a value. -/
  | unexpectedValue
  | missingCommand
  | helpAsked
  /-- Nothing is asked for, so help is shown. -/
  | helpInstead
deriving DecidableEq

inductive Verb where
  | check
  | routes
  | resolve
deriving DecidableEq

def Verb.ofString? (s : String) : Option Verb :=
  if s = "check" then some .check
  else if s = "routes" then some .routes
  else if s = "match" then some .resolve
  else none

def helpWord : String := "help"

/-- Whether a word is the name of a command. -/
def isCommandName (s : String) : Bool := s = helpWord || (Verb.ofString? s).isSome

/-- Options that take a value. -/
inductive Slot where
  /-- The manifest file. -/
  | routes
  /-- The method of the request. -/
  | method
deriving DecidableEq

/-- The method of a request that names none. -/
def standardMethod : String := "GET"

/-- The variable that names the manifest file when no option does. -/
def routesVariable : String := "CTRLROUTE_ROUTES"

namespace Verb

/-- Only `match` is about a request, so only it has a method and a path. -/
def slots : Verb → List Slot
  | check => [.routes]
  | routes => [.routes]
  | resolve => [.routes, .method]

def takesPath : Verb → Bool
  | resolve => true
  | _ => false

end Verb

def Slot.ofLong? (name : String) : Option Slot :=
  if name = "routes" then some .routes else if name = "method" then some .method else none

def Slot.ofShort? (letter : Char) : Option Slot :=
  if letter = 'r' then some .routes else if letter = 'm' then some .method else none

/-- Switches take no value. -/
inductive Switch where
  | verbose
  | help

def Switch.ofLong? (name : String) : Option Switch :=
  if name = "verbose" then some .verbose else if name = "help" then some .help else none

def Switch.ofShort? (letter : Char) : Option Switch :=
  if letter = 'v' then some .verbose else if letter = 'h' then some .help else none

/-- The words of a command that have been understood so far. -/
structure Progress where
  verbose : Bool
  routes : Option String
  method : Option String
  path : Option String
  /-- An option that is still to be stored, and its value if that has been met. -/
  pending : Option (Slot × Option String)
  /-- Whether `--` has been met. -/
  escaped : Bool

namespace Progress

def start : Progress := ⟨false, none, none, none, none, false⟩

/-- Stores the value of an option. A file has a name; a method may be empty here and
is looked at later. -/
def store (p : Progress) : Slot → String → Except UsageFault Progress
  | .routes, value =>
    if p.routes.isSome then .error .repeated
    else if value = "" then .error .badValue
    else .ok { p with routes := some value }
  | .method, value =>
    if p.method.isSome then .error .repeated else .ok { p with method := some value }

/-- Stores the pending option. -/
def settle (p : Progress) : Except UsageFault Progress :=
  match p.pending with
  | none => .ok p
  | some (_, none) => .error .badValue
  | some (slot, some value) => store { p with pending := none } slot value

def flip (p : Progress) (switch : Switch) : Except UsageFault Progress :=
  match p.settle with
  | .error e => .error e
  | .ok p =>
    match switch with
    | .help => .error .helpAsked
    | .verbose => if p.verbose then .error .repeated else .ok { p with verbose := true }

/-- Meets an option whose value is attached, or still to come. -/
def meet (p : Progress) (slot : Slot) (value : Option String) : Except UsageFault Progress :=
  match p.settle with
  | .error e => .error e
  | .ok p =>
    match value with
    | some value => p.store slot value
    | none => .ok { p with pending := some (slot, none) }

/-- Meets a word that stands for itself. -/
def meetPlain (p : Progress) (verb : Verb) (text : String) : Except UsageFault Progress :=
  if verb.takesPath && p.path.isNone then
    match p.settle with
    | .error e => .error e
    | .ok p => .ok { p with path := some text }
  else .error .unknownArgument

def meetLong (p : Progress) (verb : Verb) (name : String) (value : Option String) :
    Except UsageFault Progress :=
  match Switch.ofLong? name with
  | some switch => if value.isSome then .error .unexpectedValue else p.flip switch
  | none =>
    match (Slot.ofLong? name).filter verb.slots.contains with
    | some slot => p.meet slot value
    | none => .error .unknownArgument

/-- The value attached to a letter by what follows it. -/
def attached? : List Char → Option String
  | [] => none
  | '=' :: cs => some (String.ofList cs)
  | cs => some (String.ofList cs)

def meetShort (verb : Verb) : Progress → List Char → Except UsageFault Progress
  | p, [] => .ok p
  | p, letter :: letters =>
    match Switch.ofShort? letter with
    | some switch =>
      match p.flip switch with
      | .error e => .error e
      | .ok p => meetShort verb p letters
    | none =>
      match (Slot.ofShort? letter).filter verb.slots.contains with
      | some slot => p.meet slot (attached? letters)
      | none => .error .unknownArgument

/-- Meets the next word of a command. -/
def step (verb : Verb) (p : Progress) (text : String) : Except UsageFault Progress :=
  if p.escaped then p.meetPlain verb text
  else
    match Word.ofString text with
    | .escape => .ok { p with escaped := true }
    | .long name value => p.meetLong verb name value
    | .short letters => meetShort verb p letters
    | .plain text =>
      match p.pending with
      | some (slot, none) => .ok { p with pending := some (slot, some text) }
      | _ => p.meetPlain verb text

def steps (verb : Verb) : Progress → List String → Except UsageFault Progress
  | p, [] => p.settle
  | p, text :: texts =>
    match p.step verb text with
    | .error e => .error e
    | .ok p => steps verb p texts

end Progress

/-- A request on the command line. -/
structure Request where
  method : String
  path : String

/-- A command that can be carried out on a manifest file. -/
inductive Task where
  | check
  | routes
  | resolve (request : Request)

structure Invocation where
  verbose : Bool
  /-- The manifest file. -/
  file : String
  task : Task

/-- The manifest file of a command, from its option or else from the variable. -/
def fileOf (routesValue : Option String) (p : Progress) : Except UsageFault (Option String) :=
  match p.routes, routesValue with
  | some file, _ => .ok (some file)
  | none, some file => if file = "" then .error .badValue else .ok (some file)
  | none, none => .ok none

def taskOf (verb : Verb) (p : Progress) : Option Task :=
  match verb with
  | .check => some .check
  | .routes => some .routes
  | .resolve => p.path.map fun path => .resolve ⟨p.method.getD standardMethod, path⟩

/-- Reads the words after the name of a command. -/
def readCommand (routesValue : Option String) (verbose : Bool) (verb : Verb) (texts : List String) :
    Except UsageFault Invocation :=
  match Progress.start.steps verb texts with
  | .error e => .error e
  | .ok p =>
    match fileOf routesValue p with
    | .error e => .error e
    | .ok file =>
      match file, taskOf verb p with
      | some file, some task => .ok ⟨verbose || p.verbose, file, task⟩
      | _, _ => .error .missingArgument

/-- What a request for help about commands comes to. Commands have no commands of
their own. -/
def readHelp : List String → UsageFault
  | [] => .helpAsked
  | [name] => if isCommandName name then .helpAsked else .unknownCommand
  | _ => .unknownCommand

/-- The switches in a word before the command. -/
def readSwitches : Bool → List Char → Except UsageFault Bool
  | verbose, [] => .ok verbose
  | verbose, letter :: letters =>
    match Switch.ofShort? letter with
    | none => .error .unknownArgument
    | some .help => .error .helpAsked
    | some .verbose => if verbose then .error .repeated else readSwitches true letters

def readSwitch (verbose : Bool) (name : String) (value : Option String) : Except UsageFault Bool :=
  match Switch.ofLong? name with
  | none => .error .unknownArgument
  | some switch =>
    if value.isSome then .error .unexpectedValue
    else
      match switch with
      | .help => .error .helpAsked
      | .verbose => if verbose then .error .repeated else .ok true

/-- After `--` there is no command any more. -/
def readEscaped (verbose : Bool) : List String → UsageFault
  | [] => if verbose then .missingCommand else .helpInstead
  | text :: _ => if isCommandName text then .unknownArgument else .unknownCommand

/-- Reads a whole command line. -/
def read (routesValue : Option String) : Bool → List String → Except UsageFault Invocation
  | verbose, [] => .error (if verbose then .missingCommand else .helpInstead)
  | verbose, text :: texts =>
    match Verb.ofString? text with
    | some verb => readCommand routesValue verbose verb texts
    | none =>
      if text = helpWord then .error (readHelp texts)
      else
        match Word.ofString text with
        | .escape => .error (readEscaped verbose texts)
        | .plain _ => .error .unknownCommand
        | .long name value =>
          match readSwitch verbose name value with
          | .error e => .error e
          | .ok verbose => read routesValue verbose texts
        | .short letters =>
          match readSwitches verbose letters with
          | .error e => .error e
          | .ok verbose => read routesValue verbose texts

/-- The invocation that the words of a command line ask for. -/
def Invocation.parse (lookup : String → Option String) (texts : List String) :
    Except UsageFault Invocation := read (lookup routesVariable) false texts

end Signpost.Command
