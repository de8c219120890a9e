import Signpost.Log.Filter
import Signpost.Text.Case
/-!
# Log configuration

Which events are logged and in which form. The command line logs what the variables
ask for; asked to be verbose, it logs as in development but keeps the directives
that the variables add.
-/

namespace Signpost.Log

inductive Format where
  | json
  | pretty
deriving DecidableEq

def Format.name : Format → String
  | json => "json"
  | pretty => "pretty"

/-- `pretty` in any case asks for the pretty form, all else for the other. -/
def Format.ofText (s : String) : Format := if Text.lower s = "pretty" then pretty else json

structure Config where
  /-- The level as it was given. -/
  level : String
  format : Format
  /-- Further directives, between commas. -/
  targetFilter : Option String
deriving DecidableEq

namespace Config

def levelVariable : String := "CTRLROUTE_LOG_LEVEL"

def formatVariable : String := "CTRLROUTE_LOG_FORMAT"

def targetFilterVariable : String := "CTRLROUTE_LOG_TARGET_FILTER"

/-- A variable of directives that go before the level of any configuration. -/
def directivesVariable : String := "RUST_LOG"

def ofVariables (lookup : String → Option String) : Config where
  level := (lookup levelVariable).getD "info"
  format := Format.ofText ((lookup formatVariable).getD "json")
  targetFilter := lookup targetFilterVariable

def development : Config := ⟨"debug", .pretty, none⟩

/-- The configuration of the command line. -/
def ofCommand (lookup : String → Option String) (verbose : Bool) : Config :=
  if verbose then { development with targetFilter := (ofVariables lookup).targetFilter }
  else ofVariables lookup

/-- The level that a text names in any case; any other text means `info`. -/
def levelNamed (s : String) : Level :=
  (([.trace, .debug, .info, .warn, .error] : List Level).find? fun level =>
    decide (level.name = Text.lower s)).getD .info

/-- The filter that the directives are added to. -/
def baseFilter (c : Config) (directives : Option String) : Filter :=
  (directives.bind Filter.parse?).getD (.ofLevel (levelNamed c.level))

/-- The texts of the further directives. -/
def additions (c : Config) : List String :=
  ((Filter.parts (c.targetFilter.getD "")).map Text.trim).filter (· ≠ "")

/-- The filter of a configuration. Directives that cannot be read are left out. -/
def filter (c : Config) (directives : Option String) : Filter :=
  (c.additions.filterMap Directive.parse?).foldl Filter.add (c.baseFilter directives)

/-- The complaint about a directive that is left out. -/
def warning (text : String) : String := "Warning: Invalid log filter directive: " ++ text

/-- One complaint for each directive that is left out. -/
def warnings (c : Config) : List String :=
  (c.additions.filter fun text => (Directive.parse? text).isNone).map warning

end Config

/-- Logging is set up once. -/
inductive InstallError where
  | alreadyInstalled
deriving DecidableEq

def InstallError.message : InstallError → String
  | alreadyInstalled =>
    "Failed to install tracing subscriber: a global default trace dispatcher has already been set"

/-- Sets up logging unless it has been set up before. -/
def install (current : Option Config) (c : Config) : Except InstallError Config :=
  if current.isSome then .error .alreadyInstalled else .ok c

end Signpost.Log
