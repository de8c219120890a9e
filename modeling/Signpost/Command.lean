import Signpost.Command.Files
import Signpost.Command.Invocation
import Signpost.Listing
import Signpost.Manifest.Document
/-!
# Commands

`check` builds the table of a manifest file, `routes` lists it, and `match` looks a
request up in it. All three load the table first and fail the same way when that
fails.
-/

namespace Signpost.Command

/-- What a command learns from outside. -/
structure Host where
  readFile : String → Except ReadError ByteArray
  lookup : String → Option String

/-- Why a command fails. -/
inductive Failure where
  | unreadableFile (file : String) (cause : ReadError)
  | notAManifest (file : String)
  | unbuildable (cause : BuildError)
  | invalidMethod (text : String)
deriving DecidableEq

def Failure.message : Failure → String
  | unreadableFile file cause => "Failed to read route manifest: " ++ file ++ ": " ++ cause.message
  | notAManifest file =>
    "Invalid route manifest: " ++ file ++ ": " ++ Manifest.unreadableMessage
  | unbuildable cause => cause.message
  | invalidMethod text => "Invalid HTTP method: " ++ text ++ ": " ++ Method.invalidMessage

/-- What a command that does not fail writes and returns. -/
structure Outcome where
  exitCode : Nat
  stdout : String
  stderr : String
deriving DecidableEq

/-- The text of a file. -/
def Host.readText (host : Host) (file : String) : Except ReadError String :=
  if file.toList.contains '\x00' then .error .nulInName
  else
    match host.readFile file with
    | .error e => .error e
    | .ok bytes =>
      match String.fromUTF8? bytes with
      | some text => .ok text
      | none => .error .notText

/-- The manifest in a file. -/
def loadManifest (decode : String → Option Manifest) (host : Host) (file : String) :
    Except Failure Manifest :=
  match host.readText file with
  | .error cause => .error (.unreadableFile file cause)
  | .ok text =>
    match decode text with
    | some manifest => .ok manifest
    | none => .error (.notAManifest file)

/-- The table of the manifest in a file, under the settings in the variables. -/
def loadTable (decode : String → Option Manifest) (host : Host) (file : String) :
    Logged (Except Failure Table) :=
  match loadManifest decode host file with
  | .error e => ⟨.error e, []⟩
  | .ok manifest =>
    let built := manifest.build (Settings.ofVariables host.lookup)
    match built.value with
    | .error cause => ⟨.error (.unbuildable cause), built.events⟩
    | .ok t => ⟨.ok t, built.events⟩

/-- What `check` says of a table. -/
def checkOutcome (file : String) (t : Table) : Outcome :=
  ⟨0, "ok: " ++ toString t.size ++ " route(s) compiled from " ++ file ++ "\n", ""⟩

def routesOutcome (t : Table) : Outcome := ⟨0, t.dump, ""⟩

/-- A match as `match` reports it. -/
def report (method : Method) (hit : Hit) : Json :=
  .object [("method", .text method.name), ("handler", .text hit.route.handler),
    ("template", .text hit.route.template), ("params", hit.bindings.toJson)]

def resolveOutcome (method : Method) (path : String) (t : Table) : Outcome :=
  match t.route? method path with
  | some hit => ⟨0, (report method hit).pretty ++ "\n", ""⟩
  | none => ⟨1, "", "no match: " ++ method.name ++ " " ++ path ++ "\n"⟩

/-- Carries out a task on a table. -/
def Task.outcome (file : String) (t : Table) : Task → Except Failure Outcome
  | .check => .ok (checkOutcome file t)
  | .routes => .ok (routesOutcome t)
  | .resolve request =>
    match Method.ofAnyCase? request.method with
    | some method => .ok (resolveOutcome method request.path t)
    | none => .error (.invalidMethod request.method)

/-- What a task tells the log about a table. -/
def Task.events (t : Table) : Task → List Event
  | .routes => [t.summaryEvent]
  | _ => []

/-- Carries out a task on the manifest in a file. -/
def Task.run (decode : String → Option Manifest) (host : Host) (file : String) (task : Task) :
    Logged (Except Failure Outcome) :=
  let loaded := loadTable decode host file
  match loaded.value with
  | .error e => ⟨.error e, loaded.events⟩
  | .ok t => ⟨task.outcome file t, loaded.events ++ task.events t⟩

/-- Carries out an invocation. -/
def Invocation.run (host : Host) (i : Invocation) : Logged (Except Failure Outcome) :=
  i.task.run Manifest.parse? host i.file

end Signpost.Command
