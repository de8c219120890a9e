import Signpost.Pattern
/-!
# Reading templates

Each segment of a template is a literal, which has no brace and no colon, or a
placeholder: `{name}` for a string parameter, `{name:tag}` for one of a
registered type. Reading stops at the first segment that is neither, names an
unknown type, or leaves its name empty or repeats one.
-/

namespace Signpost.Template

/-- What is wrong with a segment. -/
inductive Fault where
  | badPath
  | unknownType (tag : String)
  | emptyName
  | duplicateName (name : String)
deriving DecidableEq

/-- A fault and the template that has it. -/
structure SyntaxError where
  template : String
  fault : Fault
deriving DecidableEq

def SyntaxError.message (e : SyntaxError) : String :=
  match e.fault with
  | .badPath => "Bad controller path: " ++ e.template
  | .unknownType tag =>
    "Undefined controller parameter type '" ++ tag ++ "', path: " ++ e.template
  | .emptyName => "Empty controller parameter name, path: " ++ e.template
  | .duplicateName name => "Duplicate controller parameter '" ++ name ++ "', path: " ++ e.template

/-- Characters that mark a segment as a placeholder. -/
def isMark (c : Char) : Bool := c = '\x7b' || c = '\x7d' || c = ':'

/-- Characters that a placeholder may have between its braces. -/
def isInner (c : Char) : Bool := c ≠ '\x7b' && c ≠ '\x7d' && c ≠ '\n'

/-- The text between the braces of a placeholder. -/
def inner? (segment : List Char) : Option (List Char) :=
  match segment with
  | '\x7b' :: rest =>
    match rest.getLast? with
    | some '\x7d' =>
      if rest.dropLast ≠ [] ∧ rest.dropLast.all isInner then some rest.dropLast else none
    | _ => none
  | _ => none

/-- The name of a parameter: what comes before the first colon. -/
def nameOf (inner : List Char) : String := String.ofList (inner.takeWhile (· ≠ ':'))

/-- The tag of a parameter: what comes after the first colon, if there is one. -/
def tagOf? (inner : List Char) : Option String :=
  match inner.dropWhile (· ≠ ':') with
  | [] => none
  | _ :: tag => some (String.ofList tag)

/-- The type that a parameter asks for. -/
def typeOf (registry : Registry) (inner : List Char) : Except Fault ParamType :=
  match tagOf? inner with
  | none => .ok .string
  | some tag =>
    match registry.resolve? tag with
    | some type => .ok type
    | none => .error (.unknownType tag)

/-- Reads one segment, where `seen` are the names taken by the segments before. -/
def readSegment (registry : Registry) (seen : List String) (segment : String) :
    Except Fault Item :=
  if segment.toList.any isMark then
    match inner? segment.toList with
    | none => .error .badPath
    | some inner =>
      match typeOf registry inner with
      | .error fault => .error fault
      | .ok type =>
        if nameOf inner = "" then .error .emptyName
        else if nameOf inner ∈ seen then .error (.duplicateName (nameOf inner))
        else .ok (.parameter (nameOf inner) type)
  else .ok (.literal segment)

/-- Reads segments in order, up to the first fault. -/
def readSegments (registry : Registry) : List String → List String → Except Fault (List Item)
  | _, [] => .ok []
  | seen, segment :: rest =>
    match readSegment registry seen segment with
    | .error fault => .error fault
    | .ok item =>
      match readSegments registry (seen ++ item.name?.toList) rest with
      | .error fault => .error fault
      | .ok items => .ok (item :: items)

/-- The pattern of a template, with the types that a registry has. -/
def parse (registry : Registry) (template : String) : Except SyntaxError Pattern :=
  match readSegments registry [] (Segment.split template) with
  | .error fault => .error ⟨template, fault⟩
  | .ok items => .ok ⟨template, items⟩

end Signpost.Template
