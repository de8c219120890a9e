import Signpost.Log.Directive
/-!
# Log filters

A filter is a set of directives, the most specific first. Of two directives about
the same thing the later one stays.
-/

namespace Signpost.Log

structure Filter where
  /-- Directives that are decided once. -/
  statics : List Directive
  /-- Directives that are decided event by event. -/
  dynamics : List Directive

namespace Filter

def empty : Filter := ⟨[], []⟩

/-- Puts a directive in its place, instead of one about the same thing. -/
def insert (d : Directive) : List Directive → List Directive
  | [] => [d]
  | e :: es =>
    match d.compare e with
    | .eq => d :: es
    | .gt => d :: e :: es
    | .lt => e :: insert d es

def add (f : Filter) (d : Directive) : Filter :=
  if d.isStatic then { f with statics := insert d f.statics }
  else { f with dynamics := insert d f.dynamics }

def ofLevel (level : Level) : Filter := empty.add (.ofLevel level)

/-- The filter of a list of directives. A scoped directive is also decided event by
event. -/
def ofDirectives (ds : List Directive) : Filter where
  statics :=
    ((ds.filter (!·.isScoped)) ++ ds.filter fun d => d.isScoped && d.isStatic).foldl
      (fun es d => insert d es) []
  dynamics := (ds.filter (·.isScoped)).foldl (fun es d => insert d es) []

/-- The parts of a text between commas. -/
def parts (text : String) : List String := (text.toList.splitOn ',').map String.ofList

/-- The filter of directives between commas, all of which must be readable. -/
def parse? (text : String) : Option Filter :=
  (((parts text).filter (· ≠ "")).mapM Directive.parse?).map ofDirectives

def render (f : Filter) : String := ",".intercalate ((f.statics ++ f.dynamics).map Directive.render)

end Filter

end Signpost.Log
