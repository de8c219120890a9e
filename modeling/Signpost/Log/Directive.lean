import Signpost.Log.FieldValue
/-!
# Filter directives

A directive lets events of a level and above through, for one target, one span,
one field or everything: `target=level`, `target[span{field=value}]=level`, or a
bare level or target. Blank space around a directive is passed over when its parts
are looked for. Their places are then counted from the start of the text, blank space
included, and the last part runs to the end of the text.
-/

namespace Signpost.Log

inductive Level where
  | off
  | error
  | warn
  | info
  | debug
  | trace
deriving DecidableEq

namespace Level

def name : Level → String
  | off => "off"
  | error => "error"
  | warn => "warn"
  | info => "info"
  | debug => "debug"
  | trace => "trace"

/-- All levels, each at the place of its number. -/
def all : List Level := [off, error, warn, info, debug, trace]

/-- A level by its number, or by its name in ASCII letters of any case. -/
def ofText? (s : String) : Option Level :=
  match (Decimal.nat64? s).bind (all[·]?) with
  | some level => some level
  | none =>
    if s = "" then some error
    else all.find? fun level => decide (level.name.toList = s.toList.map Char.toLower)

end Level

/-- What a directive asks of a field: that it is there, or that it has a value. -/
structure FieldTest where
  name : String
  value : Option FieldValue
deriving DecidableEq

structure Directive where
  target : Option String
  span : Option String
  fields : List FieldTest
  level : Level
deriving DecidableEq

namespace FieldTest

/-- A test written as `name` or `name=value`. -/
def ofChars? (cs : List Char) : Option FieldTest :=
  match cs.splitOn '=' with
  | name :: value :: _ =>
    (FieldValue.ofText? (String.ofList value)).map fun v => ⟨String.ofList name, some v⟩
  | _ => some ⟨String.ofList cs, none⟩

def render (f : FieldTest) : String :=
  match f.value with
  | none => f.name
  | some value => f.name ++ "=" ++ value.render

/-- Tests for a value are greater than tests for presence. -/
def compare (f g : FieldTest) : Ordering :=
  ((Ord.compare f.value.isSome g.value.isSome).then (Ord.compare f.name g.name)).then
    (Ord.compare f.value g.value)

end FieldTest

instance : Ord FieldTest := ⟨FieldTest.compare⟩

namespace Directive

def ofLevel (level : Level) : Directive := ⟨none, none, [], level⟩

/-! ## Reading -/

/-- The number of bytes of a text. -/
def size (cs : List Char) : Nat := (String.ofList cs).utf8ByteSize

/-- The end of a text from a position on, in bytes. -/
def cutFrom : (start : Nat) → List Char → List Char
  | _, [] => []
  | 0, cs => cs
  | start, c :: cs => cutFrom (start - c.utf8Size) cs

/-- The first bytes of a text. -/
def cutTo : (stop : Nat) → List Char → List Char
  | 0, _ => []
  | _, [] => []
  | stop, c :: cs => c :: cutTo (stop - c.utf8Size) cs

/-- The part of a text between two positions. -/
def cut (start stop : Nat) (cs : List Char) : List Char := cutTo (stop - start) (cutFrom start cs)

/-- Whether a directive that starts without a bracket may start with `c`. -/
def mayStart (c : Char) : Bool := c = '-' || c = ':' || c = '_' || Text.isAlphanumeric c

/-- The level after an equals sign; nothing there means the lowest. -/
def levelOf? (cs : List Char) : Option Level :=
  if cs.isEmpty then some .trace else Level.ofText? (String.ofList cs)

/-- Completes a directive by what follows its brackets, at a position of the text. -/
def complete? (text : List Char) (d : Directive) (position : Nat) : List Char → Option Directive
  | [] => some { d with level := .trace }
  | '=' :: _ => (levelOf? (cutFrom (position + 1) text)).map fun level => { d with level := level }
  | _ => none

/-- Reads what follows an opening bracket, from a position of the text on. -/
def brackets? (text : List Char) (target : Option String) (position : Nat) (cs : List Char) :
    Option Directive :=
  let spanEnd := position + size (cs.takeWhile fun c => c ≠ ']' && c ≠ '\x7b')
  let span := cut position spanEnd text
  match cs.dropWhile fun c => c ≠ ']' && c ≠ '\x7b' with
  | [] => none
  | ']' :: rest =>
    complete? text ⟨target, some (String.ofList span), [], .trace⟩ (spanEnd + 1) rest
  | _ :: rest =>
    let fieldEnd := spanEnd + 1 + size (rest.takeWhile (· ≠ '\x7d'))
    let field := cut (spanEnd + 1) fieldEnd text
    match rest.dropWhile (· ≠ '\x7d') with
    | '\x7d' :: ']' :: rest => do
      let test ← if field.isEmpty then none else FieldTest.ofChars? field
      let span := if span.isEmpty then none else some (String.ofList span)
      complete? text ⟨target, span, [test], .trace⟩ (fieldEnd + 2) rest
    | _ => none

/-- Reads a directive that starts with a target or is a level alone. -/
def named? (text cs : List Char) : Option Directive :=
  let nameEnd := size (cs.takeWhile fun c => c ≠ '=' && c ≠ '[')
  let name := String.ofList (cut 0 nameEnd text)
  match cs.dropWhile fun c => c ≠ '=' && c ≠ '[' with
  | [] =>
    match Level.ofText? (String.ofList text) with
    | some level => some (ofLevel level)
    | none => some ⟨some (String.ofList text), none, [], .trace⟩
  | '=' :: _ =>
    (levelOf? (cutFrom (nameEnd + 1) text)).map fun level => ⟨some name, none, [], level⟩
  | _ :: rest => brackets? text (some name) (nameEnd + 1) rest

/-- The directive that a text without commas writes. -/
def parse? (text : String) : Option Directive :=
  match Text.trimChars text.toList with
  | [] => none
  | '[' :: cs => brackets? text.toList none 1 cs
  | c :: cs => if mayStart c then named? text.toList (c :: cs) else none

/-! ## Order and text -/

/-- Whether a directive can be decided without looking at values or spans. -/
def isStatic (d : Directive) : Bool := d.span.isNone && d.fields.all (·.value.isNone)

/-- Whether a directive looks at spans or fields. -/
def isScoped (d : Directive) : Bool := d.span.isSome || !d.fields.isEmpty

/-- Longer targets, spans and fields make a directive more specific; what is left is
settled by the texts. The more specific of two is the greater. -/
def compare (a b : Directive) : Ordering :=
  ((((((Ord.compare (a.target.map String.utf8ByteSize) (b.target.map String.utf8ByteSize)).then
    (Ord.compare a.span.isSome b.span.isSome)).then
    (Ord.compare a.fields.length b.fields.length)).then
    (Ord.compare a.target b.target)).then
    (Ord.compare a.span b.span)).then
    (Ord.compare a.fields b.fields))

def render (d : Directive) : String :=
  let target := d.target.getD ""
  let fields :=
    if d.fields.isEmpty then ""
    else "\x7b" ++ ",".intercalate (d.fields.map FieldTest.render) ++ "\x7d"
  let scope := if d.isScoped then "[" ++ d.span.getD "" ++ fields ++ "]" else ""
  let equals := if d.target.isSome || d.isScoped then "=" else ""
  target ++ scope ++ equals ++ d.level.name

end Directive

end Signpost.Log
