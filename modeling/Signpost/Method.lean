import Signpost.Text.Case
/-!
# Request methods

A method name is one or more token characters; `GET` and `get` are two methods.
Manifests and the command line write methods in any case and mean the capitals.
-/

namespace Signpost

/-- ASCII letters, digits and the marks allowed in a token. -/
def isTokenChar (c : Char) : Bool := c.isAlphanum || "!#$%&'*+-.^_`|~".toList.contains c

def isToken (s : String) : Bool := !s.toList.isEmpty && s.toList.all isTokenChar

structure Method where
  name : String
  isToken_name : isToken name = true
deriving DecidableEq

namespace Method

def get : Method := ⟨"GET", by decide⟩

/-- What is said of a text that is no method name. -/
def invalidMessage : String := "invalid HTTP method"

def ofString? (s : String) : Option Method := if h : isToken s = true then some ⟨s, h⟩ else none

/-- The method meant by a text in any case. -/
def ofAnyCase? (s : String) : Option Method := ofString? (Text.upper s)

theorem ofAnyCase?_eq_none_iff {s : String} :
    ofAnyCase? s = none ↔ isToken (Text.upper s) = false := by
  simp [ofAnyCase?, ofString?]

theorem ofAnyCase?_eq_some_iff {s : String} {method : Method} :
    ofAnyCase? s = some method ↔ method.name = Text.upper s := by
  obtain ⟨name, hname⟩ := method
  simp only [ofAnyCase?, ofString?, Option.dite_none_right_eq_some, Option.some.injEq, mk.injEq]
  constructor
  · rintro ⟨-, rfl⟩
    rfl
  · rintro rfl
    exact ⟨hname, rfl⟩

end Method

end Signpost
