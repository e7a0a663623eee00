import Mathlib.Init

/-!
# JSON values in Python

What `json.loads` returns, and the three things programs do to supply defaults: `get` with
a default, `or`, and `bool`. All of them only look at the truth of a value (`truthy`), so
that a missing key, `null` and an empty value count alike.
-/

namespace Lib

/-- A value; a number is an `int` or a finite `float`. -/
inductive Json where
  | null
  | bool (b : Bool)
  | num (n : Rat)
  | str (s : String)
  | list (items : List Json)
  | dict (entries : List (String × Json))

/-- The entries of a `dict`. -/
abbrev Dict := List (String × Json)

/-- `entries.get(key, default)`. -/
def Dict.getD (entries : Dict) (key : String) (default : Json) : Json :=
  ((entries.find? fun entry => decide (entry.1 = key)).map Prod.snd).getD default

/-- `entries.get(key)`. -/
def Dict.get (entries : Dict) (key : String) : Json := entries.getD key .null

namespace Json

/-- `bool(value)`. -/
def truthy : Json → Bool
  | null => false
  | bool b => b
  | num n => decide (n ≠ 0)
  | str s => decide (s ≠ "")
  | list items => !items.isEmpty
  | dict entries => !entries.isEmpty

/-- `value or default`. -/
def or (value default : Json) : Json := if value.truthy then value else default

/-- The entries, of a `dict`; other values have no `get`. -/
def dict? : Json → Option Dict
  | dict entries => some entries
  | _ => none

/-- `value == text`. -/
def isText (value : Json) (text : String) : Bool :=
  match value with
  | str s => decide (s = text)
  | _ => false

/-- A value that `or` keeps. -/
def present (value : Json) : Option Json := if value.truthy then some value else none

section Defaults

variable {value default other : Json}

end Defaults

end Json

end Lib
