import PerlSymbols.Text.Quoted

/-!
# Request ids

Every log record that is written during a request carries the id of that request. An id that is not
given comes from a generator, of which nothing is known.
-/

namespace PerlSymbols.Log

/-- What a generator gives out, one id after the other; the first one has the number one. -/
abbrev Ids := Nat → String

/-- Ids that count, with twelve hexadecimal digits. -/
def countingIds : Ids :=
  fun n => String.ofList (Text.hexDigits 12 n)

/-- The id that is bound, and how many ids were made. -/
structure Context where
  request : Option String := none
  made : Nat := 0
  ids : Ids := countingIds

namespace Context

/-- Binds the next id of the generator. -/
def bindNew (c : Context) : Context :=
  { c with request := some (c.ids (c.made + 1)), made := c.made + 1 }

/-- Binds the given id; an empty one counts as none. -/
def bind (c : Context) (given : Option String) : Context :=
  match given with
  | some id => if id.isEmpty then c.bindNew else { c with request := some id }
  | none => c.bindNew

def clear (c : Context) : Context :=
  { c with request := none }

end Context

end PerlSymbols.Log
