import PlayerHub.Json.Flaw

namespace PlayerHub.Json

/-- What a string denotes: a text, unless half of a surrogate pair stands alone in it or its bytes
are not UTF-8. -/
inductive Quoted where
  | plain (s : String)
  | flawed (flaw : Flaw)
deriving DecidableEq, Repr

namespace Quoted

/-- A string that denotes the given text, if there is one. -/
def ofText : Option String → Quoted
  | some s => .plain s
  | none => .flawed .inside

/-- The text that a string denotes. -/
def text? : Quoted → Option String
  | .plain s => some s
  | .flawed _ => none

/-- What keeps a string from being taken in. -/
def flaw? : Quoted → Option Flaw
  | .plain _ => none
  | .flawed flaw => some flaw

@[simp] theorem text?_ofText (s : Option String) : (ofText s).text? = s := by
  cases s <;> rfl

end Quoted

end PlayerHub.Json
