import PlayerHub.Account.Basic
import PlayerHub.Document.Store

namespace PlayerHub

/-- What failed beneath an action. -/
inductive ActionError where
  | store (e : StoreError)
  | identity (e : IdentityError)
deriving DecidableEq, Repr

/-- The text of an error. -/
def ActionError.message : ActionError → String
  | .store e => e.message
  | .identity e => e.message

/-- The name of a kind of error, after the name of what failed. -/
def ActionError.kind : ActionError → String
  | .store e => "Store." ++ e.kind
  | .identity e => "Identity." ++ e.kind

/-- An action over the documents that may fail. What it has done before it fails stays done. -/
abbrev ActionM := ExceptT ActionError (StateM Store)

namespace ActionM

/-- The result of an action, and the store after it. -/
def perform {α : Type} (act : ActionM α) (s : Store) : Except ActionError α × Store := act s

/-- What is done to the documents, as part of an action. -/
def ofStore {α : Type} (act : StoreM α) : ActionM α := fun s =>
  match act.perform s with
  | (.ok a, s) => (.ok a, s)
  | (.error e, s) => (.error (.store e), s)

/-- What the accounts answer, as part of an action. -/
def ofIdentity {α : Type} (answer : Except IdentityError α) : ActionM α :=
  match answer with
  | .ok a => pure a
  | .error e => throw (.identity e)

end ActionM

end PlayerHub
