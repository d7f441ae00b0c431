import PlayerHub.Calendar.Written
import PlayerHub.Player.Action

namespace PlayerHub

open Calendar (Instant)
open Json (Value)

/-- A report. What it is about is told by flags that the game gives a meaning. -/
structure Report where
  content : String
  issues : Int32
  time : Instant
deriving DecidableEq, Repr

namespace Report

/-- The JSON form of a report. -/
def toJson (r : Report) : Value :=
  .ofMembers [("content", .str r.content), ("issues", .int r.issues.toInt),
    ("time", r.time.toJson)]

/-- Reads a report from its JSON form. -/
def ofJson? (v : Value) : Option Report := do
  let [content, issues, time] ← v.fields? ["content", "issues", "time"] | none
  return {
    content := ← Json.required Value.str? content
    issues := ← Json.required Value.int32? issues
    time := ← Json.required Instant.ofJson? time }

end Report

/-- The reports of a player that are kept, oldest first. -/
structure Feedback where
  reports : List Report := []
deriving DecidableEq, Repr

namespace Feedback

/-- How many reports are kept. -/
def limit : Nat := 10

/-- Adds a report, and drops the oldest ones that there is no room for. -/
def push (f : Feedback) (r : Report) : Feedback :=
  ⟨f.reports.drop (f.reports.length + 1 - limit) ++ [r]⟩

/-- The JSON form of the reports. -/
def toJson (f : Feedback) : Value := .ofMembers [("list", .list (f.reports.map Report.toJson))]

/-- Reads the reports from their JSON form. -/
def ofJson? (v : Value) : Option Feedback := do
  let [reports] ← v.fields? ["list"] | none
  return ⟨← Json.required (Value.listOf? Report.ofJson?) reports⟩

instance : Document Feedback where
  collection := "manager_data"
  key := "feedback"
  fresh := {}
  toJson := toJson
  ofJson? := ofJson?

/-- Puts a report of a user on record. -/
def submit (user : UserId) (content : String) (issues : Int32) (now : Instant) : ActionM Unit := do
  let f ← ActionM.ofStore (Store.load Feedback user)
  ActionM.ofStore (Store.save user (f.push ⟨content, issues, now⟩))

end Feedback

end PlayerHub
