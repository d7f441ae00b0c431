namespace PlayerHub.Json

/-- What is wrong with a well-formed value that cannot be taken in: a string that is no text, a
number that is too large, a container that is nested too deep. Its reader gives up at the end of the
value, where reading can go on, or inside it. Whoever skips the value does not notice. -/
inductive Flaw where
  | atEnd
  | inside
deriving DecidableEq, Repr

/-- The flaw of a container by the flaws of its parts. The reader gives up at the first part with a
flaw, and comes to the end of the container only if that is the last part and it has come to the
end of it. -/
def Flaw.ofParts? : List (Option Flaw) → Option Flaw
  | [] => none
  | [flaw] => flaw
  | none :: flaws => ofParts? flaws
  | some _ :: _ => some .inside

end PlayerHub.Json
