namespace PlayerHub.Username

/-- The length of a generated username. -/
def length : Nat := 10

/-- The characters of generated usernames. -/
def alphabet : List Char := "abcdefghijklmnopqrstuvwxyz0123456789".toList

/-- The character that a draw picks. -/
def pick (draw : Nat) : Char := alphabet.getD (draw % alphabet.length) 'a'

/-- The username that a sequence of draws makes. -/
def ofDraws (draws : Fin length → Nat) : String :=
  String.ofList ((List.finRange length).map fun i => pick (draws i))

end PlayerHub.Username
