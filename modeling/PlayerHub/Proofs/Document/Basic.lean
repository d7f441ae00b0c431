import PlayerHub.Document.Basic
import PlayerHub.Proofs.Json.RoundTrip

namespace PlayerHub

/-- A kind of document whose documents are read back from their JSON form. -/
class LawfulDocument (D : Type) [Document D] : Prop where
  ofJson?_toJson : ∀ d : D, Document.ofJson? (Document.toJson d) = some d

theorem Document.decode?_encode {D : Type} [Document D] [LawfulDocument D] (d : D) :
    decode? D (encode d) = some d := by
  rw [decode?, encode, Json.Value.parse?_print, Option.bind_some, LawfulDocument.ofJson?_toJson]

end PlayerHub
