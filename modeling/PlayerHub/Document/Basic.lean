import PlayerHub.Json.Printer
import PlayerHub.Json.Reader
import PlayerHub.Json.Record

namespace PlayerHub

/-- A kind of document, of which a player or the whole game has one: it is stored in a fixed
collection under a fixed key, and `fresh` is the state for those who never saved one. -/
class Document (D : Type) where
  collection : String
  key : String
  fresh : D
  toJson : D → Json.Value
  ofJson? : Json.Value → Option D

namespace Document

variable {D : Type} [Document D]

/-- The text of a document. -/
def encode (d : D) : String := (toJson d).print

/-- The document that a text writes. -/
def decode? (D : Type) [Document D] (text : String) : Option D :=
  (Json.Value.parse? text).bind ofJson?

end Document

/-- How documents become texts and texts become documents: as JSON, unless the codec is told to
refuse one or the other with a reason. -/
structure Codec where
  encodeRefusal : Option String := none
  decodeRefusal : Option String := none
deriving DecidableEq, Repr

namespace Codec

/-- The text of a document, or the reason why there is none. -/
def encode {D : Type} [Document D] (c : Codec) (d : D) : Except String String :=
  match c.encodeRefusal with
  | some reason => .error reason
  | none => .ok (Document.encode d)

/-- The document that a text writes, or the reason why there is none. -/
def decode (D : Type) [Document D] (c : Codec) (text : String) : Except String D :=
  match c.decodeRefusal with
  | some reason => .error reason
  | none =>
    match Document.decode? D text with
    | some d => .ok d
    | none => .error "the text is no document of this kind"

end Codec

end PlayerHub
