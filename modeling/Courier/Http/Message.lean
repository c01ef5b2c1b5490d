import Courier.Json.Printer

/-!
# Requests and responses

A request is a method, a target, headers and a body of any bytes; a response is a status, headers
and a body. Header names are compared without regard to capitals, and of several headers of one name
the first counts. A header value can be read as a text only if it has printable ASCII characters and
tabs alone.
-/

namespace Courier.Http

/-- Headers, in order. -/
abbrev Headers := List (String × String)

/-- The small form of an ASCII letter. -/
def lowerChar (c : Char) : Char :=
  if 'A' ≤ c && c ≤ 'Z' then Char.ofNat (c.toNat + 32) else c

/-- A text with its ASCII letters in the small form. -/
def lower (text : String) : String :=
  String.ofList (text.toList.map lowerChar)

/-- The value of the first header with a name. -/
def Headers.get? (headers : Headers) (name : String) : Option String :=
  (headers.find? fun header => lower header.1 = lower name).map Prod.snd

/-- Whether a header value may hold a character: anything but control characters, tab excepted. -/
def inHeaderValue (c : Char) : Bool :=
  c = '\t' || (0x20 ≤ c.toNat && c.toNat ≠ 0x7F)

/-- Whether a text can be a header value. -/
def isHeaderValue (text : String) : Bool :=
  text.toList.all inHeaderValue

/-- Whether a header value can be read as a text. -/
def isReadable (value : String) : Bool :=
  value.toList.all fun c => c = '\t' || (0x20 ≤ c.toNat && c.toNat < 0x7F)

/-- The value of the first header with a name, if it can be read. -/
def Headers.text? (headers : Headers) (name : String) : Option String :=
  (headers.get? name).filter isReadable

/-- The body of a request. -/
inductive RequestBody where
  /-- A text in UTF-8. -/
  | utf8 (text : String)
  /-- Bytes that are no text in UTF-8: the characters that can be read from them, and between these
  the bytes that belong to no character. -/
  | bytes (pieces : List (Char ⊕ UInt8))
  deriving DecidableEq, Repr

namespace RequestBody

instance : Inhabited RequestBody := ⟨.utf8 ""⟩

instance : Coe String RequestBody := ⟨.utf8⟩

/-- The number of bytes of a piece of a body. -/
def pieceSize : Char ⊕ UInt8 → Nat
  | .inl c => c.utf8Size
  | .inr _ => 1

/-- The number of bytes of a body. -/
def size : RequestBody → Nat
  | .utf8 text => text.utf8ByteSize
  | .bytes pieces => pieces.foldl (fun total piece => total + pieceSize piece) 0

end RequestBody

/-- A request. -/
structure Request where
  method : String
  /-- The path, with a query if there is one. -/
  target : String
  headers : Headers
  body : RequestBody
  deriving DecidableEq, Repr, Inhabited

/-- The body of a response. -/
inductive Body where
  | empty
  /-- A note in plain words for people. -/
  | note (text : String)
  | json (value : Json)
  /-- The samples of the metrics. -/
  | samples (samples : List (String × Nat))
  deriving DecidableEq, Repr, Inhabited

/-- The number of bytes of a body. The samples of the metrics are sent together with times that are
not kept here, so theirs is not known. -/
def Body.size? : Body → Option Nat
  | .empty => some 0
  | .note text => some text.utf8ByteSize
  | .json value => some value.text.utf8ByteSize
  | .samples _ => none

/-- A response. -/
structure Response where
  status : Nat
  headers : Headers
  body : Body
  deriving DecidableEq, Repr, Inhabited

namespace Response

/-- A response of a status alone. -/
def bare (status : Nat) : Response := ⟨status, [], .empty⟩

/-- A response with a note in plain words. -/
def note (status : Nat) (text : String) : Response :=
  ⟨status, [("content-type", "text/plain; charset=utf-8")], .note text⟩

/-- A response with a value. -/
def json (status : Nat) (value : Json) : Response :=
  ⟨status, [("content-type", "application/json")], .json value⟩

/-- A response with more headers behind its own. -/
def withHeaders (response : Response) (headers : Headers) : Response :=
  { response with headers := response.headers ++ headers }

/-- A response without its body, as it answers the method `HEAD`. -/
def withoutBody (response : Response) : Response :=
  { response with body := .empty }

end Response

end Courier.Http
