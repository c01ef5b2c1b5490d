import Courier.Http.Message

/-!
# Media types

The type of a body, `type/subtype`, where a subtype can end in a suffix behind a plus, and
parameters can follow behind semicolons. A value with a mistake anywhere, in a parameter too, is no
media type.
-/

namespace Courier.Http

/-- A media type without its parameters, in small letters. -/
structure MediaType where
  type : List Char
  subtype : List Char
  suffix : Option (List Char)
  deriving DecidableEq, Repr

namespace MediaType

/-- Whether a character may stand in a name. -/
def isToken (c : Char) : Bool :=
  ('0' ≤ c && c ≤ '9') || ('a' ≤ c && c ≤ 'z') || ('A' ≤ c && c ≤ 'Z')
    || "!#$%&'*+-.^_`|~".toList.contains c

/-- Whether a character may stand in quotes. -/
def isQuotable (c : Char) : Bool :=
  0x1F < c.toNat && c.toNat ≠ 0x7F

/-- What a reader of parameters expects. -/
inductive Expecting where
  /-- The name of a parameter, or blanks in front of it. -/
  | name
  /-- More of a name. -/
  | moreName
  /-- The value of a parameter. -/
  | value
  /-- More of a value. -/
  | moreValue
  /-- The first character in quotes; a quote there is one of them. -/
  | quoted
  /-- More characters in quotes. -/
  | moreQuoted
  /-- What separates a quoted value from the next parameter. -/
  | separator

/-- Whether a text is well-formed parameters. -/
def parametersFrom : Expecting → List Char → Bool
  | .name, [] | .value, [] | .moreValue, [] | .separator, [] => true
  | .moreName, [] | .quoted, [] | .moreQuoted, [] => false
  | .name, c :: rest =>
    if c = ' ' then parametersFrom .name rest
    else isToken c && parametersFrom .moreName rest
  | .moreName, c :: rest =>
    if c = '=' then parametersFrom .value rest
    else isToken c && parametersFrom .moreName rest
  | .value, c :: rest =>
    if c = '"' then parametersFrom .quoted rest
    else isToken c && parametersFrom .moreValue rest
  | .moreValue, c :: rest =>
    if c = ';' then parametersFrom .name rest
    else isToken c && parametersFrom .moreValue rest
  | .quoted, c :: rest => isQuotable c && parametersFrom .moreQuoted rest
  | .moreQuoted, c :: rest =>
    if c = '"' then parametersFrom .separator rest
    else isQuotable c && parametersFrom .moreQuoted rest
  | .separator, c :: rest =>
    if c = ';' then parametersFrom .name rest
    else c = ' ' && parametersFrom .separator rest

/-- A subtype cut at its last plus. A plus in front belongs to the name. -/
def cutSuffix (subtype : List Char) : List Char × Option (List Char) :=
  let suffix := (subtype.reverse.takeWhile (· ≠ '+')).reverse
  let size := subtype.length - suffix.length
  if size ≤ 1 then (subtype, none) else (subtype.take (size - 1), some suffix)

/-- The media type of a header value. -/
def parse? (value : String) : Option MediaType :=
  let cs := value.toList
  let type := cs.takeWhile isToken
  match cs.dropWhile isToken with
  | '/' :: after =>
    let subtype := after.takeWhile isToken
    let parameters := match after.dropWhile isToken with
      | [] => true
      | ';' :: rest => !subtype.isEmpty && parametersFrom .name rest
      | _ => false
    if type.isEmpty || !parameters then none
    else
      let (main, suffix) := cutSuffix (subtype.map lowerChar)
      some ⟨type.map lowerChar, main, suffix⟩
  | _ => none

/-- Whether the type is JSON, or some format on top of JSON. -/
def isJson (t : MediaType) : Bool :=
  t.type = "application".toList
    && (t.subtype = "json".toList || t.suffix = some "json".toList)

end MediaType

/-- Whether headers announce a JSON body. -/
def Headers.announceJson (headers : Headers) : Bool :=
  ((headers.text? "content-type").bind MediaType.parse?).any MediaType.isJson

end Courier.Http
