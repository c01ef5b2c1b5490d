import Courier.Settings.Layer

/-!
# Settings from the environment

Every variable of the environment is an entry of one layer: its name in small letters, with a point
for each underscore, is the path, and its value is read as a truth value, an integer or a
floating-point number if it can be, and is a text otherwise. A setting whose own name has an
underscore in it cannot be reached in this way.

Two variables can be in conflict, such as `SERVER` and `SERVER_PORT`, or two names that differ in
capitals alone. Then the later one in the environment counts. The service does not fix which one that
is, so an environment is a list in any order.
-/

namespace Courier

/-- The variables of the environment by name. -/
abbrev Environment := List (String × String)

namespace Environment

/-- The value of a variable. -/
def get? (environment : Environment) (name : String) : Option String :=
  environment.lookup name

/-- The environment with a variable added, unless it is there. -/
def setNew (environment : Environment) (name value : String) : Environment :=
  if (environment.get? name).isSome then environment else environment ++ [(name, value)]

/-- The path of a variable. -/
def pathName (name : String) : String :=
  String.ofList (name.toList.map fun c => if c = '_' then '.' else ConfigValue.smallChar c)

/-- An integer of 64 bits with a sign. -/
def integer? (text : String) : Option Int :=
  let (negative, digits) := Binary64.signed text.toList
  if digits ≠ [] ∧ digits.all Text.isAsciiDigit then
    let value : Int := Text.digitsValue digits
    let value := if negative then -value else value
    if fitsSigned value then some value else none
  else none

/-- The value of a variable as a setting. -/
def value (text : String) : ConfigValue :=
  let word := String.ofList (text.toList.map Char.toLower)
  if word = "true" then .bool true
  else if word = "false" then .bool false
  else
    match integer? text, Binary64.parse? text with
    | some i, _ => .int i
    | none, some x => .float x
    | none, none => .text text

/-- The layer of the environment. -/
def layer (environment : Environment) : List (String × ConfigValue) :=
  environment.map fun (name, text) => (pathName name, value text)

end Environment

end Courier
