import Mathlib

/-!
# JSON values

The messages of the signaling protocol are `nlohmann::json` objects. The parser has run already, so
a value is what it produced: an object has distinct keys, and a number remembers whether it was
written as an integer. Reading a field never fails silently in the source: `contains` and `find`
answer whether it is there, `at` and `get` throw, which is `none` here.
-/

namespace CrossDesk

/-- A JSON value. -/
inductive Json where
  | null
  | bool (value : Bool)
  | int (value : Int)
  | float (value : ℚ)
  | str (value : String)
  | arr (items : List Json)
  | obj (fields : List (String × Json))

namespace Json

/-- The field of an object, if it is there. -/
def find (key : String) : Json → Option Json
  | obj fields => (fields.find? (fun field => field.1 == key)).map Prod.snd
  | _ => none

def contains (key : String) (j : Json) : Bool := (j.find key).isSome

/-- `get<std::string>()`, which throws unless the value is a text. -/
def text : Json → Option String
  | str value => some value
  | _ => none

/-- `get<bool>()`. -/
def truth : Json → Option Bool
  | bool value => some value
  | _ => none

/-- The fields of an object. -/
def asObject : Json → Option (List (String × Json))
  | obj fields => some fields
  | _ => none

/-- `is_number_integer() && *this == n`. -/
def isInteger (n : Int) : Json → Bool
  | int value => value == n
  | _ => false

/-- `*this == n`, which compares numbers of either kind. -/
def equalsNumber (n : Int) : Json → Bool
  | int value => value == n
  | float value => value == n
  | _ => false

/-- `message[key] = value`. -/
def set (key : String) (value : Json) : Json → Json
  | obj fields => obj (fields.filter (fun field => field.1 != key) ++ [(key, value)])
  | j => j

/-- `message.update(fields)`. -/
def update (j : Json) (fields : List (String × Json)) : Json :=
  fields.foldl (fun j field => j.set field.1 field.2) j

/-- `GetStringField`: the text of a field. -/
def getStringField (j : Json) (key : String) : Option String := (j.find key).bind text

end Json

end CrossDesk
