import Graftcode.Cpp
/-!
# Json — JSON values as the plugins read and build them

`nlohmann::json`, with the accessors the plugins use on it.  An object is a `std::map`, so its keys are distinct.
-/
namespace Graftcode

inductive Json where
  | null
  | bool (b : Bool)
  | number (n : Int)
  | string (s : Text)
  | array (items : List Json)
  | object (members : List (Text × Json))

namespace Json

/-- `json.find(key)`; anything but an object has no members. -/
def find? (key : Text) : Json → Option Json
  | object members => members.lookup key
  | _              => none

def isObject : Json → Bool
  | object _ => true
  | _        => false

/-- The string of `json[key]`, when there is one and it is a string. -/
def findString? (key : Text) (json : Json) : Option Text :=
  match json.find? key with
  | some (string s) => some s
  | _               => none

def findArray? (key : Text) (json : Json) : Option (List Json) :=
  match json.find? key with
  | some (array items) => some items
  | _                  => none

def findObject? (key : Text) (json : Json) : Option Json :=
  match json.find? key with
  | some (object members) => some (object members)
  | _                     => none

def strings : Json → List (Text × Text)
  | object members => members.filterMap fun member => match member.2 with
    | string s => some (member.1, s)
    | _        => none
  | _              => []

def ofStrings (attributes : List (Text × Text)) : Json := object (attributes.map fun a => (a.1, string a.2))

@[simp] theorem strings_ofStrings (attributes : List (Text × Text)) : (ofStrings attributes).strings = attributes := by
  rw [ofStrings, strings, List.filterMap_map]
  exact List.filterMap_some

end Json
end Graftcode
