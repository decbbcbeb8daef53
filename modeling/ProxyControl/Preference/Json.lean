import ProxyControl.Json.Reader
import ProxyControl.Json.Writer
import ProxyControl.Preference.Value

/-!
# Preference values as JSON

Preference values are written as plain JSON without tags, and read back from it.  There
is no preference value for null, so a text with a null anywhere in its value is refused
as a whole.  An integer beyond the signed 64-bit range is read as a real.

Main results:

- Definition `PrefValue.ofText`: the value of a JSON text, or why there is none.
- Definition `PrefValue.toText`: the JSON text of a value.
-/

namespace ProxyControl
namespace PrefValue

/-! ## From JSON -/

/-- Why a text is not a preference value. -/
inductive ReadError where
  /-- The text is not JSON. -/
  | malformed
  /-- A null stands in it. -/
  | null
  deriving DecidableEq, Repr

/-- The description of a value that is not a preference value. -/
def ReadError.message : ReadError → String
  | malformed => ""
  | null => "data did not match any variant of untagged enum PrefValue"

mutual

/-- The preference value of a JSON value without nulls. -/
def ofJson? : Json → Option PrefValue
  | .null => none
  | .bool b => some (bool b)
  | .int n =>
    if IntegerRange.fits n then some (int (Int64.ofInt n))
    else some (real (Binary64.ofInt n))
  | .real x => some (real x)
  | .str s => some (str s)
  | .arr items => (ofItems? items).map arr
  | .obj members => (ofMembers? members).map fun entries => dict (Dict.ofList entries)

/-- The preference values of the items of an array. -/
def ofItems? : List Json → Option (List PrefValue)
  | [] => some []
  | item :: rest =>
    match ofJson? item, ofItems? rest with
    | some value, some values => some (value :: values)
    | _, _ => none

/-- The members of an object with preference values. -/
def ofMembers? : List (String × Json) → Option (List (String × PrefValue))
  | [] => some []
  | (key, item) :: rest =>
    match ofJson? item, ofMembers? rest with
    | some value, some values => some ((key, value) :: values)
    | _, _ => none

end

/-- The value of a JSON text.  What follows the value is looked at only after the value
itself has been accepted. -/
def ofText (text : String) : Except ReadError PrefValue :=
  match Json.read text.toList with
  | none => .error .malformed
  | some (json, rest) =>
    match ofJson? json with
    | none => .error .null
    | some value => if (Json.skipGap rest).isEmpty then .ok value else .error .malformed

/-! ## To JSON -/

mutual

/-- The JSON value of a preference value; one that is not read is its description. -/
def toJson : PrefValue → Json
  | bool b => .bool b
  | int n => .int n.toInt
  | real x => .real x
  | str s => .str s
  | arr items => .arr (itemsToJson items)
  | dict entries => .obj (entriesToJson entries)
  | unreadable description => .str description

/-- The JSON values of the items of an array. -/
def itemsToJson : List PrefValue → List Json
  | [] => []
  | item :: rest => item.toJson :: itemsToJson rest

/-- The members of a dictionary. -/
def entriesToJson : List (String × PrefValue) → List (String × Json)
  | [] => []
  | (key, value) :: rest => (key, value.toJson) :: entriesToJson rest

end

/-- The JSON text of a value. -/
def toText (value : PrefValue) : String :=
  value.toJson.toText

end PrefValue
end ProxyControl
