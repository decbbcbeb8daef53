import ProxyControl.Decimal.Binary64
import ProxyControl.Dict

/-!
# JSON values

A JSON value keeps integers apart from reals, and keeps the members of an object in the
order of the text, repeated keys included.  Its canonical form sorts the members by key
and lets the last of a repeated key count.

Main results:

- Definition `Json.canonical`: the canonical form.
- Definitions `Json.asInt?`, `Json.asBool?`, `Json.asText?`: what a value is read as.
- Definition `Json.hasNull`: whether a null stands anywhere in a value.
-/

namespace ProxyControl

/-- A JSON value as it stands in a text. -/
inductive Json where
  | null
  | bool (b : Bool)
  | int (n : Int)
  | real (x : Binary64)
  | str (s : String)
  | arr (items : List Json)
  | obj (members : List (String × Json))
  deriving Repr, Inhabited

namespace Json

/-! ## Canonical form -/

mutual

/-- The value with the members of every object sorted by key, the last of a repeated key
counting. -/
def canonical : Json → Json
  | arr items => arr (canonicalItems items)
  | obj members => obj (Dict.ofList (canonicalMembers members))
  | value => value

/-- The canonical forms of the items of an array. -/
def canonicalItems : List Json → List Json
  | [] => []
  | item :: rest => item.canonical :: canonicalItems rest

/-- The members of an object with their values in canonical form. -/
def canonicalMembers : List (String × Json) → List (String × Json)
  | [] => []
  | (key, value) :: rest => (key, value.canonical) :: canonicalMembers rest

end

/-! ## Nulls -/

mutual

/-- Whether a null stands anywhere in a value, a replaced member included. -/
def hasNull : Json → Bool
  | null => true
  | arr items => itemsHaveNull items
  | obj members => membersHaveNull members
  | _ => false

/-- Whether a null stands in one of the items. -/
def itemsHaveNull : List Json → Bool
  | [] => false
  | item :: rest => item.hasNull || itemsHaveNull rest

/-- Whether a null stands in one of the members. -/
def membersHaveNull : List (String × Json) → Bool
  | [] => false
  | (_, value) :: rest => value.hasNull || membersHaveNull rest

end

/-! ## Typed access -/

/-- The value of an integer of the signed 64-bit range. -/
def asInt? : Json → Option Int
  | int n => if IntegerRange.fits n then some n else none
  | _ => none

/-- The value of a boolean. -/
def asBool? : Json → Option Bool
  | bool b => some b
  | _ => none

/-- The content of a string. -/
def asText? : Json → Option String
  | str s => some s
  | _ => none

end Json
end ProxyControl
