import ProxyControl.Decimal.Binary64
import ProxyControl.Dict

/-!
# Preference values

A system preference is a boolean, a number, a text, an array or a dictionary.  A value
of any other type is kept as its description, so that its key stays visible.

Flags come back from the system as booleans or as numbers.  Values are therefore
compared with `PrefValue.same`: booleans, integers and reals are compared as numbers,
except that two integers are compared exactly and that a real is the same as one with
the same bits.

Dictionaries inside dictionaries form a tree whose entries are reached by paths.  A path
is written with slashes; empty components do not count.

Main results:

- Definition `PrefValue.same`: when two values mean the same.
- Definitions `PrefValue.asText?`, `PrefValue.asDict?`: typed access.
- Definition `PrefValue.updateDict`: a change inside a dictionary value.
- Definition `PrefPath.components`: the components of a written path.
- Definitions `PrefDict.getPath?`, `PrefDict.setPath`: what is reached through a path, and the
  tree with a dictionary put there.
-/

namespace ProxyControl

/-- A value of the system preferences. -/
inductive PrefValue where
  /-- A truth value. -/
  | bool (b : Bool)
  /-- A signed integer of 64 bits. -/
  | int (n : Int64)
  /-- A floating point number. -/
  | real (x : Binary64)
  /-- A text. -/
  | str (s : String)
  /-- An array. -/
  | arr (items : List PrefValue)
  /-- A dictionary, as its entries in key order. -/
  | dict (entries : List (String × PrefValue))
  /-- A value of a type that is not read, as its description. -/
  | unreadable (description : String)
  deriving Repr, Inhabited

/-- A dictionary of preference values. -/
abbrev PrefDict := Dict PrefValue

namespace PrefValue

/-! ## Well-formed values -/

mutual

/-- Every dictionary inside the value has its keys in order. -/
def Ordered : PrefValue → Prop
  | arr items => ItemsOrdered items
  | dict entries => Dict.Ordered entries ∧ EntriesOrdered entries
  | _ => True

/-- Every dictionary inside the items has its keys in order. -/
def ItemsOrdered : List PrefValue → Prop
  | [] => True
  | item :: rest => item.Ordered ∧ ItemsOrdered rest

/-- Every dictionary inside the values of the entries has its keys in order. -/
def EntriesOrdered : List (String × PrefValue) → Prop
  | [] => True
  | (_, value) :: rest => value.Ordered ∧ EntriesOrdered rest

end

theorem entriesOrdered_iff {entries : List (String × PrefValue)} :
    EntriesOrdered entries ↔ ∀ entry ∈ entries, entry.2.Ordered := by
  induction entries with
  | nil => simp [EntriesOrdered]
  | cons entry rest ih => rw [EntriesOrdered, ih, List.forall_mem_cons]

/-! ## Typed access -/

/-- The content of a text. -/
def asText? : PrefValue → Option String
  | str s => some s
  | _ => none

/-- The entries of a dictionary. -/
def asDict? : PrefValue → Option PrefDict
  | dict entries => some entries
  | _ => none

/-- A dictionary value with its entries changed, if the value is a dictionary. -/
def updateDict (change : PrefDict → PrefDict) : PrefValue → Option PrefValue
  | dict entries => some (dict (change entries))
  | _ => none

/-- The number that a boolean or a number stands for. -/
def number? : PrefValue → Option Binary64
  | bool b => some (Binary64.ofInt (if b then 1 else 0))
  | int n => some (Binary64.ofInt n.toInt)
  | real x => some x
  | _ => none

/-! ## Sameness -/

mutual

/-- Whether two values mean the same. -/
def same : PrefValue → PrefValue → Bool
  | int m, int n => m == n
  | str s, str t => s == t
  | arr xs, arr ys => sameItems xs ys
  | dict d, dict e => sameEntries d e
  | real x, real y => x == y || x.numEq y
  | unreadable s, unreadable t => s == t
  | a, b =>
    match a.number?, b.number? with
    | some x, some y => x.numEq y
    | _, _ => false

/-- Whether two lists of items mean the same, place by place. -/
def sameItems : List PrefValue → List PrefValue → Bool
  | [], [] => true
  | a :: as, b :: bs => a.same b && sameItems as bs
  | _, _ => false

/-- Whether two lists of entries have the same keys with the same values, place by
place. -/
def sameEntries : List (String × PrefValue) → List (String × PrefValue) → Bool
  | [], [] => true
  | (k, a) :: as, (l, b) :: bs => k == l && a.same b && sameEntries as bs
  | _, _ => false

end

/-! ## Building values -/

/-- The integer of a port number. -/
def ofPort (port : UInt16) : PrefValue :=
  int (Int64.ofNat port.toNat)

/-- The array of a list of texts. -/
def ofTexts (texts : List String) : PrefValue :=
  arr (texts.map str)

end PrefValue

/-! ## Trees -/

namespace PrefPath

/-- The components of a text with slashes, where some characters of the first component
have been read already. -/
def componentsFrom (current : List Char) : List Char → List String
  | [] => if current.isEmpty then [] else [String.ofList current]
  | c :: rest =>
    if c = '/' then
      if current.isEmpty then componentsFrom [] rest
      else String.ofList current :: componentsFrom [] rest
    else componentsFrom (current ++ [c]) rest

/-- The components of a written path that are not empty. -/
def components (path : String) : List String :=
  componentsFrom [] path.toList

/-- The written form of a path: a slash before each component. -/
def write : List String → String
  | [] => ""
  | component :: rest => "/" ++ component ++ write rest

end PrefPath

namespace PrefDict

/-- The value reached through a path. -/
def getPath? (tree : PrefDict) : List String → Option PrefValue
  | [] => none
  | [last] => tree.find? last
  | first :: rest => do
    let child ← (← tree.find? first).asDict?
    getPath? child rest

/-- The dictionary under a key, empty if there is none. -/
def child (tree : PrefDict) (key : String) : PrefDict :=
  ((tree.find? key).bind PrefValue.asDict?).getD []

/-- The tree with a dictionary at a path.  Missing levels are made, and a value on the
way that is no dictionary is replaced by one. -/
def setPath (tree : PrefDict) : List String → PrefDict → PrefDict
  | [], _ => tree
  | [last], dict => tree.insert last (.dict dict)
  | first :: rest, dict => tree.insert first (.dict (setPath (tree.child first) rest dict))

end PrefDict

end ProxyControl
