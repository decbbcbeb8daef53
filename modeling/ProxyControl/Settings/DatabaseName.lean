import ProxyControl.Settings.Error
import ProxyControl.Text.Pieces

/-!
# Names of databases

A database is named by a path or by a URI.  A URI names a file behind an authority that
may only be the local host; parameters say how the file is opened, and a fragment does
not count.  Bytes may be written as percent signs with two hexadecimal digits; a NUL
written so ends the part of the URI that it stands in.

Some names stand for private databases, which are kept in memory and gone when they are
closed.

Main results:

- Definition `DatabaseName.ofPath`: what a name stands for, or why it stands for nothing.
- Definition `DatabaseName.isPrivate`: the names of private databases.
-/

namespace ProxyControl

/-- How a database is accessed. -/
inductive DatabaseAccess where
  /-- It is only read. -/
  | reading
  /-- It is read and written. -/
  | writing
  /-- It is read and written, and made if it is missing. -/
  | making
  /-- It is made in memory. -/
  | inMemory
  deriving DecidableEq, Repr

namespace DatabaseAccess

/-- The word for an access in a URI. -/
def word : DatabaseAccess → String
  | reading => "ro"
  | writing => "rw"
  | making => "rwc"
  | inMemory => "memory"

/-- Every access. -/
def all : List DatabaseAccess := [reading, writing, making, inMemory]

/-- Whether an access may be replaced by another one: it must not be widened. -/
def mayBecome : DatabaseAccess → DatabaseAccess → Bool
  | reading, writing => false
  | reading, making => false
  | writing, making => false
  | _, _ => true

end DatabaseAccess

/-- A parameter of a URI. -/
structure Parameter where
  name : List UInt8
  value : List UInt8
  deriving DecidableEq, Repr

/-- What a name stands for. -/
structure DatabaseName where
  /-- The file, empty for a private database without a name. -/
  file : Path
  access : DatabaseAccess := .making
  /-- The program's connections to a private database share its content. -/
  shared : Bool := false
  /-- The kind of storage, if the name says it. -/
  storage : Option (List UInt8) := none
  /-- All parameters of the name. -/
  parameters : List Parameter := []
  deriving DecidableEq, Repr

namespace DatabaseName

/-! ## Bytes -/

/-- The value of a hexadecimal digit. -/
def hexDigit? (b : UInt8) : Option Nat :=
  if 48 ≤ b ∧ b ≤ 57 then some (b.toNat - 48)
  else if 97 ≤ b ∧ b ≤ 102 then some (b.toNat - 87)
  else if 65 ≤ b ∧ b ≤ 70 then some (b.toNat - 55)
  else none

/-- The value of two hexadecimal digits. -/
def hexPair? (a b : UInt8) : Option Nat := do
  return (← hexDigit? a) * 16 + (← hexDigit? b)

/-- The bytes that a part of a URI stands for. -/
def decode : List UInt8 → List UInt8
  | 37 :: a :: b :: rest =>
    match hexPair? a b with
    | some 0 => []
    | some n => UInt8.ofNat n :: decode rest
    | none => 37 :: decode (a :: b :: rest)
  | b :: rest => b :: decode rest
  | [] => []

/-- The bytes of a text. -/
def ofText (text : String) : List UInt8 :=
  Text.Utf8.encode text

/-! ## Parts of a URI -/

/-- What a URI begins with. -/
def scheme : List UInt8 := ofText "file:"

/-- What stands behind the authority of a URI.  The authority stands behind two slashes
and goes up to the next one; it is empty or the local host. -/
def withoutAuthority (uri : List UInt8) : Except DatabaseError (List UInt8) :=
  match uri with
  | 47 :: 47 :: rest =>
    let authority := rest.takeWhile fun b => b ≠ Path.slash
    if authority = [] ∨ authority = ofText "localhost" then
      .ok (rest.dropWhile fun b => b ≠ Path.slash)
    else .error (.foreignAuthority authority)
  | _ => .ok uri

/-- The parameter that a part of a URI stands for.  One without a name does not count. -/
def parameter? (part : List UInt8) : Option Parameter :=
  let (name, value) := Text.Pieces.cut 61 part
  let name := decode name
  if name.isEmpty then none else some ⟨name, decode (value.getD [])⟩

/-- The parameters between ampersands. -/
def parametersOf (query : List UInt8) : List Parameter :=
  (Text.Pieces.split 38 query).filterMap parameter?

/-! ## Parameters -/

/-- The kinds of storage: files with several ways of locking, and memory. -/
def storages : List (List UInt8) :=
  ["unix", "unix-none", "unix-dotfile", "unix-excl", "memdb"].map ofText

/-- The most that a number in a parameter may be. -/
def maxNumber : Nat := 0x7FFFFFFF

/-- The number of digits in a base; one that is too large counts as zero. -/
def numberOf (base : Nat) (digits : List Nat) : Nat :=
  let n := digits.foldl (fun n digit => n * base + digit) 0
  if maxNumber < n then 0 else n

/-- The leading items of a list that have a value. -/
def leading (value? : UInt8 → Option Nat) : List UInt8 → List Nat
  | [] => []
  | b :: rest =>
    match value? b with
    | some n => n :: leading value? rest
    | none => []

/-- The value of a decimal digit. -/
def digit? (b : UInt8) : Option Nat :=
  (hexDigit? b).filter fun n => n < 10

/-- The number that a value begins with: hexadecimal digits behind a zero and an x, or
decimal digits. -/
def number (value : List UInt8) : Nat :=
  match value with
  | 48 :: x :: rest =>
    let digits := leading hexDigit? rest
    if (x = 88 ∨ x = 120) ∧ digits ≠ [] then numberOf 16 digits
    else numberOf 10 (leading digit? value)
  | _ => numberOf 10 (leading digit? value)

/-- Whether a value means yes: a word for it, or a number whose lowest byte is not zero. -/
def isYes (value : List UInt8) : Bool :=
  let lower := String.ofList ((Text.Utf8.lossy value).toList.map Char.toLower)
  lower = "on" || lower = "yes" || lower = "true" || number value % 256 ≠ 0

/-- The value of a parameter; of several of one name the first one counts. -/
def value? (n : DatabaseName) (parameter : String) : Option (List UInt8) :=
  (n.parameters.find? fun p => p.name = ofText parameter).map Parameter.value

/-- Whether a parameter says yes. -/
def isSet (n : DatabaseName) (parameter : String) : Bool :=
  (n.value? parameter).any isYes

/-- The name after a parameter on storage, sharing or access.  Of several parameters on
one of these the last one counts. -/
def apply (n : DatabaseName) (p : Parameter) : Except DatabaseError DatabaseName :=
  if p.name = ofText "vfs" then .ok { n with storage := some p.value }
  else if p.name = ofText "cache" then
    if p.value = ofText "shared" then .ok { n with shared := true }
    else if p.value = ofText "private" then .ok { n with shared := false }
    else .error (.unknownMode "cache" p.value)
  else if p.name = ofText "mode" then
    match DatabaseAccess.all.find? fun a => p.value = ofText a.word with
    | none => .error (.unknownMode "access" p.value)
    | some access =>
      if n.access.mayBecome access then .ok { n with access := access }
      else .error (.widenedMode "access" p.value)
  else .ok n

/-- The name, if its storage is known. -/
def checkStorage (n : DatabaseName) : Except DatabaseError DatabaseName :=
  match n.storage with
  | none => .ok n
  | some storage => if storage ∈ storages then .ok n else .error (.unknownStorage storage)

/-- What a URI stands for, from behind its scheme. -/
def ofUri (uri : List UInt8) : Except DatabaseError DatabaseName := do
  let rest ← withoutAuthority uri
  let (file, query) := Text.Pieces.cut 63 (rest.takeWhile fun b => b ≠ 35)
  let parameters := parametersOf (query.getD [])
  let name ← parameters.foldlM apply { file := ⟨decode file⟩, parameters := parameters }
  name.checkStorage

/-- What a path stands for as the name of a database. -/
def ofPath (path : Path) : Except DatabaseError DatabaseName :=
  if path.bytes.take scheme.length = scheme then ofUri (path.bytes.drop scheme.length)
  else .ok { file := path }

/-! ## Private databases -/

/-- Whether the storage of the name is of a kind. -/
def isStoredAs (n : DatabaseName) (kind : String) : Bool :=
  n.storage = some (ofText kind)

/-- Whether the name stands for a place in memory, whatever its storage is. -/
def isInMemory (n : DatabaseName) : Bool :=
  n.file.isEmpty || n.file = .ofText ":memory:" || n.access = .inMemory

/-- Whether the name stands for a private database. -/
def isPrivate (n : DatabaseName) : Bool :=
  n.isInMemory || n.isStoredAs "memdb"

/-- The byte of a backslash. -/
def backslash : UInt8 := 92

/-- Whether a name in memory is one for all connections: more than a slash or a backslash
that it begins with. -/
def isCommon (file : Path) : Bool :=
  match file.bytes with
  | b :: _ :: _ => b = Path.slash ∨ b = backslash
  | _ => false

/-- Whether the program's connections to a private database share its content.  A private
database without a name is never shared; one that its storage keeps in memory is shared
also when its name is common. -/
def isShared (n : DatabaseName) : Bool :=
  !n.file.isEmpty && (n.shared || (!n.isInMemory && isCommon n.file))

/-! ## Access -/

/-- Whether the file is said never to change. -/
def isFrozen (n : DatabaseName) : Bool :=
  !n.isInMemory && n.isSet "immutable"

/-- Whether the database may only be read. -/
def isReadOnly (n : DatabaseName) : Bool :=
  n.access = .reading || n.isFrozen

/-- Whether the file may be made. -/
def mayMake (n : DatabaseName) : Bool :=
  n.access = .making

/-- The file that a new database takes its rights from. -/
def model? (n : DatabaseName) : Option Path :=
  (n.value? "modeof").map Path.mk

/-! ## Locks -/

/-- Whether no locks are taken. -/
def isUnlocked (n : DatabaseName) : Bool :=
  n.isFrozen || n.isSet "nolock"

/-- Whether the lock is a file beside the database. -/
def isLockedByFile (n : DatabaseName) : Bool :=
  !n.isUnlocked && n.isStoredAs "unix-dotfile"

/-- Whether a lock can be taken to write: locks on the file itself need the right to
write into it. -/
def mayReserve (n : DatabaseName) : Bool :=
  n.access ≠ .reading || n.isUnlocked || n.isStoredAs "unix-none" || n.isStoredAs "unix-dotfile"

/-- Whether changes may be kept in a log, whose index is shared under a lock. -/
def mayLog (n : DatabaseName) : Bool :=
  !(n.isUnlocked || n.isStoredAs "unix-none" || n.isStoredAs "unix-dotfile")

/-- Whether the index of the log is a file beside the database. -/
def hasIndexFile (n : DatabaseName) : Bool :=
  !n.isStoredAs "unix-excl"

/-- Whether the index of the log may only be read. -/
def readsIndex (n : DatabaseName) : Bool :=
  n.isSet "readonly_shm"

end DatabaseName
end ProxyControl
