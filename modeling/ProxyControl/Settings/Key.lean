import ProxyControl.Json.Basic
import ProxyControl.Text.Pieces

/-!
# Setting keys

The six settings that are kept, their names, and the conversion of text to the type of a
setting.

Main results:

- Definition `SettingKey.ofName?`: the key of a name.
- Definition `SettingKey.convert?`: the value that a text stands for.
-/

namespace ProxyControl

/-- A setting. -/
inductive SettingKey where
  /-- Start at login. -/
  | autostart
  /-- The port that the engine listens on. -/
  | port
  /-- The proxy configuration file. -/
  | pacFile
  /-- Negotiated authentication. -/
  | negotiate
  /-- Every connection is tunnelled. -/
  | alwaysUseConnect
  /-- Connect directly when the next proxy fails. -/
  | directFallback
  deriving DecidableEq, Repr

namespace SettingKey

/-- The name that a setting is stored under. -/
def name : SettingKey → String
  | autostart => "Autostart"
  | port => "Port"
  | pacFile => "PacFile"
  | negotiate => "Negotiate"
  | alwaysUseConnect => "alwaysUseConnect"
  | directFallback => "DirectFallback"

/-- All settings. -/
def all : List SettingKey :=
  [autostart, port, pacFile, negotiate, alwaysUseConnect, directFallback]

/-- The setting of a name. -/
def ofName? (name : String) : Option SettingKey :=
  all.find? fun key => key.name = name

/-- The name of a setting leads back to it. -/
@[simp]
theorem ofName?_name (key : SettingKey) : ofName? key.name = some key := by
  cases key <;> decide

/-! ## Text to value -/

/-- The value of a text of one or more decimal digits. -/
def digits? (cs : List Char) : Option Nat :=
  if !cs.isEmpty && cs.all Char.isDigit then
    some (cs.foldl (fun n c => n * 10 + (c.toNat - 48)) 0)
  else none

/-- The value of decimal digits behind an optional sign, if it fits 64 bits. -/
def integer? (cs : List Char) : Option Int := do
  let n ← match cs with
    | '-' :: rest => (digits? rest).map fun n => -(n : Int)
    | '+' :: rest => (digits? rest).map Int.ofNat
    | _ => (digits? cs).map Int.ofNat
  if IntegerRange.fits n then some n else none

/-- The words that switch a setting on. -/
def onWords : List String := ["1", "true", "yes", "on"]

/-- The words that switch a setting off. -/
def offWords : List String := ["0", "false", "no", "off"]

/-- The truth value of a word, whatever the case of its ASCII letters. -/
def toggle? (cs : List Char) : Option Bool :=
  let word := String.ofList (cs.map Char.toLower)
  if onWords.contains word then some true
  else if offWords.contains word then some false
  else none

/-- The value that a text stands for.  Blanks around a number or a word do not count;
the text of a path is kept as it is. -/
def convert? (key : SettingKey) (raw : String) : Option Json :=
  let trimmed := Text.Blank.trimList raw.toList
  match key with
  | port => (integer? trimmed).map Json.int
  | pacFile => some (.str raw)
  | _ => (toggle? trimmed).map Json.bool

end SettingKey
end ProxyControl
