import ProxyControl.Engine.Command
import ProxyControl.Proofs.Settings.Masking

/-!
# The arguments that the engine is launched with

The arguments tell four settings and nothing else: the port, in decimal digits behind its option,
and three switches, each of which stands on the command line if it is on.  So two stores launch
their engines alike exactly if they show the same four settings, whatever else they hold, whatever
their backends are and whichever of their readings fail.

Main results:

- Definition `EngineCommand.settings?`: the settings that a command line tells.
- Theorem `EngineCommand.settings?_argsOf`: they are those of the configuration.
- Theorem `SettingsStore.launch_by_four`: what the arguments of a store depend on.
-/

namespace ProxyControl

/-- A number is given by its decimal digits. -/
theorem toString_nat_injective {m n : Nat} (h : toString m = toString n) : m = n := by
  rw [Nat.toString_eq_ofList_toDigits, Nat.toString_eq_ofList_toDigits, String.ofList_inj] at h
  rw [← Nat.ofDigitChars_ten_toDigits (n := m), h, Nat.ofDigitChars_ten_toDigits]

/-- The decimal digits of a number are no word with another character in it. -/
theorem toString_nat_ne {word : String} {c : Char} (hc : c ∈ word.toList)
    (hdigit : c.isDigit = false) (n : Nat) : toString n ≠ word := by
  rintro rfl
  rw [Nat.toString_eq_ofList_toDigits, String.toList_ofList] at hc
  rw [Nat.isDigit_of_mem_toDigits (by decide) (by decide) hc] at hdigit
  cases hdigit

/-- The settings that an engine is launched with. -/
structure EngineSettings where
  port : UInt16
  negotiate : Bool
  directFallback : Bool
  alwaysUseConnect : Bool
  deriving DecidableEq, Repr

namespace Configuration

/-- The settings of a configuration that an engine is launched with. -/
def engineSettings (c : Configuration) : EngineSettings :=
  ⟨c.port, c.negotiate, c.directFallback, c.alwaysUseConnect⟩

end Configuration

namespace EngineCommand

/-- The argument behind an option. -/
def argument? (option : String) : List String → Option String
  | name :: value :: rest => if name = option then some value else argument? option (value :: rest)
  | _ => none

/-- The settings that arguments tell. -/
def settings? (args : List String) : Option EngineSettings :=
  (argument? "--port" args).map fun word =>
    { port := UInt16.ofNat (Nat.ofDigitChars 10 word.toList 0)
      negotiate := args.contains "--negotiate"
      directFallback := args.contains "--direct-fallback"
      alwaysUseConnect := args.contains "--always-use-connect" }

theorem argument?_argsOf (c : Configuration) :
    argument? "--port" (argsOf c) = some (toString c.port.toNat) :=
  rfl

/-- A switch is on the command line if it is on; the digits of the port are no switch. -/
theorem contains_argsOf {c : Configuration} {name : String} (h : '-' ∈ name.toList) :
    (argsOf c).contains name =
      (["--port", "--graceful-shutdown-timeout", toString drainSeconds] ++
        switch c.negotiate "--negotiate" ++ switch c.directFallback "--direct-fallback" ++
        switch c.alwaysUseConnect "--always-use-connect").contains name := by
  have hport : (name == toString c.port.toNat) = false :=
    beq_eq_false_iff_ne.2 (toString_nat_ne h rfl _).symm
  simp only [argsOf, List.cons_append, List.nil_append, List.contains_cons, hport, Bool.false_or]

/-- The settings of a configuration are read back from its arguments. -/
theorem settings?_argsOf (c : Configuration) :
    settings? (argsOf c) = some c.engineSettings := by
  have hport : UInt16.ofNat (Nat.ofDigitChars 10 (toString c.port.toNat).toList 0) = c.port := by
    rw [Nat.toString_eq_ofList_toDigits, String.toList_ofList, Nat.ofDigitChars_ten_toDigits,
      UInt16.ofNat_toNat]
  rw [settings?, argument?_argsOf, Option.map_some, hport, contains_argsOf (by decide),
    contains_argsOf (by decide), contains_argsOf (by decide), Configuration.engineSettings]
  cases c.negotiate <;> cases c.directFallback <;> cases c.alwaysUseConnect <;> rfl

/-- Configurations have the same arguments if they have the same four settings. -/
theorem argsOf_eq_iff {c d : Configuration} :
    argsOf c = argsOf d ↔ c.engineSettings = d.engineSettings := by
  constructor
  · intro h
    exact Option.some.inj (by rw [← settings?_argsOf, h, settings?_argsOf])
  · intro h
    obtain ⟨hport, hnegotiate, hfallback, hconnect⟩ := EngineSettings.mk.inj h
    rw [argsOf, argsOf, hport, hnegotiate, hfallback, hconnect]

end EngineCommand

/-! ## Ports that are read -/

namespace Reading

/-- A reading without a usable port: it failed, or found nothing, or a value of another type, or an
integer that is out of range. -/
def LacksPort (r : Reading) : Prop :=
  ∀ n : Int, r = .ok (some (.int n)) → n < 1024 ∨ 65535 ≤ n

/-- A reading, failed or not, gives the port of the value that it found. -/
theorem getD_port? (r : Reading) (default : UInt16) :
    r.port?.getD default = SettingKey.portOf default r.value? := by
  cases r with
  | error e => rfl
  | ok value => exact port?_ok default value

theorem LacksPort.getD_port? {r : Reading} (h : r.LacksPort) (default : UInt16) :
    r.port?.getD default = default := by
  rw [Reading.getD_port?]
  refine (SettingKey.shows_portOf default r.value?).otherwise fun port hport => ?_
  obtain ⟨hlow, hhigh, hvalue⟩ := hport
  rw [UInt16.le_iff_toNat_le] at hlow
  rw [UInt16.lt_iff_toNat_lt] at hhigh
  cases r with
  | error e => cases hvalue
  | ok value =>
      have hrange := h port.toNat (congrArg Except.ok hvalue)
      simp only [UInt16.toNat_ofNat] at hlow hhigh
      omega

end Reading

namespace SettingKey

/-- Between the bounds for stored ports there is only the default. -/
theorem portOf_mem_range {default : UInt16} (value : Option Json)
    (h : 1024 ≤ default.toNat ∧ default.toNat < 65535) :
    1024 ≤ (portOf default value).toNat ∧ (portOf default value).toNat < 65535 := by
  unfold portOf
  split
  case h_1 n =>
    split
    case isTrue hrange =>
      rw [UInt16.toNat_ofNat']
      omega
    case isFalse => exact h
  case h_2 => exact h

end SettingKey

/-! ## Stores -/

namespace SettingsStore

variable {σ τ : Type} [SettingsBackend σ] [SettingsBackend τ]

/-- The command line that starts a program with the settings of a store. -/
def engineCommand (s : SettingsStore σ) (program : Path) : EngineCommand :=
  .ofConfiguration program s.snapshot

/-- The settings of a store that an engine is launched with. -/
def engineSettings (s : SettingsStore σ) : EngineSettings :=
  ⟨s.port, s.negotiate, s.directFallback, s.alwaysUseConnect⟩

/-- The keys of these settings. -/
def launchKeys : List SettingKey :=
  [.port, .negotiate, .directFallback, .alwaysUseConnect]

/-- Two stores, perhaps on different backends, launch their engines by four settings each. -/
structure LaunchByFour (s : SettingsStore σ) (t : SettingsStore τ) (program other : Path) :
    Prop where
  /-- The arguments are the same exactly if the four settings are. -/
  same_iff : (s.engineCommand program).args = (t.engineCommand other).args ↔
    s.port = t.port ∧ s.negotiate = t.negotiate ∧ s.directFallback = t.directFallback ∧
      s.alwaysUseConnect = t.alwaysUseConnect
  /-- No other key is looked at, and no other default. -/
  no_other_key : s.defaults.port = t.defaults.port →
    (∀ key ∈ launchKeys, s.read key = t.read key) →
    (s.engineCommand program).args = (t.engineCommand other).args
  /-- A port that cannot be used counts as none. -/
  no_usable_port : (s.read .port).LacksPort → t.read .port = .ok none →
    s.defaults.port = t.defaults.port →
    (∀ key ∈ launchKeys, key ≠ .port → s.read key = t.read key) →
    (s.engineCommand program).args = (t.engineCommand other).args
  /-- The port argument is in the range of stored ports if the default is. -/
  port_range : 1024 ≤ s.defaults.port.toNat ∧ s.defaults.port.toNat < 65535 →
    ∃ n, 1024 ≤ n ∧ n < 65535 ∧
      EngineCommand.argument? "--port" (s.engineCommand program).args = some (toString n)
  /-- The four settings are read back from the arguments. -/
  told : EngineCommand.settings? (s.engineCommand program).args = some s.engineSettings

theorem args_engineCommand_eq_iff {s : SettingsStore σ} {t : SettingsStore τ}
    {program other : Path} :
    (s.engineCommand program).args = (t.engineCommand other).args ↔
      s.engineSettings = t.engineSettings :=
  EngineCommand.argsOf_eq_iff

/-- The same port and the same readings of the switches give the same arguments. -/
theorem args_engineCommand_eq {s : SettingsStore σ} {t : SettingsStore τ} {program other : Path}
    (hport : s.port = t.port)
    (hread : ∀ key ∈ launchKeys, key ≠ .port → s.read key = t.read key) :
    (s.engineCommand program).args = (t.engineCommand other).args := by
  rw [args_engineCommand_eq_iff, engineSettings, engineSettings, hport, negotiate, negotiate,
    directFallback, directFallback, alwaysUseConnect, alwaysUseConnect,
    hread .negotiate (by decide) (by decide), hread .directFallback (by decide) (by decide),
    hread .alwaysUseConnect (by decide) (by decide)]

/-- The arguments that an engine is launched with tell four settings of the store and nothing else,
whatever the backends hold and whichever readings fail. -/
theorem launch_by_four (s : SettingsStore σ) (t : SettingsStore τ) (program other : Path) :
    s.LaunchByFour t program other where
  same_iff := by
    rw [args_engineCommand_eq_iff, engineSettings, engineSettings, EngineSettings.mk.injEq]
  no_other_key hdefault hread := by
    have hport : s.port = t.port := by
      rw [port, port, hdefault, hread .port (by decide)]
    exact args_engineCommand_eq hport fun key hkey _ => hread key hkey
  no_usable_port hlacks hnone hdefault hread := by
    have hport : s.port = t.port := by
      rw [port, port, hlacks.getD_port?, hnone, hdefault]
      rfl
    exact args_engineCommand_eq hport hread
  port_range hdefault := by
    have hport : s.snapshot.port = SettingKey.portOf s.defaults.port (s.read .port).value? :=
      Reading.getD_port? _ _
    obtain ⟨hlow, hhigh⟩ := SettingKey.portOf_mem_range (s.read .port).value? hdefault
    rw [← hport] at hlow hhigh
    exact ⟨s.snapshot.port.toNat, hlow, hhigh, EngineCommand.argument?_argsOf s.snapshot⟩
  told := EngineCommand.settings?_argsOf s.snapshot

end SettingsStore
end ProxyControl
