import ProxyControl.Proofs.Settings.Record
import ProxyControl.Settings.Database

/-!
# Rows that cannot be used

Any program may have put anything under the names of the settings.  The configuration of a
database shows what a row says if that can be used, and otherwise the default, each setting for
itself.  Reading changes nothing, so a row that cannot be used stays as it is.

Main results:

- Definitions `Cell.GivesPort`, `Cell.GivesPath`, `Cell.SwitchesOn`: the rows that can be used.
- Theorem `DatabaseFile.stored?_eq_some_iff`: what is read from a row.
- Theorem `SettingsStore.snapshot_masked`: the configuration of a database, whatever is in it.
-/

namespace ProxyControl

/-! ## Rows -/

namespace DatabaseFile

/-- The stored value under a key, if there is such a row. -/
def cell? (f : DatabaseFile) (key : String) : Option Cell :=
  f.rows?.toOption.bind fun rows => rows.find? key

/-- The cell of a key is looked up in the rows of the table. -/
theorem cell?_of_table {f : DatabaseFile} {rows : Dict Cell} (h : f.name = .table rows)
    (key : String) : f.cell? key = rows.find? key := by
  rw [cell?, rows?_of_table h]
  rfl

/-- What reading a key gives if failures do not count. -/
def stored? (f : DatabaseFile) (key : String) : Option Json :=
  (f.cell? key).bind fun cell => cell.value?.toOption

/-- A reading shows what is stored. -/
theorem value?_get (f : DatabaseFile) (key : String) :
    Reading.value? (SettingsBackend.get f key) = f.stored? key := by
  simp only [SettingsBackend.get, get, stored?, cell?]
  cases f.rows? with
  | error e => rfl
  | ok rows =>
      simp only [bind, Except.bind, Except.toOption, Option.bind_some]
      cases rows.find? key with
      | none => rfl
      | some cell =>
          simp only [Option.bind_some]
          cases cell.value? <;> rfl

/-- A value without parts is read from a row whose text spells it. -/
theorem stored?_eq_some_iff {f : DatabaseFile} {key : String} {v : Json} (hleaf : v.isLeaf = true)
    (hnull : v ≠ .null) :
    f.stored? key = some v ↔
      ∃ text, f.cell? key = some (.text text) ∧ Json.Stands text.toList v := by
  have hdepth : v.depth ≤ Json.maxDepth := by
    cases v <;> first | exact Nat.zero_le _ | cases hleaf
  have hvalue (text : String) :
      (Cell.text text).value?.toOption = some v ↔ Json.Stands text.toList v := by
    have hread : Json.ofText? text = some v ↔ Json.Stands text.toList v := by
      rw [Json.ofText?_eq_some_iff, and_iff_left hdepth]
    rw [← hread, Cell.value?, Cell.text?, Except.map, Except.toOption]
    cases Json.ofText? text with
    | none => simpa using Ne.symm hnull
    | some j => simpa using Json.canonical_eq_iff hleaf
  rw [stored?, Option.bind_eq_some_iff]
  constructor
  · rintro ⟨cell, hcell, hstored⟩
    cases cell with
    | text text => exact ⟨text, hcell, (hvalue text).1 hstored⟩
    | _ => cases hstored
  · rintro ⟨text, hcell, hstands⟩
    exact ⟨_, hcell, (hvalue text).2 hstands⟩

end DatabaseFile

/-! ## What rows give -/

namespace Cell

/-- A row gives a port: its text is the digits of the port, with blanks around them. -/
def GivesPort (row : Option Cell) (port : UInt16) : Prop :=
  1024 ≤ port ∧ port < 65535 ∧ ∃ text before after, row = some (.text text) ∧
    Json.Gap before ∧ Json.Gap after ∧
    text.toList = before ++ (Nat.toDigits 10 port.toNat ++ after)

/-- A row gives a path: its text is JSON for a string. -/
def GivesPath (row : Option Cell) (path : Path) : Prop :=
  ∃ text content, row = some (.text text) ∧ Json.Stands text.toList (.str content) ∧
    path = .ofText content

/-- A row switches a setting on: its text is JSON for true. -/
def SwitchesOn (row : Option Cell) : Prop :=
  ∃ text, row = some (.text text) ∧ Json.Stands text.toList (.bool true)

end Cell

/-- What is shown is what is given, and the default if nothing is. -/
structure Shows {α : Type} (gives : α → Prop) (default shown : α) : Prop where
  given : ∀ a, gives a → shown = a
  otherwise : (∀ a, ¬ gives a) → shown = default

/-- What is shown depends only on what can be given. -/
theorem Shows.congr {α : Type} {gives gives' : α → Prop} {default shown : α}
    (h : Shows gives default shown) (hgives : ∀ a, gives' a ↔ gives a) :
    Shows gives' default shown where
  given a ha := h.given a ((hgives a).1 ha)
  otherwise hnone := h.otherwise fun a ha => hnone a ((hgives a).2 ha)

/-- Every port is read as an integer. -/
theorem Json.isWord_port (port : UInt16) : IsWord port.toNat := by
  have hlt := port.toNat_lt
  simp only [IsWord, IntegerRange.signedBound, IntegerRange.unsignedBound]
  omega

namespace SettingKey

/-- A port is shown if it is an integer from 1024 up to 65534; anything else leaves the default. -/
theorem shows_portOf (default : UInt16) (value : Option Json) :
    Shows (fun port : UInt16 => 1024 ≤ port ∧ port < 65535 ∧ value = some (.int port.toNat))
      default (portOf default value) where
  given port h := by
    obtain ⟨hlow, hhigh, rfl⟩ := h
    rw [UInt16.le_iff_toNat_le] at hlow
    rw [UInt16.lt_iff_toNat_lt] at hhigh
    have hrange : 1024 ≤ (port.toNat : Int) ∧ (port.toNat : Int) < 65535 := by
      simp at hlow hhigh
      omega
    rw [portOf, if_pos hrange, Int.toNat_natCast, UInt16.ofNat_toNat]
  otherwise hnone := by
    unfold portOf
    split
    case h_2 => rfl
    case h_1 n =>
      refine if_neg fun hrange => hnone (UInt16.ofNat n.toNat) ?_
      have hvalue : (UInt16.ofNat n.toNat).toNat = n.toNat := by
        rw [UInt16.toNat_ofNat']
        omega
      rw [UInt16.le_iff_toNat_le, UInt16.lt_iff_toNat_lt, hvalue]
      refine ⟨?_, ?_, ?_⟩
      · simp; omega
      · simp; omega
      · rw [Int.toNat_of_nonneg (by omega)]

/-- A path is shown if it is a text; anything else leaves the default. -/
theorem shows_pathOf (default : Path) (value : Option Json) :
    Shows (fun path => ∃ content, value = some (.str content) ∧ path = .ofText content) default
      (pathOf default value) where
  given path h := by
    obtain ⟨content, rfl, rfl⟩ := h
    rfl
  otherwise hnone := by
    unfold pathOf
    split
    case h_1 content => exact absurd ⟨content, rfl, rfl⟩ (hnone _)
    case h_2 => rfl

/-- A switch is on only if it is stored as true. -/
theorem switchOf_iff {value : Option Json} : switchOf value = true ↔ value = some (.bool true) := by
  unfold switchOf
  split <;> simp_all

end SettingKey

namespace SettingsStore

/-- The row of a setting. -/
def row (s : SettingsStore Database) (key : SettingKey) : Option Cell :=
  s.backend.file.cell? key.name

/-- What is stored under a setting. -/
def stored (s : SettingsStore Database) (key : SettingKey) : Option Json :=
  s.backend.file.stored? key.name

/-- A setting that is read for its value gives the value that is stored. -/
theorem value?_read (s : SettingsStore Database) (key : SettingKey) :
    (s.read key).value? = s.stored key :=
  s.backend.file.value?_get key.name

/-- Each field of a snapshot is what its own setting shows. -/
theorem field_snapshot_eq (s : SettingsStore Database) (key : SettingKey) :
    s.snapshot.field key = key.shown s.defaults (s.stored key) := by
  rw [field_snapshot, readAnswer_eq, value?_read]

/-- A value without parts, other than null, is stored where the cell is a text that stands for it.
-/
theorem stored_eq_some_iff (s : SettingsStore Database) (key : SettingKey) (v : Json)
    (hleaf : v.isLeaf = true) (hnull : v ≠ .null) :
    s.stored key = some v ↔ ∃ text, s.row key = some (.text text) ∧ Json.Stands text.toList v :=
  DatabaseFile.stored?_eq_some_iff hleaf hnull

/-- A cell gives a port just if that port is stored. -/
theorem givesPort_iff (s : SettingsStore Database) (port : UInt16) :
    Cell.GivesPort (s.row .port) port ↔
      1024 ≤ port ∧ port < 65535 ∧ s.stored .port = some (.int port.toNat) := by
  have hnull : Json.int port.toNat ≠ .null := nofun
  have hchars : Json.intChars port.toNat = Nat.toDigits 10 port.toNat := if_neg (by omega)
  rw [s.stored_eq_some_iff .port (.int port.toNat) rfl hnull]
  refine and_congr_right fun hlow => and_congr_right fun hhigh => ?_
  constructor
  · rintro ⟨text, before, after, hrow, hbefore, hafter, htext⟩
    rw [← hchars] at htext
    exact ⟨text, hrow, Json.stands_int_iff.2
      ⟨Json.isWord_port port, before, after, hbefore, hafter, htext⟩⟩
  · rintro ⟨text, hrow, hstands⟩
    obtain ⟨-, before, after, hbefore, hafter, htext⟩ := Json.stands_int_iff.1 hstands
    rw [hchars] at htext
    exact ⟨text, before, after, hrow, hbefore, hafter, htext⟩

/-- A cell gives a path just if the text of that path is stored. -/
theorem givesPath_iff (s : SettingsStore Database) (path : Path) :
    Cell.GivesPath (s.row .pacFile) path ↔
      ∃ content, s.stored .pacFile = some (.str content) ∧ path = .ofText content := by
  have hstored (content : String) := s.stored_eq_some_iff .pacFile (.str content) rfl nofun
  constructor
  · rintro ⟨text, content, hrow, hstands, hpath⟩
    exact ⟨content, (hstored content).2 ⟨text, hrow, hstands⟩, hpath⟩
  · rintro ⟨content, hcontent, hpath⟩
    obtain ⟨text, hrow, hstands⟩ := (hstored content).1 hcontent
    exact ⟨text, content, hrow, hstands, hpath⟩

/-- A cell switches a setting on just if true is stored. -/
theorem switchesOn_iff (s : SettingsStore Database) (key : SettingKey) :
    Cell.SwitchesOn (s.row key) ↔ SettingKey.switchOf (s.stored key) = true := by
  rw [SettingKey.switchOf_iff, s.stored_eq_some_iff key (.bool true) rfl nofun]
  rfl

/-- What has no target only reads, and leaves the store as it is. -/
theorem last_of_target?_eq_none {σ : Type} [SettingsBackend σ] {s : SettingsStore σ}
    {actions : List SettingsAction} (h : ∀ a ∈ actions, a.target? = none) : s.last actions = s := by
  induction actions with
  | nil => rfl
  | cons a rest ih =>
      have hedit : a.edit? = none := by
        have ha := h a List.mem_cons_self
        cases a <;> first | rfl | cases ha
      rw [last, List.foldl_cons, s.step_of_edit?_eq_none hedit]
      exact ih fun b hb => h b (List.mem_cons_of_mem _ hb)

/-- The configuration masks every row that cannot be used: each field shows what its own row gives,
and otherwise the default, and no reading changes anything. -/
structure Masked (s : SettingsStore Database) : Prop where
  port : Shows (Cell.GivesPort (s.row .port)) s.defaults.port s.snapshot.port
  pacFile : Shows (Cell.GivesPath (s.row .pacFile)) s.defaults.pacFile s.snapshot.pacFile
  negotiate : s.snapshot.negotiate = true ↔ Cell.SwitchesOn (s.row .negotiate)
  alwaysUseConnect :
    s.snapshot.alwaysUseConnect = true ↔ Cell.SwitchesOn (s.row .alwaysUseConnect)
  directFallback : s.snapshot.directFallback = true ↔ Cell.SwitchesOn (s.row .directFallback)
  autostart : s.snapshot.autostart = true ↔ Cell.SwitchesOn (s.row .autostart)
  /-- A field does not depend on the rows of the other settings. -/
  alone : ∀ (t : SettingsStore Database) (key : SettingKey), t.defaults = s.defaults →
    t.row key = s.row key → t.snapshot.field key = s.snapshot.field key
  /-- Actions without a target only read. -/
  kept : ∀ actions : List SettingsAction, (∀ a ∈ actions, a.target? = none) → s.last actions = s

/-- The configuration of a database masks every row that cannot be used, whatever the database
and the defaults are. -/
theorem snapshot_masked (s : SettingsStore Database) : s.Masked := by
  have hport := SettingsAnswer.port.inj (s.field_snapshot_eq .port)
  have hpath := SettingsAnswer.path.inj (s.field_snapshot_eq .pacFile)
  have hswitch (key : SettingKey) {on : Bool} (hon : on = SettingKey.switchOf (s.stored key)) :
      on = true ↔ Cell.SwitchesOn (s.row key) := by
    rw [switchesOn_iff, hon]
  refine ⟨?_, ?_, ?_, ?_, ?_, ?_, fun t key hdefaults hrow => ?_, fun actions hactions => ?_⟩
  · rw [hport]
    exact (SettingKey.shows_portOf _ _).congr s.givesPort_iff
  · rw [hpath]
    exact (SettingKey.shows_pathOf _ _).congr s.givesPath_iff
  · exact hswitch .negotiate (SettingsAnswer.flag.inj (s.field_snapshot_eq .negotiate))
  · exact hswitch .alwaysUseConnect
      (SettingsAnswer.flag.inj (s.field_snapshot_eq .alwaysUseConnect))
  · exact hswitch .directFallback (SettingsAnswer.flag.inj (s.field_snapshot_eq .directFallback))
  · exact hswitch .autostart (SettingsAnswer.flag.inj (s.field_snapshot_eq .autostart))
  · have hstored : t.stored key = s.stored key :=
      congrArg (fun row => row.bind fun cell => cell.value?.toOption) hrow
    rw [field_snapshot_eq, field_snapshot_eq, hdefaults, hstored]
  · exact last_of_target?_eq_none hactions

/-- A database with a port among blanks, a path that is a byte string, a switch that is on, and one
whose text is no JSON. -/
def unusable : SettingsStore Database :=
  ⟨⟨{}, .temporary ⟨1, .table [("DirectFallback", .text "yes"), ("Negotiate", .text "true"),
    ("PacFile", .blob [0x22, 0x61, 0x22]), ("Port", .text " 8080\n")]⟩ false, false⟩,
    ⟨3128, .ofText "proxy.pac"⟩⟩

/-- The port and the first switch are shown, the path and the other switches are the defaults. -/
theorem snapshot_unusable :
    unusable.snapshot = ⟨8080, .ofText "proxy.pac", true, false, false, false⟩ := by
  have h := snapshot_masked unusable
  have hport : unusable.snapshot.port = 8080 := by
    refine h.port.given 8080
      ⟨by decide, by decide, " 8080\n", [' '], ['\n'], rfl, ?_, ?_, by decide⟩
    · simp [Json.Gap, Json.isGap]
    · simp [Json.Gap, Json.isGap]
  have hpath : unusable.snapshot.pacFile = .ofText "proxy.pac" := by
    refine h.pacFile.otherwise ?_
    rintro _ ⟨text, content, hrow, -⟩
    cases hrow
  have hnegotiate : unusable.snapshot.negotiate = true :=
    h.negotiate.2 ⟨"true", rfl, Json.Spells.true.stands⟩
  have hconnect : unusable.snapshot.alwaysUseConnect = false := by
    refine Bool.eq_false_iff.2 fun hon => ?_
    obtain ⟨text, hrow, -⟩ := h.alwaysUseConnect.1 hon
    cases hrow
  have hdirect : unusable.snapshot.directFallback = false := by
    refine Bool.eq_false_iff.2 fun hon => ?_
    obtain ⟨text, hrow, hstands⟩ := h.directFallback.1 hon
    cases hrow
    cases Json.ofText?_eq_some_iff.2 ⟨hstands, Nat.zero_le _⟩
  have hautostart : unusable.snapshot.autostart = false := by
    refine Bool.eq_false_iff.2 fun hon => ?_
    obtain ⟨text, hrow, -⟩ := h.autostart.1 hon
    cases hrow
  calc unusable.snapshot
    _ = ⟨unusable.snapshot.port, unusable.snapshot.pacFile, unusable.snapshot.negotiate,
          unusable.snapshot.alwaysUseConnect, unusable.snapshot.directFallback,
          unusable.snapshot.autostart⟩ := rfl
    _ = _ := by rw [hport, hpath, hnegotiate, hconnect, hdirect, hautostart]

end SettingsStore

end ProxyControl
