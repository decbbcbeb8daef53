import ProxyControl.Proofs.Json.Lines
import ProxyControl.Proofs.Settings.FromText
import ProxyControl.Proofs.Text.Decoding

/-!
# Paths that are stored

A path is stored as text, so a path that is text is read back as it is, and any other one with its
ill-formed parts replaced; what was replaced once is text, and storing it again changes nothing.
This holds of every backend, but only a reading that is answered shows it: a backend that takes a
path and then refuses to read it leaves the default in its place.

A configuration has no JSON value only if its path is no text, which then is the default one,
because what is read from a backend is text.

Main results:

- Theorem `SettingsStore.stored_paths`: what is read after a path was stored, and when a
  configuration is printed and read back.
- Theorem `SettingsStore.not_keeps_unreadable_path`: a backend that refuses to read keeps no path.
-/

namespace ProxyControl

/-! ## Readings and slots -/

/-- A backend whose readings are a matter of their slots: a value that is set for another key, or
once more for the same key, changes no answer. -/
class SteadyBackend (σ : Type) [SettingsBackend σ] [SlottedBackend σ] : Prop where
  get_of_slot_eq : ∀ {b b' : σ} {key other value},
    SettingsBackend.set b key value = .ok b' →
    SlottedBackend.slot b' other = SlottedBackend.slot b other →
    SettingsBackend.get b' other = SettingsBackend.get b other

instance : SteadyBackend MemorySettings where
  get_of_slot_eq _ hslot := congrArg Except.ok hslot

instance : SteadyBackend RefusingSettings where
  get_of_slot_eq h hslot := by
    simp only [SettingsBackend.set] at h
    split at h
    · cases h
    · cases h
      simp only [SettingsBackend.get]
      split
      · rfl
      · exact congrArg Except.ok hslot

namespace DatabaseFile

/-- What is read from a table is a matter of the row. -/
theorem get_of_cell?_eq {f g : DatabaseFile} {key other : String} {value : Json}
    (h : f.set key value = .ok g) (hcell : g.cell? other = f.cell? other) :
    g.get other = f.get other := by
  obtain ⟨rows, htable, rfl⟩ := exists_table_of_set h
  rw [cell?_of_table htable, cell?_of_table rfl] at hcell
  rw [get_of_table htable, get_of_table rfl]
  exact congrArg (fun cell : Option Cell => cell.elim _ _) hcell

end DatabaseFile

instance : SteadyBackend DatabaseFile where
  get_of_slot_eq h hcell :=
    congrArg (Except.mapError StorageError.database)
      (DatabaseFile.get_of_cell?_eq (Database.mapError_eq_ok h) hcell)

instance : SteadyBackend Database where
  get_of_slot_eq h hcell :=
    congrArg (Except.mapError StorageError.database)
      (DatabaseFile.get_of_cell?_eq (Database.set_of_ok h) hcell)

/-! ## Paths of texts -/

namespace Path

/-- A path has a text if it is the path of that text. -/
theorem text?_eq_some_iff {p : Path} {text : String} : p.text? = some text ↔ p = .ofText text := by
  rw [text?, Text.Utf8.decode?_eq_some_iff, ofText]
  exact ⟨congrArg Path.mk, congrArg Path.bytes⟩

/-- The path of a text is shown as that text. -/
@[simp]
theorem display_ofText (text : String) : (ofText text).display = text :=
  Text.Utf8.lossy_encode text

end Path

/-! ## Configurations that are printed -/

namespace Configuration

/-- The configuration that a JSON value describes. -/
def ofJson? : Json → Option Configuration
  | .obj members => do
    let port ← (← members.lookup "port").asInt?
    let pacFile ← (← members.lookup "pac_file").asText?
    let negotiate ← (← members.lookup "negotiate").asBool?
    let alwaysUseConnect ← (← members.lookup "always_use_connect").asBool?
    let directFallback ← (← members.lookup "direct_fallback").asBool?
    let autostart ← (← members.lookup "autostart").asBool?
    return {
      port := UInt16.ofNat port.toNat, pacFile := .ofText pacFile, negotiate, alwaysUseConnect,
      directFallback, autostart }
  | _ => none

/-- The JSON value of a configuration can be stored. -/
theorem storable_of_toJson? {c : Configuration} {json : Json} (h : c.toJson? = some json) :
    json.Storable := by
  obtain ⟨path, -, rfl⟩ := Option.map_eq_some_iff.1 h
  refine ⟨by simp [Json.depth, Json.membersDepth, Json.maxDepth], fun n hn => ?_, fun x hx => ?_⟩
  · have hport : n = c.port.toNat := by simpa [Json.leaves, Json.memberLeaves] using hn
    rw [hport]
    exact Json.isWord_port c.port
  · simp [Json.leaves, Json.memberLeaves] at hx

/-- An object with a member for each setting describes a configuration. -/
theorem ofJson?_obj {members : List (String × Json)} {port : Int} {path : String}
    {negotiate alwaysUseConnect directFallback autostart : Bool}
    (hport : members.lookup "port" = some (.int port))
    (hfits : (Json.int port).asInt? = some port)
    (hpath : members.lookup "pac_file" = some (.str path))
    (hnegotiate : members.lookup "negotiate" = some (.bool negotiate))
    (hconnect : members.lookup "always_use_connect" = some (.bool alwaysUseConnect))
    (hfallback : members.lookup "direct_fallback" = some (.bool directFallback))
    (hautostart : members.lookup "autostart" = some (.bool autostart)) :
    ofJson? (.obj members) = some ⟨UInt16.ofNat port.toNat, .ofText path, negotiate,
      alwaysUseConnect, directFallback, autostart⟩ := by
  simp only [ofJson?, hport, hpath, hnegotiate, hconnect, hfallback, hautostart, hfits,
    Option.bind_eq_bind, Option.bind_some, Json.asText?, Json.asBool?]
  rfl

/-- The number of a port is an integer. -/
theorem asInt?_port (port : UInt16) : (Json.int port.toNat).asInt? = some (port.toNat : Int) := by
  have hlt := port.toNat_lt
  rw [Json.asInt?, if_pos ((IntegerRange.fits_iff _).2 (by omega))]

/-- A configuration is read back from its JSON value. -/
theorem ofJson?_of_toJson? {c : Configuration} {json : Json} (h : c.toJson? = some json) :
    ofJson? json = some c := by
  obtain ⟨path, hpath, rfl⟩ := Option.map_eq_some_iff.1 h
  rw [ofJson?_obj rfl (asInt?_port c.port) rfl rfl rfl rfl rfl, Int.toNat_natCast,
    UInt16.ofNat_toNat, ← Path.text?_eq_some_iff.1 hpath]

/-- A configuration cannot be written only if the path in it has no text. -/
theorem toJson?_eq_none_iff {c : Configuration} :
    c.toJson? = none ↔ ∀ text, c.pacFile ≠ .ofText text := by
  rw [toJson?, Option.map_eq_none_iff, Option.eq_none_iff_forall_ne_some]
  simp only [ne_eq, Path.text?_eq_some_iff]

end Configuration

/-! ## Stores -/

namespace SettingsStore

variable {σ : Type} [SettingsBackend σ]

/-- The text of a path is what the setting for paths takes. -/
theorem setFromText_pacFile (s : SettingsStore σ) (text : String) :
    s.setFromText SettingKey.pacFile.name text = s.setPacFile (.ofText text) := by
  rw [s.setFromText_of_means rfl (.pacFile text), setPacFile, Path.display_ofText]

/-- When a configuration is printed, and that it is read back. -/
structure Prints (s : SettingsStore σ) : Prop where
  /-- There is nothing to print exactly if no text is read for the path, because none is stored or
  the reading fails, and the default path is no text. -/
  fails_iff : s.snapshot.toJson? = none ↔
    (∀ text, s.read .pacFile ≠ .ok (some (.str text))) ∧ ∀ text, s.defaults.pacFile ≠ .ofText text
  /-- All six fields are read back from one line. -/
  line : ∀ json, s.snapshot.toJson? = some json →
    (Json.ofText? json.toText).bind Configuration.ofJson? = some s.snapshot
  /-- All six fields are read back from several lines. -/
  lines : ∀ json, s.snapshot.toJson? = some json →
    (Json.ofText? json.toLines).bind Configuration.ofJson? = some s.snapshot

/-- The path is the text that is read, or else the default. -/
theorem pacFile_cases (s : SettingsStore σ) :
    (∃ text, s.read .pacFile = .ok (some (.str text)) ∧ s.pacFile = .ofText text) ∨
      (∀ text, s.read .pacFile ≠ .ok (some (.str text))) ∧ s.pacFile = s.defaults.pacFile := by
  rw [pacFile]
  cases s.read .pacFile with
  | error e => exact .inr ⟨by simp, rfl⟩
  | ok value =>
      rw [Reading.path?_ok]
      by_cases htext : ∃ text, value = some (.str text)
      · obtain ⟨text, rfl⟩ := htext
        exact .inl ⟨text, rfl, rfl⟩
      · have hnone := (SettingKey.shows_pathOf s.defaults.pacFile value).otherwise
          fun path hpath => htext (hpath.imp fun _ => And.left)
        exact .inr ⟨fun text h => htext ⟨text, Except.ok.inj h⟩, hnone⟩

theorem prints (s : SettingsStore σ) : s.Prints where
  fails_iff := by
    rw [Configuration.toJson?_eq_none_iff, show s.snapshot.pacFile = s.pacFile from rfl]
    rcases s.pacFile_cases with ⟨text, hread, hpath⟩ | ⟨hread, hpath⟩
    · exact ⟨fun h => absurd hpath (h text), fun h => absurd hread (h.1 text)⟩
    · rw [hpath]
      exact ⟨fun h => ⟨hread, h⟩, fun h => h.2⟩
  line json h := by
    rw [(Configuration.storable_of_toJson? h).ofText?_toText, Option.bind_some,
      Configuration.ofJson?_of_toJson? h]
  lines json h := by
    rw [(Configuration.storable_of_toJson? h).ofText?_toLines, Option.bind_some,
      Configuration.ofJson?_of_toJson? h]

section Paths

variable [SlottedBackend σ] {s t : SettingsStore σ} {p : Path}

/-- What a store reads after it has taken a path. -/
structure KeepsPath (s t : SettingsStore σ) (p : Path) : Prop where
  /-- A path that is text is read back, and could have been given as that text. -/
  text : ∀ text, p = .ofText text →
    t.pacFile = p ∧ s.setFromText SettingKey.pacFile.name text = .ok t
  /-- In any other path each ill-formed subpart is replaced. -/
  replaced : (∀ text, p ≠ .ofText text) →
    ∃ pieces, Text.Utf8.Reading p.bytes pieces ∧
      t.pacFile = .ofText (String.ofList (pieces.map Text.Utf8.Piece.orReplacement))
  /-- To store what is read changes nothing. -/
  again : ∀ u, t.setPacFile t.pacFile = .ok u → u.defaults = t.defaults ∧
    (∀ key, SlottedBackend.slot u.backend key = SlottedBackend.slot t.backend key) ∧
    (∀ key, SettingsBackend.get u.backend key = SettingsBackend.get t.backend key) ∧
    u.snapshot = t.snapshot

/-- What is read for the path after one was stored. -/
theorem pacFile_of_setPacFile {found : Option Json} (hset : s.setPacFile p = .ok t)
    (hread : t.read .pacFile = .ok found) : t.pacFile = .ofText p.display := by
  have hfound : found = some (.str p.display) :=
    SlottedBackend.get_entry (Json.storable_str p.display)
      (SlottedBackend.slot_set_self (set_of_put hset).1) hread
  rw [pacFile, hread, hfound]
  rfl

/-- A value that is stored once more changes nothing. -/
theorem put_again [SteadyBackend σ] {u : SettingsStore σ} {name : String} {value : Json}
    (h : s.put name value = .ok t) (h' : t.put name value = .ok u) :
    u.defaults = t.defaults ∧
      (∀ key, SlottedBackend.slot u.backend key = SlottedBackend.slot t.backend key) ∧
      (∀ key, SettingsBackend.get u.backend key = SettingsBackend.get t.backend key) ∧
      u.snapshot = t.snapshot := by
  obtain ⟨hset, -⟩ := set_of_put h
  obtain ⟨hset', hdefaults⟩ := set_of_put h'
  have hslot (key : String) :
      SlottedBackend.slot u.backend key = SlottedBackend.slot t.backend key := by
    by_cases hkey : key = name
    · subst hkey
      rw [SlottedBackend.slot_set_self hset', SlottedBackend.slot_set_self hset]
    · exact SlottedBackend.slot_set_of_ne hset' hkey
  have hget (key : String) :
      SettingsBackend.get u.backend key = SettingsBackend.get t.backend key :=
    SteadyBackend.get_of_slot_eq hset' (hslot key)
  have hread : u.read = t.read := funext fun key => hget key.name
  exact ⟨hdefaults, hslot, hget, by rw [snapshot, snapshot, hdefaults, hread]⟩

/-- A store that takes a path and answers the reading of it keeps the path, up to the parts of it
that are no text; and every store prints its configuration unless nothing but a default path that
is no text is there to print. -/
theorem stored_paths [SteadyBackend σ] {found : Option Json} (hset : s.setPacFile p = .ok t)
    (hread : t.read .pacFile = .ok found) : s.KeepsPath t p ∧ ∀ r : SettingsStore σ, r.Prints := by
  have hpath := pacFile_of_setPacFile hset hread
  refine ⟨⟨fun text htext => ?_, fun _ => ?_, fun u hagain => ?_⟩, prints⟩
  · rw [setFromText_pacFile, ← htext]
    exact ⟨by rw [hpath, htext, Path.display_ofText], hset⟩
  · exact ⟨_, Text.Utf8.reading_pieces p.bytes, hpath⟩
  · rw [hpath, setPacFile, Path.display_ofText] at hagain
    exact put_again hset hagain

/-- A store without any stored setting. -/
def fresh : SettingsStore MemorySettings :=
  ⟨{}, ⟨3128, .ofText "proxy.pac"⟩⟩

/-- A path that is text is read back, and in one that is not the byte that no text has is
replaced. -/
theorem stored_paths_fresh :
    (∃ t, fresh.setPacFile (.ofText "/à.pac") = .ok t ∧ t.pacFile = .ofText "/à.pac") ∧
      ∃ t u, fresh.setPacFile ⟨[47, 255]⟩ = .ok t ∧ t.pacFile = .ofText "/\uFFFD" ∧
        t.setPacFile t.pacFile = .ok u ∧ u.snapshot = t.snapshot := by
  refine ⟨⟨_, rfl, ?_⟩, _, _, rfl, rfl, rfl, ?_⟩
  · exact ((stored_paths (s := fresh) rfl rfl).1.text _ rfl).1
  · exact ((stored_paths (p := ⟨[47, 255]⟩) (s := fresh) rfl rfl).1.again _ rfl).2.2.2

/-- A store that takes paths and refuses to read them, with a default path that is no text. -/
def unreadable : SettingsStore RefusingSettings :=
  ⟨{ unreadable := ["PacFile"] }, ⟨3128, ⟨[255]⟩⟩⟩

/-- A path that is stored and cannot be read is not kept: the default stands in its place, and as
that is no text, the configuration is not printed though a text is stored. -/
theorem not_keeps_unreadable_path :
    ∃ t, unreadable.setPacFile (.ofText "/a") = .ok t ∧
      t.backend.values.get "PacFile" = some (.str "/a") ∧
      t.pacFile ≠ .ofText "/a" ∧ t.snapshot.toJson? = none := by
  refine ⟨_, rfl, rfl, ?_, rfl⟩
  decide

end Paths

end SettingsStore
end ProxyControl
