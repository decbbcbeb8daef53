import ProxyControl.Proofs.Settings.Record
import ProxyControl.Proofs.Volume
import ProxyControl.Settings.Database

/-!
# Open databases as records

An open database that may be written takes every change, in whatever way the changes of its
file are kept safe, so it behaves like the record that its file holds.

Main results:

- Structure `Database.Writable`: nothing stands in the way of a change.
- Theorem `Database.takesChanges_writable`: a change replaces the content.
- Theorem `Database.simulates`: a database that takes changes behaves like a record.
- Theorem `SettingsStore.behavesAsRecord`: a store over a new database and one over settings in
  memory tell the same, and what they tell.
-/

namespace ProxyControl

/-- The content at a place of a volume can be replaced.  Where its changes go through a journal
there is room for one, and none is there. -/
def DatabasePlace.Changeable (v : Volume) : DatabasePlace → Prop
  | .temporary _ _ => True
  | .onVolume place k => place ≠ [] ∧
    (k = .journal → Neighbor.journal.node? place v = none ∧ Neighbor.journal.hasRoom place = true)

namespace Database

/-- An open database takes changes. -/
structure Writable (d : Database) : Prop where
  notReadOnly : d.readOnly = false
  changeable : d.place.Changeable d.volume

variable {d : Database}

/-- The content that a database is given is its content, and it may be given another one. -/
theorem Writable.withFile (h : d.Writable) (f : DatabaseFile) :
    (d.withFile f).file = f ∧ (d.withFile f).Writable := by
  obtain ⟨v, place, readOnly⟩ := d
  cases place with
  | temporary old shared => exact ⟨rfl, h.notReadOnly, trivial⟩
  | onVolume place k =>
      obtain ⟨hplace, hjournal⟩ := h.changeable
      have hfile := Volume.node?_put_self v hplace (.database f (isLogged v place))
      refine ⟨by simp only [Database.withFile, file, hfile], h.notReadOnly, hplace, ?_⟩
      intro hk
      refine ⟨?_, (hjournal hk).2⟩
      rw [← (hjournal hk).1]
      exact Volume.node?_put_of_ne v (Neighbor.place_ne .journal hplace) _

/-- Where there is room for a journal, it is made and removed again. -/
theorem protect_journal {place : Place} {v : Volume}
    (hfree : Neighbor.journal.node? place v = none)
    (hroom : Neighbor.journal.hasRoom place = true) :
    Safekeeping.journal.protect place v =
      .ok () ((v.put (Neighbor.journal.place place) .emptyFile).clear
        (Neighbor.journal.place place)) := by
  rw [Safekeeping.protect, if_pos rfl, VolumeAction.bind_eq_ok]
  exact ⟨(), _, Neighbor.make_of_none hfree hroom, rfl⟩

/-- Databases of a kind take every change and stay of that kind. -/
def TakesChanges (P : Database → Prop) : Prop :=
  ∀ d, P d → ∀ f, ∃ d', d.change (.ok f) = .ok d' ∧ d'.file = f ∧ P d'

/-- A change replaces the content of a writable database. -/
theorem takesChanges_writable : TakesChanges Writable := by
  intro d h f
  obtain ⟨v, place, readOnly⟩ := d
  obtain rfl : readOnly = false := h.notReadOnly
  cases place with
  | temporary old shared => exact ⟨_, rfl, h.withFile f⟩
  | onVolume place k =>
      obtain ⟨hplace, hjournal⟩ := h.changeable
      cases k with
      | frozen => exact ⟨_, rfl, h.withFile f⟩
      | log hasIndexFile => exact ⟨_, rfl, h.withFile f⟩
      | journal =>
          obtain ⟨hfree, hroom⟩ := hjournal rfl
          have hwritable : Writable ⟨(v.put (Neighbor.journal.place place) .emptyFile).clear
              (Neighbor.journal.place place), .onVolume place .journal, false⟩ := by
            refine ⟨rfl, hplace, fun _ => ⟨?_, hroom⟩⟩
            exact Volume.node?_clear_self _ (Neighbor.place_ne_nil _ _)
          refine ⟨_, ?_, hwritable.withFile f⟩
          simp only [Database.change, protect_journal hfree hroom]
          rfl

/-- A database of a kind holds what a record holds. -/
structure Holds (P : Database → Prop) (d : Database) (r : SettingsRecord) : Prop where
  kind : P d
  file : d.file.Holds r

theorem mapError_eq_ok {ε ε' α : Type} {f : ε → ε'} {x : Except ε α} {a : α}
    (h : x.mapError f = .ok a) : x = .ok a := by
  cases x with
  | error e => cases h
  | ok b =>
      cases h
      rfl

/-- A database that takes changes behaves like a record. -/
theorem simulates {P : Database → Prop} (hP : TakesChanges P) : Simulates (Database.Holds P) where
  get h key := DatabaseFile.simulates.get h.file key
  set {d r} h key value hvalue := by
    obtain ⟨f, hset, hf⟩ := DatabaseFile.simulates.set h.file key hvalue
    obtain ⟨d', hchange, hfile, hkind⟩ := hP d h.kind f
    refine ⟨d', ?_, hkind, hfile ▸ hf⟩
    simp only [SettingsBackend.set, mapError_eq_ok hset, hchange]
    rfl
  remove {d r} h key := by
    obtain ⟨f, hremove, hf⟩ := DatabaseFile.simulates.remove h.file key
    obtain ⟨d', hchange, hfile, hkind⟩ := hP d h.kind f
    refine ⟨d', ?_, hkind, hfile ▸ hf⟩
    simp only [SettingsBackend.remove, mapError_eq_ok hremove, hchange]
    rfl

/-- A database without any rows that takes changes. -/
structure Blank (d : Database) : Prop where
  writable : d.Writable
  table : d.file.name = .table []

/-- A new database holds no setting. -/
theorem Blank.holds (h : d.Blank) : d.Holds Writable .empty where
  kind := h.writable
  file := ⟨[], h.table, List.Pairwise.nil, fun _ => rfl⟩

/-- A new private database is blank. -/
theorem blank_of_inMemory {log : List Log.Entry} (h : inMemory = .ok (d, log)) : d.Blank := by
  obtain ⟨rfl, -⟩ := Prod.mk.inj (Except.ok.inj h)
  exact ⟨⟨rfl, trivial⟩, rfl⟩

end Database

/-- Settings in memory without values. -/
def MemorySettings.empty : MemorySettings := {}

/-- The new settings in memory hold none either. -/
theorem MemorySettings.holds_empty : MemorySettings.empty.Holds .empty where
  ordered := List.Pairwise.nil
  value _ := rfl

namespace SettingsStore

/-- To a settings store it makes no difference whether the settings are in a new database or in
memory: every action has the same answer and the same warnings, and leaves the same configuration.
Either way each setting is shown by what its latest successful change has left, no action on one
key shows in another setting, and only successful changes change anything. -/
theorem behavesAsRecord {d : Database} (hd : d.Blank) (defaults : ConfigurationDefaults)
    {actions : List SettingsAction} (hactions : ∀ a ∈ actions, a.Storable) :
    ((SettingsStore.mk d defaults).steps actions).map Step.view =
        ((SettingsStore.mk MemorySettings.empty defaults).steps actions).map Step.view ∧
      (SettingsStore.mk d defaults).BehavesAsRecord actions ∧
      (SettingsStore.mk MemorySettings.empty defaults).BehavesAsRecord actions := by
  have hdatabase : Alike (Database.Holds Database.Writable) ⟨d, defaults⟩ ⟨.empty, defaults⟩ :=
    ⟨hd.holds, rfl⟩
  have hmemory : Alike MemorySettings.Holds ⟨.empty, defaults⟩ ⟨.empty, defaults⟩ :=
    ⟨MemorySettings.holds_empty, rfl⟩
  have hsimulates := Database.simulates Database.takesChanges_writable
  refine ⟨?_, hdatabase.behaves hsimulates hactions,
    hmemory.behaves MemorySettings.simulates hactions⟩
  rw [hdatabase.steps hsimulates hactions, hmemory.steps MemorySettings.simulates hactions]

/-- One and a half. -/
def oneAndAHalf : Binary64 := ⟨0x3FF8000000000000⟩

/-- Typed changes among values that a backend is given directly. -/
def mixedActions : List SettingsAction :=
  [.setFromText "Port" "8080", .rawSet "Autostart" (.arr [.real oneAndAHalf, .obj [("k", .null)]]),
    .setToggle .negotiate true, .setFromText "Port" "none", .rawRemove "DirectFallback",
    .setPort 80]

theorem storable_mixedActions : ∀ a ∈ mixedActions, a.Storable := by
  have hreal : Json.ofText? (Json.real oneAndAHalf).toText = some (.real oneAndAHalf) :=
    Json.ofText?_real_of_bits (by decide +kernel)
  intro a ha
  simp only [mixedActions, List.mem_cons, List.not_mem_nil, or_false] at ha
  rcases ha with rfl | rfl | rfl | rfl | rfl | rfl
  · trivial
  · refine ⟨by decide, ?_, ?_⟩
    · intro n hn
      simp [Json.leaves, Json.itemLeaves, Json.memberLeaves] at hn
    · intro x hx
      obtain rfl : x = oneAndAHalf := by
        simpa [Json.leaves, Json.itemLeaves, Json.memberLeaves] using hx
      exact hreal
  · trivial
  · trivial
  · trivial
  · trivial

/-- A port that is no longer valid is shown as the default, and a value of another type as off. -/
theorem behavesAsRecord_mixed :
    ∃ d log, Database.inMemory = .ok (d, log) ∧
      ((SettingsStore.mk d ⟨3128, .ofText "proxy.pac"⟩).last mixedActions).readAnswer .port =
        .port 3128 ∧
      ((SettingsStore.mk d ⟨3128, .ofText "proxy.pac"⟩).last mixedActions).readAnswer .autostart =
        .flag false ∧
      ((SettingsStore.mk d ⟨3128, .ofText "proxy.pac"⟩).last mixedActions).readAnswer .negotiate =
        .flag true := by
  have hopen : Database.inMemory = .ok (_, _) := rfl
  obtain ⟨-, hrecord, -⟩ := behavesAsRecord (Database.blank_of_inMemory hopen)
    ⟨3128, .ofText "proxy.pac"⟩ storable_mixedActions
  have hshown := hrecord.shown mixedActions List.prefix_rfl
  exact ⟨_, _, hopen, (hshown .port).trans rfl, (hshown .autostart).trans rfl,
    (hshown .negotiate).trans rfl⟩

end SettingsStore
end ProxyControl
