import Mathlib.Data.List.Infix
import Mathlib.Data.List.Pairwise
import ProxyControl.Proofs.Dictionaries
import ProxyControl.Settings.Action
import ProxyControl.Settings.DatabaseFile

/-!
# Reading settings that others change

A settings database may be open more than once.  Each setting is read on its own, and what
others ask of the settings happens before, between and after these readings.  A reading
shows the settings as they are at its own moment, so readings of several settings need not
belong together.

Main results:

- Definition `Reader.run`: readings of some settings among the actions of others.
- Theorem `Reader.moments_of_run`: every reading has its moment, in the order of the readings.
- Theorem `Reader.run_configuration`: the configuration of a reader, and when it is that of one
  moment.
- Theorem `Reader.not_isOfOneMoment`: it need not be.
-/

namespace ProxyControl

/-! ## Changes of one setting -/

/-- The name of the setting that an action may change. -/
def SettingsAction.target? : SettingsAction → Option String
  | setPort _ => some SettingKey.port.name
  | setPacFile _ => some SettingKey.pacFile.name
  | setToggle key _ => some key.name
  | setFromText name _ => some name
  | reset name => some name
  | rawSet key _ => some key
  | rawRemove key => some key
  | _ => none

namespace DatabaseFile

variable {f g : DatabaseFile} {rows : Dict Cell} {key other : String}

/-- The rows of a table are read. -/
theorem rows?_of_table (h : f.name = .table rows) : f.rows? = .ok rows := by
  rw [rows?, h]

/-- The rows of a table can be changed. -/
theorem ownRows?_of_table (h : f.name = .table rows) : f.ownRows? = .ok rows := by
  rw [ownRows?, h]

/-- Rows that can be changed are those of a table. -/
theorem name_of_ownRows? (h : f.ownRows? = .ok rows) : f.name = .table rows := by
  cases hname : f.name with
  | table others =>
      rw [ownRows?_of_table hname] at h
      rw [Except.ok.inj h]
  | _ =>
      rw [ownRows?, hname] at h
      cases h

/-- In a table a setting is written as the canonical text of its value. -/
theorem set_of_table (h : f.name = .table rows) (key : String) (value : Json) :
    f.set key value = .ok (f.withRows (rows.insert key (.text value.canonical.toText))) := by
  rw [set, putCell, ownRows?_of_table h]
  rfl

/-- From a table a setting is removed, and it is told whether it was there. -/
theorem remove_of_table (h : f.name = .table rows) (key : String) :
    f.remove key = .ok (rows.contains key, f.withRows (rows.erase key)) := by
  rw [remove, ownRows?_of_table h]
  rfl

/-- A value can only be set in a table. -/
theorem exists_table_of_set {value : Json} (h : f.set key value = .ok g) :
    ∃ rows, f.name = .table rows ∧
      g = f.withRows (rows.insert key (.text value.canonical.toText)) := by
  cases hrows : f.ownRows? with
  | error e => simp [set, putCell, hrows, bind, Except.bind] at h
  | ok rows =>
      have hname := name_of_ownRows? hrows
      rw [set_of_table hname] at h
      exact ⟨rows, hname, (Except.ok.inj h).symm⟩

/-- A key can only be removed from a table. -/
theorem exists_table_of_remove {found : Bool} (h : f.remove key = .ok (found, g)) :
    ∃ rows, f.name = .table rows ∧ g = f.withRows (rows.erase key) := by
  cases hrows : f.ownRows? with
  | error e => simp [remove, hrows, bind, Except.bind] at h
  | ok rows =>
      have hname := name_of_ownRows? hrows
      rw [remove_of_table hname] at h
      cases h
      exact ⟨rows, hname, rfl⟩

/-- The value of a key depends only on its own row. -/
theorem get_withRows {rows' : Dict Cell} (h : f.name = .table rows)
    (hsame : rows'.find? key = rows.find? key) : (f.withRows rows').get key = f.get key := by
  have hrows' : (f.withRows rows').rows? = .ok rows' := rfl
  simp only [get, rows?_of_table h, hrows', bind, Except.bind, hsame]

/-- Writing one setting leaves the readings of the others. -/
theorem get_set_of_ne {value : Json} (h : f.set key value = .ok g) (hne : other ≠ key) :
    g.get other = f.get other := by
  obtain ⟨rows, hname, rfl⟩ := exists_table_of_set h
  exact get_withRows hname (Dict.find?_insert_of_ne rows _ hne)

/-- Removing one setting leaves the readings of the others. -/
theorem get_remove_of_ne {found : Bool} (h : f.remove key = .ok (found, g)) (hne : other ≠ key) :
    g.get other = f.get other := by
  obtain ⟨rows, hname, rfl⟩ := exists_table_of_remove h
  exact get_withRows hname (Dict.find?_erase_of_ne rows hne)

end DatabaseFile

namespace SettingsStore

/-- What an action may do to the database: it sets or removes one setting. -/
inductive Changed (f : DatabaseFile) (name : String) : DatabaseFile → Prop
  | sets {value : Json} {g : DatabaseFile} (h : f.set name value = .ok g) : Changed f name g
  | removes {found : Bool} {g : DatabaseFile} (h : f.remove name = .ok (found, g)) :
      Changed f name g

/-- A change of one setting leaves the readings of the others. -/
theorem Changed.get_of_ne {f g : DatabaseFile} {name other : String} (h : Changed f name g)
    (hne : other ≠ name) : g.get other = f.get other := by
  cases h with
  | sets h => exact DatabaseFile.get_set_of_ne h hne
  | removes h => exact DatabaseFile.get_remove_of_ne h hne

/-- The store is as it was, or the target is changed. -/
def SameBut (s : SettingsStore DatabaseFile) (target : Option String)
    (t : SettingsStore DatabaseFile) : Prop :=
  t = s ∨ ∃ name f, target = some name ∧ Changed s.backend name f ∧ t = { s with backend := f }

/-- To store a setting changes that setting only. -/
theorem sameBut_of_put (s : SettingsStore DatabaseFile) (name : String) (value : Json) :
    SameBut s (some name) (s.ofChange (s.put name value)).store := by
  simp only [put, SettingsBackend.set]
  cases hset : s.backend.set name value with
  | error e => exact .inl rfl
  | ok f => exact .inr ⟨name, f, rfl, .sets hset, rfl⟩

/-- To remove a setting changes that setting only. -/
theorem sameBut_of_remove (s : SettingsStore DatabaseFile) (name : String) :
    SameBut s (some name) (s.ofRemoval ((SettingsBackend.remove s.backend name).map
      fun (found, backend) => (found, { s with backend := backend }))).store := by
  simp only [SettingsBackend.remove]
  cases hremove : s.backend.remove name with
  | error e => exact .inl rfl
  | ok result => exact .inr ⟨name, result.2, rfl, .removes hremove, rfl⟩

/-- An action changes its own setting at most. -/
theorem sameBut_step (s : SettingsStore DatabaseFile) (a : SettingsAction) :
    SameBut s a.target? (s.step a).store := by
  cases a with
  | setPort port => exact s.sameBut_of_put _ _
  | setPacFile path => exact s.sameBut_of_put _ _
  | setToggle key on => exact s.sameBut_of_put _ _
  | setFromText name raw =>
      simp only [step, setFromText]
      split
      · exact .inl rfl
      · split
        · exact .inl rfl
        · exact s.sameBut_of_put _ _
  | reset name =>
      simp only [step, reset]
      split
      · exact .inl rfl
      · exact s.sameBut_of_remove _
  | rawGet name =>
      simp only [step]
      split <;> exact .inl rfl
  | rawSet name value => exact s.sameBut_of_put _ _
  | rawRemove name => exact s.sameBut_of_remove _
  | _ => exact .inl rfl

/-- No action changes the defaults. -/
theorem defaults_step (s : SettingsStore DatabaseFile) (a : SettingsAction) :
    (s.step a).store.defaults = s.defaults := by
  rcases s.sameBut_step a with hsame | ⟨_, _, _, _, hchanged⟩
  · rw [hsame]
  · rw [hchanged]

/-- An action leaves every setting but its own as it is. -/
theorem read_step {s : SettingsStore DatabaseFile} {a : SettingsAction} {key : SettingKey}
    (h : a.target? ≠ some key.name) : (s.step a).store.read key = s.read key := by
  rcases s.sameBut_step a with hsame | ⟨name, f, htarget, changed, hchanged⟩
  · rw [hsame]
  · have hne : key.name ≠ name := by
      rintro rfl
      exact h htarget
    rw [hchanged]
    exact congrArg (Except.mapError StorageError.database) (changed.get_of_ne hne)

end SettingsStore

/-! ## Readings among the actions of others -/

/-- What happens to settings while somebody reads them. -/
inductive SharedEvent where
  /-- The reader reads its next setting, unless that fails. -/
  | read (failure : Option StorageError)
  /-- Somebody else asks something of the settings. -/
  | action (a : SettingsAction)

namespace SettingsStore

variable {σ : Type} [SettingsBackend σ]

/-- The reading of a setting, which may fail. -/
def attempt (s : SettingsStore σ) (key : SettingKey) : Option StorageError → Reading
  | none => s.read key
  | some e => .error e

/-- The settings as others leave them. -/
def after (s : SettingsStore σ) : List SharedEvent → SettingsStore σ
  | [] => s
  | .read _ :: rest => s.after rest
  | .action a :: rest => (s.step a).store.after rest

/-- Two series of events in turn are one series. -/
theorem after_append (s : SettingsStore σ) (first rest : List SharedEvent) :
    s.after (first ++ rest) = (s.after first).after rest := by
  induction first generalizing s with
  | nil => rfl
  | cons e first ih =>
      cases e with
      | read failure => exact ih s
      | action a => exact ih (s.step a).store

/-- No event changes the defaults. -/
theorem defaults_after (s : SettingsStore DatabaseFile) (events : List SharedEvent) :
    (s.after events).defaults = s.defaults := by
  induction events generalizing s with
  | nil => rfl
  | cons e rest ih =>
      cases e with
      | read failure => exact ih s
      | action a => exact (ih _).trans (s.defaults_step a)

/-- A setting that no action concerns stays as it is. -/
theorem read_after {s : SettingsStore DatabaseFile} {events : List SharedEvent} {key : SettingKey}
    (h : ∀ a, .action a ∈ events → a.target? ≠ some key.name) :
    (s.after events).read key = s.read key := by
  induction events generalizing s with
  | nil => rfl
  | cons e rest ih =>
      have hrest := fun a ha => h a (List.mem_cons_of_mem _ ha)
      cases e with
      | read failure => exact ih hrest
      | action a => exact (ih hrest).trans (read_step (h a List.mem_cons_self))

end SettingsStore

/-- Somebody who reads some settings one after the other. -/
structure Reader (σ : Type) where
  store : SettingsStore σ
  /-- The settings that are still to be read. -/
  pending : List SettingKey
  /-- What has been read. -/
  seen : SettingKey → Reading := fun _ => .ok none

namespace Reader

variable {σ : Type} [SettingsBackend σ]

/-- The reader after an event, if it can happen. -/
def step (r : Reader σ) : SharedEvent → Option (Reader σ)
  | .read failure =>
    match r.pending with
    | [] => none
    | key :: rest =>
      let reading := r.store.attempt key failure
      some { r with pending := rest, seen := fun k => if k = key then reading else r.seen k }
  | .action a => some { r with store := (r.store.step a).store }

/-- The reader after a list of events, if each of them can happen. -/
def run (r : Reader σ) : List SharedEvent → Option (Reader σ)
  | [] => some r
  | e :: rest =>
    match r.step e with
    | some r => run r rest
    | none => none

/-- The configuration of what has been read. -/
def configuration (r : Reader σ) : Configuration :=
  .ofReadings r.store.defaults r.seen

/-- A series of events goes through if its first event does and the rest after it. -/
theorem run_cons_eq_some {r t : Reader σ} {e : SharedEvent} {rest : List SharedEvent} :
    r.run (e :: rest) = some t ↔ ∃ r', r.step e = some r' ∧ r'.run rest = some t := by
  cases h : r.step e <;> simp [run, h]

/-- Reading changes nothing. -/
theorem store_run {r t : Reader σ} {events : List SharedEvent} (h : r.run events = some t) :
    t.store = r.store.after events := by
  induction events generalizing r with
  | nil =>
      obtain rfl := Option.some.inj h
      rfl
  | cons e rest ih =>
      obtain ⟨r', hstep, hrest⟩ := run_cons_eq_some.1 h
      rw [ih hrest]
      cases e with
      | read failure =>
          simp only [step] at hstep
          split at hstep
          · cases hstep
          · obtain rfl := Option.some.inj hstep
            rfl
      | action a =>
          obtain rfl := Option.some.inj hstep
          rfl

/-! ## Moments -/

/-- Each setting has been read at a moment of its own, which is what has happened before: it shows
the settings as they are then, unless the reading fails, and the next setting is read later. -/
structure Moments (s : SettingsStore σ) (keys : List SettingKey) (events : List SharedEvent)
    (seen : SettingKey → Reading) (moment : SettingKey → List SharedEvent)
    (failure : SettingKey → Option StorageError) : Prop where
  seen : ∀ key ∈ keys, seen key = (s.after (moment key)).attempt key (failure key)
  within : ∀ key ∈ keys, moment key ++ [.read (failure key)] <+: events
  ordered : keys.Pairwise fun j k => moment j ++ [.read (failure j)] <+: moment k

/-- After a run that has read all settings each of them has its moment. -/
theorem moments_of_run {r t : Reader σ} {events : List SharedEvent} (hrun : r.run events = some t)
    (hnodup : r.pending.Nodup) (hdone : t.pending = []) :
    ∃ moment failure, Moments r.store r.pending events t.seen moment failure ∧
      ∀ key ∉ r.pending, t.seen key = r.seen key := by
  induction events generalizing r with
  | nil =>
      obtain rfl := Option.some.inj hrun
      exact ⟨fun _ => [], fun _ => none, ⟨by simp [hdone], by simp [hdone], by simp [hdone]⟩,
        by simp⟩
  | cons e rest ih =>
      obtain ⟨r', hstep, hrest⟩ := run_cons_eq_some.1 hrun
      cases e with
      | action a =>
          obtain rfl := Option.some.inj hstep
          obtain ⟨moment, failure, h, hother⟩ := ih hrest hnodup
          refine ⟨fun key => .action a :: moment key, failure, ⟨h.seen, ?_, ?_⟩, hother⟩
          · intro key hkey
            exact List.cons_prefix_cons.2 ⟨rfl, h.within key hkey⟩
          · exact h.ordered.imp fun hlater => List.cons_prefix_cons.2 ⟨rfl, hlater⟩
      | read fault =>
          simp only [step] at hstep
          split at hstep
          · cases hstep
          · rename_i key keys hpending
            obtain rfl := Option.some.inj hstep
            rw [hpending] at hnodup ⊢
            obtain ⟨hkey, hkeys⟩ := List.nodup_cons.1 hnodup
            obtain ⟨moment, failure, h, hother⟩ := ih hrest hkeys
            have hne : ∀ k ∈ keys, k ≠ key := fun k hk heq => hkey (heq ▸ hk)
            refine ⟨fun k => if k = key then [] else .read fault :: moment k,
              fun k => if k = key then fault else failure k, ⟨?_, ?_, ?_⟩, ?_⟩
            · intro k hk
              rcases List.mem_cons.1 hk with rfl | hk
              · simpa [SettingsStore.after] using hother k hkey
              · simpa [hne k hk, SettingsStore.after] using h.seen k hk
            · intro k hk
              rcases List.mem_cons.1 hk with rfl | hk
              · simp
              · simpa [hne k hk] using h.within k hk
            · refine List.pairwise_cons.2 ⟨?_, ?_⟩
              · intro k hk
                simp [hne k hk]
              · refine h.ordered.imp_of_mem ?_
                intro j k hj hk hlater
                simpa [hne j hj, hne k hk] using hlater
            · intro k hk
              rw [List.mem_cons, not_or] at hk
              simpa [hk.1] using hother k hk.2

/-- No action between two readings concerns the setting. -/
def Undisturbed (events : List SharedEvent) (key : SettingKey) : Prop :=
  ∀ before a after, events = before ++ .action a :: after → (∃ f, .read f ∈ before) →
    (∃ f, .read f ∈ after) → a.target? ≠ some key.name

/-- An undisturbed setting reads the same at the moments of two readings. -/
theorem Undisturbed.read_eq {s : SettingsStore DatabaseFile}
    {events first second : List SharedEvent} {key : SettingKey} {f g : Option StorageError}
    (h : Undisturbed events key) (hfirst : first ++ [.read f] <+: second)
    (hsecond : second ++ [.read g] <+: events) :
    (s.after second).read key = (s.after first).read key := by
  obtain ⟨between, rfl⟩ := hfirst
  obtain ⟨rest, rfl⟩ := hsecond
  rw [SettingsStore.after_append, SettingsStore.after_append]
  refine SettingsStore.read_after ?_
  intro a ha
  obtain ⟨before, after, rfl⟩ := List.append_of_mem ha
  exact h (first ++ [.read f] ++ before) a (after ++ [.read g] ++ rest) (by simp) ⟨f, by simp⟩
    ⟨g, by simp⟩

/-- A reader that has read nothing yet. -/
def new (s : SettingsStore σ) (keys : List SettingKey) : Reader σ :=
  { store := s, pending := keys }

/-- The configuration of a reader shows each setting as it is at its own moment.  If the actions
between the readings concern one setting at most, it is the configuration of the moment at which
that setting is read. -/
theorem run_configuration {s : SettingsStore DatabaseFile} {events : List SharedEvent}
    {t : Reader DatabaseFile} (hrun : (new s Configuration.readOrder).run events = some t)
    (hdone : t.pending = []) (hreads : ∀ e, .read (some e) ∉ events) :
    ∃ moment : SettingKey → List SharedEvent,
      (∀ key, moment key ++ [.read none] <+: events) ∧
      (Configuration.readOrder.Pairwise fun j k => moment j ++ [.read none] <+: moment k) ∧
      t.configuration =
        SettingsStore.snapshotOver s.defaults (fun key => (s.after (moment key)).backend) ∧
      ∀ key, (∀ other, other ≠ key → Undisturbed events other) →
        t.configuration = (s.after (moment key)).snapshot := by
  have hnodup : Configuration.readOrder.Nodup := by decide
  obtain ⟨moment, failure, h, _⟩ := moments_of_run hrun hnodup hdone
  have hall (key : SettingKey) : key ∈ Configuration.readOrder := by cases key <;> decide
  have hfailure (key : SettingKey) : failure key = none := by
    cases hkey : failure key with
    | none => rfl
    | some e =>
        have hmem : SharedEvent.read (failure key) ∈ events :=
          (h.within key (hall key)).subset (by simp)
        rw [hkey] at hmem
        exact absurd hmem (hreads e)
  have hwithin (key : SettingKey) : moment key ++ [.read none] <+: events := by
    simpa only [hfailure] using h.within key (hall key)
  have hordered :
      Configuration.readOrder.Pairwise fun j k => moment j ++ [.read none] <+: moment k := by
    have hordered := h.ordered
    simp only [hfailure] at hordered
    exact hordered
  have hseen : t.seen = fun key => (s.after (moment key)).read key := by
    funext key
    rw [h.seen key (hall key), hfailure]
    rfl
  have hdefaults : t.store.defaults = s.defaults := by
    rw [store_run hrun]
    exact s.defaults_after events
  refine ⟨moment, hwithin, hordered, ?_, ?_⟩
  · rw [configuration, hseen, hdefaults]
    rfl
  · intro key hone
    have hsame (other : SettingKey) :
        (s.after (moment other)).read other = (s.after (moment key)).read other := by
      by_cases heq : other = key
      · rw [heq]
      · -- One of the two moments is earlier, and no action between them concerns the other setting.
        let earlier (j k : SettingKey) : Prop := moment j ++ [.read none] <+: moment k
        have : Std.Symm fun j k => earlier j k ∨ earlier k j := ⟨fun _ _ => Or.symm⟩
        have heither : Configuration.readOrder.Pairwise fun j k => earlier j k ∨ earlier k j :=
          hordered.imp fun hearlier => Or.inl hearlier
        rcases heither.forall (hall other) (hall key) heq with hbefore | hafter
        · exact ((hone other heq).read_eq hbefore (hwithin key)).symm
        · exact (hone other heq).read_eq hafter (hwithin other)
    rw [configuration, hseen, hdefaults, SettingsStore.snapshot, s.defaults_after, funext hsame]

/-- A database without settings. -/
def blank : SettingsStore DatabaseFile :=
  ⟨⟨1, .table []⟩, ⟨3128, .ofText "proxy.pac"⟩⟩

/-- A port is set before the readings, and authentication is switched on among them. -/
def switched : List SharedEvent :=
  [.action (.setPort 5000), .read none, .action (.setToggle .negotiate true), .read none,
    .read none, .read none, .read none, .read none]

/-- The configuration is that of the moment at which the switch is read. -/
theorem run_configuration_switched :
    ∃ t, (new blank Configuration.readOrder).run switched = some t ∧ t.pending = [] ∧
      (∀ e, .read (some e) ∉ switched) ∧ t.configuration.port = 5000 ∧
      t.configuration.negotiate = true ∧
      ∃ moment : SettingKey → List SharedEvent,
        moment .negotiate ++ [.read none] <+: switched ∧
        t.configuration = (blank.after (moment .negotiate)).snapshot := by
  have hrun : (new blank Configuration.readOrder).run switched = some _ := rfl
  have hreads (e : StorageError) : SharedEvent.read (some e) ∉ switched := by simp [switched]
  obtain ⟨moment, hwithin, _, _, hone⟩ := run_configuration hrun rfl hreads
  refine ⟨_, hrun, rfl, hreads, by decide, by decide, moment, hwithin .negotiate,
    hone .negotiate ?_⟩
  -- Only the port is set before the first reading, and only the switch after it.
  intro other hother before a after hsplit hbefore _
  cases before with
  | nil => simp at hbefore
  | cons e before =>
      have htail : [.read none, .action (.setToggle .negotiate true), .read none, .read none,
          .read none, .read none, .read none] = before ++ .action a :: after :=
        (List.cons.inj hsplit).2
      have hmem : SharedEvent.action a ∈ before ++ .action a :: after := by simp
      rw [← htail] at hmem
      obtain rfl : a = .setToggle .negotiate true := by simpa using hmem
      cases other <;> simp [SettingsAction.target?, SettingKey.name] at hother ⊢

/-- A reading that does not fail, or a change of a setting. -/
def isOrdinary : SharedEvent → Bool
  | .read failure => failure.isNone
  | .action (.setPort _) => true
  | .action (.setPacFile _) => true
  | .action (.setToggle _ _) => true
  | .action (.setFromText _ _) => true
  | .action (.reset _) => true
  | _ => false

/-- Every configuration that is read is the configuration of one moment. -/
def IsOfOneMoment : Prop :=
  ∀ (s : SettingsStore DatabaseFile) (events : List SharedEvent) (t : Reader DatabaseFile),
    (new s Configuration.readOrder).run events = some t → t.pending = [] →
    (∀ e ∈ events, isOrdinary e = true) →
    ∃ before, before <+: events ∧ t.configuration = (s.after before).snapshot

/-- When the port has been read, another one is set and authentication is switched on. -/
def mixed : List SharedEvent :=
  [.read none, .action (.setPort 5000), .action (.setToggle .negotiate true), .read none,
    .read none, .read none, .read none, .read none]

/-- A configuration may show an old port together with a switch that was set after the port. -/
theorem not_isOfOneMoment : ¬ IsOfOneMoment := by
  intro hall
  obtain ⟨before, hbefore, hconf⟩ := hall blank mixed _ rfl rfl (by decide)
  -- No moment has both the old port and the switch.
  have hno : ∀ before ∈ mixed.inits, (blank.after before).snapshot.port = 3128 →
      (blank.after before).snapshot.negotiate = false := by
    decide
  have hport := congrArg Configuration.port hconf
  have hnegotiate := congrArg Configuration.negotiate hconf
  rw [hno before ((List.mem_inits _ _).2 hbefore) hport.symm] at hnegotiate
  cases hnegotiate

end Reader
end ProxyControl
