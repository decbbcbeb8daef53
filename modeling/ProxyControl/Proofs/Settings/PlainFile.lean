import ProxyControl.Proofs.Directories
import ProxyControl.Settings.Safekeeping

/-!
# Database files at plain paths

A path that is no URI says nothing about how its file is opened: the file is made if it is
missing, and its changes go through a log.  What has been left beside an empty file is removed.
A database with a log goes on with that log, also when the program before it was stopped; one
without a log adopts one.

Main results:

- Structure `DatabaseName.NamesFile`: a path that stands for a file of its own name.
- Structures `Safekeeping.Logged`, `Safekeeping.Unlogged`: a database with a log and one without.
- Theorems `Safekeeping.Logged.begin`, `Safekeeping.Unlogged.begin`: either is written through a
  log from the first use on.
- Theorem `Safekeeping.logged_of_begin`: so is a new file, if it is written at all.
-/

namespace ProxyControl

/-! ## Paths of files -/

namespace DatabaseName

/-- What a path stands for as the name of a file. -/
def plain (path : Path) : DatabaseName := { file := path }

/-- A path is a URI. -/
def IsUri (path : Path) : Prop :=
  path.bytes.take scheme.length = scheme

instance (path : Path) : Decidable (IsUri path) :=
  inferInstanceAs (Decidable (_ = _))

/-- A path stands for a file of its own name: it is no URI and no name of a private database. -/
structure NamesFile (path : Path) : Prop where
  noNul : path.bytes.findIdx? (fun b => b = 0) = none
  noUri : ¬IsUri path
  notPrivate : (plain path).isPrivate = false

/-- A path that is no URI is the name of a plain file. -/
theorem ofPath_of_noUri {path : Path} (h : ¬IsUri path) :
    ofPath path = .ok (plain path) :=
  if_neg h

section

variable (path : Path)

@[simp]
theorem access_plain : (plain path).access = .making := rfl

@[simp]
theorem isSet_plain (parameter : String) : (plain path).isSet parameter = false := rfl

/-- A plain name asks for no kind of storage. -/
@[simp]
theorem isStoredAs_plain (kind : String) : (plain path).isStoredAs kind = false :=
  decide_eq_false (by simp [plain])

@[simp]
theorem isFrozen_plain : (plain path).isFrozen = false := by
  simp [isFrozen]

/-- A plain name asks for a file that may be changed. -/
@[simp]
theorem isReadOnly_plain : (plain path).isReadOnly = false := by
  simp [isReadOnly]

/-- A file of a plain name may have a log. -/
@[simp]
theorem mayLog_plain : (plain path).mayLog = true := by
  simp [mayLog, isUnlocked]

/-- The log of a file of a plain name has an index beside it. -/
@[simp]
theorem hasIndexFile_plain : (plain path).hasIndexFile = true := by
  simp [hasIndexFile]

@[simp]
theorem readsIndex_plain : (plain path).readsIndex = false := by
  simp [readsIndex]

@[simp]
theorem model?_plain : (plain path).model? = none := rfl

/-- A file of a plain name is not locked by another file. -/
@[simp]
theorem isLockedByFile_plain : (plain path).isLockedByFile = false := by
  simp [isLockedByFile]

end

end DatabaseName

/-! ## Files beside a database -/

namespace Neighbor

variable {n : Neighbor} {place : Place} {v w : Volume}

/-- A file is made where there is no directory. -/
theorem fileChange_of_make (h : n.make place v = .ok () w) :
    Volume.FileChange (n.place place) v w := by
  rw [make, VolumeAction.get_bind] at h
  cases hnode : n.node? place v with
  | none =>
      simp only [hnode] at h
      split at h
      · obtain rfl := (EStateM.Result.ok.inj h).2
        exact Volume.fileChange_put (Volume.not_hasDirectory_of_none hnode) (by simp)
      · cases h
  | some node =>
      simp only [hnode] at h
      cases node with
      | directory => cases h
      | _ =>
          obtain rfl := (EStateM.Result.ok.inj h).2
          refine Volume.FileChange.refl fun hdirectory => ?_
          cases hnode.symm.trans hdirectory

/-- A file is made or found where no directory is. -/
theorem exists_make (hfile : ¬v.HasDirectory (n.place place)) (hroom : n.hasRoom place = true) :
    ∃ w, n.make place v = .ok () w := by
  cases hnode : n.node? place v with
  | none => exact ⟨_, make_of_none hnode hroom⟩
  | some node =>
      refine ⟨v, ?_⟩
      rw [make, VolumeAction.get_bind, hnode]
      cases node with
      | directory => exact absurd hnode hfile
      | _ => rfl

/-- A file beside a database is left or removed. -/
def Left (n : Neighbor) (place : Place) (v w : Volume) : Prop :=
  w = v ∨ ¬v.HasDirectory (n.place place) ∧ w = v.clear (n.place place)

/-- What is left beside a database is opened without a change to anything but files. -/
theorem Left.keeps (h : n.Left place v w) : v.Keeps w := by
  rcases h with rfl | ⟨hfile, rfl⟩
  · exact Volume.Keeps.refl w
  · exact (Volume.fileChange_clear hfile).keeps

/-- What is left beside a database is opened without a change to the database. -/
theorem Left.node?_eq (h : n.Left place v w) (hplace : place ≠ []) :
    w.node? place = v.node? place := by
  rcases h with rfl | ⟨-, rfl⟩
  · rfl
  · exact Volume.node?_clear_of_ne v (n.place_ne hplace).symm

end Neighbor

/-! ## The log of a plain file -/

namespace Safekeeping

open DatabaseName

variable {path : Path} {place : Place} {v w : Volume} {r : Bool}

/-- The index of a log is made anew where there is no directory. -/
theorem openIndex_of_room (hdirectory : ¬v.HasDirectory (Neighbor.index.place place))
    (hroom : Neighbor.index.hasRoom place = true) :
    openIndex (plain path) place v = .ok true (v.put (Neighbor.index.place place) .file) := by
  have hfound : (Neighbor.index.node? place v).any Node.isDirectory = false :=
    Bool.eq_false_iff.2 fun hany => hdirectory ((Volume.any_isDirectory _ _).1 hany)
  unfold openIndex
  simp only [hasIndexFile_plain, readsIndex_plain, Bool.not_true, Bool.false_eq_true, if_false,
    VolumeAction.get_bind, Bool.false_or, hfound, hroom]
  rfl

/-- An index that may be written has been made anew; one that may only be read is left. -/
theorem openIndex_eq_ok (h : openIndex (plain path) place v = .ok r w) :
    r = true ∧ ¬v.HasDirectory (Neighbor.index.place place) ∧
      Neighbor.index.hasRoom place = true ∨ r = false ∧ w = v := by
  unfold openIndex at h
  simp only [hasIndexFile_plain, readsIndex_plain, Bool.not_true, Bool.false_eq_true, if_false,
    VolumeAction.get_bind, Bool.false_or] at h
  by_cases hdirectory : v.HasDirectory (Neighbor.index.place place)
  · have hfound : Neighbor.index.node? place v = some .directory := hdirectory
    simp only [hfound, Option.any_some, Node.isDirectory, Option.isNone_some, if_true,
      Bool.false_eq_true, if_false, VolumeAction.get_bind] at h
    split at h
    · cases h
    · obtain ⟨hr, hw⟩ := EStateM.Result.ok.inj h
      exact .inr ⟨hr.symm, hw.symm⟩
  · have hfound : (Neighbor.index.node? place v).any Node.isDirectory = false :=
      Bool.eq_false_iff.2 fun hany => hdirectory ((Volume.any_isDirectory _ _).1 hany)
    cases hroom : Neighbor.index.hasRoom place with
    | true =>
        simp only [hfound, hroom] at h
        exact .inl ⟨(EStateM.Result.ok.inj h).1.symm, hdirectory, rfl⟩
    | false =>
        simp only [hfound, hroom] at h
        cases h

/-- The log of a plain file is made before its index. -/
theorem openLog_plain (path : Path) (place : Place) :
    openLog (plain path) place = Neighbor.log.make place >>= fun _ =>
      openIndex (plain path) place := by
  unfold openLog
  simp only [mayLog_plain, Bool.not_true, Bool.false_eq_true, if_false]

/-- A database with a log: no change of it is in a journal. -/
structure Logged (place : Place) (f : DatabaseFile) (w : Volume) : Prop where
  content : w.node? place = some (.database f true)
  journal : Neighbor.journal.node? place w = none
  log : ¬w.HasDirectory (Neighbor.log.place place)
  index : ¬w.HasDirectory (Neighbor.index.place place)
  room : Neighbor.index.hasRoom place = true

/-- A database with a log is no directory. -/
theorem Logged.not_hasDirectory {f : DatabaseFile} (h : Logged place f w) :
    ¬w.HasDirectory place := by
  rw [Volume.HasDirectory, h.content]
  simp

/-- A database with a log is not at the root of the volume. -/
theorem Logged.place_ne_nil {f : DatabaseFile} (h : Logged place f w) : place ≠ [] :=
  Volume.ne_nil_of_not_hasDirectory h.not_hasDirectory

/-- When its log has been opened, a database is written through it. -/
theorem logged_of_openLog {f : DatabaseFile} (hplace : place ≠ [])
    (hcontent : v.node? place = some (.database f true))
    (hjournal : Neighbor.journal.node? place v = none)
    (h : openLog (plain path) place v = .ok true w) : Logged place f w ∧ v.Keeps w := by
  rw [openLog_plain, VolumeAction.bind_eq_ok] at h
  obtain ⟨⟨⟩, u, hmake, hopen⟩ := h
  have hlog := Neighbor.fileChange_of_make hmake
  obtain ⟨-, hdirectory, hroom⟩ | ⟨hfalse, -⟩ := openIndex_eq_ok hopen
  case inr => cases hfalse
  have hindex : Volume.FileChange (Neighbor.index.place place) u w := by
    rw [openIndex_of_room hdirectory hroom] at hopen
    obtain rfl := (EStateM.Result.ok.inj hopen).2
    exact Volume.fileChange_put hdirectory (by simp)
  have hothers {other : Place} (hne : other ≠ Neighbor.log.place place)
      (hne' : other ≠ Neighbor.index.place place) : w.node? other = v.node? other :=
    (hindex.others other hne').trans (hlog.others other hne)
  have hdistinct {m n : Neighbor} (h : m ≠ n) := Neighbor.place_ne_place h place
  refine ⟨⟨?_, ?_, ?_, hindex.after, hroom⟩, hlog.keeps.trans hindex.keeps⟩
  · have hne (n : Neighbor) := (Neighbor.place_ne n hplace).symm
    exact (hothers (hne .log) (hne .index)).trans hcontent
  · have hlog : Neighbor.journal ≠ .log := by decide
    have hindex : Neighbor.journal ≠ .index := by decide
    exact (hothers (hdistinct hlog) (hdistinct hindex)).trans hjournal
  · have hne : Neighbor.log ≠ .index := by decide
    rw [Volume.HasDirectory, hindex.others _ (hdistinct hne)]
    exact hlog.after

/-- With no directories beside a database and enough room, its log can be opened. -/
theorem exists_openLog (path : Path) (hlog : ¬v.HasDirectory (Neighbor.log.place place))
    (hindex : ¬v.HasDirectory (Neighbor.index.place place))
    (hroom : Neighbor.index.hasRoom place = true) :
    ∃ w, openLog (plain path) place v = .ok true w := by
  obtain ⟨u, hmake⟩ := Neighbor.exists_make hlog (Neighbor.hasRoom_log place ▸ hroom)
  have hne : Neighbor.index ≠ .log := by decide
  have hdirectory : ¬u.HasDirectory (Neighbor.index.place place) := by
    rw [Volume.HasDirectory,
      (Neighbor.fileChange_of_make hmake).others _ (Neighbor.place_ne_place hne place)]
    exact hindex
  rw [openLog_plain]
  exact ⟨_, VolumeAction.bind_eq_ok.2 ⟨(), u, hmake, openIndex_of_room hdirectory hroom⟩⟩

/-! ## From a journal to a log -/

/-- A log is adopted by a change that goes through a journal. -/
theorem adoptLog_eq_ok_iff {f : DatabaseFile} :
    adoptLog (plain path) place f v = .ok r w ↔
      ∃ u, Neighbor.journal.make place v = .ok () u ∧
        openLog (plain path) place
          ((u.clear (Neighbor.journal.place place)).put place (.database f true)) = .ok r w := by
  have hbind : adoptLog (plain path) place f = Neighbor.journal.make place >>= fun _ =>
      Neighbor.journal.remove place >>= fun _ =>
        (modify fun v => v.put place (.database f true)) >>= fun _ =>
          openLog (plain path) place := rfl
  rw [hbind, VolumeAction.bind_eq_ok]
  exact ⟨fun ⟨_, u, hmake, hopen⟩ => ⟨u, hmake, hopen⟩,
    fun ⟨u, hmake, hopen⟩ => ⟨(), u, hmake, hopen⟩⟩

/-- When it has adopted a log, a database is written through it. -/
theorem logged_of_adoptLog {f : DatabaseFile} (hplace : ¬v.HasDirectory place)
    (h : adoptLog (plain path) place f v = .ok true w) : Logged place f w ∧ v.Keeps w := by
  obtain ⟨u, hmake, hopen⟩ := adoptLog_eq_ok_iff.1 h
  have hne := Volume.ne_nil_of_not_hasDirectory hplace
  have hmade := Neighbor.fileChange_of_make hmake
  have hjournal := hmade.trans (Volume.fileChange_clear hmade.after)
  have hfile : ¬(u.clear (Neighbor.journal.place place)).HasDirectory place := by
    rw [Volume.HasDirectory, hjournal.others _ (Neighbor.place_ne _ hne).symm]
    exact hplace
  have hcontent := Volume.fileChange_put hfile (show Node.database f true ≠ .directory by simp)
  have hnone : Neighbor.journal.node? place
      ((u.clear (Neighbor.journal.place place)).put place (.database f true)) = none := by
    rw [Neighbor.node?, Volume.node?_put_of_ne _ (Neighbor.place_ne _ hne)]
    exact Volume.node?_clear_self _ (Neighbor.place_ne_nil _ _)
  obtain ⟨hlogged, hkeeps⟩ := logged_of_openLog hne (Volume.node?_put_self _ hne _) hnone hopen
  exact ⟨hlogged, hjournal.keeps.trans (hcontent.keeps.trans hkeeps)⟩

/-- A database without a log, and with nothing beside it. -/
structure Unlogged (place : Place) (f : DatabaseFile) (v : Volume) : Prop where
  content : v.node? place = some (.database f false)
  alone : ∀ n : Neighbor, n ≠ .lock → n.node? place v = none
  journal : Neighbor.journal.hasRoom place = true
  room : Neighbor.index.hasRoom place = true

/-- A database without a log is no directory. -/
theorem Unlogged.not_hasDirectory {f : DatabaseFile} (h : Unlogged place f v) :
    ¬v.HasDirectory place := by
  rw [Volume.HasDirectory, h.content]
  simp

/-- With nothing beside it and enough room, a database can adopt a log. -/
theorem Unlogged.exists_adoptLog {f : DatabaseFile} (h : Unlogged place f v) (path : Path) :
    ∃ w, adoptLog (plain path) place f v = .ok true w := by
  have hplace := Volume.ne_nil_of_not_hasDirectory h.not_hasDirectory
  have hmake := Neighbor.make_of_none (h.alone .journal (by decide)) h.journal
  have hfile (n : Neighbor) (hn : n ≠ .lock) :
      ¬(((v.put (Neighbor.journal.place place) .emptyFile).clear
        (Neighbor.journal.place place)).put place (.database f true)).HasDirectory
          (n.place place) := by
    rw [Volume.HasDirectory, Volume.node?_put_of_ne _ (Neighbor.place_ne _ hplace),
      Volume.node?_clear_put _ (Neighbor.place_ne_nil _ _) _ (h.alone .journal (by decide))]
    exact Volume.not_hasDirectory_of_none (h.alone n hn)
  obtain ⟨w, hopen⟩ :=
    exists_openLog path (hfile .log (by decide)) (hfile .index (by decide)) h.room
  exact ⟨w, adoptLog_eq_ok_iff.2 ⟨_, hmake, hopen⟩⟩

/-! ## From the first use on -/

/-- What is done at the first use of a plain file. -/
theorem begin_plain (path : Path) (place : Place) (v : Volume) :
    begin (plain path) place v =
      (settleJournal (plain path) place ((v.node? place).any Node.isFilled) >>= fun _ =>
        settleLog (plain path) place ((v.node? place).any Node.isFilled) >>= fun log =>
          chooseLog (plain path) place log >>= fun log =>
            match log with
            | none => pure (.journal, false)
            | some writable => pure (.log true, !writable)) v := by
  unfold Safekeeping.begin checkLock
  simp only [isFrozen_plain, isLockedByFile_plain, isReadOnly_plain, hasIndexFile_plain]
  rfl

/-- Without a journal there is nothing to settle. -/
theorem settleJournal_of_none (h : Neighbor.journal.node? place v = none) (filled : Bool) :
    settleJournal (plain path) place filled v = .ok () v := by
  rw [settleJournal, VolumeAction.get_bind, h]
  rfl

/-- Without a log there is nothing to settle. -/
theorem settleLog_of_none (h : Neighbor.log.node? place v = none) (filled : Bool) :
    settleLog (plain path) place filled v = .ok none v := by
  rw [settleLog, VolumeAction.get_bind, h]
  rfl

/-- A log is left to be opened if it is empty, and opened if it is not. -/
theorem settleLog_eq (path : Path) (place : Place) (v : Volume) :
    settleLog (plain path) place true v = .ok none v ∨
      settleLog (plain path) place true v = (some <$> openLog (plain path) place) v := by
  rw [settleLog, VolumeAction.get_bind]
  cases Neighbor.log.node? place v with
  | none => exact .inl rfl
  | some node =>
      cases node with
      | emptyFile => exact .inl rfl
      | _ => exact .inr rfl

/-- A database with a log takes that log. -/
theorem chooseLog_logged {f : DatabaseFile} (path : Path)
    (hcontent : v.node? place = some (.database f true)) :
    chooseLog (plain path) place none v = (some <$> openLog (plain path) place) v ∧
      chooseLog (plain path) place (some true) v = .ok (some true) v := by
  rw [chooseLog, VolumeAction.get_bind, chooseLog, VolumeAction.get_bind, hcontent]
  exact ⟨rfl, rfl⟩

/-- A database without a log adopts one. -/
theorem chooseLog_unlogged {f : DatabaseFile}
    (hcontent : v.node? place = some (.database f false)) :
    chooseLog (plain path) place none v = (some <$> adoptLog (plain path) place f) v := by
  rw [chooseLog, VolumeAction.get_bind, hcontent]
  simp

/-- A database with a log is written through it from the first use on. -/
theorem Logged.begin {f : DatabaseFile} (h : Logged place f v) (path : Path) :
    ∃ w, Safekeeping.begin (plain path) place v = .ok (.log true, false) w ∧ Logged place f w ∧
      v.Keeps w := by
  obtain ⟨w, hopen⟩ := exists_openLog path h.log h.index h.room
  have hlogged := logged_of_openLog h.place_ne_nil h.content h.journal hopen
  have hopened : (some <$> openLog (plain path) place) v = .ok (some true) w :=
    VolumeAction.map_eq_ok.2 ⟨true, hopen, rfl⟩
  refine ⟨w, ?_, hlogged⟩
  rw [begin_plain, h.content]
  refine VolumeAction.bind_eq_ok.2 ⟨(), v, settleJournal_of_none h.journal _, ?_⟩
  rcases settleLog_eq path place v with hleft | hsettle
  · refine VolumeAction.bind_eq_ok.2 ⟨none, v, hleft, ?_⟩
    have hchoose := (chooseLog_logged path h.content).1.trans hopened
    exact VolumeAction.bind_eq_ok.2 ⟨some true, w, hchoose, rfl⟩
  · refine VolumeAction.bind_eq_ok.2 ⟨some true, w, hsettle.trans hopened, ?_⟩
    exact VolumeAction.bind_eq_ok.2 ⟨some true, w, (chooseLog_logged path hlogged.1.content).2, rfl⟩

/-- A database without a log is written through a new one from the first use on. -/
theorem Unlogged.begin {f : DatabaseFile} (h : Unlogged place f v) (path : Path) :
    ∃ w, Safekeeping.begin (plain path) place v = .ok (.log true, false) w ∧ Logged place f w ∧
      v.Keeps w := by
  obtain ⟨w, hadopt⟩ := h.exists_adoptLog path
  have hchoose : chooseLog (plain path) place none v = .ok (some true) w :=
    (chooseLog_unlogged h.content).trans (VolumeAction.map_eq_ok.2 ⟨true, hadopt, rfl⟩)
  refine ⟨w, ?_, logged_of_adoptLog h.not_hasDirectory hadopt⟩
  rw [begin_plain]
  have hjournal := h.alone .journal (by decide)
  have hlog := h.alone .log (by decide)
  refine VolumeAction.bind_eq_ok.2 ⟨(), v, settleJournal_of_none hjournal _, ?_⟩
  refine VolumeAction.bind_eq_ok.2 ⟨none, v, settleLog_of_none hlog _, ?_⟩
  exact VolumeAction.bind_eq_ok.2 ⟨some true, w, hchoose, rfl⟩

end Safekeeping
end ProxyControl
