import ProxyControl.Proofs.Path
import ProxyControl.Proofs.Volume

/-!
# Directories along a path

The directories along a path are made one after the other.  When they are there, making them
again changes nothing, and the path goes to the same place whatever else has changed.

Main results:

- Structure `Volume.Sound`: everything stands in a directory.
- Structure `Volume.Keeps`: a change that leaves all directories.
- Structure `Volume.FileChange`: a change of a file, one that leaves all directories.
- Inductive `Volume.Made`: how missing directories are made.
- Theorem `Volume.makeDirectories_again`: directories are made only once.
- Structure `Volume.Ready`: the directories along a path are there.
- Theorem `Volume.Ready.settle?_eq`: then the path goes to the same place.
-/

namespace ProxyControl
namespace Volume

/-- A directory stands at a place. -/
def HasDirectory (v : Volume) (place : Place) : Prop :=
  v.node? place = some .directory

/-- Everything stands in a directory, and relative paths start in one. -/
structure Sound (v : Volume) : Prop where
  parents : ∀ place node, v.node? place = some node → v.HasDirectory place.dropLast
  home : v.HasDirectory v.workingDirectory

/-- A change leaves the directories, and the one where relative paths start. -/
structure Keeps (v w : Volume) : Prop where
  directories : ∀ place, v.HasDirectory place → w.HasDirectory place
  home : w.workingDirectory = v.workingDirectory

/-- How the missing directories along names are made from a place. -/
inductive Made : Place → List (List UInt8) → Volume → Volume → Prop where
  | done {here v} : Made here [] v v
  | up {here rest v w} (h : Made here.dropLast rest v w) : Made here (above :: rest) v w
  | found {here name rest v w} (hname : name ≠ above) (hlength : name.length ≤ maxName)
      (hfound : v.HasDirectory (here ++ [name])) (h : Made (here ++ [name]) rest v w) :
      Made here (name :: rest) v w
  | missing {here name rest v w} (hname : name ≠ above) (hlength : name.length ≤ maxName)
      (hmissing : v.node? (here ++ [name]) = none)
      (h : Made (here ++ [name]) rest (v.put (here ++ [name]) .directory) w) :
      Made here (name :: rest) v w

variable {v w u : Volume} {here place : Place} {names : List (List UInt8)} {made : Bool}

/-- A change that changes nothing leaves the directories. -/
theorem Keeps.refl (v : Volume) : v.Keeps v :=
  ⟨fun _ h => h, rfl⟩

/-- Two changes that leave the directories do so together. -/
theorem Keeps.trans (h : v.Keeps w) (h' : w.Keeps u) : v.Keeps u :=
  ⟨fun place hplace => h'.directories place (h.directories place hplace), h'.home.trans h.home⟩

/-- A path starts at the same place as long as the working directory stays. -/
theorem Keeps.start_eq (h : v.Keeps w) (path : Path) : w.start path = v.start path := by
  rw [start, start, h.home]

/-- The test for a directory says whether there is one. -/
theorem any_isDirectory (v : Volume) (place : Place) :
    (v.node? place).any Node.isDirectory = true ↔ v.HasDirectory place := by
  rw [HasDirectory]
  cases v.node? place with
  | none => simp
  | some node => cases node <;> simp [Node.isDirectory]

/-- Where nothing stands there is no directory. -/
theorem not_hasDirectory_of_none (h : v.node? place = none) : ¬v.HasDirectory place := by
  intro hdirectory
  cases h.symm.trans hdirectory

/-- The root is a directory. -/
theorem ne_nil_of_not_hasDirectory (h : ¬v.HasDirectory place) : place ≠ [] := by
  rintro rfl
  exact h rfl

/-! ## Changes of files -/

/-- A change of the file at a place: elsewhere everything stays, and no directory is there before
or after. -/
structure FileChange (place : Place) (v w : Volume) : Prop where
  others : ∀ other, other ≠ place → w.node? other = v.node? other
  before : ¬v.HasDirectory place
  after : ¬w.HasDirectory place
  home : w.workingDirectory = v.workingDirectory

/-- A change of a file leaves the directories. -/
theorem FileChange.keeps (h : FileChange place v w) : v.Keeps w := by
  refine ⟨fun other hother => ?_, h.home⟩
  have hne : other ≠ place := by
    rintro rfl
    exact h.before hother
  exact (h.others other hne).trans hother

/-- No change at all is a change of the file at any place where no directory is. -/
theorem FileChange.refl (h : ¬v.HasDirectory place) : FileChange place v v :=
  ⟨fun _ _ => rfl, h, h, rfl⟩

/-- Two changes of one file are a change of that file. -/
theorem FileChange.trans (h : FileChange place v w) (h' : FileChange place w u) :
    FileChange place v u :=
  ⟨fun other hother => (h'.others other hother).trans (h.others other hother), h.before, h'.after,
    h'.home.trans h.home⟩

/-- A file can be put where no directory is. -/
theorem fileChange_put (h : ¬v.HasDirectory place) {node : Node} (hnode : node ≠ .directory) :
    FileChange place v (v.put place node) := by
  have hplace := ne_nil_of_not_hasDirectory h
  refine ⟨fun other hother => node?_put_of_ne v hother node, h, fun hafter => ?_, rfl⟩
  rw [HasDirectory, node?_put_self v hplace, Option.some.injEq] at hafter
  exact hnode hafter

/-- A file can be removed. -/
theorem fileChange_clear (h : ¬v.HasDirectory place) : FileChange place v (v.clear place) := by
  have hplace := ne_nil_of_not_hasDirectory h
  exact ⟨fun other hother => node?_clear_of_ne v hother, h,
    not_hasDirectory_of_none (node?_clear_self v hplace), rfl⟩

/-! ## Making directories -/

/-- A new directory leaves the others. -/
theorem keeps_put_directory (h : v.node? place = none) : v.Keeps (v.put place .directory) := by
  refine ⟨fun other hother => ?_, rfl⟩
  have hne : other ≠ place := by
    rintro rfl
    exact not_hasDirectory_of_none h hother
  exact (node?_put_of_ne v hne _).trans hother

/-- To go up, nothing is made. -/
theorem makeFrom_above (rest : List (List UInt8)) :
    makeFrom here made (above :: rest) = makeFrom here.dropLast made rest := by
  rw [makeFrom, if_pos rfl]

/-- A name that goes down is made where nothing is and passed where a directory is; a file there
stops the work. -/
theorem makeFrom_name {name : List UInt8} (hname : name ≠ above) (hlength : name.length ≤ maxName)
    (rest : List (List UInt8)) (v : Volume) :
    makeFrom here made (name :: rest) v =
      match v.node? (here ++ [name]) with
      | none => makeFrom (here ++ [name]) true rest (v.put (here ++ [name]) .directory)
      | some .directory => makeFrom (here ++ [name]) made rest v
      | some _ => .error (if made || rest.isEmpty then .fileExists else .notDirectory) v := by
  rw [makeFrom, if_neg hname, if_neg (Nat.not_lt.2 hlength), VolumeAction.get_bind]
  cases v.node? (here ++ [name]) with
  | none => rfl
  | some node => cases node <;> rfl

/-- A walk that succeeds has found or made a directory for every name. -/
theorem Made.of_makeFrom (h : makeFrom here made names v = .ok () w) : Made here names v w := by
  induction names generalizing here made v with
  | nil =>
      cases h
      exact .done
  | cons name rest ih =>
      by_cases hname : name = above
      · subst hname
        rw [makeFrom_above] at h
        exact .up (ih h)
      · by_cases hlength : name.length ≤ maxName
        · rw [makeFrom_name hname hlength] at h
          split at h
          · exact .missing hname hlength ‹_› (ih h)
          · exact .found hname hlength ‹_› (ih h)
          · cases h
        · rw [makeFrom, if_neg hname, if_pos (Nat.not_le.1 hlength)] at h
          cases h

/-- Nothing changes but that there are directories where nothing was. -/
theorem Made.node?_eq (h : Made here names v w) (place : Place) :
    w.node? place = v.node? place ∨ v.node? place = none ∧ w.HasDirectory place := by
  induction h with
  | done => exact .inl rfl
  | up _ ih => exact ih
  | found _ _ _ _ ih => exact ih
  | @missing here name _ v _ _ _ hmissing _ ih =>
      by_cases hplace : place = here ++ [name]
      · subst hplace
        have hnew := node?_put_self v (List.concat_ne_nil name here) .directory
        exact .inr ⟨hmissing, ih.elim (fun h => h.trans hnew) And.right⟩
      · rwa [node?_put_of_ne v hplace] at ih

/-- Making directories leaves the working directory. -/
theorem Made.home_eq (h : Made here names v w) : w.workingDirectory = v.workingDirectory := by
  induction h with
  | done => rfl
  | up _ ih => exact ih
  | found _ _ _ _ ih => exact ih
  | missing _ _ _ _ ih => exact ih

/-- Making directories leaves those that were there. -/
theorem Made.keeps (h : Made here names v w) : v.Keeps w where
  directories place hplace := by
    rcases h.node?_eq place with hsame | ⟨-, hnew⟩
    · exact hsame.trans hplace
    · exact hnew
  home := h.home_eq

/-- Directories that have been made are found. -/
theorem Made.makeFrom_again (h : Made here names v w) (hkeeps : w.Keeps u) :
    makeFrom here made names u = .ok () u := by
  induction h with
  | done => rfl
  | up _ ih =>
      rw [makeFrom_above]
      exact ih hkeeps
  | found hname hlength hfound h ih =>
      have hnode := hkeeps.directories _ (h.keeps.directories _ hfound)
      rw [makeFrom_name hname hlength, hnode]
      exact ih hkeeps
  | @missing here name _ v _ hname hlength _ h ih =>
      have hnew := node?_put_self v (List.concat_ne_nil name here) .directory
      have hnode := hkeeps.directories _ (h.keeps.directories _ hnew)
      rw [makeFrom_name hname hlength, hnode]
      exact ih hkeeps

/-- What it takes to make the directories along a path. -/
theorem makeDirectories_eq_ok {path : Path} (h : makeDirectories path v = .ok () w) :
    path.hasNul = false ∧ path.bytes.length ≤ maxPath ∧
      Made (v.start path) path.components v w := by
  unfold makeDirectories at h
  cases hnul : path.hasNul with
  | true =>
      rw [hnul] at h
      cases h
  | false =>
      rw [hnul, if_neg Bool.false_ne_true] at h
      by_cases hlength : maxPath < path.bytes.length
      · rw [if_pos hlength] at h
        cases h
      · rw [if_neg hlength, VolumeAction.get_bind] at h
        exact ⟨rfl, Nat.not_lt.1 hlength, Made.of_makeFrom h⟩

/-- Directories are made only once. -/
theorem makeDirectories_again {path : Path} (h : makeDirectories path v = .ok () w)
    (hkeeps : w.Keeps u) : makeDirectories path u = .ok () u := by
  obtain ⟨hnul, hlength, hmade⟩ := makeDirectories_eq_ok h
  have hstart := (hmade.keeps.trans hkeeps).start_eq path
  rw [makeDirectories, hnul, if_neg Bool.false_ne_true, if_neg (Nat.not_lt.2 hlength),
    VolumeAction.get_bind, hstart]
  exact hmade.makeFrom_again hkeeps

/-! ## Ways through directories -/

/-- The place behind a name. -/
def behind (here : Place) (name : List UInt8) : Place :=
  if name = above then here.dropLast else here ++ [name]

/-- Names lead from a place through directories only. -/
def Leads (v : Volume) : Place → List (List UInt8) → Prop
  | here, [] => v.HasDirectory here
  | here, name :: rest => v.HasDirectory here ∧ v.Leads (behind here name) rest

/-- Names still lead through directories when none of them has gone. -/
theorem Keeps.leads (h : v.Keeps w) (hleads : v.Leads here names) : w.Leads here names := by
  induction names generalizing here with
  | nil => exact h.directories here hleads
  | cons name rest ih => exact ⟨h.directories here hleads.1, ih hleads.2⟩

/-- A directory may be put into a directory where nothing was. -/
theorem Sound.put_directory (h : v.Sound) (hhere : v.HasDirectory here) (name : List UInt8)
    (hmissing : v.node? (here ++ [name]) = none) :
    (v.put (here ++ [name]) .directory).Sound := by
  have hkeeps := keeps_put_directory hmissing
  refine ⟨fun place node hnode => ?_, hkeeps.directories _ h.home⟩
  by_cases hplace : place = here ++ [name]
  · rw [hplace, List.dropLast_concat]
    exact hkeeps.directories here hhere
  · rw [node?_put_of_ne v hplace] at hnode
    exact hkeeps.directories _ (h.parents place node hnode)

/-- Names lead through the directories that have been made along them. -/
theorem Made.leads (h : Made here names v w) (hv : v.Sound) (hhere : v.HasDirectory here) :
    w.Leads here names := by
  induction h with
  | done => exact hhere
  | up h ih =>
      refine ⟨h.keeps.directories _ hhere, ?_⟩
      rw [behind, if_pos rfl]
      exact ih hv (hv.parents _ _ hhere)
  | found hname _ hfound h ih =>
      refine ⟨h.keeps.directories _ hhere, ?_⟩
      rw [behind, if_neg hname]
      exact ih hv hfound
  | @missing here name _ v _ hname _ hmissing h ih =>
      have hnew := node?_put_self v (List.concat_ne_nil name here) .directory
      have hkeeps := keeps_put_directory hmissing
      refine ⟨h.keeps.directories _ (hkeeps.directories _ hhere), ?_⟩
      rw [behind, if_neg hname]
      exact ih (hv.put_directory hhere name hmissing) hnew

/-- Every path starts in a directory. -/
theorem Sound.start (h : v.Sound) (path : Path) : v.HasDirectory (v.start path) := by
  unfold Volume.start
  split
  · rfl
  · exact h.home

/-- Behind a directory a name goes to the place behind it or nowhere. -/
theorem settleName?_eq (h : v.HasDirectory here) (name : List UInt8) :
    v.settleName? here name =
      if name = above then some (behind here name)
      else if maxSettled < pathLength (here ++ [name]) ∨ maxName < name.length then none
      else some (behind here name) := by
  rw [HasDirectory] at h
  unfold settleName? behind
  by_cases hname : name = above
  · simp only [hname, if_true]
  · by_cases hsettled : maxSettled < pathLength (here ++ [name])
    · simp only [hname, hsettled, if_true, if_false, true_or]
    · simp only [hname, hsettled, if_false, false_or, h]

/-- A name goes behind a directory or nowhere. -/
theorem eq_behind_of_settleName? (h : v.HasDirectory here) {name : List UInt8}
    (hplace : v.settleName? here name = some place) : place = behind here name := by
  rw [settleName?_eq h] at hplace
  split at hplace
  · exact (Option.some.inj hplace).symm
  · split at hplace
    · cases hplace
    · exact (Option.some.inj hplace).symm

/-- Names go the same way wherever they lead through directories, and they end in one. -/
theorem foldlM_settleName?_eq (hv : v.Leads here names) (hw : w.Leads here names) :
    names.foldlM w.settleName? here = names.foldlM v.settleName? here ∧
      ∀ place, names.foldlM v.settleName? here = some place →
        v.HasDirectory place ∧ w.HasDirectory place := by
  induction names generalizing here with
  | nil =>
      refine ⟨rfl, fun place hplace => ?_⟩
      obtain rfl := Option.some.inj hplace
      exact ⟨hv, hw⟩
  | cons name rest ih =>
      have hsame : w.settleName? here name = v.settleName? here name := by
        rw [settleName?_eq hv.1, settleName?_eq hw.1]
      rw [List.foldlM_cons, List.foldlM_cons, hsame]
      cases hname : v.settleName? here name with
      | none =>
          refine ⟨rfl, fun place hplace => ?_⟩
          cases hplace
      | some next =>
          obtain rfl := eq_behind_of_settleName? hv.1 hname
          exact ih hv.2 hw.2

/-- The directories along a path are there. -/
structure Ready (v : Volume) (path : Path) : Prop where
  made : makeDirectories path.directory v = .ok () v
  leads : v.Leads (v.start path) path.directory.components

variable {path : Path}

/-- A path that is ready stays so as long as the directories stay. -/
theorem Ready.keeps (h : v.Ready path) (hkeeps : v.Keeps w) : w.Ready path where
  made := makeDirectories_again h.made hkeeps
  leads := hkeeps.start_eq path ▸ hkeeps.leads h.leads

/-- As long as the directories along it are there, a path goes to the same place. -/
theorem Ready.settle?_eq (h : v.Ready path) (hkeeps : v.Keeps w) :
    w.settle? path = v.settle? path := by
  rw [settle?, settle?, hkeeps.start_eq]
  rcases path.components_of_directory with hnil | ⟨name, hname⟩
  · rw [hnil]
    rfl
  · obtain ⟨hsame, hdirectory⟩ := foldlM_settleName?_eq h.leads (hkeeps.leads h.leads)
    rw [hname, List.foldlM_append, List.foldlM_append, hsame]
    cases hplace : path.directory.components.foldlM v.settleName? (v.start path) with
    | none => rfl
    | some place =>
        obtain ⟨hv, hw⟩ := hdirectory place hplace
        simp only [Option.bind_eq_bind, Option.bind_some, List.foldlM_cons, List.foldlM_nil,
          settleName?_eq hv, settleName?_eq hw]

end Volume
end ProxyControl
