import ProxyControl.Proofs.Preference.MemoryRun
import ProxyControl.Proofs.Preference.Paths
import ProxyControl.Proofs.Preference.Witness

/-!
# Publication of accepted writes

A session of the preferences in memory holds the writes that it has accepted and not committed
yet.  A commit that succeeds publishes them, one after the other, in the tree and in the log of
writes.  So the notes of a witness tell what the session holds and what has been published.

Main results:

- Structure `MemoryPreferences.Published`: some writes have been published and nothing else.
- Structure `MemoryPreferences.Progress`: a session holds what is not settled, and what has been
  settled meanwhile is published.
- Theorem `MemoryPreferences.session_follows`: every operation keeps this.
- Theorem `MemoryPreferences.run_progress`: so does the session of a run.
- Theorem `MemoryPreferences.commit_of_error`: a commit that fails only logs its call.
-/

namespace ProxyControl

open SessionEvent

/-- The path of a write: it leads to a service or below it, and each component is plain. -/
structure PrefPath.InServices (path : List String) : Prop where
  rooted : ∃ service rest, path = networkServicesKey :: service :: rest
  plain : ∀ component ∈ path, PrefPath.IsPlain component

namespace MemoryPreferences

/-- Some writes have been published in the tree and in the log of writes. -/
structure Published (m : MemoryPreferences) (new : StagedWrites) (m' : MemoryPreferences) :
    Prop where
  services : m'.services = replay m.services new
  writes : m'.writes = m.writes ++ new.map logEntry

theorem Published.refl (m : MemoryPreferences) : Published m [] m where
  services := rfl
  writes := by simp

theorem Published.trans {m₁ m₂ m₃ : MemoryPreferences} {first second : StagedWrites}
    (h : Published m₁ first m₂) (h' : Published m₂ second m₃) :
    Published m₁ (first ++ second) m₃ where
  services := by rw [h'.services, h.services, replay_append]
  writes := by rw [h'.writes, h.writes, List.map_append, List.append_assoc]

/-- Publishing one write after the other. -/
theorem published_foldl (m : MemoryPreferences) (writes : StagedWrites) :
    Published m writes (writes.foldl publish m) := by
  rw [foldl_publish]
  exact ⟨rfl, rfl⟩

/-- The state of a session with some events behind it, since the preferences were `m` and the
events were `before`: it holds the writes that are not settled, and the writes that have been
settled meanwhile are published. -/
structure Progress (before : List SessionEvent) (m : MemoryPreferences)
    (events : List SessionEvent) (staged : StagedWrites) (m' : MemoryPreferences) : Prop where
  staged : staged = unsettled events
  published : ∃ new, settled events = settled before ++ new ∧ Published m new m'
  located : ∀ write ∈ admitted events, PrefPath.InServices write.1

theorem Progress.refl {events : List SessionEvent} {m : MemoryPreferences}
    (located : ∀ write ∈ admitted events, PrefPath.InServices write.1) :
    Progress events m events (unsettled events) m where
  staged := rfl
  published := ⟨[], by simp, .refl m⟩
  located := located

namespace Progress

variable {before events : List SessionEvent} {m m' m'' : MemoryPreferences} {staged : StagedWrites}

/-- Changes that reach neither the tree nor the log of writes do not matter. -/
theorem congr (h : Progress before m events staged m') (hservices : m''.services = m'.services)
    (hwrites : m''.writes = m'.writes) : Progress before m events staged m'' := by
  obtain ⟨new, hnew, published⟩ := h.published
  exact ⟨h.staged, ⟨new, hnew, hservices.trans published.services, hwrites.trans published.writes⟩,
    h.located⟩

/-- A write is accepted. -/
theorem accept (h : Progress before m events staged m') {path : String} {dict : ProxyDict}
    (located : PrefPath.InServices (PrefPath.components path)) :
    Progress before m (events ++ [.accepted path dict])
      (staged ++ [(PrefPath.components path, dict)]) m' where
  staged := by rw [unsettled_accepted, ← h.staged]
  published := by
    rw [settled_accepted]
    exact h.published
  located := by
    intro write hwrite
    rw [admitted_append] at hwrite
    rcases List.mem_append.1 hwrite with hwrite | hwrite
    · exact h.located write hwrite
    · obtain rfl : write = (PrefPath.components path, dict) := by
        simpa [admitted, write?] using hwrite
      exact located

/-- The writes that are held are published. -/
theorem commit (h : Progress before m events staged m') (published : Published m' staged m'') :
    Progress before m (events ++ [.committed]) [] m'' where
  staged := (unsettled_committed events).symm
  published := by
    obtain ⟨new, hnew, hpublished⟩ := h.published
    refine ⟨new ++ staged, ?_, hpublished.trans published⟩
    rw [settled_committed, ← settled_append_unsettled, hnew, ← h.staged, List.append_assoc]
  located := by
    intro write hwrite
    refine h.located write ?_
    simpa [admitted, write?] using hwrite

/-- What is published meanwhile lies inside the services. -/
theorem exists_new (h : Progress before m events staged m') :
    ∃ new, Published m new m' ∧ ∀ write ∈ new, PrefPath.InServices write.1 := by
  obtain ⟨new, hnew, published⟩ := h.published
  refine ⟨new, published, ?_⟩
  intro write hwrite
  refine h.located write ?_
  rw [← settled_append_unsettled, hnew]
  simp [hwrite]

end Progress

/-! ## The operations of a session -/

/-- A write is accepted only at a path inside the services. -/
theorem rooted_of_checkPath {failures : InjectedFailures} {path : String}
    {components : List String} (h : checkPath failures path components = .ok ()) :
    ∃ service rest, components = networkServicesKey :: service :: rest := by
  unfold checkPath at h
  split at h
  · rename_i root service rest
    split at h
    · cases h
    · rename_i hroot
      obtain rfl : root = networkServicesKey := by simpa using hroot
      exact ⟨service, rest, rfl⟩
  · cases h

/-- A commit that fails logs its call, and changes and loses nothing. -/
theorem commit_of_error {x x' : StagedWrites × MemoryPreferences} {cause : PreferencesError}
    (h : commit x = (.error cause, x')) : x' = (x.1, x.2.log .commit) := by
  simp only [commit] at h
  split at h
  · cases h
    rfl
  · cases h

/-- A session beside a witnessed one, since the preferences were `m` and the events were
`before`. -/
def Beside (before : List SessionEvent) (m : MemoryPreferences)
    (x : StagedWrites × MemoryPreferences)
    (x' : StagedWrites × (MemoryPreferences × List SessionEvent)) : Prop :=
  x = (x'.1, x'.2.1) ∧ Progress before m x'.2.2 x'.1 x'.2.1

/-- A call keeps the session beside the witnessed one if it goes on as the witness notes. -/
theorem Beside.call {β : Type} {before events : List SessionEvent} {m m' m'' : MemoryPreferences}
    {staged staged' : StagedWrites} {answer : β} {noted : β → List SessionEvent}
    {f : StagedWrites × MemoryPreferences → β × (StagedWrites × MemoryPreferences)}
    (hcall : f (staged, m') = (answer, (staged', m'')))
    (progress : Progress before m (events ++ noted answer) staged' m'') :
    Agree (Beside before m) (f (staged, m')) (Witness.call (staged, (m', events)) noted f) := by
  rw [hcall, Witness.call_eq hcall]
  exact ⟨rfl, rfl, progress⟩

/-- Every operation of a session goes on as the witness notes. -/
theorem session_follows (before : List SessionEvent) (m : MemoryPreferences) :
    session.Follows backend.witnessed.session (Beside before m) where
  value := by
    rintro key _ ⟨staged, m', events⟩ ⟨rfl, progress⟩
    exact Beside.call rfl (by simpa using progress)
  setPath := by
    rintro path dict _ ⟨staged, m', events⟩ ⟨rfl, progress⟩
    have hlogged : Progress before m events staged (m'.log .setPath) := progress.congr rfl rfl
    cases hcheck : checkPath m'.failures path (PrefPath.components path) with
    | error e =>
        have hset : setPath path dict (staged, m') = (.error e, (staged, m'.log .setPath)) := by
          simp [setPath, log, hcheck]
        exact Beside.call hset (by simpa [Witness.note] using hlogged)
    | ok _ =>
        have hset : setPath path dict (staged, m') =
            (.ok (), (staged ++ [(PrefPath.components path, dict)], m'.log .setPath)) := by
          simp [setPath, log, hcheck]
        exact Beside.call hset (hlogged.accept
          ⟨rooted_of_checkPath hcheck, fun _ => PrefPath.isPlain_of_mem_components⟩)
  commit := by
    rintro _ ⟨staged, m', events⟩ ⟨rfl, progress⟩
    cases hfails : m'.failures.commit with
    | true =>
        have hcommit : commit (staged, m') =
            (.error ⟨"commit failed"⟩, (staged, m'.log .commit)) := by
          simp [commit, log, hfails]
        have hlogged : Progress before m events staged (m'.log .commit) := progress.congr rfl rfl
        exact Beside.call hcommit (by simpa [Witness.note] using hlogged)
    | false =>
        have hcommit : commit (staged, m') =
            (.ok (), ([], { staged.foldl publish (m'.log .commit) with
              commits := m'.commits + 1 })) := by
          simp [commit, log, hfails, foldl_publish]
        have published := published_foldl (m'.log .commit) staged
        exact Beside.call hcommit (progress.commit ⟨published.services, published.writes⟩)
  apply := by
    rintro _ ⟨staged, m', events⟩ ⟨rfl, progress⟩
    cases hfails : m'.failures.apply with
    | true =>
        have happly : apply (staged, m') = (.error ⟨"apply failed"⟩, (staged, m'.log .apply)) := by
          simp [apply, log, hfails]
        refine Beside.call happly ?_
        rw [List.append_nil]
        exact progress.congr rfl rfl
    | false =>
        have happly : apply (staged, m') =
            (.ok (), (staged, { m'.log .apply with applies := m'.applies + 1 })) := by
          simp [apply, log, hfails]
        refine Beside.call happly ?_
        rw [List.append_nil]
        exact progress.congr rfl rfl
  synchronize := by
    rintro _ ⟨staged, m', events⟩ ⟨rfl, progress⟩
    refine ⟨rfl, ?_⟩
    have hsame : Progress before m (events ++ []) staged m' := by
      rw [List.append_nil]
      exact progress
    exact hsame.congr rfl rfl

/-! ## Runs -/

/-- The notes of the session of a run. -/
def runNotes (m : MemoryPreferences) (port : UInt16) : List SessionEvent :=
  (Synchronizer.run backend.witnessed port (m, [])).state.2

/-- A run goes on as its notes tell. -/
theorem run_progress (m : MemoryPreferences) (port : UInt16) :
    ∃ staged, Progress [] m (runNotes m port) staged (Synchronizer.run backend port m).state := by
  have hbegun : Progress [] m [] [] m := Progress.refl (by simp [admitted])
  cases hauthorization : m.failures.authorization with
  | some status =>
      have hauthorize : backend.authorize .sync m =
          (.error status, { m.log .authorize with lastFlags := some .sync }) := by
        simp [backend, authorize, log, hauthorization]
      have hwitnessed := backend.witnessed_authorize [] hauthorize
      rw [runNotes, (Synchronizer.run_of_denied port hwitnessed).2,
        (Synchronizer.run_of_denied port hauthorize).2]
      exact ⟨[], hbegun.congr rfl rfl⟩
  | none =>
  have hauthorize := authorize_eq_granted hauthorization
  have hwitnessed := backend.witnessed_authorize [] hauthorize
  cases hsession : m.failures.session with
  | some message =>
      have hopen := openSession_of_failure (m := m.granted) Synchronizer.sessionName hsession
      have hwitnessed' := backend.witnessed_openSession [] hopen
      rw [runNotes, (Synchronizer.run_of_refused port hwitnessed hwitnessed').2,
        (Synchronizer.run_of_refused port hauthorize hopen).2]
      exact ⟨[], hbegun.congr rfl rfl⟩
  | none =>
      have hopen := openSession_of_noFailure (m := m.granted) Synchronizer.sessionName hsession
      have hwitnessed' := backend.witnessed_openSession [] hopen
      rw [runNotes, (Synchronizer.run_of_opened port hwitnessed hwitnessed').2,
        (Synchronizer.run_of_opened port hauthorize hopen).2]
      have hbeside : Beside [] m ([], m.granted.logAll [.openSession])
          ([], (m.granted.logAll [.openSession], [])) := ⟨rfl, hbegun.congr rfl rfl⟩
      obtain ⟨_, _, hstate, progress⟩ := (session_follows [] m).runSession port hbeside
      -- Closing the session and giving the credential back touch neither the tree nor the log.
      have hservices := congrArg (fun x => x.2.services) hstate
      have hwrites := congrArg (fun x => x.2.writes) hstate
      exact ⟨_, progress.congr hservices hwrites⟩

end MemoryPreferences
end ProxyControl
