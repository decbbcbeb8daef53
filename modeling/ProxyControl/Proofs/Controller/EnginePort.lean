import ProxyControl.Controller.EngineRun
import ProxyControl.Proofs.Engine.LaunchArguments
import ProxyControl.Proofs.Settings.SharedReads

/-!
# The port that the engine gets and the port that is shown

A run reads the port twice: with the other settings when it makes the command line of the
engine, and once more when the engine has been started.  It reports the second reading and
points the system proxy at it.  Between the two readings others may set another port, and
each of them may fail on its own.

Main results:

- Structure `Surroundings.ReadsFrom`: the readings of a run come from a shared database.
- Theorem `EngineRun.run_port`: the port on the command line, the port that is shown, and when
  they are the same.
- Theorem `EngineRun.not_showsEnginePort`: they need not be.
-/

namespace ProxyControl

/-! ## Command lines -/

namespace EngineCommand

/-- The port that the engine is given. -/
def port? (c : EngineCommand) : Option String :=
  argument? "--port" c.args

theorem port?_ofConfiguration (program : Path) (c : Configuration) :
    (ofConfiguration program c).port? = some (toString c.port.toNat) :=
  rfl

/-- The port on a command line tells the port of its configuration. -/
theorem port?_ofConfiguration_eq_iff (program : Path) (c : Configuration) (port : UInt16) :
    (ofConfiguration program c).port? = some (toString port.toNat) ↔ c.port = port := by
  rw [port?_ofConfiguration, Option.some.injEq]
  constructor
  · intro h
    exact UInt16.toNat_inj.1 (toString_nat_injective h)
  · rintro rfl
    rfl

end EngineCommand

namespace Controller

/-- The port that an action points the system proxy at. -/
def RunAction.pointed? : RunAction → Option UInt16
  | synchronize port => some port
  | _ => none

/-- The readings of a run come from a database that others use: those for the command line among
the events `opening`, and the one of the port after the start among the events `later`. -/
structure Surroundings.ReadsFrom (w : Surroundings) (s : SettingsStore DatabaseFile)
    (opening later : List SharedEvent) : Prop where
  defaults : w.defaults = s.defaults
  command : ∃ t, (Reader.new s Configuration.readOrder).run opening = some t ∧ t.pending = [] ∧
    ∀ key, w.commandReadings key = t.seen key
  port : ∃ t, (Reader.new (s.after opening) [.port]).run later = some t ∧ t.pending = [] ∧
    w.portReading = t.seen .port

namespace EngineRun

variable {o : RunOptions} {w : Surroundings} {pid : Pid}

/-- A run that has started the engine begins with its opening. -/
theorem actions_of_start (hstart : w.start = .ok pid) : opening o w pid <+: (run o w).actions := by
  simp only [run, hstart]
  split
  · exact List.prefix_rfl
  · exact List.prefix_append _ _

theorem launched?_run (hstart : w.start = .ok pid) : (run o w).launched? = some (command o w) := by
  obtain ⟨rest, hrest⟩ := actions_of_start (o := o) hstart
  have hengine : (run o w).engine = some pid := by
    simp only [run, hstart]
    split <;> rfl
  rw [launched?, hengine, ← hrest]
  rfl

/-- The run reports the port that it has read after the start. -/
theorem running_mem_log (hstart : w.start = .ok pid) : running (port w) pid ∈ (run o w).log := by
  refine List.mem_filterMap.2 ⟨.note (running (port w) pid), ?_, rfl⟩
  exact (actions_of_start hstart).subset (by simp [opening])

/-- The run points the system proxy at that port if it was asked to. -/
theorem pointed?_run (hstart : w.start = .ok pid) (asked : o.systemProxy = true) :
    (run o w).actions.findSome? RunAction.pointed? = some (port w) := by
  obtain ⟨rest, hrest⟩ := actions_of_start (o := o) hstart
  rw [← hrest]
  simp only [opening, synchronize, asked]
  rfl

/-- The port of a store by a reading that may fail. -/
def portBy (s : SettingsStore DatabaseFile) (failure : Option StorageError) : UInt16 :=
  (s.attempt .port failure).port?.getD s.defaults.port

/-- An engine that has been started is given the port of one moment, and the port of a later moment
is reported and handed to the system proxy.  If both readings succeed and no action between them
concerns the port, both are the same. -/
theorem run_port {s : SettingsStore DatabaseFile} {before later : List SharedEvent}
    (hstart : w.start = .ok pid) (hreads : w.ReadsFrom s before later) :
    ∃ c given shown first second f g, (run o w).launched? = some c ∧
      first ++ [.read f] <+: before ∧ given = portBy (s.after first) f ∧
      second ++ [.read g] <+: later ∧ shown = portBy (s.after (before ++ second)) g ∧
      c.port? = some (toString given.toNat) ∧
      running shown pid ∈ (run o w).log ∧
      (o.systemProxy = true → (run o w).actions.findSome? RunAction.pointed? = some shown) ∧
      (c.port? = some (toString shown.toNat) ↔ given = shown) ∧
      (f = none → g = none → Reader.Undisturbed (before ++ later) .port → given = shown) := by
  obtain ⟨t, hrun, hdone, hcommand⟩ := hreads.command
  obtain ⟨t', hrun', hdone', hport⟩ := hreads.port
  obtain ⟨moment, failure, h, _⟩ :=
    Reader.moments_of_run hrun (show Configuration.readOrder.Nodup by decide) hdone
  have hnodup' : [SettingKey.port].Nodup := by decide
  obtain ⟨moment', failure', h', _⟩ := Reader.moments_of_run hrun' hnodup' hdone'
  have hfirst := h.within .port (show _ ∈ Configuration.readOrder by decide)
  have hsecond := h'.within .port (List.mem_singleton_self _)
  have hgiven : (Configuration.ofReadings w.defaults w.commandReadings).port =
      portBy (s.after (moment .port)) (failure .port) := by
    rw [portBy, s.defaults_after, Configuration.ofReadings, hreads.defaults, hcommand .port,
      h.seen .port (show _ ∈ Configuration.readOrder by decide)]
    rfl
  have hshown : port w = portBy (s.after (before ++ moment' .port)) (failure' .port) := by
    rw [portBy, s.defaults_after, port, hreads.defaults, hport,
      h'.seen .port (List.mem_singleton_self _), s.after_append]
    rfl
  refine ⟨command o w, _, _, moment .port, moment' .port, failure .port, failure' .port,
    launched?_run hstart, hfirst, rfl, hsecond, rfl, ?_, ?_, ?_, ?_, ?_⟩
  · rw [command, EngineCommand.port?_ofConfiguration, hgiven]
  · rw [← hshown]
    exact running_mem_log hstart
  · rw [← hshown]
    exact pointed?_run hstart
  · rw [command, EngineCommand.port?_ofConfiguration_eq_iff, hgiven]
  · intro hf hg undisturbed
    rw [hf] at hfirst
    rw [hg] at hsecond
    have hlater : before ++ moment' .port ++ [.read none] <+: before ++ later := by
      rw [List.append_assoc]
      exact (List.prefix_append_right_inj before).2 hsecond
    have hsame := undisturbed.read_eq (s := s) (hfirst.trans (List.prefix_append before _)) hlater
    rw [hf, hg, portBy, portBy, s.defaults_after, s.defaults_after, SettingsStore.attempt,
      SettingsStore.attempt, hsame]

/-- The surroundings of a run that starts its engine and is interrupted at once.  The command line
is made from one state of the settings, and the port is read from another. -/
def interrupted (s t : SettingsStore DatabaseFile) : Surroundings where
  defaults := s.defaults
  commandReadings := s.read
  start := .ok 0
  portReading := t.read .port
  pointing := .ok ⟨5000, [], false⟩
  wakeups := [.interrupt]
  switchingOff := .ok ⟨0, [], false⟩
  stop := .ok ()

/-- The readings for a command line without anybody else. -/
def undisturbed : List SharedEvent :=
  List.replicate 6 (.read none)

/-- The readings of an interrupted run come from a database in which others change one setting
after the command line has been made. -/
theorem readsFrom_interrupted (s : SettingsStore DatabaseFile) (a : SettingsAction) :
    (interrupted s (s.step a).store).ReadsFrom s undisturbed [.action a, .read none] where
  defaults := rfl
  command := ⟨_, rfl, rfl, fun key => by cases key <;> rfl⟩
  port := ⟨_, rfl, rfl, rfl⟩

/-- A switch that is set between the two readings of the port does not matter. -/
theorem run_port_switched :
    ∃ w c, w.start = .ok 0 ∧
      w.ReadsFrom Reader.blank undisturbed [.action (.setToggle .negotiate true), .read none] ∧
      (run ⟨.ofText "engine", true⟩ w).launched? = some c ∧
      (run ⟨.ofText "engine", true⟩ w).actions.findSome? RunAction.pointed? = some 3128 ∧
      c.port? = some (toString (3128 : UInt16).toNat) := by
  have hreads := readsFrom_interrupted Reader.blank (.setToggle .negotiate true)
  obtain ⟨c, given, shown, first, second, f, g, hlaunched, hfirst, _, hsecond, _, _, _, hpointed,
    hport, hsame⟩ := run_port (o := ⟨.ofText "engine", true⟩) rfl hreads
  have hf : f = none := by
    have hmem : SharedEvent.read f ∈ undisturbed := hfirst.subset (by simp)
    simpa [undisturbed] using hmem
  have hg : g = none := by
    have hmem : SharedEvent.read g ∈ [.action (.setToggle .negotiate true), .read none] :=
      hsecond.subset (by simp)
    simpa using hmem
  have hshown : shown = 3128 := by
    refine Option.some.inj ((hpointed rfl).symm.trans ?_)
    rfl
  rw [hshown] at hport hsame
  refine ⟨_, c, rfl, hreads, hlaunched, rfl, hport.2 (hsame hf hg ?_)⟩
  intro before a after hsplit _ _
  have hmem : SharedEvent.action a ∈ before ++ .action a :: after := by simp
  rw [← hsplit] at hmem
  obtain rfl : a = .setToggle .negotiate true := by simpa [undisturbed] using hmem
  decide

/-- Every run that starts an engine reports the port that the engine is given, and points the system
proxy at it. -/
def ShowsEnginePort : Prop :=
  ∀ (o : RunOptions) (w : Surroundings) (pid : Pid) (s : SettingsStore DatabaseFile)
    (before later : List SharedEvent) (c : EngineCommand) (shown : UInt16),
    w.start = .ok pid → w.ReadsFrom s before later → (run o w).launched? = some c →
    running shown pid ∈ (run o w).log →
    (run o w).actions.findSome? RunAction.pointed? = some shown →
    c.port? = some (toString shown.toNat)

/-- A run may report another port than the engine is given, and point the system proxy at it. -/
theorem not_showsEnginePort : ¬ ShowsEnginePort := by
  intro hall
  have hport := hall ⟨.ofText "engine", true⟩ _ 0 _ _ _ _ 5000 rfl
    (readsFrom_interrupted Reader.blank (.setPort 5000)) rfl (by decide) rfl
  cases hport

end EngineRun
end Controller
end ProxyControl
