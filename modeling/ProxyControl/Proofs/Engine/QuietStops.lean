import ProxyControl.Proofs.Engine.ObservedExits

/-!
# Stops of engines that are seen not to run

Once the flag of the engine that is held is seen to be down, it stays down, and a stop asks nobody
to terminate.  It only receives the status and joins the watcher.  The watcher sends the status
later than it lowers the flag, though, and a stop with a timeout may run out of time meanwhile.
Then it kills an engine that has been waited for, or fails because the signal is refused.

A stop that does not run out of time is quiet, and that is every stop without a timeout and every
stop that finds the status sent.  All of them return: the watcher has three steps left at most and
the caller five, and one of them can always go on.

Main results:

- Theorem `seenOver_run`: an engine that is seen not to run is not seen to run again.
- Relation `Stopping`: how far a stop of such an engine has come.
- Theorem `run_stop_of_seenOver`: what the stop does, and that it returns.
- Theorem `not_quiet_of_seenOver`: it need not be quiet.
-/

namespace ProxyControl

/-- The steps that are left to a watcher. -/
def WatcherStage.stepsLeft : WatcherStage → Nat
  | .expecting => 7
  | .entrusted => 6
  | .waiting => 5
  | .woken (some _) => 4
  | .woken none => 2
  | .lowered (some _) => 3
  | .lowered none => 1
  | .recorded => 2
  | .sent => 1
  | .ended => 0

/-- The steps that are left to a stop that finds the flag down, if it runs out of time. -/
def Caller.stepsLeft : Caller → Nat
  | .checking _ _ => 5
  | .receiving _ _ => 4
  | .killing _ _ => 3
  | .receivingKilled _ _ => 2
  | .joining _ _ => 1
  | _ => 0

namespace Watcher

variable {pid : Pid} {w w' : Watcher} {rs : List ExitRecord}

theorem Turn.stepsLeft (turn : w.Turn pid w' rs) : w'.stage.stepsLeft < w.stage.stepsLeft := by
  cases turn with
  | @lowers _ status => cases status <;> simp [WatcherStage.stepsLeft]
  | _ => simp [WatcherStage.stepsLeft]

/-- A flag that is down stays down. -/
theorem Turn.flag (turn : w.Turn pid w' rs) (down : w.flag = false) : w'.flag = false := by
  cases turn with
  | takes => cases down
  | _ => rfl

/-- A status stays unread until it is received. -/
theorem Turn.canReceive (turn : w.Turn pid w' rs) (ready : w.canReceive = true) :
    w'.canReceive = true := by
  cases turn <;> simp_all [Watcher.canReceive]

/-- A watcher that has lowered the flag has at most three steps left. -/
theorem stepsLeft_le_of_flag (down : w.flag = false) : w.stage.stepsLeft ≤ 3 := by
  obtain ⟨stage, unread⟩ := w
  cases stage with
  | lowered status => cases status <;> simp [WatcherStage.stepsLeft]
  | recorded => simp [WatcherStage.stepsLeft]
  | sent => simp [WatcherStage.stepsLeft]
  | ended => simp [WatcherStage.stepsLeft]
  | _ => cases down

/-- The wait of a watcher that has lowered the flag is over. -/
theorem isWaitOver_of_flag (down : w.flag = false) : w.stage.isWaitOver = true := by
  obtain ⟨stage, unread⟩ := w
  cases stage <;> first | rfl | cases down

end Watcher

namespace Supervision

variable {options : SupervisorOptions} {s s' t u : Supervision} {past past' : List Child}
  {present present' : Option Child} {e : Event} {pid : Pid}

/-! ## Flags that are down -/

/-- The flag of a process is down. -/
def SeenOver (pid : Pid) (s : Supervision) : Prop :=
  ∃ c ∈ s.children, c.pid = pid ∧ ∃ w, c.watcher = some w ∧ w.flag = false

/-- An event leaves a flag that is down as it is. -/
theorem Advance.seenOver (h : Orderly s past present)
    (way : Advance s past present e s' past' present') (hs : SeenOver pid s) : SeenOver pid s' := by
  obtain ⟨c, hc, rfl, w, watcher, down⟩ := hs
  obtain ⟨latest, rs, change, hchildren, _⟩ := way.change h
  generalize (reply? e s').bind CallAnswer.started? = pid? at change
  rw [SeenOver, hchildren]
  rw [h.children] at hc
  rcases List.mem_append.1 hc with hpast | hpresent
  · exact ⟨c, List.mem_append_left _ hpast, rfl, w, watcher, down⟩
  · obtain rfl : present = some c := by simpa using hpresent
    have hlatest {c' : Child} {w' : Watcher} (hpid : c'.pid = c.pid)
        (watcher' : c'.watcher = some w') (down' : w'.flag = false) :
        ∃ d ∈ past ++ (some c').toList, d.pid = c.pid ∧
          ∃ w, d.watcher = some w ∧ w.flag = false :=
      ⟨c', by simp, hpid, w', watcher', down'⟩
    cases change with
    | stays _ => exact hlatest rfl watcher down
    | moves move =>
        cases move with
        | exits _ => exact hlatest rfl watcher down
        | wakes hwatcher _ =>
            obtain rfl := Option.some.inj (hwatcher.symm.trans watcher)
            cases down
        | turns hwatcher turn =>
            obtain rfl := Option.some.inj (hwatcher.symm.trans watcher)
            exact hlatest rfl rfl (turn.flag down)
    | receives hwatcher =>
        obtain rfl := Option.some.inj (hwatcher.symm.trans watcher)
        exact hlatest rfl rfl down
    | hires hwatcher => cases hwatcher.symm.trans watcher
    | handsOver hwatcher =>
        obtain rfl := Option.some.inj (hwatcher.symm.trans watcher)
        cases down
    | reaps hwatcher => cases hwatcher.symm.trans watcher

/-- An engine that is seen not to run is not seen to run again. -/
theorem seenOver_run (h : Orderly s past present) (hs : SeenOver pid s) {events : List Event}
    (hrun : s.run events = some t) : SeenOver pid t := by
  induction events generalizing s past present with
  | nil => exact Option.some.inj hrun ▸ hs
  | cons e rest ih =>
      obtain ⟨s', hstep, hrest⟩ := run_cons_eq_some.1 hrun
      obtain ⟨_, _, way⟩ := h.advance hstep
      exact ih (way.orderly h) (way.seenOver h hs) hrest

/-- The watcher of the present process has lowered the flag if that has been seen. -/
theorem SeenOver.flag {c : Child} {w : Watcher} (hs : SeenOver c.pid s)
    (h : Orderly s past (some c)) (watcher : c.watcher = some w) : w.flag = false := by
  obtain ⟨d, hd, hpid, v, hv, down⟩ := hs
  obtain rfl := h.eq_of_pid_eq hd (by simp [h.children]) hpid
  obtain rfl := Option.some.inj (hv.symm.trans watcher)
  exact down

/-- Between two calls, the engine that is held has the flag down if it does not run. -/
theorem Orderly.seenOver_of_isRunning (h : Orderly s past present)
    (between : s.caller.isBetween = true) (held : s.pid? = some pid)
    (stopped : s.isRunning = false) : SeenOver pid s := by
  rcases h.custody.of_between between with ⟨free, _⟩ | ⟨c, w, held', rfl, attended⟩
  · cases free.symm.trans held
  · obtain rfl := Option.some.inj (held.symm.trans held')
    refine ⟨c, by simp [h.children], rfl, w, attended.watcher, ?_⟩
    rwa [isRunning, held', Option.bind_some, h.watcher?_present, attended.watcher,
      Option.any_some] at stopped

/-! ## Stages of a stop -/

/-- The status of a process can be received. -/
def Ready (pid : Pid) (s : Supervision) : Prop :=
  (s.watcher? pid).any Watcher.canReceive = true

/-- The steps that are left to a stop and to the watcher of its engine. -/
def stepsLeft (pid : Pid) (s : Supervision) : Nat :=
  s.caller.stepsLeft + (s.watcher? pid).elim 0 fun w => w.stage.stepsLeft

/-- The stop that began in a state has not run out of time, and has sent no signal. -/
structure InTime (u : Supervision) (during : List Event) (s : Supervision) : Prop where
  intime : .timedOut ∉ during
  signals : s.signals = u.signals

/-- The stop that began in a state has run out of time, which it may only if there is a timeout and
the status could not be received when it began. -/
structure RanOut (u : Supervision) (pid : Pid) (during : List Event) : Prop where
  late : .timedOut ∈ during
  limited : u.options.hasTimeout = true
  unready : ¬ Ready pid u

/-- The stop has killed the engine, which had been waited for. -/
structure KilledLate (u : Supervision) (pid : Pid) (during : List Event) (s : Supervision) :
    Prop extends RanOut u pid during where
  signals : s.signals = ⟨pid, .forced, true⟩ :: u.signals

/-- The stop has failed because the signal was refused. -/
structure RefusedLate (u : Supervision) (pid : Pid) (during : List Event) (s : Supervision) :
    Prop extends RanOut u pid during where
  signals : s.signals = u.signals
  held : s.handle = some pid
  failed : ∃ cause, .signalled (.error cause) ∈ during ∧ s.answer = .failed (.signal pid cause)

/-- The stop has succeeded. -/
structure Succeeded (s : Supervision) : Prop where
  done : s.answer = .done
  free : s.handle = none

/-- Where the caller is, and what the stop has done so far. -/
def AtStage (u : Supervision) (pid : Pid) (during : List Event) (s : Supervision) : Prop :=
  match s.caller with
  | .checking p after =>
    (p = pid ∧ after = .finish) ∧ InTime u during s ∧ (Ready pid u → Ready pid s)
  | .receiving p after =>
    (p = pid ∧ after = .finish) ∧ InTime u during s ∧ (Ready pid u → Ready pid s)
  | .killing p after => (p = pid ∧ after = .finish) ∧ RanOut u pid during ∧ s.signals = u.signals
  | .receivingKilled p after => (p = pid ∧ after = .finish) ∧ KilledLate u pid during s
  | .joining p after =>
    (p = pid ∧ after = .finish) ∧ (InTime u during s ∨ KilledLate u pid during s)
  | .idle =>
    Succeeded s ∧ (InTime u during s ∨ KilledLate u pid during s) ∨ RefusedLate u pid during s
  | _ => False

/-- How far a stop of an engine that is seen not to run has come since it began. -/
structure Stopping (u : Supervision) (pid : Pid) (during : List Event) (s : Supervision) :
    Prop where
  options : s.options = u.options
  bound : during.length + stepsLeft pid s ≤ 8
  stage : AtStage u pid during s

section Stages

variable {during : List Event}

theorem InTime.snoc (h : InTime u during s) (hsignals : t.signals = s.signals)
    (he : e ≠ .timedOut) : InTime u (during ++ [e]) t where
  intime hmem := by
    rcases List.mem_append.1 hmem with hmem | hmem
    · exact h.intime hmem
    · exact he (List.mem_singleton.1 hmem).symm
  signals := hsignals.trans h.signals

theorem RanOut.snoc (h : RanOut u pid during) (e : Event) : RanOut u pid (during ++ [e]) where
  late := List.mem_append_left _ h.late
  limited := h.limited
  unready := h.unready

theorem KilledLate.snoc (h : KilledLate u pid during s) (hsignals : t.signals = s.signals)
    (e : Event) : KilledLate u pid (during ++ [e]) t where
  toRanOut := h.toRanOut.snoc e
  signals := hsignals.trans h.signals

/-- What a stop has done so far is not undone. -/
theorem snoc_inTime_or_killedLate (h : InTime u during s ∨ KilledLate u pid during s)
    (hsignals : t.signals = s.signals) (he : e ≠ .timedOut) :
    InTime u (during ++ [e]) t ∨ KilledLate u pid (during ++ [e]) t :=
  h.imp (fun h => h.snoc hsignals he) fun h => h.snoc hsignals e

/-- A step behind the caller's back keeps the stage. -/
theorem AtStage.background (hs : AtStage u pid during s) (background : e.isBackground = true)
    (hstep : s.step e = some t) (hready : Ready pid s → Ready pid t) :
    AtStage u pid (during ++ [e]) t := by
  obtain ⟨hhandle, hsignals, hcaller, hanswer⟩ := step_frame background hstep
  have he : e ≠ .timedOut := by
    rintro rfl
    cases background
  rw [AtStage] at hs
  rw [AtStage, hcaller]
  cases hstage : s.caller with
  | idle =>
      rw [hstage] at hs
      rcases hs with ⟨succeeded, hdone⟩ | refused
      · exact .inl ⟨⟨hanswer.trans succeeded.done, hhandle.trans succeeded.free⟩,
          snoc_inTime_or_killedLate hdone hsignals he⟩
      · obtain ⟨cause, hmem, failed⟩ := refused.failed
        exact .inr ⟨refused.toRanOut.snoc e, hsignals.trans refused.signals,
          hhandle.trans refused.held, cause, List.mem_append_left _ hmem, hanswer.trans failed⟩
  | checking p after =>
      rw [hstage] at hs
      exact ⟨hs.1, hs.2.1.snoc hsignals he, hready ∘ hs.2.2⟩
  | receiving p after =>
      rw [hstage] at hs
      exact ⟨hs.1, hs.2.1.snoc hsignals he, hready ∘ hs.2.2⟩
  | killing p after =>
      rw [hstage] at hs
      exact ⟨hs.1, hs.2.1.snoc e, hsignals.trans hs.2.2⟩
  | receivingKilled p after =>
      rw [hstage] at hs
      exact ⟨hs.1, hs.2.snoc hsignals e⟩
  | joining p after =>
      rw [hstage] at hs
      exact ⟨hs.1, snoc_inTime_or_killedLate hs.2 hsignals he⟩
  | _ =>
      rw [hstage] at hs
      exact hs

/-- The stop of the engine is going on, or it has returned. -/
theorem AtStage.stop_or_idle (hs : AtStage u pid during s) :
    s.caller.stop? = some (pid, .finish) ∨
      s.caller = .idle ∧ (Succeeded s ∨ RefusedLate u pid during s) := by
  rw [AtStage] at hs
  split at hs
  case h_6 idle => exact .inr ⟨idle, hs.imp And.left id⟩
  case h_7 => exact hs.elim
  all_goals
    rename_i stage
    obtain ⟨⟨rfl, rfl⟩, _⟩ := hs
    exact .inl (by rw [stage]; rfl)

/-- A stop that has run out of time could do so. -/
theorem AtStage.ranOut (hs : AtStage u pid during s) (late : .timedOut ∈ during) :
    RanOut u pid during := by
  have hdone {x : Supervision} (h : InTime u during x ∨ KilledLate u pid during x) :
      RanOut u pid during := by
    rcases h with hin | hkilled
    · exact absurd late hin.intime
    · exact hkilled.toRanOut
  rw [AtStage] at hs
  split at hs
  case h_1 => exact absurd late hs.2.1.intime
  case h_2 => exact absurd late hs.2.1.intime
  case h_3 => exact hs.2.1
  case h_4 => exact hs.2.toRanOut
  case h_5 => exact hdone hs.2
  case h_6 =>
    rcases hs with ⟨_, hs⟩ | hrefused
    · exact hdone hs
    · exact hrefused.toRanOut
  case h_7 => exact hs.elim

/-- The present process is the engine of the stop, as long as there is one. -/
theorem AtStage.of_present (hs : AtStage u pid during s) {c : Child} (h : Orderly s past (some c))
    (hover : SeenOver pid s) : c.pid = pid ∧ ∃ w, c.AttendedBy w ∧ w.flag = false := by
  rcases hs.stop_or_idle with stop | ⟨idle, hreturned⟩
  · obtain ⟨_, d, w, hpresent, rfl, attended, _⟩ := h.custody.of_stop stop
    obtain rfl := Option.some.inj hpresent
    exact ⟨rfl, w, attended, hover.flag h attended.watcher⟩
  · rcases h.custody.of_between (by rw [idle]; rfl) with
      ⟨_, hnone⟩ | ⟨d, w, held, hpresent, attended⟩
    · cases hnone
    · obtain rfl := Option.some.inj hpresent
      rcases hreturned with succeeded | refused
      · cases succeeded.free.symm.trans held
      · obtain rfl := Option.some.inj (refused.held.symm.trans held)
        exact ⟨rfl, w, attended, hover.flag h attended.watcher⟩

/-- A step of the engine or of its watcher leaves the stop where it is, with one step less to
come. -/
theorem Stopping.background (hs : Stopping u pid during s) (h : Orderly s past present)
    (hover : SeenOver pid s) (background : e.isBackground = true) (hstep : s.step e = some t) :
    Stopping u pid (during ++ [e]) t := by
  obtain ⟨_, _, way⟩ := h.advance hstep
  have horder := way.orderly h
  cases way with
  | background move =>
      obtain ⟨rfl, w, attended, down⟩ := hs.stage.of_present h hover
      have hreaped := attended.reaped.2 (Watcher.isWaitOver_of_flag down)
      cases move with
      | exits running => cases hreaped.symm.trans running
      | wakes _ exited => cases hreaped.symm.trans exited
      | turns watcher turn =>
          obtain rfl := Option.some.inj (watcher.symm.trans attended.watcher)
          have hbefore := h.watcher?_present.trans watcher
          have hafter := horder.watcher?_present
          refine ⟨hs.options, ?_, hs.stage.background background hstep fun ready => ?_⟩
          · have hbound := hs.bound
            have hturn := turn.stepsLeft
            rw [stepsLeft, hbefore, Option.elim_some] at hbound
            rw [stepsLeft, hafter, Option.elim_some, List.length_append, List.length_singleton]
            simp only at hbound ⊢
            omega
          · rw [Ready, hbefore, Option.any_some] at ready
            rw [Ready, hafter, Option.any_some]
            exact turn.canReceive ready
  | _ => cases background

/-- With the stop of a caller that goes on there is one step less to come. -/
theorem Stopping.caller_step (hs : Stopping u pid during s) (hoptions : t.options = s.options)
    (hwatcher : (t.watcher? pid).map Watcher.stage = (s.watcher? pid).map Watcher.stage)
    (hcaller : t.caller.stepsLeft < s.caller.stepsLeft)
    (stage : AtStage u pid (during ++ [e]) t) : Stopping u pid (during ++ [e]) t where
  options := hoptions.trans hs.options
  bound := by
    have helim (x : Supervision) : ((x.watcher? pid).elim 0 fun w => w.stage.stepsLeft) =
        ((x.watcher? pid).map Watcher.stage).elim 0 WatcherStage.stepsLeft := by
      cases x.watcher? pid <;> rfl
    have hbound := hs.bound
    rw [stepsLeft, helim] at hbound ⊢
    rw [hwatcher, List.length_append, List.length_singleton]
    omega
  stage := stage

/-- Every event but a call takes the stop on. -/
theorem Advance.stopping (h : Orderly s past present)
    (way : Advance s past present e s' past' present') (hs : Stopping u pid during s)
    (hover : SeenOver pid s) (hstep : s.step e = some s') (hcall : e.isCall = false) :
    Stopping u pid (during ++ [e]) s' := by
  have horder := way.orderly h
  have hstage := hs.stage
  -- At other stages than those of such a stop nothing is left to show.
  have hother {P : Prop} {stage : Caller} (hcaller : s.caller = stage)
      (hno : AtStage u pid during { s with caller := stage } = False) : P := by
    rw [← hcaller] at hno
    exact (hno ▸ hstage : False).elim
  cases way with
  | background move => exact hs.background h hover move.isBackground hstep
  | takesHandle _ _ => cases hcall
  | findsNone _ _ => cases hcall
  | findsRunning checking watcher raised =>
      rw [AtStage, checking] at hstage
      obtain ⟨⟨rfl, rfl⟩, _⟩ := hstage
      rw [hover.flag h watcher] at raised
      cases raised
  | findsOver checking _ _ =>
      rw [AtStage, checking] at hstage
      obtain ⟨⟨rfl, rfl⟩, hintime, hready⟩ := hstage
      refine hs.caller_step rfl rfl ?_ ⟨⟨rfl, rfl⟩, hintime.snoc rfl (by simp), hready⟩
      simp [checking, Caller.stepsLeft]
  | asks terminating => exact hother terminating rfl
  | @kills c after killing =>
      rw [AtStage, killing] at hstage
      obtain ⟨⟨rfl, rfl⟩, hlate, hsignals⟩ := hstage
      obtain ⟨_, w, attended, down⟩ := hs.stage.of_present h hover
      have hreaped := attended.reaped.2 (Watcher.isWaitOver_of_flag down)
      refine hs.caller_step rfl rfl ?_ ⟨⟨rfl, rfl⟩, hlate.snoc _, ?_⟩
      · simp [killing, Caller.stepsLeft]
      · simp [send, h.child?_present, hreaped, hsignals]
  | @isRefused c after cause signalling =>
      rcases signalling with terminating | killing
      · exact hother terminating rfl
      · rw [AtStage, killing] at hstage
        obtain ⟨⟨rfl, rfl⟩, hlate, hsignals⟩ := hstage
        refine hs.caller_step rfl rfl ?_ (.inr ⟨hlate.snoc _, hsignals, rfl, cause, ?_, rfl⟩)
        · simp [killing, failStop, Caller.stepsLeft]
        · simp
  | @timesOut c w after receiving watcher limited empty =>
      rw [AtStage, receiving] at hstage
      obtain ⟨⟨rfl, rfl⟩, hintime, hready⟩ := hstage
      have hunready : ¬ Ready c.pid u := fun ready => by
        have hnow := hready ready
        rw [Ready, h.watcher?_present, watcher, Option.any_some, empty] at hnow
        cases hnow
      refine hs.caller_step rfl rfl ?_ ⟨⟨rfl, rfl⟩, ⟨?_, ?_, hunready⟩, hintime.signals⟩
      · simp [receiving, Caller.stepsLeft]
      · simp
      · rw [← hs.options, limited]
  | @receives c w after receiving watcher ready =>
      have hwatcher : s.watcher? c.pid = some w := h.watcher?_present.trans watcher
      have hwatcher' := horder.watcher?_present
      obtain ⟨⟨rfl, rfl⟩, hdone⟩ : (c.pid = pid ∧ after = .finish) ∧
          (InTime u during s ∨ KilledLate u pid during s) := by
        rcases receiving with receiving | receiving
        · rw [AtStage, receiving] at hstage
          exact ⟨hstage.1, .inl hstage.2.1⟩
        · rw [AtStage, receiving] at hstage
          exact ⟨hstage.1, .inr hstage.2⟩
      refine hs.caller_step rfl ?_ ?_ ⟨⟨rfl, rfl⟩, snoc_inTime_or_killedLate hdone rfl (by simp)⟩
      · rw [hwatcher, hwatcher']
        rfl
      · rcases receiving with receiving | receiving <;> simp [receiving, Caller.stepsLeft]
  | @joins c w after joining watcher ended =>
      obtain ⟨free, _⟩ := h.custody.of_stop (by rw [joining]; rfl)
      rw [AtStage, joining] at hstage
      obtain ⟨⟨rfl, rfl⟩, hdone⟩ := hstage
      refine hs.caller_step rfl rfl ?_
        (.inl ⟨⟨rfl, free⟩, snoc_inTime_or_killedLate hdone rfl (by simp)⟩)
      simp [joining, stopped, finish, Caller.stepsLeft]
  | failsToLaunch launching => exact hother launching rfl
  | launches launching => exact hother launching rfl
  | hires hiring => exact hother hiring rfl
  | lacksThread hiring => exact hother hiring rfl
  | handsOver handing => exact hother handing rfl
  | discards discarding => exact hother discarding rfl
  | cannotDiscard discarding => exact hother discarding rfl
  | reaps reaping _ => exact hother reaping rfl

/-- A stop goes on as it must through any further events, as long as no call begins. -/
theorem Stopping.run (hs : Stopping u pid during s) (h : Orderly s past present)
    (hover : SeenOver pid s) {events : List Event} (hcalls : ∀ e ∈ events, e.isCall = false)
    (hrun : s.run events = some t) : Stopping u pid (during ++ events) t := by
  induction events generalizing s past present during with
  | nil => rwa [← Option.some.inj hrun, List.append_nil]
  | cons e rest ih =>
      obtain ⟨s', hstep, hrest⟩ := run_cons_eq_some.1 hrun
      obtain ⟨_, _, way⟩ := h.advance hstep
      have hs' := way.stopping h hs hover hstep (hcalls e List.mem_cons_self)
      have ht := ih hs' (way.orderly h) (way.seenOver h hover)
        (fun e he => hcalls e (List.mem_cons_of_mem _ he)) hrest
      rwa [List.append_assoc, List.singleton_append] at ht

/-- A watcher that has lowered the flag goes on to its end. -/
theorem Orderly.isSome_step_watcher {c : Child} {w : Watcher} (h : Orderly s past (some c))
    (watcher : c.watcher = some w) (down : w.flag = false) (going : w.stage ≠ .ended) :
    (s.step (.watcher c.pid true)).isSome = true := by
  rw [step, h.child?_present]
  obtain ⟨stage, unread⟩ := w
  cases stage with
  | lowered status => cases status <;> simp [watcherStep, watcher]
  | recorded => simp [watcherStep, watcher]
  | sent => simp [watcherStep, watcher]
  | ended => exact absurd rfl going
  | _ => cases down

/-- Once the watcher is over, the caller waits for nothing. -/
theorem exists_step_of_ended {w : Watcher} {after : AfterStop}
    (stop : s.caller.stop? = some (pid, after)) (watcher : s.watcher? pid = some w)
    (ended : w.stage = .ended) : ∃ e, e.isCall = false ∧ (s.step e).isSome = true := by
  have ready : w.canReceive = true := by simp [Watcher.canReceive, ended]
  have down : w.flag = false := by simp [Watcher.flag, ended]
  cases hcaller : s.caller with
  | checking p after =>
      obtain ⟨rfl, -⟩ : p = pid ∧ _ := by simpa [hcaller, Caller.stop?] using stop
      exact ⟨.readFlag, rfl, by simp [step, hcaller, watcher, down]⟩
  | terminating p after => exact ⟨.signalled (.ok ()), rfl, by simp [step, hcaller]⟩
  | receiving p after =>
      obtain ⟨rfl, -⟩ : p = pid ∧ _ := by simpa [hcaller, Caller.stop?] using stop
      exact ⟨.received, rfl, by simp [step, hcaller, watcher, ready]⟩
  | killing p after => exact ⟨.signalled (.ok ()), rfl, by simp [step, hcaller]⟩
  | receivingKilled p after =>
      obtain ⟨rfl, -⟩ : p = pid ∧ _ := by simpa [hcaller, Caller.stop?] using stop
      exact ⟨.received, rfl, by simp [step, hcaller, watcher, ready]⟩
  | joining p after =>
      obtain ⟨rfl, -⟩ : p = pid ∧ _ := by simpa [hcaller, Caller.stop?] using stop
      exact ⟨.joined, rfl, by simp [step, hcaller, watcher, ended]⟩
  | _ =>
      rw [hcaller] at stop
      cases stop

/-- As long as the stop has not returned, it can go on. -/
theorem Stopping.progress (hs : Stopping u pid during s) (h : Orderly s past present)
    (hover : SeenOver pid s) (busy : s.caller ≠ .idle) :
    ∃ e, e.isCall = false ∧ (s.step e).isSome = true := by
  have stop := hs.stage.stop_or_idle.resolve_right fun idle => busy idle.1
  obtain ⟨_, c, w, rfl, rfl, attended, _⟩ := h.custody.of_stop stop
  by_cases ended : w.stage = .ended
  · exact exists_step_of_ended stop (h.watcher?_present.trans attended.watcher) ended
  · exact ⟨_, rfl,
      h.isSome_step_watcher attended.watcher (hover.flag h attended.watcher) ended⟩

/-- A stop of an engine that is seen not to run begins. -/
theorem Orderly.stopping_of_stop (h : Orderly s past present) (idle : s.caller = .idle)
    (held : s.pid? = some pid) (hover : SeenOver pid s) :
    Stopping s pid [] { s with handle := none, caller := .checking pid .finish } := by
  refine ⟨rfl, ?_, ⟨rfl, rfl⟩, ⟨List.not_mem_nil, rfl⟩, id⟩
  rcases h.custody.of_between (by rw [idle]; rfl) with ⟨free, _⟩ | ⟨c, w, held', rfl, attended⟩
  · cases free.symm.trans held
  · obtain rfl := Option.some.inj (held.symm.trans held')
    have hwatcher : s.watcher? c.pid = some w := h.watcher?_present.trans attended.watcher
    have hsteps := Watcher.stepsLeft_le_of_flag (hover.flag h attended.watcher)
    change 0 + (5 + (s.watcher? c.pid).elim 0 fun w => w.stage.stepsLeft) ≤ 8
    rw [hwatcher, Option.elim_some]
    omega

end Stages

/-! ## Whole stops -/

/-- What a stop of an engine that is seen not to run does. -/
structure StopsSeenOver (u : Supervision) (pid : Pid) (during : List Event) (t : Supervision) :
    Prop where
  /-- A stop that returns and has not run out of time has sent no signal and has succeeded. -/
  quiet : t.caller = .idle → .timedOut ∉ during →
    t.signals = u.signals ∧ t.answer = .done ∧ t.handle = none
  /-- It runs out of time only if there is a timeout and the status had not come when it began. -/
  late : .timedOut ∈ during → u.options.hasTimeout = true ∧ ¬ Ready pid u
  /-- If it has run out of time, it has killed an engine that had been waited for, or it has failed
  because the signal was refused. -/
  returnedLate : t.caller = .idle → .timedOut ∈ during →
    (t.signals = ⟨pid, .forced, true⟩ :: u.signals ∧ t.answer = .done ∧ t.handle = none) ∨
      ∃ cause, .signalled (.error cause) ∈ during ∧ t.signals = u.signals ∧
        t.answer = .failed (.signal pid cause) ∧ t.handle = some pid
  /-- It takes no more than eight events. -/
  bound : during.length ≤ 8
  /-- As long as it has not returned, an event can happen. -/
  progress : t.caller ≠ .idle → ∃ e, e.isCall = false ∧ (t.step e).isSome = true

/-- What is known of a stop under way is known of it when it is over. -/
theorem Stopping.stopsSeenOver {during : List Event} (hs : Stopping u pid during t)
    (h : Orderly t past present) (hover : SeenOver pid t) : StopsSeenOver u pid during t where
  quiet idle intime := by
    have hstage := hs.stage
    rw [AtStage, idle] at hstage
    rcases hstage with ⟨succeeded, hin | hkilled⟩ | hrefused
    · exact ⟨hin.signals, succeeded.done, succeeded.free⟩
    · exact absurd hkilled.late intime
    · exact absurd hrefused.late intime
  late late := ⟨(hs.stage.ranOut late).limited, (hs.stage.ranOut late).unready⟩
  returnedLate idle late := by
    have hstage := hs.stage
    rw [AtStage, idle] at hstage
    rcases hstage with ⟨succeeded, hin | hkilled⟩ | hrefused
    · exact absurd late hin.intime
    · exact .inl ⟨hkilled.signals, succeeded.done, succeeded.free⟩
    · obtain ⟨cause, hmem, failed⟩ := hrefused.failed
      exact .inr ⟨cause, hmem, hrefused.signals, failed, hrefused.held⟩
  bound := Nat.le_trans (Nat.le_add_right _ _) hs.bound
  progress busy := hs.progress h hover busy

/-- Once the engine that is held has been seen not to run, a stop sends no signal, succeeds and
leaves no handle, unless it runs out of time before its watcher sends the status.  In any case it
returns. -/
theorem run_stop_of_seenOver {events later during : List Event}
    (hevents : (new options).run events = some s) (idle : s.caller = .idle)
    (held : s.pid? = some pid) (stopped : s.isRunning = false) (hlater : s.run later = some u)
    (idle' : u.caller = .idle) (held' : u.pid? = some pid)
    (hrun : u.run (.call .stop :: during) = some t) (hcalls : ∀ e ∈ during, e.isCall = false) :
    StopsSeenOver u pid during t := by
  obtain ⟨_, _, horder⟩ := orderly_run hevents
  obtain ⟨_, _, horder'⟩ := horder.run hlater
  have hover := horder.seenOver_of_isRunning (by rw [idle]; rfl) held stopped
  have hover' := seenOver_run horder hover hlater
  obtain ⟨v, hstep, hrest⟩ := run_cons_eq_some.1 hrun
  obtain ⟨_, _, way⟩ := horder'.advance hstep
  have hv : v = { u with handle := none, caller := .checking pid .finish } := by
    rw [step, if_pos idle', begin_eq, beginStop_of_handle held'] at hstep
    exact (Option.some.inj hstep).symm
  have hstart : Stopping u pid [] v := hv ▸ horder'.stopping_of_stop idle' held' hover'
  have hoverv := way.seenOver horder' hover'
  obtain ⟨_, _, hordert⟩ := (way.orderly horder').run hrest
  exact (hstart.run (way.orderly horder') hoverv hcalls hrest).stopsSeenOver hordert
    (seenOver_run (way.orderly horder') hoverv hrest)

/-- A stop that runs out of time after its engine has been seen not to run. -/
def lateStop : List Event :=
  [.readFlag, .timedOut, .signalled (.ok ()), .watcher 0 true, .watcher 0 true, .received,
    .watcher 0 true, .joined]

/-- A stop that begins when the status has been sent is quiet.  One that begins before the exit is
recorded may run out of time and kill an engine that has been waited for. -/
theorem run_stop_of_seenOver_unrecorded :
    ∃ s u t t', (new impatient).run unrecorded = some s ∧ s.isRunning = false ∧
      s.run [.watcher 0 true, .watcher 0 true] = some u ∧ Ready 0 u ∧
      u.run [.call .stop, .readFlag, .received, .watcher 0 true, .joined] = some t ∧
      t.caller = .idle ∧ t.signals = u.signals ∧ t.answer = .done ∧ t.handle = none ∧
      s.run (.call .stop :: lateStop) = some t' ∧ t'.caller = .idle ∧
      t'.signals = ⟨0, .forced, true⟩ :: s.signals ∧ lateStop.length ≤ 8 := by
  have hs : (new impatient).run unrecorded = some _ := rfl
  have hu : (new impatient).run (unrecorded ++ [.watcher 0 true, .watcher 0 true]) = some _ := rfl
  rw [run_append, hs, Option.bind_some] at hu
  have hquiet := run_stop_of_seenOver hs rfl (show _ = some 0 from rfl) rfl hu rfl rfl
    (show run _ (.call .stop :: [.readFlag, .received, .watcher 0 true, .joined]) = some _ from rfl)
    (by decide)
  have hlate := run_stop_of_seenOver hs rfl (show _ = some 0 from rfl) rfl
    (show run _ [] = some _ from rfl) rfl rfl
    (show run _ (.call .stop :: lateStop) = some _ from rfl) (by decide)
  obtain ⟨hsignals, hanswer, hhandle⟩ := hquiet.quiet rfl (by simp)
  refine ⟨_, _, _, _, hs, rfl, hu, rfl, rfl, rfl, hsignals, hanswer, hhandle, rfl, rfl, ?_,
    hlate.bound⟩
  exact ((hlate.returnedLate rfl (by simp [lateStop])).resolve_right nofun).1

/-- Once the engine that is held has been seen not to run, a stop that returns has a property. -/
def StopsOf (P : Supervision → Supervision → Prop) : Prop :=
  ∀ (options : SupervisorOptions) (events during : List Event) (s t : Supervision) (pid : Pid),
    (new options).run events = some s → s.caller = .idle → s.pid? = some pid →
    s.isRunning = false → s.run (.call .stop :: during) = some t →
    (∀ e ∈ during, e.isCall = false) → t.caller = .idle → P s t

/-- Such a stop may send a signal, and it may fail and keep the handle. -/
theorem not_quiet_of_seenOver :
    ¬ StopsOf (fun s t => t.signals = s.signals) ∧
      ¬ StopsOf fun _ t => t.answer = .done ∧ t.handle = none := by
  constructor
  · intro hall
    have hsignals := hall impatient unrecorded lateStop _ _ 0 rfl rfl rfl rfl rfl (by decide) rfl
    cases hsignals
  · intro hall
    obtain ⟨hanswer, _⟩ := hall impatient unrecorded
      [.readFlag, .timedOut, .signalled (.error "not permitted")] _ _ 0 rfl rfl rfl rfl rfl
      (by decide) rfl
    cases hanswer

end Supervision
end ProxyControl
