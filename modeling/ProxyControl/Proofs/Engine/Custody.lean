import ProxyControl.Engine.Supervisor

/-!
# Who has the engine

A supervisor has at most one engine that still matters: the present process.  It is with
the caller until it has been handed over and then with its watcher, while the supervisor
holds a handle to it or a stop has taken the handle.

Main results:

- Relation `Child.Move`: the steps of a process and its watcher.
- Structure `Child.Settled`: nothing is left to happen to a process.
- Structure `Child.AttendedBy`: a watcher has the process.
- Relation `Custody`: where the present process is, by the handle and the caller.
-/

namespace ProxyControl

/-! ## Kinds of events -/

namespace Supervision.Event

/-- The event is a step of a process or of a watcher, and not of the caller. -/
def isBackground : Event → Bool
  | exits _ _ => true
  | watcher _ _ => true
  | _ => false

/-- A call begins. -/
def isCall : Event → Bool
  | call _ => true
  | _ => false

/-- The system refuses to send a signal. -/
def isRefusal : Event → Bool
  | signalled (.error _) => true
  | _ => false

/-- The wait of a watcher does not lose the status. -/
def keepsStatus : Event → Bool
  | watcher _ known => known
  | _ => true

end Supervision.Event

/-! ## Watchers -/

/-- The wait for the process is over. -/
def WatcherStage.isWaitOver : WatcherStage → Bool
  | .expecting => false
  | .entrusted => false
  | .waiting => false
  | _ => true

/-- A step of a watcher that leaves its process alone, with the records that it adds. -/
inductive Watcher.Turn (pid : Pid) : Watcher → Watcher → List ExitRecord → Prop
  /-- It takes the process. -/
  | takes {unread : Bool} : Turn pid ⟨.entrusted, unread⟩ ⟨.waiting, unread⟩ []
  /-- It lowers the running flag. -/
  | lowers {unread : Bool} {status : Option ExitStatus} :
      Turn pid ⟨.woken status, unread⟩ ⟨.lowered status, unread⟩ []
  /-- It stores the record. -/
  | records {unread : Bool} {status : ExitStatus} :
      Turn pid ⟨.lowered (some status), unread⟩ ⟨.recorded, unread⟩ [⟨pid, status.number⟩]
  /-- It ends without a status to tell of. -/
  | givesUp {unread : Bool} : Turn pid ⟨.lowered none, unread⟩ ⟨.ended, unread⟩ []
  /-- It sends the status. -/
  | sends {unread : Bool} : Turn pid ⟨.recorded, unread⟩ ⟨.sent, true⟩ []
  /-- It ends. -/
  | ends {unread : Bool} : Turn pid ⟨.sent, unread⟩ ⟨.ended, unread⟩ []

/-- The wait for the process neither ends nor begins anew by such a step. -/
theorem Watcher.Turn.isWaitOver_eq {pid : Pid} {w w' : Watcher} {rs : List ExitRecord}
    (turn : w.Turn pid w' rs) : w'.stage.isWaitOver = w.stage.isWaitOver := by
  cases turn <;> rfl

/-- A watcher that has no status left to send has none afterwards either. -/
theorem Watcher.Turn.told {pid : Pid} {w w' : Watcher} {rs : List ExitRecord}
    (turn : w.Turn pid w' rs) (h : w.stage = .sent ∨ w.stage = .ended) :
    w'.stage = .sent ∨ w'.stage = .ended := by
  cases turn <;> simp_all

/-- Only a watcher that has sent its status leaves one unread. -/
theorem Watcher.Turn.unread {pid : Pid} {w w' : Watcher} {rs : List ExitRecord}
    (turn : w.Turn pid w' rs) (h : w.unread = true → w.stage = .sent ∨ w.stage = .ended)
    (unread : w'.unread = true) : w'.stage = .sent ∨ w'.stage = .ended := by
  cases turn <;> simp_all

/-- After such a step the watcher has its process. -/
theorem Watcher.Turn.begun {pid : Pid} {w w' : Watcher} {rs : List ExitRecord}
    (turn : w.Turn pid w' rs) : w'.stage ≠ .expecting := by
  cases turn <;> simp

/-! ## Processes with their watchers -/

namespace Child

/-- A step of a process or of its watcher, with the records that it adds. -/
inductive Move (c : Child) : Supervision.Event → Child → List ExitRecord → Prop
  /-- The process ends. -/
  | exits {status : ExitStatus} (running : c.state = .running) :
      Move c (.exits c.pid status) { c with state := .exited status } []
  /-- The watcher's wait returns. -/
  | wakes {unread known : Bool} {status : ExitStatus}
      (watcher : c.watcher = some ⟨.waiting, unread⟩) (exited : c.state = .exited status) :
      Move c (.watcher c.pid known)
        { c with
          state := .reaped
          watcher := some ⟨.woken (if known then some status else none), unread⟩ } []
  /-- The watcher goes on. -/
  | turns {w w' : Watcher} {known : Bool} {rs : List ExitRecord} (watcher : c.watcher = some w)
      (turn : w.Turn c.pid w' rs) :
      Move c (.watcher c.pid known) { c with watcher := some w' } rs

/-- A process keeps its identifier. -/
theorem Move.pid_eq {c c' : Child} {e : Supervision.Event} {rs : List ExitRecord}
    (move : c.Move e c' rs) : c'.pid = c.pid := by
  cases move <;> rfl

/-- Only events of the background move a process or its watcher. -/
theorem Move.isBackground {c c' : Child} {e : Supervision.Event} {rs : List ExitRecord}
    (move : c.Move e c' rs) : e.isBackground = true := by
  cases move <;> rfl

/-- Nothing is left to happen to a process: it has been waited for, and its watcher, if it
got one, is over. -/
structure Settled (c : Child) : Prop where
  reaped : c.state = .reaped
  ended : ∀ w, c.watcher = some w → w.stage = .ended

/-- A settled process makes no step. -/
theorem Settled.not_move {c c' : Child} {e : Supervision.Event} {rs : List ExitRecord}
    (h : c.Settled) : ¬ c.Move e c' rs := by
  intro move
  cases move with
  | exits running => exact absurd (h.reaped.symm.trans running) (by decide)
  | wakes watcher _ => exact absurd (h.ended _ watcher) (by simp)
  | turns watcher turn =>
      have hended := h.ended _ watcher
      cases turn <;> cases hended

/-- A watcher has the process: it has been waited for as soon as the watcher's wait is over,
and a status is unread only if the watcher has sent it. -/
structure AttendedBy (c : Child) (w : Watcher) : Prop where
  watcher : c.watcher = some w
  begun : w.stage ≠ .expecting
  reaped : c.state = .reaped ↔ w.stage.isWaitOver = true
  unread : w.unread = true → w.stage = .sent ∨ w.stage = .ended

/-- A process that a watcher has stays with it. -/
theorem AttendedBy.move {c c' : Child} {w : Watcher} {e : Supervision.Event}
    {rs : List ExitRecord} (h : c.AttendedBy w) (move : c.Move e c' rs) :
    ∃ w', c'.AttendedBy w' ∧
      (w.stage = .sent ∨ w.stage = .ended → w'.stage = .sent ∨ w'.stage = .ended) := by
  cases move with
  | exits running =>
      have hover : w.stage.isWaitOver ≠ true := by
        rw [ne_eq, ← h.reaped, running]
        decide
      exact ⟨w, ⟨h.watcher, h.begun, by simpa using hover, h.unread⟩, id⟩
  | wakes watcher exited =>
      obtain rfl : _ = w := Option.some.inj (watcher.symm.trans h.watcher)
      have hunread := h.unread
      exact ⟨_, ⟨rfl, by simp, by simp [WatcherStage.isWaitOver], by simpa using hunread⟩, by simp⟩
  | turns watcher turn =>
      obtain rfl : _ = w := Option.some.inj (watcher.symm.trans h.watcher)
      have hreaped := h.reaped
      rw [← turn.isWaitOver_eq] at hreaped
      exact ⟨_, ⟨rfl, turn.begun, hreaped, turn.unread h.unread⟩, turn.told⟩

/-- A receive returns only if the watcher has no status left to send. -/
theorem AttendedBy.told {c : Child} {w : Watcher} (h : c.AttendedBy w)
    (ready : w.canReceive = true) : w.stage = .sent ∨ w.stage = .ended := by
  rcases Bool.or_eq_true_iff.1 ready with unread | ended
  · exact h.unread unread
  · exact .inr (by simpa using ended)

/-- A process stays with its watcher when the status is received. -/
theorem AttendedBy.receive {c : Child} {w : Watcher} (h : c.AttendedBy w) :
    Child.AttendedBy { c with watcher := some ⟨w.stage, false⟩ } ⟨w.stage, false⟩ :=
  ⟨rfl, h.begun, h.reaped, by simp⟩

/-- Once the watcher is over, nothing is left to happen. -/
theorem AttendedBy.settled {c : Child} {w : Watcher} (h : c.AttendedBy w)
    (ended : w.stage = .ended) : c.Settled := by
  refine ⟨h.reaped.2 (by rw [ended]; rfl), ?_⟩
  intro v hv
  rwa [← Option.some.inj (hv.symm.trans h.watcher)] at ended

end Child

/-! ## The caller and its engine -/

namespace Caller

/-- No call is going on. -/
def isBetween : Caller → Bool
  | idle => true
  | gone => true
  | _ => false

/-- The engine that a stop is about, and what follows the stop. -/
def stop? : Caller → Option (Pid × AfterStop)
  | checking pid after => some (pid, after)
  | terminating pid after => some (pid, after)
  | receiving pid after => some (pid, after)
  | killing pid after => some (pid, after)
  | receivingKilled pid after => some (pid, after)
  | joining pid after => some (pid, after)
  | _ => none

/-- The engine that has been launched and has no watcher. -/
def unwatched? : Caller → Option Pid
  | hiringWatcher pid => some pid
  | discarding pid _ => some pid
  | reaping pid _ => some pid
  | _ => none

end Caller

/-- Where the present process is, by the handle and the caller. -/
inductive Custody : Option Pid → Caller → Option Child → Prop
  /-- There is none. -/
  | nobody {caller : Caller} (free : caller.isBetween = true ∨ caller = .launching) :
      Custody none caller none
  /-- It is with its watcher, and the supervisor holds the handle. -/
  | held {caller : Caller} {c : Child} {w : Watcher} (between : caller.isBetween = true)
      (attended : c.AttendedBy w) : Custody (some c.pid) caller (some c)
  /-- It is with its watcher, and a stop has taken the handle. -/
  | stopping {caller : Caller} {after : AfterStop} {c : Child} {w : Watcher}
      (stop : caller.stop? = some (c.pid, after)) (attended : c.AttendedBy w)
      (told : caller = .joining c.pid after → w.stage = .sent ∨ w.stage = .ended) :
      Custody none caller (some c)
  /-- It is with the caller, and its watcher expects it. -/
  | handing {c : Child} (watcher : c.watcher = some .new) (unreaped : c.state ≠ .reaped) :
      Custody none (.handingOver c.pid) (some c)
  /-- It is with the caller, and it has no watcher. -/
  | unwatched {caller : Caller} {c : Child} (launched : caller.unwatched? = some c.pid)
      (watcher : c.watcher = none) (unreaped : c.state ≠ .reaped) :
      Custody none caller (some c)

namespace Custody

variable {handle : Option Pid} {caller : Caller} {present : Option Child} {pid : Pid}
  {after : AfterStop}

/-- Between two calls there is no process, or the supervisor has a handle to it and a watcher
attends it. -/
theorem of_between (h : Custody handle caller present) (between : caller.isBetween = true) :
    (handle = none ∧ present = none) ∨
      ∃ c w, handle = some c.pid ∧ present = some c ∧ c.AttendedBy w := by
  cases h with
  | nobody _ => exact .inl ⟨rfl, rfl⟩
  | held _ attended => exact .inr ⟨_, _, rfl, rfl, attended⟩
  | stopping stop _ _ => cases caller <;> cases between <;> cases stop
  | handing _ _ => cases between
  | unwatched launched _ _ => cases caller <;> cases between <;> cases launched

/-- Between two calls there is no present process if none is held. -/
theorem eq_none (h : Custody handle caller present) (between : caller.isBetween = true)
    (free : handle = none) : present = none := by
  rcases h.of_between between with ⟨_, hnone⟩ | ⟨c, _, held, _⟩
  · exact hnone
  · cases free.symm.trans held

/-- Before a process has been spawned there is none, and no handle. -/
theorem of_launching (h : Custody handle .launching present) : handle = none ∧ present = none := by
  cases h with
  | nobody _ => exact ⟨rfl, rfl⟩
  | held between _ => cases between
  | stopping stop _ _ => cases stop
  | unwatched launched _ _ => cases launched

/-- A stop has taken the handle of the present process, which a watcher attends; to be joined, the
watcher must have sent what it knows. -/
theorem of_stop (h : Custody handle caller present) (stop : caller.stop? = some (pid, after)) :
    handle = none ∧ ∃ c w, present = some c ∧ pid = c.pid ∧ c.AttendedBy w ∧
      (caller = .joining pid after → w.stage = .sent ∨ w.stage = .ended) := by
  cases h with
  | nobody free => cases caller <;> rcases free with free | free <;> cases free <;> cases stop
  | held between _ => cases caller <;> cases between <;> cases stop
  | stopping stop' attended told =>
      obtain ⟨rfl, rfl⟩ := Prod.mk.inj (Option.some.inj (stop.symm.trans stop'))
      exact ⟨rfl, _, _, rfl, rfl, attended, told⟩
  | handing _ _ => cases stop
  | unwatched launched _ _ => cases caller <;> cases launched <;> cases stop

/-- At the handover the caller has the process, and a watcher is ready for it. -/
theorem of_handingOver (h : Custody handle (.handingOver pid) present) :
    handle = none ∧ ∃ c, present = some c ∧ pid = c.pid ∧ c.watcher = some .new ∧
      c.state ≠ .reaped := by
  cases h with
  | nobody free => rcases free with free | free <;> cases free
  | held between _ => cases between
  | stopping stop _ _ => cases stop
  | handing watcher unreaped => exact ⟨rfl, _, rfl, rfl, watcher, unreaped⟩
  | unwatched launched _ _ => cases launched

/-- Until a watcher has been made the caller alone has the process. -/
theorem of_unwatched (h : Custody handle caller present) (launched : caller.unwatched? = some pid) :
    handle = none ∧ ∃ c, present = some c ∧ pid = c.pid ∧ c.watcher = none ∧
      c.state ≠ .reaped := by
  cases h with
  | nobody free => cases caller <;> rcases free with free | free <;> cases free <;> cases launched
  | held between _ => cases caller <;> cases between <;> cases launched
  | stopping stop _ _ => cases caller <;> cases stop <;> cases launched
  | handing _ _ => cases launched
  | unwatched launched' watcher unreaped =>
      obtain rfl := Option.some.inj (launched.symm.trans launched')
      exact ⟨rfl, _, rfl, rfl, watcher, unreaped⟩

/-- A step of the present process or its watcher does not change who has it. -/
theorem move {c c' : Child} {e : Supervision.Event} {rs : List ExitRecord}
    (h : Custody handle caller (some c)) (move : c.Move e c' rs) :
    Custody handle caller (some c') := by
  cases h with
  | held between attended =>
      obtain ⟨w', attended', _⟩ := attended.move move
      rw [← move.pid_eq]
      exact .held between attended'
  | stopping stop attended told =>
      obtain ⟨w', attended', htold⟩ := attended.move move
      rw [← move.pid_eq] at stop told
      exact .stopping stop attended' fun joining => htold (told joining)
  | handing watcher unreaped =>
      rw [← move.pid_eq]
      cases move with
      | exits _ => exact .handing watcher (by simp)
      | wakes watcher' _ => cases watcher'.symm.trans watcher
      | turns watcher' turn =>
          obtain rfl := Option.some.inj (watcher'.symm.trans watcher)
          cases turn
  | unwatched launched watcher unreaped =>
      rw [← move.pid_eq] at launched
      cases move with
      | exits _ => exact .unwatched launched watcher (by simp)
      | wakes watcher' _ => cases watcher'.symm.trans watcher
      | turns watcher' _ => cases watcher'.symm.trans watcher

/-- A process that is being dismissed is in nobody's custody. -/
theorem not_dismissing {cause : String} : ¬ Custody handle (.dismissing pid cause) present := by
  intro h
  cases h with
  | nobody free => rcases free with free | free <;> cases free
  | held between _ => cases between
  | stopping stop _ _ => cases stop
  | unwatched launched _ _ => cases launched

end Custody

end ProxyControl
