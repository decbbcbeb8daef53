import ProxyControl.Log

/-!
# Reports about the internal network

The latest report whether the internal network can be reached.  Handles that were made
from one another share their reports.

Main results:

- Definitions `NetworkHandles.report`, `NetworkHandles.share`, `NetworkHandles.fresh`:
  what can be done with handles.
- Definition `NetworkHandles.latest`: the latest report of a handle.
- Definition `NetworkHandles.news`: what is logged about a report.
-/

namespace ProxyControl

/-- Handles to reports; each handle is the number of the report it shares. -/
structure NetworkHandles where
  reports : List (Option Bool) := [none]
  handles : List Nat := [0]
  deriving Repr

namespace NetworkHandles

/-- The latest report of a handle, none before the first one. -/
def latest (n : NetworkHandles) (handle : Nat) : Option Bool :=
  (n.handles[handle]?.bind fun report => n.reports[report]?).join

/-- Reports through a handle. -/
def report (n : NetworkHandles) (handle : Nat) (available : Bool) : NetworkHandles :=
  match n.handles[handle]? with
  | none => n
  | some report => { n with reports := n.reports.set report (some available) }

/-- What is logged about a report: it counts as news if the latest one was another. -/
def news (n : NetworkHandles) (handle : Nat) (available : Bool) : List Log.Entry :=
  if handle < n.handles.length ∧ n.latest handle ≠ some available then
    [⟨.info, "Internal network available: " ++ if available then "true" else "false"⟩]
  else []

/-- Adds a handle that shares the reports of another. -/
def share (n : NetworkHandles) (handle : Nat) : NetworkHandles :=
  match n.handles[handle]? with
  | none => n
  | some report => { n with handles := n.handles ++ [report] }

/-- Adds a handle with reports of its own. -/
def fresh (n : NetworkHandles) : NetworkHandles :=
  ⟨n.reports ++ [none], n.handles ++ [n.reports.length]⟩

/-- The latest report of every handle. -/
def all (n : NetworkHandles) : List (Option Bool) :=
  (List.range n.handles.length).map n.latest

end NetworkHandles
end ProxyControl
