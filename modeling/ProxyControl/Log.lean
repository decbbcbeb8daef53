/-!
# Log entries

What an operation reports about itself is a list of entries, each a level and a text.

Main results:

- Definition `Log.Level.admits`: which entries a threshold lets through.
-/

namespace ProxyControl
namespace Log

/-- The severity of an entry, the gravest first. -/
inductive Level where
  | error
  | warn
  | info
  | debug
  | trace
  deriving DecidableEq, Repr

namespace Level

/-- The name of a level. -/
def name : Level → String
  | error => "ERROR"
  | warn => "WARN"
  | info => "INFO"
  | debug => "DEBUG"
  | trace => "TRACE"

/-- The place of a level, counted from the gravest. -/
def rank : Level → Nat
  | error => 1
  | warn => 2
  | info => 3
  | debug => 4
  | trace => 5

end Level

/-- The most detailed level that is let through; nothing is when there is none. -/
abbrev Threshold := Option Level

namespace Threshold

/-- Whether entries of a level are let through. -/
def admits (t : Threshold) (level : Level) : Bool :=
  t.any fun limit => decide (level.rank ≤ limit.rank)

end Threshold

/-- One entry. -/
structure Entry where
  level : Level
  text : String
  deriving DecidableEq, Repr

end Log
end ProxyControl
