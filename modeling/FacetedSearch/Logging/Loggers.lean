import FacetedSearch.Settings.Basic

/-!
# Loggers

Every part of the program logs under its own name.  A logger is set up when its name is first asked
for: it gets one handler, and the level in force at that moment, which it keeps.

* `Settings.level` — the level in force under the settings.
* `Loggers.obtain` — the logger of a name, set up if it is new.
-/

set_option autoImplicit false

namespace FacetedSearch

namespace Level

/-- The levels by name; a higher level is more severe. -/
def named : List (String × Nat) :=
  [("CRITICAL", 50), ("FATAL", 50), ("ERROR", 40), ("WARN", 30), ("WARNING", 30), ("INFO", 20),
    ("DEBUG", 10), ("NOTSET", 0)]

/-- Where the program is developed everything is logged, elsewhere only what is worth knowing. -/
def ofEnvironment (environment : String) : Nat := if environment = "dev" then 10 else 20

/-- The least level of those who carry requests to the engine. -/
def transport : Nat := 30

end Level

/-- The level that the settings name, or else the one of their environment. -/
def Settings.level (s : Settings) : Nat :=
  (Level.named.lookup s.logLevel).getD (Level.ofEnvironment s.environment)

/-- A logger: the least level that it writes, and the layouts of the handlers that write it. -/
structure Logger where
  level : Nat
  layouts : List String
  deriving DecidableEq, Repr

/-- Loggers by name. -/
abbrev Loggers := List (String × Logger)

namespace Loggers

/-- The layout of a line of the log. -/
def layout : String := "%(asctime)s - %(name)s - %(levelname)s - %(message)s"

/-- Those who carry requests to the engine. -/
def transports : List String := ["opensearch", "urllib3"]

/-- Give a logger a level, whether it is set up or not. -/
def setLevel (level : Nat) (name : String) (loggers : Loggers) : Loggers :=
  let before := (loggers.lookup name).getD ⟨0, []⟩
  (name, { before with level := level }) :: loggers.filter fun l => l.1 != name

/-- The logger of a name.  It is set up once; whatever carries requests is quietened then. -/
def obtain (s : Settings) (name : String) (loggers : Loggers) : Logger × Loggers :=
  match loggers.lookup name with
  | some logger => if logger.layouts.isEmpty then setUp logger else (logger, loggers)
  | none => setUp ⟨0, []⟩
where
  setUp (logger : Logger) : Logger × Loggers :=
    let ready : Logger := ⟨s.level, logger.layouts ++ [layout]⟩
    let others := loggers.filter fun l => l.1 != name
    (ready, transports.foldl (fun ls t => setLevel Level.transport t ls) ((name, ready) :: others))

end Loggers

end FacetedSearch
