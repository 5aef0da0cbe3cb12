import UriTemplate.Text

/-!
# Setting up debugging output

Debugging output is switched on by the environment, and the environment is consulted once.
A logger that already has handlers keeps them; one that has none gets a handler with a line
pattern.
-/

set_option autoImplicit false

namespace UriTemplate.Log

/-- The level at which debugging records are shown. -/
def debugLevel : Nat := 10

/-- The pattern of an output line: the level, the source and the message of a record. -/
def linePattern : Text := "[%(levelname)s] %(name)s: %(message)s"

/-- A logger: whether it was set up, its level, and the line patterns of its handlers. -/
structure Logger where
  isSetUp : Bool
  level : Nat
  handlers : List (Option Text)
  deriving DecidableEq, Repr

namespace Logger

/-- A logger at no level with a number of handlers that have no pattern. -/
def new (isSetUp : Bool) (handlers : Nat) : Logger :=
  ⟨isSetUp, 0, List.replicate handlers none⟩

/-- Set up a logger, given the setting of the environment. Only the first call counts, and
an absent or empty setting leaves the output off. -/
def setUpOnce (setting : Option Text) (logger : Logger) : Logger :=
  if logger.isSetUp then
    logger
  else if setting.getD [] = [] then
    { logger with isSetUp := true }
  else
    { isSetUp := true
      level := debugLevel
      handlers := if logger.handlers.isEmpty then [some linePattern] else logger.handlers }

end Logger

end UriTemplate.Log
