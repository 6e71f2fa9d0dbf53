/-!
# The journal

What a run notes down besides its results: one line an entry, with a level and the part of the
program that writes it.
-/

namespace Reflow.Journal

/-- How much an entry matters. -/
inductive Level where
  | debug
  | warning
deriving DecidableEq, Repr

/-- The name of a level. -/
def Level.name : Level → String
  | debug => "DEBUG"
  | warning => "WARNING"

/-- The part of the program that writes an entry. -/
inductive Channel where
  | engine
  | visualizer
deriving DecidableEq, Repr

/-- The name of a channel. -/
def Channel.name : Channel → String
  | engine => "boxlint.engine"
  | visualizer => "boxlint.visualizer"

/-- A line of the journal. -/
structure Entry where
  level : Level
  channel : Channel
  text : String
deriving DecidableEq, Repr

/-- The entry as it is printed. -/
def Entry.line (e : Entry) : String := e.level.name ++ " " ++ e.channel.name ++ ": " ++ e.text

end Reflow.Journal
