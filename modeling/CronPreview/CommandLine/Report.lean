/-
What a run of the program leaves behind.

* `ServerCall`, `ServerEnd`: how the server is started, and how it may end;
* `Report`: the exit code, what was printed, what was recorded, and how the server was started;
* `leastRank?`: the least rank of the records that a level lets through.
-/
import CronPreview.CommandLine.Arguments
import CronPreview.Journal.Basic
import CronPreview.Text.Lines

namespace CronPreview.CommandLine

/-- How the server is started. -/
structure ServerCall where
  app : String
  host : String
  port : Int
  reload : Bool
  logLevel : String
deriving DecidableEq, Repr

/-- How the server ends. -/
inductive ServerEnd where
  | returned
  /-- The user stopped it. -/
  | interrupted
  /-- It failed, which was said like this. -/
  | failed (message : String)

/-- The lines that a run of the program leaves behind. -/
structure Report where
  /-- The exit code; without one the program ended of itself. -/
  exitCode : Option Nat
  output : List String
  /-- The records and complaints on the error stream. -/
  errors : List String
  /-- The records in the file for records, if there is one. -/
  logFile : Option (List String)
  served : Option ServerCall

/-- The least rank of the records that a level of this name lets through. -/
def leastRank? (level : String) : Option Nat :=
  [("CRITICAL", 50), ("FATAL", 50), ("ERROR", 40), ("WARNING", 30), ("WARN", 30), ("INFO", 20),
   ("DEBUG", 10), ("NOTSET", 0)].lookup level

/-- The lines for the records of at least this rank. A record takes one line, and what comes after
the first line of its message is left out. -/
def recordLines (least : Nat) (records : List Record) : List String :=
  (records.filter fun r => least ≤ r.level.rank).map fun r =>
    String.ofList (Text.firstLine r.line.toList)

/-- The line that complains of a command line. -/
def UsageError.line (e : UsageError) : String :=
  String.ofList (Text.firstLine ("chronopeek: error: " ++ e.message).toList)

end CronPreview.CommandLine
