/-
The settings of the program.

* `Settings`: where the server listens, how many runs are shown, how far searches go, and what is
  recorded where;
* `Settings.standard`: the values of settings that are not set.
-/
import CronPreview.Schedule.Search

namespace CronPreview

/-- What can be set. -/
structure Settings where
  /-- Where the server listens. -/
  apiHost : String
  apiPort : Int
  /-- Whether the server starts again when its program changes. -/
  apiReload : Bool
  /-- How many runs are shown when no number is given. -/
  defaultRunCount : Int
  maxRunCount : Int
  /-- How many minutes a search goes through. -/
  searchLimitMinutes : Int
  /-- The least level of the records that are written. -/
  logLevel : String
  /-- The file to which records are written as well; none if the name is empty. -/
  logFile : String
deriving DecidableEq, Repr

/-- The settings when nothing is set. -/
def Settings.standard : Settings where
  apiHost := "0.0.0.0"
  apiPort := 8000
  apiReload := false
  defaultRunCount := 5
  maxRunCount := 50
  searchLimitMinutes := twoYears
  logLevel := "INFO"
  logFile := ""

end CronPreview
