/-
Settings from the variables of the environment and of a file.

* `Setting`: what can be set, and the variable that sets it;
* `Setting.assign`: gives a setting the value that a text stands for;
* `SettingFault`, `InvalidSetting`: what can be wrong with a variable;
* `Settings.read`: the settings, or all that is wrong with the variables.

A variable of the environment counts more than one of the file. A variable of the environment that
sets nothing is ignored, but one of the file is a fault.
-/
import CronPreview.Settings.Basic
import CronPreview.Settings.EnvFile
import CronPreview.Text.Integer

namespace CronPreview

/-- What can be set. -/
inductive Setting where
  | apiHost
  | apiPort
  | apiReload
  | defaultRunCount
  | maxRunCount
  | searchLimitMinutes
  | logLevel
  | logFile
deriving DecidableEq, Repr

namespace Setting

/-- All that can be set. -/
def all : List Setting :=
  [apiHost, apiPort, apiReload, defaultRunCount, maxRunCount, searchLimitMinutes, logLevel, logFile]

/-- The name of a setting. -/
def name : Setting → String
  | apiHost => "api_host"
  | apiPort => "api_port"
  | apiReload => "api_reload"
  | defaultRunCount => "default_run_count"
  | maxRunCount => "max_run_count"
  | searchLimitMinutes => "search_limit_minutes"
  | logLevel => "log_level"
  | logFile => "log_file"

/-- The name, in lower case, of the variable that sets a setting. -/
def variableName (s : Setting) : String :=
  "chronopeek_" ++ s.name

end Setting

/-- What can be wrong with a variable. -/
inductive SettingFault where
  | integer (e : Text.IntegerError)
  | notATruthValue
  /-- The variable sets nothing. -/
  | unknown
deriving DecidableEq, Repr

/-- The name under which a fault is reported. -/
def SettingFault.name : SettingFault → String
  | integer .notANumeral => "int_parsing"
  | integer .tooLong => "int_parsing_size"
  | notATruthValue => "bool_parsing"
  | unknown => "extra_forbidden"

/-- A fault, and the name of the setting that has it; for a variable that sets nothing, its own
name. -/
structure InvalidSetting where
  fault : SettingFault
  name : String
deriving DecidableEq, Repr

/-- The truth value that a word stands for, in capitals or small letters. -/
def readTruth (text : String) : Option Bool :=
  let word := text.map Char.toLower
  if ["1", "true", "t", "yes", "y", "on"].contains word then some true
  else if ["0", "false", "f", "no", "n", "off"].contains word then some false
  else none

/-- Gives a setting the value that a text stands for. -/
def Setting.assign (setting : Setting) (text : String) (s : Settings) :
    Except SettingFault Settings :=
  let integer (set : Int → Settings) : Except SettingFault Settings :=
    match Text.readInteger text with
    | .ok n => .ok (set n)
    | .error e => .error (.integer e)
  match setting with
  | .apiHost => .ok { s with apiHost := text }
  | .apiPort => integer fun n => { s with apiPort := n }
  | .apiReload =>
    match readTruth text with
    | some b => .ok { s with apiReload := b }
    | none => .error .notATruthValue
  | .defaultRunCount => integer fun n => { s with defaultRunCount := n }
  | .maxRunCount => integer fun n => { s with maxRunCount := n }
  | .searchLimitMinutes => integer fun n => { s with searchLimitMinutes := n }
  | .logLevel => .ok { s with logLevel := text }
  | .logFile => .ok { s with logFile := text }

/-- The settings with the values that are given, and the faults of those values. -/
def Settings.collect (given : Setting → Option String) : Settings × List InvalidSetting :=
  Setting.all.foldl
    (fun (s, faults) setting =>
      match (given setting).map fun text => setting.assign text s with
      | none => (s, faults)
      | some (.ok s) => (s, faults)
      | some (.error fault) => (s, faults ++ [⟨fault, setting.name⟩]))
    (.standard, [])

/-- The variables of a file that have a value and set nothing. The bare name of a setting is let
through. -/
def unknownVariables (file : Variables (Option String)) : List InvalidSetting :=
  let known := Setting.all.flatMap fun s => [s.variableName, s.name]
  file.filterMap fun (name, value) =>
    if known.contains name || value.getD "" == "" then none else some ⟨.unknown, name⟩

/-- The settings, or all that is wrong with the variables, whose names may be in capitals or small
letters. -/
def Settings.read (environment : Variables String) (file : String) :
    Except (List InvalidSetting) Settings :=
  let fileVariables := (EnvFile.read environment file).lowered
  let environment := environment.lowered
  let given (s : Setting) : Option String :=
    (environment.lookup s.variableName).orElse fun _ =>
      (fileVariables.lookup s.variableName).join
  let (settings, faults) := Settings.collect given
  match faults ++ unknownVariables fileVariables with
  | [] => .ok settings
  | faults => .error faults

end CronPreview
