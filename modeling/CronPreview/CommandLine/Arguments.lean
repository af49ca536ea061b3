/-
The arguments of the command line.

* `Flag`: the options, which may be shortened as long as only one of them is meant;
* `Word`: what one argument is: an option, a plain word, or the separator after which all words are
  plain;
* `Arguments`: what the program is asked to do;
* `UsageError`: why a command line is not understood;
* `Command.read`: the command in a list of arguments, read from left to right; among several errors
  an ambiguous option counts first, and words that are left over count last.
-/
import CronPreview.Settings.Basic
import CronPreview.Text.Digit
import CronPreview.Text.Quoted

namespace CronPreview.CommandLine

/-- The options. -/
inductive Flag where
  | help
  | mode
  | count
  | host
  | port
deriving DecidableEq, Repr

namespace Flag

/-- All options. -/
def all : List Flag :=
  [help, mode, count, host, port]

/-- The full name of an option. -/
def name : Flag → String
  | help => "--help"
  | mode => "--mode"
  | count => "--count"
  | host => "--host"
  | port => "--port"

/-- The name of an option in messages. -/
def title : Flag → String
  | help => "-h/--help"
  | f => f.name

end Flag

/-- What the program does. -/
inductive Mode where
  | http
  | preview
deriving DecidableEq, Repr

/-- What the program is asked to do. -/
structure Arguments where
  mode : Mode
  expression : Option String
  count : Int
  host : String
  port : Int
deriving DecidableEq

/-- What is done without arguments. -/
def Arguments.standard (settings : Settings) : Arguments where
  mode := .http
  expression := none
  count := settings.defaultRunCount
  host := settings.apiHost
  port := settings.apiPort

/-- Why a command line is not understood. -/
inductive UsageError where
  /-- The shortened name may stand for several options. -/
  | ambiguous (word : String) (candidates : List Flag)
  | expectedArgument (flag : Flag)
  /-- The option takes no value. -/
  | ignoredValue (flag : Flag) (value : String)
  | invalidMode (value : String)
  | invalidInt (flag : Flag) (value : String)
  /-- These words are left over. -/
  | unrecognized (words : List String)
  | missingExpression
  | negativeCount
deriving DecidableEq

/-- What the user is told about a command line that is not understood. -/
def UsageError.message : UsageError → String
  | ambiguous word candidates =>
    "ambiguous option: " ++ word ++ " could match " ++ ", ".intercalate (candidates.map Flag.name)
  | expectedArgument flag => "argument " ++ flag.title ++ ": expected one argument"
  | ignoredValue flag value =>
    "argument " ++ flag.title ++ ": ignored explicit argument " ++ quote value
  | invalidMode value =>
    "argument --mode: invalid choice: " ++ quote value ++ " (choose from 'http', 'preview')"
  | invalidInt flag value => "argument " ++ flag.title ++ ": invalid int value: " ++ quote value
  | unrecognized words => "unrecognized arguments: " ++ " ".intercalate words
  | missingExpression => "preview mode needs an expression"
  | negativeCount => "--count must not be negative"
where
  quote (s : String) : String := String.ofList (Text.quoted s.toList)

/-! ### Words -/

/-- What one argument is. -/
inductive Word where
  | plain (text : String)
  /-- An option, with its value if that is part of the same argument. -/
  | flag (f : Flag) (value : Option String)
  /-- An argument that looks like an option and is none. -/
  | unknown (text : String)
  | separator
deriving DecidableEq

/-- A negative number, with or without a fraction, is no option. -/
def looksNegative (cs : List Char) : Bool :=
  let isDigit (c : Char) : Bool := (Text.digitValue? c).isSome
  match cs with
  | '-' :: rest =>
    let rest := if rest.getLast? = some '\n' then rest.dropLast else rest
    match Text.cutAt '.' rest with
    | (whole, none) => !whole.isEmpty && whole.all isDigit
    | (whole, some fraction) =>
      whole.all isDigit && !fraction.isEmpty && fraction.all isDigit
  | _ => false

/-- An argument that names no option is one all the same if it looks like one: if it begins with a
hyphen, is no negative number and has no space in it. -/
def withoutFlag (text : String) : Word :=
  let cs := text.toList
  if looksNegative cs || cs.contains ' ' then .plain text else .unknown text

/-- What an argument is before any separator. An option has two hyphens; its value may follow it
after an equals sign. The option that asks for help may also be written with one hyphen and a
letter, which may be repeated. -/
def classify (text : String) : Except UsageError Word :=
  match text.toList with
  | ['-', '-'] => .ok .separator
  | '-' :: '-' :: cs =>
    let (name, value) := Text.cutAt '=' ('-' :: '-' :: cs)
    let value := value.map String.ofList
    match Flag.all.find? fun f => f.name.toList == name with
    | some f => .ok (.flag f value)
    | none =>
      match Flag.all.filter fun f => name.isPrefixOf f.name.toList with
      | [] => .ok (withoutFlag text)
      | [f] => .ok (.flag f value)
      | candidates => .error (.ambiguous text candidates)
  | '-' :: 'h' :: cs =>
    match cs.dropWhile (· == 'h') with
    | '=' :: value => .ok (.flag .help (some (String.ofList value)))
    | '-' :: value => .ok (.flag .help (some (String.ofList ('-' :: value))))
    | _ => .ok (.flag .help none)
  | ['-'] => .ok (.plain text)
  | '-' :: _ => .ok (withoutFlag text)
  | _ => .ok (.plain text)

/-- What all arguments are. After the separator every word is plain. -/
def classifyAll : List String → Except UsageError (List Word)
  | [] => .ok []
  | text :: texts => do
    match ← classify text with
    | .separator => return .separator :: texts.map .plain
    | word => return word :: (← classifyAll texts)

/-! ### Commands -/

/-- What a command line asks for. -/
inductive Command where
  | help
  | run (arguments : Arguments)

/-- The integer that is the value of an option. -/
def readIntValue (flag : Flag) (value : String) : Except UsageError Int :=
  match Text.readLoose value.toList with
  | some n => .ok n
  | none => .error (.invalidInt flag value)

/-- Gives an option its value. The last value of an option counts. -/
def Arguments.set (a : Arguments) (flag : Flag) (value : String) : Except UsageError Arguments :=
  match flag with
  | .help => .error (.ignoredValue flag value)
  | .mode =>
    if value = "http" then .ok { a with mode := .http }
    else if value = "preview" then .ok { a with mode := .preview }
    else .error (.invalidMode value)
  | .count => (readIntValue flag value).map fun n => { a with count := n }
  | .host => .ok { a with host := value }
  | .port => (readIntValue flag value).map fun n => { a with port := n }

/-- Reads the words from left to right. The first plain word is the expression, unless one was
`taken` before; words that have no place are `extra`, the last one first. -/
def consume (a : Arguments) (taken : Bool) (extra : List String) :
    List Word → Except UsageError Command
  | [] => if extra = [] then .ok (.run a) else .error (.unrecognized extra.reverse)
  | .flag f (some value) :: ws => do consume (← a.set f value) taken extra ws
  | .flag .help none :: _ => .ok .help
  | .flag f none :: .plain value :: ws => do consume (← a.set f value) taken extra ws
  | .flag f none :: _ => .error (.expectedArgument f)
  | .unknown text :: ws => consume a taken (text :: extra) ws
  | .separator :: .plain text :: ws =>
    if taken then consume a true (text :: "--" :: extra) ws
    else consume { a with expression := some text } true extra ws
  | .separator :: ws => consume a true (if taken then "--" :: extra else extra) ws
  | .plain text :: .separator :: ws =>
    if taken then consume a true (text :: extra) (.separator :: ws)
    else consume { a with expression := some text } true extra ws
  | .plain text :: ws =>
    if taken then consume a true (text :: extra) ws
    else consume { a with expression := some text } true extra ws
termination_by ws => ws.length

/-- The command in a list of arguments. -/
def Command.read (settings : Settings) (arguments : List String) : Except UsageError Command := do
  consume (.standard settings) false [] (← classifyAll arguments)

end CronPreview.CommandLine
