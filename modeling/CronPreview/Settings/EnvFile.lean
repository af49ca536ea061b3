/-
Files that give variables their values, one to a line.

* `Assignment`: a name, and the value that it is given;
* `closeQuote`: where quoted text ends;
* `unescape`: text without its escapes;
* `readAssignment`: the assignment at the front of a text;
* `assignments`: all assignments of a text; a line that cannot be read is left out;
* `expand`: a value with the variables in it replaced;
* `read`: the variables after all assignments.

A value stands bare, up to a comment or the end of its line, or in quotes of either kind, between
which lines may end.
-/
import CronPreview.Settings.Variables
import CronPreview.Text.Blank
import CronPreview.Text.Lines

namespace CronPreview.EnvFile

/-- A name, and its value if it is given one. -/
structure Assignment where
  name : String
  value : Option String
deriving DecidableEq, Repr

/-- Reading yields what is asked for, or the text at which it stopped. -/
abbrev Reading := Except (List Char)

/-- The text after the blanks at its front that end no line. -/
def skipInline (cs : List Char) : List Char :=
  cs.dropWhile fun c => Text.isBlank c && c != '\n'

/-- The text without its first line. -/
def skipLine (cs : List Char) : List Char :=
  (cs.dropWhile (· != '\n')).drop 1

/-! ### Names -/

/-- The text after the word that may introduce a name. -/
def skipExport (cs : List Char) : List Char :=
  let rest := cs.drop 6
  if "export".toList.isPrefixOf cs && skipInline rest != rest then skipInline rest else cs

/-- Whether a character may stand in a name without quotes. -/
def isBare (c : Char) : Bool :=
  c != '=' && c != '#' && !Text.isBlank c

/-- A name, which may be quoted; before a comment there is none. -/
def readName : List Char → Reading (Option (List Char) × List Char)
  | '#' :: cs => .ok (none, '#' :: cs)
  | '\'' :: cs =>
    match Text.cutAt '\'' cs with
    | (c :: name, some rest) => .ok (some (c :: name), rest)
    | _ => .error ('\'' :: cs)
  | cs =>
    match cs.takeWhile isBare with
    | [] => .error cs
    | name => .ok (some name, cs.dropWhile isBare)

/-! ### Values -/

/-- The text up to the closing quote, and the text after it. A quote after a backslash closes only
if no later quote does; the backslash then belongs to the text before it. -/
def closeQuote (quote : Char) : List Char → Option (List Char × List Char)
  | [] => none
  | c :: cs =>
    if c = quote then some ([], cs)
    else
      match c, cs with
      | '\\', d :: ds =>
        if d = quote then
          match closeQuote quote ds with
          | some (body, rest) => some (c :: d :: body, rest)
          | none => some ([c], ds)
        else (closeQuote quote (d :: ds)).map fun (body, rest) => (c :: body, rest)
      | _, cs => (closeQuote quote cs).map fun (body, rest) => (c :: body, rest)
termination_by cs => cs.length

/-- What an escaped character stands for between single quotes. -/
def escapedSingle? : Char → Option Char
  | '\\' => some '\\'
  | '\'' => some '\''
  | _ => none

/-- What an escaped character stands for between double quotes. -/
def escapedDouble? : Char → Option Char
  | '\\' => some '\\'
  | '\'' => some '\''
  | '"' => some '"'
  | 'a' => some '\x07'
  | 'b' => some '\x08'
  | 'f' => some '\x0c'
  | 'n' => some '\n'
  | 'r' => some '\r'
  | 't' => some '\t'
  | 'v' => some '\x0b'
  | _ => none

/-- The text without its escapes. A backslash that begins none stands for itself. -/
def unescape (escaped? : Char → Option Char) : List Char → List Char
  | [] => []
  | '\\' :: c :: cs =>
    match escaped? c with
    | some d => d :: unescape escaped? cs
    | none => '\\' :: unescape escaped? (c :: cs)
  | c :: cs => c :: unescape escaped? cs
termination_by cs => cs.length

/-- The text before a comment, which begins with a number sign after a blank. -/
def beforeComment : List Char → List Char
  | [] => []
  | [c] => [c]
  | c :: d :: cs => if Text.isBlank c && d == '#' then [] else c :: beforeComment (d :: cs)

/-- Quoted text, after its opening quote. -/
def readQuoted (quote : Char) (escaped? : Char → Option Char) (cs : List Char) :
    Reading (List Char × List Char) :=
  match closeQuote quote cs with
  | some (body, rest) => .ok (unescape escaped? body, rest)
  | none => .error cs

/-- A value. A bare one is the rest of the line without a comment and without blanks at its end. -/
def readValue : List Char → Reading (List Char × List Char)
  | '\'' :: cs => readQuoted '\'' escapedSingle? cs
  | '"' :: cs => readQuoted '"' escapedDouble? cs
  | cs =>
    .ok (Text.trimEnd (beforeComment (cs.takeWhile (· != '\n'))), cs.dropWhile (· != '\n'))

/-! ### Assignments -/

/-- The text after the end of a line, before which there may be a comment. -/
def endLine (cs : List Char) : Reading (List Char) :=
  match skipInline cs with
  | [] => .ok []
  | '\n' :: rest => .ok rest
  | '#' :: rest => .ok (skipLine rest)
  | rest => .error rest

/-- The assignment at the front of a text, if there is one in its first line. -/
def readAssignment (cs : List Char) : Reading (Option Assignment × List Char) := do
  let (name, cs) ← readName (skipExport cs)
  let (value, cs) ← match skipInline cs with
    | '=' :: cs => do
      let (value, cs) ← readValue (skipInline cs)
      pure (some (String.ofList value), cs)
    | cs => pure (none, cs)
  let cs ← endLine cs
  return (name.map fun n => ⟨String.ofList n, value⟩, cs)

/-- The assignment in the first line of a text, if there is one, and the text after that line. A
line that cannot be read is left where reading stopped. -/
def readLine (cs : List Char) : Option Assignment × List Char :=
  match readAssignment cs with
  | .ok (a, rest) => (a, rest)
  | .error rest => (none, skipLine rest)

/-- The assignments of all lines, among which blank ones do not count. Each line leaves less of the
text to be read. -/
def readLines (cs : List Char) : List Assignment :=
  match cs.dropWhile Text.isBlank with
  | [] => []
  | line =>
    let (a, rest) := readLine line
    a.toList ++ if _h : rest.length < cs.length then readLines rest else []
termination_by cs.length

/-- All assignments of a text, whose lines may end in any of the usual ways. -/
def assignments (text : String) : List Assignment :=
  readLines ((Text.joinLineEnds text.toList).map fun c => if c = '\r' then '\n' else c)

/-! ### Variables in values -/

/-- A reference to a variable, after its opening brace: the name, what it stands for if there is no
such variable, and the text after it. -/
def reference? (cs : List Char) : Option (List Char × List Char × List Char) :=
  match Text.cutAt '\x7d' cs with
  | (inner, some rest) =>
    match Text.cutAt ':' inner with
    | (name, none) => some (name, [], rest)
    | (name, some ('-' :: absent)) => some (name, absent, rest)
    | _ => none
  | _ => none

/-- A reference is shorter than the text in which it stands. -/
theorem length_lt_of_reference? {cs name absent rest : List Char}
    (h : reference? cs = some (name, absent, rest)) : rest.length < cs.length := by
  unfold reference? at h
  split at h
  · rename_i heq
    have := Text.length_lt_of_cutAt (congrArg Prod.snd heq)
    split at h <;> simp_all
  · simp at h

/-- A value in which each reference is replaced by what `valueOf` says of it. -/
def expand (valueOf : (name absent : List Char) → List Char) : List Char → List Char
  | [] => []
  | '$' :: '\x7b' :: cs =>
    match _h : reference? cs with
    | some (name, absent, rest) => valueOf name absent ++ expand valueOf rest
    | none => '$' :: expand valueOf ('\x7b' :: cs)
  | c :: cs => c :: expand valueOf cs
termination_by cs => cs.length
decreasing_by
  · have := length_lt_of_reference? _h
    simp only [List.length_cons]
    omega
  · simp
  · simp

/-- What a reference stands for: an earlier variable, one of the environment, or else the text given
with the reference. A variable without a value stands for nothing. -/
def valueOf (environment : Variables String) (earlier : Variables (Option String))
    (name absent : List Char) : List Char :=
  match earlier.lookup (String.ofList name) with
  | some value => (value.getD "").toList
  | none => ((environment.lookup (String.ofList name)).map String.toList).getD absent

/-- The variables after all assignments of a text. -/
def read (environment : Variables String) (text : String) : Variables (Option String) :=
  (assignments text).foldl
    (fun earlier a =>
      earlier.put a.name (a.value.map fun v =>
        String.ofList (expand (valueOf environment earlier) v.toList)))
    []

end CronPreview.EnvFile
