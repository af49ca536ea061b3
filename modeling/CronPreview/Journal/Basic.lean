/-
The journal: what the program tells its operators while it works.

* `Level`, `Origin`, `Record`: how grave a record is, which part wrote it, and what it says;
* `Journal`: a value together with the records written on the way to it, a lawful monad;
* `Record.line`: a record as one line of text.
-/

namespace CronPreview

/-- How grave a record is. -/
inductive Level where
  | debug
  | info
  | warning
  | error
  | critical
deriving DecidableEq, Repr

namespace Level

/-- The name of a level. -/
def name : Level → String
  | debug => "DEBUG"
  | info => "INFO"
  | warning => "WARNING"
  | error => "ERROR"
  | critical => "CRITICAL"

/-- A graver level has a greater rank. -/
def rank : Level → Nat
  | debug => 10
  | info => 20
  | warning => 30
  | error => 40
  | critical => 50

end Level

/-- The parts of the program that write records. -/
inductive Origin where
  | parsing
  | search
  | description
  | service
  | server
  | commandLine
deriving DecidableEq, Repr

/-- The name under which a part writes. -/
def Origin.name : Origin → String
  | parsing => "cronexpr.expression"
  | search => "cronexpr.search"
  | description => "cronexpr.describe"
  | service => "api.endpoints"
  | server => "api.http_server"
  | commandLine => "main"

/-- One record of the journal. -/
structure Record where
  origin : Origin
  level : Level
  message : String
deriving DecidableEq, Repr

/-- A record as one line, without the time at which it was written. -/
def Record.line (r : Record) : String :=
  r.origin.name ++ " - " ++ r.level.name ++ " - " ++ r.message

/-- A value and the records written on the way to it, the first one first. -/
structure Journal (α : Type) where
  value : α
  records : List Record

namespace Journal

instance : Monad Journal where
  pure a := ⟨a, []⟩
  bind x f := ⟨(f x.value).value, x.records ++ (f x.value).records⟩

/-- Writes one record. -/
def write (origin : Origin) (level : Level) (message : String) : Journal Unit :=
  ⟨(), [⟨origin, level, message⟩]⟩

/-- Values and records are handed on as they are, in whatever way the steps are grouped. -/
instance : LawfulMonad Journal :=
  LawfulMonad.mk' Journal (fun x => by simp [Functor.map]) (fun _ _ => rfl)
    (fun x f g => by simp [Bind.bind, List.append_assoc])

/-- A value by itself is its own value. -/
@[simp] theorem value_pure {α : Type} (a : α) : (pure a : Journal α).value = a := rfl

/-- A value by itself comes without records. -/
@[simp] theorem records_pure {α : Type} (a : α) : (pure a : Journal α).records = [] := rfl

/-- The second step goes on from the value of the first. -/
@[simp] theorem value_bind {α β : Type} (x : Journal α) (f : α → Journal β) :
    (x >>= f).value = (f x.value).value := rfl

/-- The records of the second step follow those of the first. -/
@[simp] theorem records_bind {α β : Type} (x : Journal α) (f : α → Journal β) :
    (x >>= f).records = x.records ++ (f x.value).records := rfl

/-- A function is applied to the value. -/
@[simp] theorem value_map {α β : Type} (f : α → β) (x : Journal α) :
    (f <$> x).value = f x.value := rfl

/-- A function that is applied to the value leaves the records as they are. -/
@[simp] theorem records_map {α β : Type} (f : α → β) (x : Journal α) :
    (f <$> x).records = x.records :=
  List.append_nil x.records

/-- Writing a record yields no value of interest. -/
@[simp] theorem value_write (o : Origin) (l : Level) (m : String) : (write o l m).value = () := rfl

/-- Writing a record leaves that record and no other. -/
@[simp] theorem records_write (o : Origin) (l : Level) (m : String) :
    (write o l m).records = [⟨o, l, m⟩] := rfl

end Journal

end CronPreview
