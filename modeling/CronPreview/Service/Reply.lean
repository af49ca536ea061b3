/-
Replies, and how answers are written in them.

* `Reply`: a status and a body;
* `Parsed.toJson`, `Preview.toJson`, `Matched.toJson`: the answers as JSON;
* `Verdict.reply`, `Refusal.reply`: the replies that tell what came of a request.
-/
import CronPreview.Service.Handler

namespace CronPreview

/-- The sets of a schedule, as the lists of their members. -/
def Schedule.toJson (s : Schedule) : Json :=
  let values (f : FieldSet) : Json := .array (f.toList.map .integer)
  .object
    [("minute", values s.minute), ("hour", values s.hour), ("day_of_month", values s.dayOfMonth),
     ("month", values s.month), ("day_of_week", values s.dayOfWeek)]

namespace Service

/-- A reply to a client. -/
structure Reply where
  status : Nat
  body : Json

/-- The meaning of an expression, as JSON. -/
def Parsed.toJson (p : Parsed) : Json :=
  .object
    [("expression", .string p.source), ("fields", p.schedule.toJson),
     ("description", .string p.description)]

/-- The texts of the runs that are shown to people. -/
def Preview.formatted (p : Preview) : List String :=
  p.runs.map Instant.runText

/-- The next runs of an expression, as JSON. -/
def Preview.toJson (p : Preview) : Json :=
  .object
    [("expression", .string p.source), ("runs", .array (p.runs.map fun t => .string t.iso)),
     ("formatted", .array (p.formatted.map .string)), ("next", .string p.first.runText),
     ("clock", .string p.first.clockText), ("summary", .string p.summary),
     ("timezone", .string p.zone)]

/-- Whether an expression fires, as JSON. -/
def Matched.toJson (m : Matched) : Json :=
  .object
    [("expression", .string m.source), ("at", .string m.moment.iso), ("matches", .bool m.fires)]

/-- A reply that tells no more than a sentence. -/
def Reply.saying (status : Nat) (sentence : String) : Reply :=
  ⟨status, .object [("detail", .string sentence)]⟩

/-- A reply that tells a kind of failure and its message. -/
def Reply.telling (status : Nat) (kind : ErrorKind) (message : String) : Reply :=
  ⟨status, .object
    [("detail", .object [("kind", .string kind.name), ("message", .string message)])]⟩

/-- The reply to a request for an expression. -/
def Verdict.reply {α : Type} (toJson : α → Json) : Verdict α → Reply
  | answered a => ⟨200, toJson a⟩
  | rejected d => .telling 400 d.kind d.message
  | exhausted e => .telling 422 .searchExhausted e.message

/-- The reply to a body that is not a request. -/
def Refusal.reply : Refusal → Reply
  | unreadable => .saying 400 "There was an error parsing the body"
  | complaints cs => ⟨422, .object [("detail", .array (cs.map Complaint.toJson))]⟩

end Service

end CronPreview
