/-
Requests, and how their bodies are read.

* `Expression`: a text that is short enough to be read as an expression;
* `PreviewRequest`, `MatchRequest`: what is asked for beside an expression;
* `Refusal`: why a body is not a request;
* `readBody`: the request in a body; all its members are checked, and every one that is at fault is
  complained of.
-/
import CronPreview.Json.Reader
import CronPreview.Service.Count
import CronPreview.Service.Moment

namespace CronPreview.Service

/-- The greatest number of characters of an expression. -/
def maxLength : Nat := 1000

/-- A text that is short enough to be read as an expression. -/
structure Expression where
  text : String
  length_le : text.length ≤ maxLength
deriving DecidableEq

/-- A request for the next runs of an expression. -/
structure PreviewRequest where
  expression : Expression
  count : Option RunCount
  /-- Where the search begins; without it, at the current time. -/
  start : Option Instant

/-- A question whether an expression fires at a moment. -/
structure MatchRequest where
  expression : Expression
  moment : Instant

/-- Why a body is not a request. -/
inductive Refusal where
  /-- The body could not be read at all. -/
  | unreadable
  /-- The body has these faults. -/
  | complaints (cs : List Complaint)
deriving DecidableEq

/-- The complaints about a member that could not be read. -/
def complaintsOf {α : Type} (member : String) : Except Fault α → List Complaint
  | .ok _ => []
  | .error fault => [⟨fault, some member⟩]

/-- The expression of a request. -/
def readExpression : Option Json → Except Fault Expression
  | none => .error .missing
  | some (.string s) => if h : s.length ≤ maxLength then .ok ⟨s, h⟩ else .error .tooLong
  | some _ => .error .notAString

/-- The instant at which a search begins, if one is given. -/
def readStart : Option Json → Except Fault (Option Instant)
  | none | some .null => .ok none
  | some v => (readMoment v).map some

/-- The instant that is asked about. -/
def readAt : Option Json → Except Fault Instant
  | none => .error .missing
  | some v => readMoment v

/-- A request that is nothing but an expression. -/
def readParse (body : Json) : Except (List Complaint) Expression :=
  let expression := readExpression (body.member? "expression")
  expression.mapError fun _ => complaintsOf "expression" expression

/-- A request for the next runs. -/
def readPreview (body : Json) : Except (List Complaint) PreviewRequest :=
  match readExpression (body.member? "expression"), readCount (body.member? "count"),
    readStart (body.member? "start") with
  | .ok expression, .ok count, .ok start => .ok ⟨expression, count, start⟩
  | expression, count, start =>
    .error (complaintsOf "expression" expression ++ complaintsOf "count" count
      ++ complaintsOf "start" start)

/-- A question whether an expression fires. -/
def readMatch (body : Json) : Except (List Complaint) MatchRequest :=
  match readExpression (body.member? "expression"), readAt (body.member? "at") with
  | .ok expression, .ok moment => .ok ⟨expression, moment⟩
  | expression, moment =>
    .error (complaintsOf "expression" expression ++ complaintsOf "at" moment)

/-- The request in a body. A mark of the byte order at its front does not count. -/
def readBody {α : Type} (read : Json → Except (List Complaint) α) (body : Option String) :
    Except Refusal α :=
  match body with
  | none | some "" => .error (.complaints [{ fault := .missing }])
  | some text =>
    let text := if text.front = '\ufeff' then String.ofList (text.toList.drop 1) else text
    match Json.read text with
    | .error .malformed => .error (.complaints [{ fault := .jsonInvalid }])
    | .error (.longNumeral _) => .error .unreadable
    | .ok .null => .error (.complaints [{ fault := .missing }])
    | .ok (.object members) => (read (.object members)).mapError .complaints
    | .ok _ => .error (.complaints [{ fault := .notAnObject }])

end CronPreview.Service
