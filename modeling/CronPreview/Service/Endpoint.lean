/-
The endpoints of the service.

* `Endpoint`: what can be reached, each under one path and by one method;
* `Message`: a request as it comes in;
* `respond`: the reply to a message;
* `lifetime`: the records that the service writes when it starts and when it stops.
-/
import CronPreview.Service.Reply

namespace CronPreview.Service

/-- What can be reached. -/
inductive Endpoint where
  | root
  | health
  | parse
  | preview
  | fires
  | random
deriving DecidableEq, Repr

namespace Endpoint

/-- All endpoints. -/
def all : List Endpoint :=
  [root, health, parse, preview, fires, random]

/-- The path of an endpoint. -/
def path : Endpoint → String
  | root => "/"
  | health => "/health"
  | parse => "/api/v1/cron/parse"
  | preview => "/api/v1/cron/preview"
  | fires => "/api/v1/cron/match"
  | random => "/api/v1/cron/random"

/-- The method by which an endpoint is reached. -/
def method : Endpoint → String
  | root | health | random => "GET"
  | parse | preview | fires => "POST"

/-- The endpoint with a path. -/
def ofPath? (path : String) : Option Endpoint :=
  all.find? fun e => e.path == path

/-- The endpoint that is meant by a path: a query after it does not count, and neither does a slash
at its end if no endpoint has the path with it. -/
def find? (target : String) : Option Endpoint :=
  let path := target.toList.takeWhile fun c => c != '?' && c != '#'
  (ofPath? (String.ofList path)).orElse fun _ =>
    if path.getLast? = some '/' then ofPath? (String.ofList path.dropLast) else none

end Endpoint

/-- A request as it comes in. -/
structure Message where
  method : String
  target : String
  body : Option String

/-- What a reply depends on beside the message. -/
structure Conditions where
  settings : Settings
  localZone : LocalZone
  now : Instant
  /-- The minute and the hour that are chosen when a time of day is to be chosen. -/
  choice : Int × Int

/-- The version of the service. -/
def version : String := "1.0.0"

/-- Reads the body of a message and replies to the request in it. -/
def replyTo {α β : Type} (read : Json → Except (List Complaint) α) (toJson : β → Json)
    (handle : α → Journal (Except Failure (Verdict β))) (body : Option String) :
    Journal (Except Failure Reply) := do
  match readBody read body with
  | .error refusal => return .ok refusal.reply
  | .ok request => return (← handle request).map (Verdict.reply toJson)

/-- The reply of an endpoint. -/
def reply (conditions : Conditions) (body : Option String) :
    Endpoint → Journal (Except Failure Reply)
  | .root =>
    return .ok ⟨200, .object
      [("name", .string "ChronoPeek"), ("version", .string version),
       ("status", .string "running")]⟩
  | .health =>
    match WritableInt.ofInt? conditions.settings.searchLimitMinutes with
    | some limit =>
      return .ok ⟨200, .object
        [("status", .string "healthy"), ("search_limit_minutes", .integer limit.value)]⟩
    | none => return .error .longInteger
  | .parse => replyTo readParse Parsed.toJson parse body
  | .preview =>
    replyTo readPreview Preview.toJson
      (preview conditions.settings conditions.localZone conditions.now) body
  | .fires => replyTo readMatch Matched.toJson fires body
  | .random =>
    return .ok ⟨200, .object
      [("expression", .string (dailyExpression conditions.choice.1 conditions.choice.2))]⟩

/-- The reply to a message. -/
def respond (conditions : Conditions) (message : Message) : Journal (Except Failure Reply) :=
  match Endpoint.find? message.target with
  | none => return .ok (.saying 404 "Not Found")
  | some e =>
    if message.method.toUpper = e.method then reply conditions message.body e
    else return .ok (.saying 405 "Method Not Allowed")

/-- Work between the start and the stop of the service, both of which are recorded. The service does
not start when a number of the settings is too long to be recorded. -/
def lifetime {α : Type} (settings : Settings) (work : Journal (Except Failure α)) :
    Journal (Except Failure α) :=
  match WritableInt.ofInt? settings.defaultRunCount, WritableInt.ofInt? settings.searchLimitMinutes with
  | some count, some limit => do
    Journal.write .server .info
      ("Starting ChronoPeek server (default runs: " ++ count.text ++ ", search limit: " ++ limit.text
        ++ " minutes)")
    let result ← work
    Journal.write .server .info "ChronoPeek server shut down"
    return result
  | _, _ => return .error .longInteger

end CronPreview.Service
