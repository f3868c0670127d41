import ClusterFleet.Api.Address
import ClusterFleet.Api.Error
import ClusterFleet.Json.Form
import ClusterFleet.Json.Reader

/-!
# API — the server

The API server as its clients see it: a list of replies, given out one after another whatever is
asked, and the requests seen so far. A client learns nothing else of a server, so a statement about
all such lists is one about all servers.
-/

namespace ClusterFleet

/-- What a request does. -/
inductive Method where
  /-- Reads. -/
  | get
  /-- Replaces. -/
  | put
  /-- Removes. -/
  | delete
  deriving DecidableEq, Repr

/-- The word for a method. -/
def Method.text : Method → String
  | .get => "GET"
  | .put => "PUT"
  | .delete => "DELETE"

/-- A request. -/
structure Request where
  /-- What it does. -/
  method : Method
  /-- To what. -/
  target : String
  /-- What it carries, if anything. -/
  body : Option Json

/-- What becomes of a request. -/
inductive Reply where
  /-- The server answers with a status and a text. -/
  | answer (status : Nat) (body : String)
  /-- There is no answer. -/
  | broken (message : String)

/-- A server. -/
structure Server where
  /-- The replies to come. -/
  replies : List Reply
  /-- The requests seen, oldest first. -/
  requests : List Request
  /-- Why there is no way to the server, if there is none: what failed, and the causes of that. -/
  outage : Option (String × List String)
  /-- The number of statuses written. -/
  statusWrites : Nat

namespace Server

/-- A server with the given replies. -/
def ofReplies (replies : List Reply) : Server :=
  ⟨replies, [], none, 0⟩

/-- A server that cannot be reached. -/
def unreachable (message : String) (causes : List String) : Server :=
  ⟨[], [], some (message, causes), 0⟩

/-- What is said of a request to which there is no reply. -/
def noReply : String := "no scripted response"

/-- Sends a request and takes the next reply, whatever its status. -/
def exchange (r : Request) (s : Server) : Except ApiError (Nat × String) × Server :=
  match s.outage with
  | some (message, causes) => (.error (.unreachable message causes), s)
  | none =>
    let seen := s.requests ++ [r]
    match s.replies with
    | [] => (.error (.unreachable noReply []), { s with requests := seen })
    | .broken message :: later =>
      (.error (.unreachable message []), { s with replies := later, requests := seen })
    | .answer status body :: later =>
      (.ok (status, body), { s with replies := later, requests := seen })

/-! ## Refusals -/

/-- The greatest number of an error. -/
def maxCode : Nat := Decimal.maxWord 16

/-- The number of an error, of 16 bits. -/
def readCode : Json → Except Form.Fault Nat
  | .number (.int n) =>
    if 0 ≤ n && n ≤ maxCode then .ok n.toNat
    else .error (.wrongValue (Form.found (.number (.int n))) "u16")
  | v => Form.mismatch v "u16"

/-- The form of a server's account of a failed request. -/
def refusedForm : Form.Record Refused where
  name := "ErrorResponse"
  blank := ⟨"", "", "", 0⟩
  fields :=
    [⟨"status", true, fun v => (Form.text v).map fun s r => { r with status := s }⟩,
     ⟨"message", false, fun v => (Form.text v).map fun s r => { r with message := s }⟩,
     ⟨"reason", false, fun v => (Form.text v).map fun s r => { r with reason := s }⟩,
     ⟨"code", true, fun v => (readCode v).map fun n r => { r with code := n }⟩]

/-- The account that a text gives, if it does. -/
def refused? (body : String) : Option Refused :=
  (Json.read? body).bind fun v => (refusedForm.read v).toOption

/-- The phrases of the statuses that are errors. -/
def phrases : List (Nat × String) :=
  [(400, "Bad Request"), (401, "Unauthorized"), (402, "Payment Required"), (403, "Forbidden"),
   (404, "Not Found"), (405, "Method Not Allowed"), (406, "Not Acceptable"),
   (407, "Proxy Authentication Required"), (408, "Request Timeout"), (409, "Conflict"),
   (410, "Gone"), (411, "Length Required"), (412, "Precondition Failed"),
   (413, "Payload Too Large"), (414, "URI Too Long"), (415, "Unsupported Media Type"),
   (416, "Range Not Satisfiable"), (417, "Expectation Failed"), (418, "I'm a teapot"),
   (421, "Misdirected Request"), (422, "Unprocessable Entity"), (423, "Locked"),
   (424, "Failed Dependency"), (425, "Too Early"), (426, "Upgrade Required"),
   (428, "Precondition Required"), (429, "Too Many Requests"),
   (431, "Request Header Fields Too Large"), (451, "Unavailable For Legal Reasons"),
   (500, "Internal Server Error"), (501, "Not Implemented"), (502, "Bad Gateway"),
   (503, "Service Unavailable"), (504, "Gateway Timeout"), (505, "HTTP Version Not Supported"),
   (506, "Variant Also Negotiates"), (507, "Insufficient Storage"), (508, "Loop Detected"),
   (510, "Not Extended"), (511, "Network Authentication Required")]

/-- A status with its phrase. -/
def statusText (status : Nat) : String :=
  Decimal.text status ++ " " ++ (phrases.lookup status).getD "<unknown status code>"

/-- Whether a status is an error. -/
def isErrorStatus (status : Nat) : Bool :=
  400 ≤ status && status ≤ 599

/-- The refusal that a reply with the status of an error amounts to: the server's account, or the
status and the text where there is none. -/
def refusalOf (status : Nat) (body : String) : Refused :=
  (refused? body).getD
    ⟨statusText status, Text.quoted body, "Failed to parse error data", status⟩

/-- Sends a request for a path and takes the text of a good answer. A path that is no address is
not sent. -/
def ask (method : Method) (path : String) (body : Option Json) (s : Server) :
    Except ApiError String × Server :=
  match Address.ofPath path with
  | .error reason => (.error (.unwritable reason), s)
  | .ok target =>
    match s.exchange ⟨method, target, body⟩ with
    | (.error e, s) => (.error e, s)
    | (.ok (status, text), s) =>
      if isErrorStatus status then (.error (.refused (refusalOf status text)), s)
      else (.ok text, s)

/-- Sends a request for a path and reads the answer in a given form. -/
def askFor (read : Json → Except Form.Fault α) (method : Method) (path : String)
    (body : Option Json) (s : Server) : Except ApiError α × Server :=
  match s.ask method path body with
  | (.error e, s) => (.error e, s)
  | (.ok text, s) =>
    match (Json.read? text).map read with
    | some (.ok a) => (.ok a, s)
    | _ => (.error .undecodable, s)

end Server

end ClusterFleet
