import BigScript.Json.Diagnosis
import BigScript.Net.Exchange
import BigScript.Net.Client

/-!
# Requests to the service and its answers

A request has a method, a target and possibly a body; an answer has a status, headers and a body.  What
clients send to deploy and to run scripts is JSON or a form.
-/

namespace BigScript
namespace Service

/-- A request to the service. -/
structure Request where
  method : String
  /-- The path and query asked for, as they are sent. -/
  target : String
  contentType : String := ""
  body : String := ""
deriving DecidableEq, Repr

namespace Request

/-- The path that is asked for. -/
def path (request : Request) : String :=
  (Address.splitBefore (fun c => c == '?' || c == '#') request.target).1

/-- The query, without its question mark. -/
def query (request : Request) : String :=
  let sent := (Address.splitBefore (· == '#') request.target).1
  match Text.cut "?" sent with
  | some (_, query) => query
  | none => ""

end Request

/-- Decodes a part of a form: a plus sign stands for a blank. -/
def decodeFormPart (text : String) : String :=
  Address.decode (text.map fun c => if c == '+' then ' ' else c)

/-- The names and values of a form. -/
def formFields (text : String) : List (String × String) :=
  ((Text.split "&" text).filter (!·.isEmpty)).map fun part =>
    match Text.cut "=" part with
    | some (name, value) => (decodeFormPart name, decodeFormPart value)
    | none => (decodeFormPart part, "")

/-- An answer of the service. -/
structure Response where
  status : Nat := 200
  contentType : Option String := none
  headers : List (String × String) := []
  body : String := ""
deriving DecidableEq, Repr

namespace Response

/-- The type of plain text. -/
def plainType : String := "text/plain; charset=utf-8"

/-- Whether an answer of a status has no body. -/
def isBare (status : Nat) : Bool := status < 200 || status == 204 || status == 304

/-- The body that is sent. -/
def sentBody (response : Response) : String :=
  if isBare response.status then "" else response.body

/-- The type that is sent: the one that is set, or plain text for a body. -/
def sentType (response : Response) : String :=
  match response.contentType with
  | some type => type
  | none => if response.sentBody.isEmpty then "" else plainType

/-- The answer with a header set. -/
def withHeader (response : Response) (name value : String) : Response :=
  let name := Client.canonical name
  let value := Client.oneLine value
  if name == "Content-Type" then { response with contentType := some value }
  else
    { response with
      headers := (response.headers.filter (·.1 != name)) ++ [(name, value)] }

/-- An answer in plain words. -/
def words (status : Nat) (text : String) : Response :=
  { status, contentType := some plainType, body := text }

/-- An answer with a page. -/
def page (body : String) : Response :=
  { contentType := some "text/html; charset=utf-8", body }

end Response
end Service
end BigScript

/-! ## Bodies of requests -/

namespace BigScript
namespace Service

/-- What is sent to deploy a script. -/
structure Deployment where
  name : String := ""
  source : String := ""
deriving DecidableEq, Repr

/-- What is sent to run a script. -/
structure Order where
  args : List String := []
deriving DecidableEq, Repr

namespace Body

/-- The kinds of values in problems with them. -/
def kindOf : Json → String
  | .null => "null"
  | .bool _ => "bool"
  | .number _ => "number"
  | .string _ => "string"
  | .array _ => "array"
  | .object _ => "object"

/-- The problem of a value of another type than a field has. -/
def mismatch (value : Json) (place type : String) : String :=
  "json: cannot unmarshal " ++ kindOf value ++ " into Go " ++ place ++ " of type " ++ type

/-- What has been read, and the first problem with a value. -/
abbrev Read (α : Type) := α × Option String

/-- Reads a text into a field. -/
def textField {α : Type} (place : String) (value : Json) (put : String → α → α) (read : Read α) :
    Read α :=
  match value with
  | .null => read
  | .string text => (put text read.1, read.2)
  | value => (read.1, read.2.or (some (mismatch value place "string")))

/-- Reads the items of a list of texts. -/
def textItems (place : String) : List Json → List String × Option String
  | [] => ([], none)
  | value :: rest =>
    let (texts, problem) := textItems place rest
    match value with
    | .string text => (text :: texts, problem)
    | .null => ("" :: texts, problem)
    | value => ("" :: texts, some (mismatch value place "string"))

/-- Reads one field of a deployment; the case of letters in its name does not count. -/
def deploymentField (read : Read Deployment) (field : String × Json) : Read Deployment :=
  let (name, value) := field
  match Text.lower name with
  | "name" =>
    textField "struct field scriptRequest.name" value (fun text form => { form with name := text }) read
  | "source" =>
    textField "struct field scriptRequest.source" value
      (fun text form => { form with source := text }) read
  | _ => read

/-- Reads one field of an order. -/
def orderField (read : Read Order) (field : String × Json) : Read Order :=
  let (name, value) := field
  let place := "struct field executionRequest.args"
  match Text.lower name, value with
  | "args", .null => ({ args := [] }, read.2)
  | "args", .array items =>
    let (args, problem) := textItems place items
    ({ args }, read.2.or problem)
  | "args", value => (read.1, read.2.or (some (mismatch value place "[]string")))
  | _, _ => read

/-- Reads a JSON body whose fields are read one after another. -/
def ofJson {α : Type} (empty : α) (type body : String) (field : Read α → String × Json → Read α) :
    Except String α :=
  match Json.diagnosis? body with
  | some problem => .error problem
  | none =>
    match Json.readWritten? body with
    | some (.object fields) =>
      match fields.foldl field (empty, none) with
      | (form, none) => .ok form
      | (_, some problem) => .error problem
    | some .null => .ok empty
    | some value => .error (mismatch value "value" type)
    | none => .error Json.Diagnosis.early

/-- The problem of a body of no known type. -/
def unprocessable : String := "Unprocessable Entity"

/-- Reads a body by the type that it is sent with. -/
def read {α : Type} (request : Request) (empty : α) (type : String)
    (field : Read α → String × Json → Read α) (ofForm : List (String × String) → α) :
    Except String α :=
  let full := Text.lower request.contentType
  let kind := (Address.splitBefore (· == ';') full).1
  if Text.endsWith kind "json" then ofJson empty type request.body field
  else if Text.startsWith kind "application/x-www-form-urlencoded" then
    .ok (ofForm (formFields request.body))
  else .error unprocessable

/-- The last value of a field of a form, whatever the case of letters in its name. -/
def formValue (fields : List (String × String)) (name : String) : String :=
  ((fields.filter (Text.lower ·.1 == name)).getLast?.map (·.2)).getD ""

/-- Reads what is sent to deploy a script. -/
def deployment (request : Request) : Except String Deployment :=
  read request {} "api.scriptRequest" deploymentField fun fields =>
    { name := formValue fields "name", source := formValue fields "source" }

/-- Reads what is sent to run a script. -/
def order (request : Request) : Except String Order :=
  read request {} "api.executionRequest" orderField fun fields =>
    { args := (fields.filter (Text.lower ·.1 == "args")).map (·.2) }

end Body
end Service
end BigScript
