import BigScript.Net.Exchange

/-!
# The client

How a script asks for a page: requests are built from the settings of the script, redirections of
a plain request are followed a few times, and every failure is a text that begins in the same way.
-/

namespace BigScript
namespace Client

/-- The number of redirections that are followed. -/
def mostRedirects : Nat := 8

/-- How every failure begins. -/
def failureStart : String := "BigNet Error"

/-- The agent name where a script sets none. -/
def defaultAgent : String := "fasthttp"

/-- The content type of data sent without one. -/
def formType : String := "application/x-www-form-urlencoded"

/-- The content type of data sent with an empty one. -/
def plainDataType : String := "application/octet-stream"

/-- Small letters, save that the character behind a hyphen is capitalised. -/
def capitalised : List Char → List Char
  | [] => []
  | '-' :: c :: cs => '-' :: c.toUpper :: capitalised cs
  | c :: cs => c.toLower :: capitalised cs

/-- The usual spelling of a header name: each part between hyphens begins with a capital. -/
def canonical (name : String) : String :=
  match name.toList with
  | [] => ""
  | c :: cs => String.ofList (c.toUpper :: capitalised cs)

/-- A header value on one line, without blanks around it. -/
def oneLine (value : String) : String :=
  Text.trim (value.map fun c => if c == '\n' || c == '\r' then ' ' else c)

/-- The value that a header is sent with, if it is set; the last setting counts. -/
def header? (settings : ClientSettings) (name : String) : Option String :=
  (settings.headers.reverse.find? fun entry => canonical entry.1 == name).map
    fun entry => oneLine entry.2

/-- Headers that are carried by fields of a request of their own. -/
def ownFields : List String := ["Host", "User-Agent", "Content-Type"]

/-- The headers of a request in the order of their names. -/
def plainHeaders (settings : ClientSettings) : List (String × String) :=
  let names := (settings.headers.map fun entry => canonical entry.1).eraseDups
  ((names.filter fun name => !ownFields.contains name).mergeSort (· ≤ ·)).map fun name =>
    (name, (header? settings name).getD "")

/-- The request for an address. -/
def request (settings : ClientSettings) (method : String) (address : Address) (body : String) :
    Request :=
  let agent := (header? settings "User-Agent").getD settings.agent
  let set := header? settings "Content-Type"
  let contentType :=
    if method == "POST" then
      if set == some "" then plainDataType else set.getD formType
    else set.getD ""
  { method
    host := address.host
    target := address.target
    agent := if agent.isEmpty then defaultAgent else agent
    contentType
    headers := plainHeaders settings
    body }

/-- Why no request is made for an address. -/
def refusal? (address : Address) : Option String :=
  if address.scheme != "http" && address.scheme != "https" then
    some ("unsupported protocol " ++ Text.quoted address.scheme ++
      ". http and https are supported")
  else if address.host.isEmpty then some "missing required Host header in request"
  else none

/-- Whether an answer sends the client elsewhere. -/
def isRedirect (answer : Answer) : Bool := [301, 302, 303, 307, 308].contains answer.status

/-- Sends one request. -/
def send (network : Network) (settings : ClientSettings) (method : String) (address : Address)
    (body : String) : Except String Answer :=
  match refusal? address with
  | some problem => .error problem
  | none => network (request settings method address body)

/-- Sends a plain request and follows redirections as often as `left` says. -/
def sendFollowing (network : Network) (settings : ClientSettings) (left : Nat)
    (address : Address) : Except String Answer :=
  match send network settings "GET" address "" with
  | .error problem => .error problem
  | .ok answer =>
    if isRedirect answer then
      match left with
      | 0 => .error "too many redirects detected when doing the request"
      | left + 1 =>
        match answer.location with
        | some location => sendFollowing network settings left (address.follow location)
        | none => .error "missing Location header for http redirect"
    else .ok answer

/-- The text of an answer's body. -/
def bodyText (answer : Answer) : Except String String :=
  if answer.encoding == "gzip" then .error "gzip: invalid header" else .ok answer.body

/-- The outcome of a request as a text. -/
def outcome (result : Except String Answer) : String :=
  match result with
  | .error problem => failureStart ++ ": Request Failed. " ++ problem
  | .ok answer =>
    match bodyText answer with
    | .ok body => body
    | .error problem => failureStart ++ ": Bad Response Text. " ++ problem

/-- Fetches a page. -/
def fetch (network : Network) (settings : ClientSettings) (url : String) : String :=
  outcome (sendFollowing network settings mostRedirects (Address.read url))

/-- Sends data to a page. -/
def post (network : Network) (settings : ClientSettings) (url data : String) : String :=
  outcome (send network settings "POST" (Address.read url) data)

end Client
end BigScript
