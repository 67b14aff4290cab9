import BigScript.Text.Basic
import BigScript.Bytes.Encoding

/-!
# Addresses and exchanges

The parts of the address of a page: scheme, host, path and query.  Paths are kept decoded and
without detours, and are encoded again when they are sent.

What travels between a script and a server is a request, and the answer to it.  A network is whatever
answers requests, so scripts can be run against a real one or against one made up for the purpose.
-/

namespace BigScript

/-! ## Addresses -/

/-- The parts of an address.  The query is kept as it is written. -/
structure Address where
  scheme : String
  host : String
  path : String
  query : Option String := none
deriving Repr, DecidableEq

namespace Address

/-- The value of a hexadecimal digit. -/
def hexValue? (c : Char) : Option Nat := Bytes.hexDigit? c

/-- The bytes of a text in which `%` and two hexadecimal digits stand for a byte. -/
def decodeBytes : List Char → Bytes
  | [] => []
  | '%' :: a :: b :: cs =>
    match hexValue? a, hexValue? b with
    | some high, some low => UInt8.ofNat (16 * high + low) :: decodeBytes cs
    | _, _ => Bytes.ofText "%" ++ decodeBytes (a :: b :: cs)
  | c :: cs => Bytes.ofText (String.singleton c) ++ decodeBytes cs

/-- A text with its encoded bytes decoded. -/
def decode (s : String) : String := Bytes.lossyText (decodeBytes s.toList)

/-- Whether a byte stands for itself in an encoded path. -/
def isPlain (b : UInt8) : Bool :=
  let c := Char.ofNat b.toNat
  c.toNat < 128 && (c.isAlphanum || "-_.~$&+,/:;=@".toList.contains c)

/-- A path with all other bytes encoded. -/
def encodePath (path : String) : String :=
  String.join ((Bytes.ofText path).map fun b =>
    if isPlain b then String.singleton (Char.ofNat b.toNat)
    else "%" ++ Text.upper (Text.hexDigits 2 b.toNat))

/-- Drops each slash that follows another. -/
def dropDoubleSlashes : List Char → List Char
  | '/' :: '/' :: cs => dropDoubleSlashes ('/' :: cs)
  | c :: cs => c :: dropDoubleSlashes cs
  | [] => []

/-- Resolves the parts of a path that name the folder itself or the one around it.  `kept` holds
the parts before in reverse. -/
def resolveParts (kept : List String) : List String → List String
  | [] => kept.reverse
  | ["."] => ("." :: kept).reverse
  | [".."] => ("" :: kept.drop 1).reverse
  | "." :: rest => resolveParts kept rest
  | ".." :: rest => resolveParts (kept.drop 1) rest
  | part :: rest => resolveParts (part :: kept) rest

/-- A path with its bytes decoded and its detours resolved. -/
def normalize (path : String) : String :=
  let rooted := if Text.startsWith path "/" then path else "/" ++ path
  let flat := String.ofList (dropDoubleSlashes (decode rooted).toList)
  "/" ++ Text.join "/" (resolveParts [] ((Text.split "/" flat).drop 1))

/-- Splits a text at the first of some characters, which stays with the second part. -/
def splitBefore (p : Char → Bool) (s : String) : String × String :=
  let cs := s.toList
  (String.ofList (cs.takeWhile fun c => !p c), String.ofList (cs.dropWhile fun c => !p c))

/-- The scheme, the host and the rest of an address.  Without two slashes there is no host. -/
def splitHost (address : String) : String × String × String :=
  match Text.cut "//" address with
  | none => ("http", "", address)
  | some (scheme, rest) =>
    if scheme.contains '/' then ("http", "", address)
    else
      let (host, tail) := splitBefore (fun c => c == '/' || c == '?' || c == '#') rest
      let scheme := if scheme.isEmpty then "http" else Text.withoutEnding scheme ":"
      (Text.lower scheme, host, if tail.isEmpty then "/" else tail)

/-- The parts of an address.  What follows a hash sign is never sent. -/
def read (address : String) : Address :=
  let (scheme, host, tail) := splitHost address
  let host := match Text.cut "@" host with
    | some (_, host) => host
    | none => host
  let sent := (splitBefore (· == '#') tail).1
  let (path, query) := match Text.cut "?" sent with
    | some (path, query) => (path, some query)
    | none => (sent, none)
  { scheme, host := Text.lower host, path := normalize path, query }

/-- The path and query as they are sent. -/
def target (address : Address) : String :=
  encodePath address.path ++ match address.query with
    | some query => if query.isEmpty then "" else "?" ++ query
    | none => ""

/-- The address that a redirection from `address` leads to. -/
def follow (address : Address) (location : String) : Address :=
  if Text.occursIn "://" location || Text.startsWith location "//" then read location
  else
    let there := read ("http://x" ++ if Text.startsWith location "/" then location
      else String.ofList (Text.dropRightWhile (· != '/') address.path.toList) ++ location)
    { there with scheme := address.scheme, host := address.host }

end Address

/-! ## Exchanges -/

/-- A request to a server. -/
structure Request where
  method : String
  host : String
  /-- The path and query asked for, as they are sent. -/
  target : String
  agent : String
  contentType : String := ""
  headers : List (String × String) := []
  body : String := ""
deriving Repr, DecidableEq

/-- The answer to a request. -/
structure Answer where
  status : Nat := 200
  location : Option String := none
  encoding : String := ""
  body : String := ""
deriving Repr, DecidableEq

/-- What answers requests, or fails to. -/
abbrev Network := Request → Except String Answer

namespace Network

/-- The network of a computer without a connection. -/
def offline : Network := fun request => .error ("dial tcp: lookup " ++ request.host ++ ": no such host")

end Network

/-- What later requests of a script carry: an agent name, a proxy and headers. -/
structure ClientSettings where
  agent : String := ""
  proxy : String := ""
  headers : List (String × String) := []
deriving Repr, DecidableEq

end BigScript
