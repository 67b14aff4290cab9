import BigScript.Files.Path

/-!
# Types of files

The type a file is sent with: by the ending of its name where that is known, or else by the way its
content begins.
-/

namespace BigScript
namespace Service
namespace FileType

/-- The types of known endings. -/
def byEnding : List (String × String) :=
  [(".avif", "image/avif"), (".css", "text/css; charset=utf-8"), (".gif", "image/gif"),
   (".htm", "text/html; charset=utf-8"), (".html", "text/html; charset=utf-8"),
   (".jpeg", "image/jpeg"), (".jpg", "image/jpeg"), (".js", "text/javascript; charset=utf-8"),
   (".json", "application/json"), (".mjs", "text/javascript; charset=utf-8"),
   (".pdf", "application/pdf"), (".png", "image/png"), (".svg", "image/svg+xml"),
   (".wasm", "application/wasm"), (".webp", "image/webp"), (".xml", "text/xml; charset=utf-8")]

/-- The starts of pages, each of which ends with a blank or a closing bracket. -/
def pageStarts : List String :=
  ["<!DOCTYPE HTML", "<HTML", "<HEAD", "<SCRIPT", "<IFRAME", "<H1", "<DIV", "<FONT", "<TABLE", "<A",
   "<STYLE", "<TITLE", "<B", "<BODY", "<BR", "<P", "<!--"]

/-- Blanks before the content of a page. -/
def isBlank (c : Char) : Bool := c == '\t' || c == '\n' || c == '\x0c' || c == '\r' || c == ' '

/-- Whether a text begins like a page. -/
def startsPage (content : List Char) : Bool :=
  let upper := content.map Char.toUpper
  pageStarts.any fun start =>
    match Text.dropStart? start.toList upper with
    | some (c :: _) => c == ' ' || c == '>'
    | _ => false

/-- Characters that plain text does not contain. -/
def isBinary (c : Char) : Bool :=
  let code := c.toNat
  code ≤ 8 || code == 11 || (14 ≤ code && code ≤ 26) || (28 ≤ code && code ≤ 31)

/-- The type of a content. -/
def ofContent (content : String) : String :=
  let start := content.toList.take 512
  let shown := start.dropWhile isBlank
  if startsPage shown then "text/html; charset=utf-8"
  else if (Text.dropStart? "<?xml".toList shown).isSome then "text/xml; charset=utf-8"
  else if (Text.dropStart? "%PDF-".toList start).isSome then "application/pdf"
  else if (Text.dropStart? "%!PS-Adobe-".toList start).isSome then "application/postscript"
  else if start.any isBinary then "application/octet-stream"
  else "text/plain; charset=utf-8"

/-- The type of a file. -/
def ofFile (path content : String) : String :=
  let ending := Path.extension path
  match byEnding.lookup ending with
  | some type => type
  | none =>
    match byEnding.lookup (Text.lower ending) with
    | some type => type
    | none => ofContent content

end FileType
end Service
end BigScript
