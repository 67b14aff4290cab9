import BigScript.Text.Basic

/-!
# Paths

Paths are texts with parts divided by slashes.  The functions here change a path without looking
at any file.
-/

namespace BigScript
namespace Path

/-- Whether a path starts at the root of the file system. -/
def isAbsolute (path : String) : Bool := Text.startsWith path "/"

/-- The parts of a path. -/
def parts (path : String) : List String := Text.split "/" path

/-- Removes parts that name the folder they stand in, and each part that names the enclosing folder
together with the part before it.  `kept` holds the parts kept so far in reverse. -/
def cleanParts (absolute : Bool) (kept : List String) : List String → List String
  | [] => kept.reverse
  | part :: rest =>
    if part == "" || part == "." then cleanParts absolute kept rest
    else if part == ".." then
      match kept with
      | last :: before =>
        if last == ".." then cleanParts absolute (".." :: kept) rest
        else cleanParts absolute before rest
      | [] => cleanParts absolute (if absolute then [] else [".."]) rest
    else cleanParts absolute (part :: kept) rest

/-- The shortest path that leads to the same place; the empty path becomes a dot. -/
def clean (path : String) : String :=
  let absolute := isAbsolute path
  let body := Text.join "/" (cleanParts absolute [] (parts path))
  if absolute then "/" ++ body
  else if body.isEmpty then "."
  else body

/-- Two paths joined by a slash and cleaned; an empty one is left out. -/
def join (first second : String) : String :=
  if first.isEmpty && second.isEmpty then ""
  else if first.isEmpty then clean second
  else if second.isEmpty then clean first
  else clean (first ++ "/" ++ second)

/-- The last part of a path, without slashes at the end. -/
def base (path : String) : String :=
  if path.isEmpty then "."
  else
    let trimmed := Text.dropRightWhile (· == '/') path.toList
    if trimmed.isEmpty then "/"
    else String.ofList (trimmed.reverse.takeWhile (· != '/')).reverse

/-- The ending of the last part of a path from its last dot on, or nothing. -/
def extension (path : String) : String :=
  let last := path.toList.reverse.takeWhile (· != '/')
  if last.contains '.' then String.ofList ('.' :: (last.takeWhile (· != '.')).reverse) else ""

/-- The path without its last part, cleaned. -/
def folder (path : String) : String :=
  clean (String.ofList (path.toList.reverse.dropWhile (· != '/')).reverse)

end Path
end BigScript
