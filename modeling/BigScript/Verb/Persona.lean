import BigScript.Machine.Luck
import BigScript.Statement.Basic

/-!
# Made-up data

`get luck` draws numbers, names, addresses and identifiers for trying things out.
-/

namespace BigScript
namespace Persona

/-- First names. -/
def firstNames : List String :=
  ["James", "Mary", "John", "Patricia", "Robert", "Jennifer", "Michael", "Linda", "William",
   "Elizabeth", "David", "Barbara", "Richard", "Susan", "Joseph", "Jessica", "Thomas", "Sarah",
   "Charles", "Karen", "Daniel", "Lisa", "Matthew", "Nancy", "Anthony", "Betty", "Mark", "Sandra",
   "Steven", "Emily"]

/-- Last names. -/
def lastNames : List String :=
  ["Smith", "Johnson", "Williams", "Brown", "Jones", "Garcia", "Miller", "Davis", "Rodriguez",
   "Martinez", "Hernandez", "Lopez", "Gonzalez", "Wilson", "Anderson", "Thomas", "Taylor", "Moore",
   "Jackson", "Martin", "Lee", "Perez", "Thompson", "White", "Harris", "Sanchez", "Clark",
   "Ramirez", "Lewis", "Robinson"]

/-- Postal codes. -/
def postalCodes : List String :=
  ["90001", "90011", "90026", "90027", "90028", "90029", "90036", "90038", "90045", "90048"]

/-- Streets. -/
def streets : List String :=
  ["AlamedaStreet", "AdamsBoulevard", "BeverlyBoulevard", "Broadway", "CentralAvenue",
   "FairfaxAvenue", "FigueroaStreet", "GrandAvenue", "HighlandAvenue", "LincolnBoulevard",
   "MelroseAvenue", "MulhollandDrive", "OlympicBoulevard", "PicoBoulevard", "SunsetBoulevard",
   "VenturaBoulevard", "WilshireBoulevard"]

/-- Names of browsers. -/
def browsers : List String :=
  ["Mozilla/5.0 (Windows NT 10.0; Win64; x64) AppleWebKit/537.36 (KHTML, like Gecko) Chrome/136.0.0.0 Safari/537.36",
   "Mozilla/5.0 (Windows NT 10.0; Win64; x64; rv:139.0) Gecko/20100101 Firefox/139.0",
   "Mozilla/5.0 (Linux; Android 14; Pixel 7 Pro) AppleWebKit/537.36 (KHTML, like Gecko) Chrome/136.0.7103.60 Mobile Safari/537.36",
   "Mozilla/5.0 (Android 14; Mobile; rv:138.0) Gecko/138.0 Firefox/138.0",
   "Mozilla/5.0 (Linux; Android 14; SM-G998B) AppleWebKit/537.36 (KHTML, like Gecko) Chrome/136.0.7103.60 Mobile Safari/537.36 SamsungBrowser/23.0"]

/-- Hosts of mail addresses. -/
def mailHosts : List String := ["gmail", "hotmail", "outlook"]

/-- A whole number of 64 bits written in a text, or a number in its place. -/
def bound (text : String) (otherwise : Int64) : Int64 :=
  ((Number.parseInt? (Text.trim text)).map Int64.ofInt).getD otherwise

/-- Draws a whole number between two bounds, in whichever order they are given.  Everything is counted
in 64 bits, so that there are no choices where there are too many to be counted. -/
def numberBetween? (source : Luck.Source) (first second : Int64) : Option Int64 :=
  let (low, high) := if second < first then (second, first) else (first, second)
  (source.draw (high - low + 1)).map (low + ·)

/-- Draws a number between two bounds that are written in texts. -/
def numberText? (source : Luck.Source) (first second : String) : Option String :=
  (numberBetween? source (bound first 0) (bound second 100)).map fun number =>
    Number.intText number.toInt

/-- Draws a mail address for a name. -/
def mailFor (first last : String) : Act String := do
  let short ← Luck.below 2
  let digits := if short == 0 then 4 else 2
  let number := Text.padLeft digits '0' (Number.digitText (← Luck.below (Number.tenTo digits)))
  let both ← Luck.below 2
  let name := if both == 0 then Text.lower first ++ Text.lower last else Text.lower first
  return name ++ number ++ "@" ++ (← Luck.pick mailHosts) ++ ".com"

/-- Draws a number of hexadecimal digits. -/
def hexDigits : Nat → Act String
  | 0 => return ""
  | n + 1 => do
    let digit ← Luck.below 16
    return Text.hexDigits 1 digit ++ (← hexDigits n)

/-- Draws a random identifier of version four. -/
def identifier : Act String := do
  let first ← hexDigits 8
  let second ← hexDigits 4
  let third ← hexDigits 3
  let variant ← Luck.pick ["8", "9", "a", "b"]
  let fourth ← hexDigits 3
  let fifth ← hexDigits 12
  return first ++ "-" ++ second ++ "-4" ++ third ++ "-" ++ variant ++ fourth ++ "-" ++ fifth

end Persona

namespace Verb

/-- Binds the number that a source has answered with.  Without an answer the program dies. -/
def bindNumber (toks : TokenStream) (last : Nat) : Option String → Act Nat
  | some number => Statement.finish toks last [number]
  | none => do
    modify Machine.crash
    return last

/-- Binds a number between two bounds, of which the first stands behind index `k`. -/
def getNumber (toks : TokenStream) (k : Nat) : Act Nat := do
  let (low, last) ← Operand.text toks (k + 1)
  let next := if (toks.peek (last + 1)).isWord .to then last + 2 else last + 1
  let (high, last) ← Operand.text toks next
  Luck.advance
  bindNumber toks last (Persona.numberText? (Luck.source (← get).luck) low high)

/-- Binds made-up data; the word for what is drawn stands behind index `i`. -/
def getLuck (toks : TokenStream) (start i : Nat) : Act Nat := do
  let k := i + 1
  match Text.lower (toks.peek k).rawName with
  | "random" | "number" => getNumber toks k
  | "name" =>
    let first ← Luck.pick Persona.firstNames
    Statement.finish toks k [first, ← Luck.pick Persona.lastNames]
  | "first" => Statement.finish toks k [← Luck.pick Persona.firstNames]
  | "last" => Statement.finish toks k [← Luck.pick Persona.lastNames]
  | "zip" => Statement.finish toks k [← Luck.pick Persona.postalCodes]
  | "street" => Statement.finish toks k [← Luck.pick Persona.streets]
  | "ua" => Statement.finish toks k [← Luck.pick Persona.browsers]
  | "email" =>
    let first ← Luck.pick Persona.firstNames
    let last ← Luck.pick Persona.lastNames
    Statement.finish toks k [← Persona.mailFor first last]
  | "uuid" => Statement.finish toks k [← Persona.identifier]
  | _ => Statement.abandon toks start

end Verb
end BigScript
