import BigScript.Text.Casing

/-!
# Bindings

Names bound to values.  A name is looked up as it is spelled and then in lower case, so a variable
written in lower case is found under every spelling.
-/

namespace BigScript

/-- Names with their values, each name once. -/
structure Bindings where
  entries : List (String × String) := []
deriving DecidableEq, Repr

namespace Bindings

/-- The value of an exact name in a list of pairs. -/
def valueIn (name : String) : List (String × String) → Option String
  | [] => none
  | (other, value) :: rest => if other == name then some value else valueIn name rest

/-- A list of pairs with a name set to a value. -/
def setIn (name value : String) : List (String × String) → List (String × String)
  | [] => [(name, value)]
  | (other, old) :: rest =>
    if other == name then (name, value) :: rest else (other, old) :: setIn name value rest

/-- The value of a name exactly as it is spelled. -/
def valueOf? (vars : Bindings) (name : String) : Option String := valueIn name vars.entries

/-- The value of a name as it is spelled, or else in lower case. -/
def find? (vars : Bindings) (name : String) : Option String :=
  (vars.valueOf? name).or (vars.valueOf? (Text.lower name))

/-- The bindings with a name set to a value. -/
def set (vars : Bindings) (name value : String) : Bindings :=
  { entries := setIn name value vars.entries }

/-- The bindings without a name. -/
def erase (vars : Bindings) (name : String) : Bindings :=
  { entries := vars.entries.filter (·.1 != name) }

/-- Bindings from pairs, where a later pair replaces an earlier one. -/
def ofList (pairs : List (String × String)) : Bindings :=
  pairs.foldl (fun vars (name, value) => vars.set name value) {}

private theorem valueIn_setIn_self (name value : String) (entries : List (String × String)) :
    valueIn name (setIn name value entries) = some value := by
  induction entries with
  | nil => simp [setIn, valueIn]
  | cons entry rest ih =>
      obtain ⟨other, old⟩ := entry
      by_cases same : other = name
      · simp [setIn, valueIn, same]
      · simp [setIn, valueIn, same, ih]

private theorem valueIn_setIn_of_ne {name other : String} (different : other ≠ name)
    (value : String) (entries : List (String × String)) :
    valueIn other (setIn name value entries) = valueIn other entries := by
  induction entries with
  | nil => simp [setIn, valueIn, different.symm]
  | cons entry rest ih =>
      obtain ⟨third, old⟩ := entry
      by_cases same : third = name
      · subst same
        simp [setIn, valueIn, different.symm]
      · by_cases found : third = other
        · subst found
          simp [setIn, valueIn, same]
        · simp [setIn, valueIn, same, found, ih]

/-- A name that was set has its new value. -/
@[simp] theorem valueOf?_set_self (vars : Bindings) (name value : String) :
    (vars.set name value).valueOf? name = some value :=
  valueIn_setIn_self name value vars.entries

/-- Setting a name leaves every other name alone. -/
theorem valueOf?_set_of_ne (vars : Bindings) {name other : String} (different : other ≠ name)
    (value : String) : (vars.set name value).valueOf? other = vars.valueOf? other :=
  valueIn_setIn_of_ne different value vars.entries

/-- A name that was set is found under its own spelling. -/
@[simp] theorem find?_set_self (vars : Bindings) (name value : String) :
    (vars.set name value).find? name = some value := by
  simp [find?]

end Bindings
end BigScript
