import BigScript.Files.Tree
import BigScript.Verb.Table

/-!
# Key files and their places

A path that ends like a key file leads to a place, and to the same one whether the file there is read or
written.  A file that is not there yet, and one that is empty, count as key files without rows.  Putting
a key file at a place moves no other file: every path still leads to where it led.
-/

namespace BigScript

namespace Text

/-- The last character of a text is that of its ending. -/
theorem toList_of_endsWith {s ending : String} (ends : endsWith s ending = true) :
    ∃ front, s.toList = front ++ ending.toList := by
  rcases Option.isSome_iff_exists.mp ends with ⟨rest, found⟩
  have split := dropStart?_eq_some found
  refine ⟨rest.reverse, ?_⟩
  rw [← List.reverse_reverse s.toList, split, List.reverse_append, List.reverse_reverse]

end Text

namespace FileTree

variable {tree : FileTree} {path : String} {place other : FilePlace} {node : Node}

/-! ## Putting a node at a place -/

theorem find?_root (tree : FileTree) : tree.find? [] = some .folder := rfl

theorem lookup_replaced (entries : List (FilePlace × Node)) (place other : FilePlace) (node : Node) :
    (entries.map fun entry => if entry.1 == place then (place, node) else entry).lookup other =
      if other = place then (entries.lookup place).map fun _ => node else entries.lookup other := by
  induction entries with
  | nil => split <;> rfl
  | cons entry entries ih =>
    rcases entry with ⟨name, old⟩
    rw [List.map_cons, List.lookup_cons, List.lookup_cons]
    by_cases here : name = place
    · subst here
      rw [if_pos (beq_self_eq_true name), List.lookup_cons, ih, beq_self_eq_true]
      by_cases same : other = name
      · rw [if_pos same, if_pos same, same, beq_self_eq_true]
        rfl
      · rw [if_neg same, if_neg same, beq_eq_false_iff_ne.mpr same]
    · rw [if_neg (beq_eq_false_iff_ne.mpr here ▸ Bool.false_ne_true), List.lookup_cons, ih]
      by_cases same : other = place
      · rw [if_pos same, if_pos same, same, beq_eq_false_iff_ne.mpr (Ne.symm here)]
      · rw [if_neg same, if_neg same]

theorem find?_put (named : place ≠ []) :
    (tree.put place node).find? other = if other = place then some node else tree.find? other := by
  by_cases root : other = []
  · rw [root, if_neg (Ne.symm named)]
    rfl
  have inside (tree : FileTree) : tree.find? other = tree.entries.lookup other :=
    if_neg (by rwa [List.isEmpty_iff])
  rw [inside, inside]
  unfold put
  split
  · next there =>
    have found : (tree.entries.lookup place).isSome = true := by
      rcases List.any_eq_true.mp there with ⟨entry, member, same⟩
      exact List.lookup_isSome_iff.mpr ⟨entry, member, beq_of_eq (eq_of_beq same).symm⟩
    rcases Option.isSome_iff_exists.mp found with ⟨old, found⟩
    rw [lookup_replaced, found, Option.map_some]
  · next absent =>
    have missing : tree.entries.lookup place = none := by
      refine List.lookup_eq_none_iff.mpr fun entry member => bne_iff_ne.mpr fun same => ?_
      exact absent (List.any_eq_true.mpr ⟨entry, member, beq_of_eq same.symm⟩)
    rw [List.lookup_append, List.lookup_cons]
    by_cases same : other = place
    · rw [if_pos same, same, missing, beq_self_eq_true, Option.none_or]
    · rw [if_neg same, beq_eq_false_iff_ne.mpr same, List.lookup_nil, Option.or_none]

/-- A path leads to the same place after a file has been put where no folder stands. -/
theorem walk_put (named : place ≠ []) (noFolder : tree.find? place ≠ some .folder) {content : Content}
    {parts : List String} {start stop : FilePlace} (led : tree.walk start parts = .ok stop) :
    (tree.put place (.file content)).walk start parts = .ok stop := by
  induction parts generalizing start with
  | nil => exact led
  | cons part parts ih =>
    unfold walk at led ⊢
    cases there : tree.find? start with
    | none =>
      rw [there] at led
      cases led
    | some node =>
      cases node with
      | file _ =>
        rw [there] at led
        cases led
      | folder =>
        have apart : start ≠ place := fun same => noFolder (same ▸ there)
        rw [there] at led
        rw [find?_put named, if_neg apart, there]
        dsimp only at led ⊢
        split at led
        · next skipped => rw [if_pos skipped]; exact ih led
        · next shown =>
          rw [if_neg shown]
          split at led
          · next up =>
            rw [if_pos up]
            split at led
            · cases led
            · next inside => rw [if_neg inside]; exact ih led
          · next down => rw [if_neg down]; exact ih led

theorem locate_put (named : place ≠ []) (noFolder : tree.find? place ≠ some .folder) {content : Content}
    (led : tree.locate path = .ok other) :
    (tree.put place (.file content)).locate path = .ok other := by
  unfold locate at led ⊢
  split at led
  · cases led
  · next inside => rw [if_neg inside]; exact walk_put named noFolder led

/-! ## Key files -/

/-- The rows at a place.  A file that is not there yet holds none, and neither does an empty one. -/
def keysAt? (tree : FileTree) (place : FilePlace) : Option Ledger :=
  match tree.find? place with
  | none => some {}
  | some (.file (.text "")) => some {}
  | some (.file (.ledger ledger)) => some ledger
  | _ => none

/-- The tree after the key file at a place was opened: one that holds nothing is made. -/
def openedKeys (tree : FileTree) (place : FilePlace) : FileTree :=
  match tree.find? place with
  | some (.file (.ledger _)) => tree
  | _ => tree.put place (.file (.ledger {}))

/-- A path of a key file that leads to a place. -/
structure KeyPath (tree : FileTree) (path : String) (place : FilePlace) : Prop where
  ending : Text.endsWith path Verb.keyFileEnding = true
  leads : tree.locate path = .ok place

section Keys

variable {ledger : Ledger} (keys : tree.keysAt? place = some ledger)
include keys

theorem no_folder : tree.find? place ≠ some .folder := by
  intro folder
  rw [keysAt?, folder] at keys
  cases keys

theorem place_ne_nil : place ≠ [] := by
  rintro rfl
  exact no_folder keys tree.find?_root

end Keys

theorem KeyPath.ends {tree : FileTree} {path : String} {place : FilePlace}
    (leads : tree.KeyPath path place) : unslashed path = path ∧ Text.endsWith path "/" = false := by
  rcases Text.toList_of_endsWith leads.ending with ⟨front, text⟩
  have last : path.toList.reverse = 'g' :: 'i' :: 'b' :: 'd' :: '.' :: front.reverse := by
    rw [text, List.reverse_append]
    rfl
  constructor
  · have kept : Text.dropRightWhile (· == '/') path.toList = path.toList := by
      rw [Text.dropRightWhile, last, List.dropWhile_cons_of_neg (by decide), ← last,
        List.reverse_reverse]
    rw [unslashed, kept, String.ofList_toList]
  · rw [Text.endsWith, last]
    rfl

/-- A key file is written where its path leads. -/
theorem KeyPath.write {ledger : Ledger} (leads : tree.KeyPath path place)
    (keys : tree.keysAt? place = some ledger) (content : Content) :
    tree.write path content = .ok (tree.put place (.file content)) := by
  have noFolder := no_folder keys
  have writable : tree.writable path = .ok place := by
    unfold FileTree.writable
    rw [leads.ends.1, leads.leads]
    change (if Text.endsWith path "/" = true then _ else _) = _
    rw [leads.ends.2, if_neg Bool.false_ne_true]
    split
    · next folder => exact absurd folder noFolder
    · rfl
  rw [FileTree.write, writable]
  rfl

/-- What a key file holds is found where its path leads. -/
theorem KeyPath.content {ledger : Ledger} (leads : tree.KeyPath path place)
    (keys : tree.keysAt? place = some ledger) :
    tree.content path = match tree.find? place with
      | some (.file content) => .ok content
      | _ => .error .missing := by
  unfold FileTree.content lookup
  rw [leads.leads]
  rcases found : tree.find? place with _ | (_ | content)
  · simp only [bind, Except.bind, found]
  · exact absurd found (no_folder keys)
  · simp only [bind, Except.bind, found]

/-- A key file that was put at a place is found there. -/
theorem keysAt?_put (named : place ≠ []) (ledger : Ledger) :
    (tree.put place (.file (.ledger ledger))).keysAt? place = some ledger := by
  rw [keysAt?, find?_put named, if_pos rfl]

/-- Opening a key file changes nothing about it. -/
theorem keysAt?_opened {ledger : Ledger} (keys : tree.keysAt? place = some ledger) :
    (tree.openedKeys place).keysAt? place = some ledger := by
  have named := place_ne_nil keys
  have made : ledger = {} → (tree.put place (.file (.ledger {}))).keysAt? place = some ledger := by
    rintro rfl
    exact keysAt?_put named {}
  rw [openedKeys]
  split
  · exact keys
  · next other =>
    refine made ?_
    unfold keysAt? at keys
    split at keys
    · exact (Option.some.inj keys).symm
    · exact (Option.some.inj keys).symm
    · next found => exact absurd found (other _)
    · cases keys

theorem find?_opened {ledger : Ledger} (keys : tree.keysAt? place = some ledger) (apart : other ≠ place) :
    (tree.openedKeys place).find? other = tree.find? other := by
  rw [openedKeys]
  split
  · rfl
  · rw [find?_put (place_ne_nil keys), if_neg apart]

theorem locate_opened {ledger : Ledger} (keys : tree.keysAt? place = some ledger)
    (led : tree.locate path = .ok other) : (tree.openedKeys place).locate path = .ok other := by
  rw [openedKeys]
  split
  · exact led
  · exact locate_put (place_ne_nil keys) (no_folder keys) led

theorem KeyPath.opened {ledger : Ledger} (leads : tree.KeyPath path place)
    (keys : tree.keysAt? place = some ledger) : (tree.openedKeys place).KeyPath path place :=
  ⟨leads.ending, locate_opened keys leads.leads⟩

end FileTree
end BigScript
