import PersonRelations.Error

/-!
# File trees

A file tree is what a run finds and leaves on disk, as a value: entries at locations, a location
being the list of names from the root. An entry is a file with its content, a directory, a
symbolic link or one of two devices. The root is always a directory.

`FileTree.get?` is the view through which the operations are described:
`FileTree.get?_put_self` and `FileTree.get?_put_of_ne` say that placing an entry changes the
tree at its location only.
-/

namespace PersonRelations

/-- Where an entry is: the names that lead to it from the root. -/
abbrev Location := List Name

/-- A file that is not kept on disk. -/
inductive Device where
  /-- Takes everything and is empty. -/
  | null
  /-- Takes nothing and is full of zero bytes. -/
  | full
  deriving DecidableEq, Repr

/-- What can be at a location. -/
inductive Entry where
  | file (content : ByteArray)
  | dir
  | link (target : Path)
  | device (d : Device)

/-- The files that a program can see, and the directory in which it works. -/
structure FileTree where
  /-- The entries other than the root, each location once. -/
  entries : List (Location × Entry) := []
  /-- Where relative paths start. -/
  workDir : Location := []

namespace FileTree

/-- The entry at a location. -/
def get? (t : FileTree) (loc : Location) : Option Entry :=
  if loc = [] then some .dir else t.entries.lookup loc

/-- The tree with an entry placed at a location, in the place of what was there. -/
def put (t : FileTree) (loc : Location) (e : Entry) : FileTree :=
  { t with entries := (loc, e) :: t.entries.filter fun x ↦ x.1 != loc }

theorem get?_put_self (t : FileTree) {l : Location} (h : l ≠ []) (e : Entry) :
    (t.put l e).get? l = some e := by
  simp [get?, put, h]

theorem get?_put_of_ne (t : FileTree) {l m : Location} (h : m ≠ l) (e : Entry) :
    (t.put l e).get? m = t.get? m := by
  unfold get? put
  split
  · rfl
  · have hml : (m == l) = false := by simpa using h
    simp only [List.lookup_cons, hml]
    induction t.entries with
    | nil => rfl
    | cons x xs ih =>
      obtain ⟨k, v⟩ := x
      by_cases hk : k = l
      · subst hk
        simpa [List.filter_cons, List.lookup_cons, hml] using ih
      · by_cases hm : m = k
        · subst hm
          simp [hk]
        · have : (m == k) = false := by simpa using hm
          simpa [List.filter_cons, List.lookup_cons, hk, this] using ih

end FileTree

end PersonRelations
