import PersonRelations.Command.Invocation

/-!
# Snapshots of the disk

The program works on a file tree; the disk has to be looked at before and changed after. A snapshot
holds what the paths of a command line lead through, each step under its location in the tree.
Relative paths start so deep in the tree that none of them climbs to the root. A symbolic link is
seen as what it leads to.
-/

namespace PersonRelations.Command

/-- A step of a path: where it is in the tree, and the path that leads there on disk. -/
structure Sight where
  loc : Location
  path : Path
  deriving DecidableEq, Repr

namespace Snapshot

/-- The name of the directories above the working directory. No path can spell it as a step. -/
def above : Name := Path.dot

/-- The tree with nothing in it, for paths that climb at most `depth` directories. -/
def emptyTree (depth : Nat) : FileTree :=
  { workDir := List.replicate (depth + 1) above }

/-- How many directories a path can climb. -/
def climb (p : Path) : Nat :=
  p.names.count Path.dotDot

/-- The steps of a path, from the directory `here` on, which the path `done` leads to. -/
def sightsFrom (here : Location) (done : List Name) (absolute : Bool) : List Name → List Sight
  | [] => []
  | name :: rest =>
    let done := done ++ [name]
    if name = [] ∨ name = Path.dot then sightsFrom here done absolute rest
    else if name = Path.dotDot then sightsFrom here.dropLast done absolute rest
    else
      let here := here ++ [name]
      ⟨here, .ofComponents absolute done⟩ :: sightsFrom here done absolute rest

/-- The steps of a path. -/
def sights (t : FileTree) (p : Path) : List Sight :=
  sightsFrom (if p.isAbsolute then [] else t.workDir) [] p.isAbsolute
    (p.names.filter fun n ↦ !n.isEmpty)

/-- The steps of several paths, each place once. -/
def allSights (t : FileTree) (paths : List Path) : List Sight :=
  (paths.flatMap (sights t)).eraseDupsBy fun a b ↦ a.loc == b.loc

/-- What has to be done on disk for one step. -/
inductive Change where
  /-- Make a directory. -/
  | makeDir (path : Path)
  /-- Write a file. -/
  | writeFile (path : Path) (content : ByteArray)

/-- What has to be done for a step, given the trees before and after. -/
def change? (before after : FileTree) (s : Sight) : Option Change :=
  match before.get? s.loc, after.get? s.loc with
  | some .dir, some .dir => none
  | some (.file old), some (.file new) =>
    if old.data = new.data then none else some (.writeFile s.path new)
  | _, some .dir => some (.makeDir s.path)
  | _, some (.file content) => some (.writeFile s.path content)
  | _, _ => none

end Snapshot

/-- The paths that a run with these settings touches. -/
def Invocation.touched (x : Invocation) (s : Settings) : List Path :=
  x.input :: s.output.dir ::
    (Relation.all.map fun r ↦ s.output.dir.join r.name) ++ x.config?.toList ++ x.summary?.toList

end PersonRelations.Command
