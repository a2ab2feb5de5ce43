import PersonRelations.Files.FileTree

/-!
# Finding the place of a path

`FileTree.locate` follows the steps of a path through a tree. A step needs a directory to stand
in; a symbolic link met on the way is replaced by its target, forty times at most; a link at the
end is followed only on request. The result is a `Place`: an entry that exists, or a vacant name in
a directory that exists. A separator at the end of a path asks for a directory and is noted.
-/

namespace PersonRelations

/-- Where a path leads. -/
inductive Place where
  /-- To an entry. -/
  | occupied (loc : Location) (entry : Entry) (slash : Bool)
  /-- To a name that is free in the directory. -/
  | vacant (dir : Location) (name : Name) (slash : Bool)

namespace FileTree

/-- How many symbolic links a path may lead through. -/
def maxLinks : Nat := 40

/-- The longest name. -/
def maxName : Nat := 255

/-- The length that a path has to stay below. -/
def pathLimit : Nat := 4096

/-- Follows `steps` from the directory `here`, through at most `links` symbolic links; `follow`
says whether a link at the end is followed too. -/
def walk (t : FileTree) (follow : Bool) (links : Nat) (here : Location) (steps : List Name) :
    Except FileError Place :=
  match steps with
  | [] => .ok (.occupied here .dir false)
  | name :: rest =>
    if name = [] ∨ name = Path.dot then walk t follow links here rest
    else if name = Path.dotDot then walk t follow links here.dropLast rest
    else if maxName < name.length then .error .nameTooLong
    else
      let last := rest.all (·.isEmpty)
      let slash := !rest.isEmpty
      match t.get? (here ++ [name]) with
      | none => if last then .ok (.vacant here name slash) else .error .notFound
      | some .dir => walk t follow links (here ++ [name]) rest
      | some (.link target) =>
        if rest.isEmpty && !follow then .ok (.occupied (here ++ [name]) (.link target) false)
        else
          match links with
          | 0 => .error .tooManyLinks
          | n + 1 =>
            walk t follow n (if target.isAbsolute then [] else here) (target.names ++ rest)
      | some entry =>
        if last then .ok (.occupied (here ++ [name]) entry slash) else .error .notDirectory
termination_by (links, steps.length)

/-- The place of steps that belong to the path `p`. -/
def locateSteps (t : FileTree) (p : Path) (follow : Bool) (steps : List Name) :
    Except FileError Place :=
  if (0 : UInt8) ∈ p.bytes then .error .zeroByte
  else if p.isEmpty then .error .notFound
  else if pathLimit ≤ p.bytes.length then .error .nameTooLong
  else t.walk follow maxLinks (if p.isAbsolute then [] else t.workDir) steps

/-- The place of a path, links followed to the end. -/
def locate (t : FileTree) (p : Path) : Except FileError Place :=
  t.locateSteps p true p.names

/-- The place that a new directory at the path would take: a link at the end is not followed,
and a separator at the end makes no difference. -/
def locateNew (t : FileTree) (p : Path) : Except FileError Place :=
  t.locateSteps p false (p.names.filter fun n ↦ !n.isEmpty)

end FileTree

end PersonRelations
