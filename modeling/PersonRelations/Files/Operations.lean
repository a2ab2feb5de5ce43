import PersonRelations.Files.Resolve

/-!
# Operations on a file tree

Opening for reading, creating, writing at an open file's position, and making directories. Each
gives the tree after it or the reason for which it was refused; a refused operation changes
nothing.
-/

namespace PersonRelations

/-- A file open for writing. -/
inductive Handle where
  /-- A file in the tree, and the position of the next byte. -/
  | file (loc : Location) (offset : Nat)
  /-- A device. -/
  | device (d : Device)
  deriving DecidableEq, Repr

namespace Entry

/-- What reading an open entry gives. The full device has no end of zero bytes; as many are
given as can matter to a reader that looks for a header. -/
def read : Entry → Except FileError ByteArray
  | file content => .ok content
  | device .null => .ok .empty
  | device .full => .ok (List.replicate FileTree.pathLimit 0).toByteArray
  | dir => .error .isDirectory
  | link _ => .error .tooManyLinks

end Entry

/-- The content with `data` laid over it from `offset` on; a gap before it is filled with zero
bytes. -/
def overwrite (content : ByteArray) (offset : Nat) (data : ByteArray) : ByteArray :=
  content.extract 0 offset ++ (List.replicate (offset - content.size) 0).toByteArray ++ data ++
    content.extract (offset + data.size) content.size

theorem overwrite_size (content data : ByteArray) :
    overwrite content content.size data = content ++ data := by
  have h : content.extract (content.size + data.size) content.size = ByteArray.empty := by
    rw [ByteArray.extract_eq_empty_iff]
    omega
  simp [overwrite, h]

namespace FileTree

/-- Whether the path leads to a directory. -/
def isDir (t : FileTree) (p : Path) : Bool :=
  match t.locate p with
  | .ok (.occupied _ .dir _) => true
  | _ => false

/-- The entry that reading from the path would read. -/
def openRead (t : FileTree) (p : Path) : Except FileError Entry :=
  match t.locate p with
  | .error e => .error e
  | .ok (.vacant _ _ _) => .error .notFound
  | .ok (.occupied _ .dir _) => .ok .dir
  | .ok (.occupied _ entry slash) => if slash then .error .notDirectory else .ok entry

/-- Opens the path for writing from the start: a new file is made, an old one emptied. -/
def create (t : FileTree) (p : Path) : Except FileError (FileTree × Handle) :=
  match t.locate p with
  | .error e => .error e
  | .ok (.vacant dir name slash) =>
    if slash then .error .isDirectory
    else .ok (t.put (dir ++ [name]) (.file .empty), .file (dir ++ [name]) 0)
  | .ok (.occupied loc entry slash) =>
    if slash then .error .isDirectory
    else
      match entry with
      | .file _ => .ok (t.put loc (.file .empty), .file loc 0)
      | .device d => .ok (t, .device d)
      | .dir => .error .isDirectory
      | .link _ => .error .tooManyLinks

/-- The content of the file at a location; nothing where there is no file. -/
def content (t : FileTree) (loc : Location) : ByteArray :=
  match t.get? loc with
  | some (.file c) => c
  | _ => .empty

/-- Writes data to an open file, which moves its position behind them. No data is always
written. -/
def write (t : FileTree) (h : Handle) (data : ByteArray) : Except FileError (FileTree × Handle) :=
  if data.isEmpty then .ok (t, h)
  else
    match h with
    | .file loc offset =>
      .ok (t.put loc (.file (overwrite (t.content loc) offset data)),
        .file loc (offset + data.size))
    | .device .null => .ok (t, h)
    | .device .full => .error .noSpace

/-- Makes the content of the file at the path the given one. A file may have been emptied when
the data are refused. -/
def writeFile (t : FileTree) (p : Path) (data : ByteArray) : FileTree × Option FileError :=
  match t.create p with
  | .error e => (t, some e)
  | .ok (t, h) =>
    match t.write h data with
    | .error e => (t, some e)
    | .ok (t, _) => (t, none)

/-- Makes one directory in a directory that exists. -/
def makeDir (t : FileTree) (p : Path) : Except FileError FileTree :=
  match t.locateNew p with
  | .error e => .error e
  | .ok (.occupied _ _ _) => .error .alreadyExists
  | .ok (.vacant dir name _) => .ok (t.put (dir ++ [name]) .dir)

/-- Makes the first of the paths a directory, after the ones behind it if they are missing. The
empty path needs nothing, and a directory that exists is as good as made. Gives the tree as far
as it got, also when it failed. -/
def makeDirsAt (t : FileTree) : List Path → FileTree × Option FileError
  | [] => (t, some .notFound)
  | p :: parents =>
    if p.isEmpty then (t, none)
    else
      match t.makeDir p with
      | .ok t => (t, none)
      | .error .notFound =>
        match t.makeDirsAt parents with
        | (t, some e) => (t, some e)
        | (t, none) =>
          match t.makeDir p with
          | .ok t => (t, none)
          | .error e => (t, if t.isDir p then none else some e)
      | .error e => (t, if t.isDir p then none else some e)

/-- Makes the directory at the path and those that lead to it. -/
def makeDirs (t : FileTree) (p : Path) : FileTree × Option FileError :=
  t.makeDirsAt p.ancestors

end FileTree

end PersonRelations
