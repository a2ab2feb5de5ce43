import PersonRelations.Event
import PersonRelations.Files.Operations
import PersonRelations.Output.Sink
import PersonRelations.Relation.Table

/-!
# Relation files

The output of a run: in one directory, a file for each relation, into which its records go as rows
of two columns. All files are opened, in table order, before anything is written, so that an
unusable directory is found at once; opening empties a file.

A `BufferedFile` is a file open for writing with a buffer before it. Data are collected in the
buffer and go to the file when it would run over; a piece as large as the buffer goes to the file
directly, behind what the buffer held. What is refused by the file stays in the buffer.

`RelationFiles` carries the tree in which the files are, and is a sink. `RelationFiles.finish`
flushes every file and reports each failure, the first of them being the result;
`RelationFiles.close` flushes what it can and says nothing, which is what becomes of the files
when a run is given up.
-/

namespace PersonRelations

/-! ### Buffered files -/

/-- An open file and what is still to be written to it. -/
structure BufferedFile where
  handle : Handle
  buffer : ByteArray := .empty

namespace BufferedFile

/-- The size of the buffer. -/
def capacity : Nat := 8192

/-- Empties the buffer into the file. -/
def flush (t : FileTree) (f : BufferedFile) : FileTree × BufferedFile × Option FileError :=
  match t.write f.handle f.buffer with
  | .ok (t, h) => (t, ⟨h, .empty⟩, none)
  | .error e => (t, f, some e)

/-- Makes room for a piece of the given size, by a flush if there is too little. -/
def makeRoom (t : FileTree) (f : BufferedFile) (size : Nat) :
    FileTree × BufferedFile × Option FileError :=
  if capacity < f.buffer.size + size then f.flush t else (t, f, none)

/-- Writes one piece. -/
def write (t : FileTree) (f : BufferedFile) (piece : ByteArray) :
    FileTree × BufferedFile × Option FileError :=
  match f.makeRoom t piece.size with
  | (t, f, some e) => (t, f, some e)
  | (t, f, none) =>
    if capacity ≤ piece.size then
      match t.write f.handle piece with
      | .ok (t, h) => (t, { f with handle := h }, none)
      | .error e => (t, f, some e)
    else (t, { f with buffer := f.buffer ++ piece }, none)

/-- Writes pieces in turn, up to the first that is refused. -/
def writeAll (t : FileTree) (f : BufferedFile) :
    List ByteArray → FileTree × BufferedFile × Option FileError
  | [] => (t, f, none)
  | piece :: pieces =>
    match f.write t piece with
    | (t, f, some e) => (t, f, some e)
    | (t, f, none) => writeAll t f pieces

end BufferedFile

/-! ### The files of a directory -/

/-- The open relation files of a directory, and the tree they are in. -/
structure RelationFiles where
  /-- The directory, as it was given. -/
  dir : Path
  tree : FileTree
  files : Relation.Table BufferedFile

/-- What the attempt to open relation files comes to. -/
inductive Opening where
  /-- All are open. -/
  | opened (files : RelationFiles)
  /-- The attempt failed and has left the tree so. -/
  | refused (error : Error) (tree : FileTree)

namespace Opening

/-- The tree after the attempt. -/
def tree : Opening → FileTree
  | opened files => files.tree
  | refused _ t => t

/-- What the attempt reports. -/
def events : Opening → List Event
  | opened files => [.filesOpened files.dir]
  | refused _ _ => []

end Opening

namespace RelationFiles

/-- The table before any file is open. -/
def noFiles : Relation.Table BufferedFile :=
  .replicate ⟨.device .null, .empty⟩

/-- Opens the files of the given relations, up to the first that is refused. Gives the tree as far
as it got. -/
def openAll (dir : Path) (t : FileTree) (files : Relation.Table BufferedFile) :
    List Relation → FileTree × Except Error (Relation.Table BufferedFile)
  | [] => (t, .ok files)
  | r :: rs =>
    let path := dir.join r.name
    match t.create path with
    | .error e => (t, .error (.outputOpen path (.file e)))
    | .ok (t, h) => openAll dir t (files.set r ⟨h, .empty⟩) rs

/-- Opens all relation files in a directory that exists. -/
def create (t : FileTree) (dir : Path) : Opening :=
  if t.isDir dir then
    match openAll dir t noFiles Relation.all with
    | (t, .error e) => .refused e t
    | (t, .ok files) => .opened ⟨dir, t, files⟩
  else .refused (.outputDirMissing dir) t

/-- Opens all relation files in a directory, which is made first if it is missing and may be. -/
def createIn (t : FileTree) (dir : Path) (makeDir : Bool) : Opening :=
  if makeDir && !t.isDir dir then
    match t.makeDirs dir with
    | (t, some e) => .refused (.outputOpen dir (.file e)) t
    | (t, none) => create t dir
  else create t dir

/-- The pieces in which a record is written. -/
def pieces (r : Record) : List ByteArray :=
  [r.subject.toUTF8, "\t".toUTF8, r.object.toUTF8, "\n".toUTF8]

/-- Writes a record to its relation's file. -/
def write (x : RelationFiles) (r : Record) : RelationFiles × Option Error :=
  let (t, f, e) := (x.files.get r.relation).writeAll x.tree (pieces r)
  ({ x with tree := t, files := x.files.set r.relation f },
    e.map fun e ↦ .outputWrite r.relation (.file e))

instance : Sink RelationFiles where
  write := write

/-- Flushes the file of one relation. -/
def flush (x : RelationFiles) (r : Relation) : RelationFiles × Option FileError :=
  let (t, f, e) := (x.files.get r).flush x.tree
  ({ x with tree := t, files := x.files.set r f }, e)

/-- Flushes the files of the given relations. Gives the failures, in order. -/
def flushAll (x : RelationFiles) : List Relation → RelationFiles × List (Relation × FileError)
  | [] => (x, [])
  | r :: rs =>
    let (x, e) := x.flush r
    let (x, failures) := x.flushAll rs
    (x, (e.map fun e ↦ (r, e)).toList ++ failures)

/-- Flushes all files and closes them. Each failure is reported; the first is the result. -/
def finish (x : RelationFiles) : FileTree × List Event × Option Error :=
  let (x, failures) := x.flushAll Relation.all
  (x.tree, failures.map fun (r, e) ↦ .flushFailed r (.file e),
    failures.head?.map fun (r, e) ↦ .outputWrite r (.file e))

/-- Gives the files up: what can be flushed is. -/
def close (x : RelationFiles) : FileTree :=
  (x.flushAll Relation.all).1.tree

end RelationFiles

end PersonRelations
