import PersonRelations.Files.Operations
import PersonRelations.Gzip.Member
import PersonRelations.Input.LineReader

/-!
# Dumps

A dump is a gzip file. Opened, it is a source that gives the payload of one member after the other
and fails where the file is faulty. A directory can be opened too, but the first request fails.
-/

namespace PersonRelations

/-- The source that decoded data make. A member without payload gives nothing, not even an end
mark. -/
def Gzip.Decoded.source (d : Gzip.Decoded) : Source :=
  (d.payloads.filter fun p ↦ !p.isEmpty).map .chunk ++
    (d.fault?.map fun f ↦ Fill.failure (.gzip f)).toList

/-- The source of an entry that was opened. -/
def Entry.dumpSource (e : Entry) : Source :=
  match e.read with
  | .ok content => (Gzip.decodeFile content.data.toList).source
  | .error f => [.failure (.file f)]

/-- Opens the dump at a path. -/
def FileTree.openDump (t : FileTree) (p : Path) : Except Error Source :=
  match t.openRead p with
  | .ok entry => .ok entry.dumpSource
  | .error e => .error (.inputOpen p (.file e))

end PersonRelations
