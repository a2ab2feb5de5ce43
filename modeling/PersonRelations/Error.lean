import PersonRelations.Files.Path
import PersonRelations.Relation

/-!
# Errors of a run

`Fault` is why a single read or write failed: a file operation was refused (`FileError`), the
compressed data are faulty (`Gzip.Fault`), or a text is none. `Error` is what a run reports: the
fault and where it struck. `Error.message` is the one place with the wording; `Error.cause?` is the
fault that a report names as the error's cause.
-/

namespace PersonRelations

/-! ### Faults -/

/-- The reason for which an operation on a path or an open file is refused. -/
inductive FileError where
  /-- Something on the path does not exist. -/
  | notFound
  /-- The path to be created is taken. -/
  | alreadyExists
  /-- The path leads through something that is not a directory. -/
  | notDirectory
  /-- A directory was given where a file is needed. -/
  | isDirectory
  /-- The device takes no more data. -/
  | noSpace
  /-- A name or the whole path is longer than allowed. -/
  | nameTooLong
  /-- More symbolic links than are followed. -/
  | tooManyLinks
  /-- The path holds a zero byte, which no name can. -/
  | zeroByte
  deriving DecidableEq, Repr

/-- The reason in words. -/
def FileError.message : FileError → String
  | notFound => "No such file or directory (os error 2)"
  | alreadyExists => "File exists (os error 17)"
  | notDirectory => "Not a directory (os error 20)"
  | isDirectory => "Is a directory (os error 21)"
  | noSpace => "No space left on device (os error 28)"
  | nameTooLong => "File name too long (os error 36)"
  | tooManyLinks => "Too many levels of symbolic links (os error 40)"
  | zeroByte => "file name contained an unexpected NUL byte"

namespace Gzip

/-- What is wrong with a gzip file. -/
inductive Fault where
  /-- The file ends inside a header or a trailer. -/
  | unexpectedEnd
  /-- The header's magic number, method or reserved flags are wrong. -/
  | header
  /-- A text in the header is too long. -/
  | longText
  /-- A checksum or the length in the trailer is wrong. -/
  | checksum
  /-- The file ends inside the compressed data. -/
  | incompleteData
  /-- The compressed data breaks the rules of the format. -/
  | corruptData
  deriving DecidableEq, Repr

/-- The fault in words. -/
def Fault.message : Fault → String
  | unexpectedEnd => "unexpected end of file"
  | header => "invalid gzip header"
  | longText => "gzip header field too long"
  | checksum => "corrupt gzip stream does not have a matching checksum"
  | incompleteData => "incomplete deflate stream"
  | corruptData => "corrupt deflate stream"

end Gzip

/-- Why a read, a write or an opening failed. -/
inductive Fault where
  /-- A file operation was refused. -/
  | file (e : FileError)
  /-- The compressed data is faulty. -/
  | gzip (e : Gzip.Fault)
  /-- A line is not UTF-8. -/
  | utf8 (e : Text.Utf8.Fault)
  /-- A file that has to be text is not UTF-8. -/
  | notText
  /-- A source or sink gave a reason of its own. -/
  | other (text : String)
  deriving DecidableEq, Repr

/-- The fault in words. -/
def Fault.message : Fault → String
  | file e => e.message
  | gzip e => e.message
  | utf8 e => e.message
  | notText => "stream did not contain valid UTF-8"
  | other text => text

/-! ### Errors -/

/-- A step of 64-bit arithmetic that has no result. -/
inductive ArithmeticError where
  /-- A sum is 2^64 or more. -/
  | addOverflow
  /-- A difference is negative. -/
  | subOverflow
  /-- A remainder is by zero. -/
  | remainderByZero
  deriving DecidableEq, Repr

/-- The failed step in words. -/
def ArithmeticError.message : ArithmeticError → String
  | addOverflow => "attempt to add with overflow"
  | subOverflow => "attempt to subtract with overflow"
  | remainderByZero => "attempt to calculate the remainder with a divisor of zero"

/-- Why an extraction or a whole run failed. -/
inductive Error where
  /-- The dump cannot be opened. -/
  | inputOpen (path : Path) (cause : Fault)
  /-- The dump cannot be read on; `line` is the number of the line under way. It has no bound here;
  a counter of 64 bits holds it as long as fewer than 2^64 - 1 lines come before. -/
  | inputRead (line : Nat) (cause : Fault)
  /-- The output directory is not there. -/
  | outputDirMissing (path : Path)
  /-- An output file, or the output directory, cannot be made. -/
  | outputOpen (path : Path) (cause : Fault)
  /-- A pair cannot be written. -/
  | outputWrite (relation : Relation) (cause : Fault)
  /-- A counter has run over. -/
  | arithmetic (cause : ArithmeticError)
  deriving DecidableEq, Repr

namespace Error

/-- The error in words. -/
def message : Error → String
  | inputOpen p c => "Failed to open input dump " ++ p.display ++ ": " ++ c.message
  | inputRead n c => "Failed to read input dump at line " ++ toString n ++ ": " ++ c.message
  | outputDirMissing p => "Output directory does not exist: " ++ p.display
  | outputOpen p c => "Failed to open output file " ++ p.display ++ ": " ++ c.message
  | outputWrite r c => "Failed to write relation " ++ r.name ++ ": " ++ c.message
  | arithmetic c => c.message

/-- The fault behind the error, if it has one. -/
def cause? : Error → Option Fault
  | inputOpen _ c | inputRead _ c | outputOpen _ c | outputWrite _ c => some c
  | outputDirMissing _ | arithmetic _ => none

end Error

end PersonRelations
