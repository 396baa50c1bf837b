/-!
# `MountSpace.Fault`: why a file operation is refused

A file operation that is refused says why with one of fifteen causes.
Each cause has a number, the one POSIX gives it, and a fixed text.
`Fault.ofCode` reads a number back, and takes a number that names no
cause for an input/output error, so it undoes `Fault.code`
(`ofCode_answer`).
-/

set_option autoImplicit false

namespace MountSpace

/-- A cause for refusing a file operation. -/
inductive Fault where
  | notFound
  | ioError
  | noDevice
  | badDescriptor
  | alreadyExists
  | crossDevice
  | notDirectory
  | isDirectory
  | invalidArgument
  | tooManyOpenFiles
  | noSpace
  | nameTooLong
  | directoryNotEmpty
  | corrupted
  | notSupported
  deriving DecidableEq, Repr

namespace Fault

/-- All causes, in the order of their numbers. -/
def all : List Fault :=
  [notFound, ioError, noDevice, badDescriptor, alreadyExists, crossDevice,
   notDirectory, isDirectory, invalidArgument, tooManyOpenFiles, noSpace,
   nameTooLong, directoryNotEmpty, corrupted, notSupported]

/-- The POSIX number of a cause. -/
def code : Fault → Nat
  | notFound => 2
  | ioError => 5
  | noDevice => 6
  | badDescriptor => 9
  | alreadyExists => 17
  | crossDevice => 18
  | notDirectory => 20
  | isDirectory => 21
  | invalidArgument => 22
  | tooManyOpenFiles => 24
  | noSpace => 28
  | nameTooLong => 36
  | directoryNotEmpty => 39
  | corrupted => 84
  | notSupported => 95

/-- A failed call answers the number of its cause, negated. -/
def answer (fault : Fault) : Int :=
  -(fault.code : Int)

/-- The cause with the given number, whatever its sign. A number that
no cause has stands for an input/output error. -/
def ofCode (number : Int) : Fault :=
  (all.find? fun fault => fault.code == number.natAbs).getD ioError

/-- The text that describes a cause. -/
def message : Fault → String
  | notFound => "No such file or directory"
  | ioError => "Input/output error"
  | noDevice => "No such device or address"
  | badDescriptor => "Bad file descriptor"
  | alreadyExists => "File exists"
  | crossDevice => "Invalid cross-device link"
  | notDirectory => "Not a directory"
  | isDirectory => "Is a directory"
  | invalidArgument => "Invalid argument"
  | tooManyOpenFiles => "Too many open files"
  | noSpace => "No space left on device"
  | nameTooLong => "File name too long"
  | directoryNotEmpty => "Directory not empty"
  | corrupted => "Invalid or incomplete multibyte or wide character"
  | notSupported => "Operation not supported"

/-- Reading an answer gives back the cause it was made from. -/
theorem ofCode_answer (fault : Fault) : ofCode fault.answer = fault := by
  cases fault <;> decide

end Fault

end MountSpace
