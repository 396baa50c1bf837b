import MountSpace.Driver
import MountSpace.Proofs.Effects

/-!
# `MountSpace.Proofs.Drivers.Piecewise`: drivers that move files in pieces

What a driver has to do so that a file that has been written as a whole can
be read as a whole (`Piecewise`). It may move fewer bytes than it is asked
to, each time as many as it likes, and tell too large a size. It may refuse
to write, but not to read what it keeps, unless it has no number left for one
more open file.
-/

set_option autoImplicit false

namespace MountSpace.Proofs.Drivers

open Effects

variable {δ σ α : Type} [Driver δ σ]

/-! ### Requests and the state of a driver -/

/-- A request that is done leaves what is said, whatever the device does. -/
def Leaves (σ : Type) [Driver δ σ] (before : δ → Prop)
    (request : Request α) (done : α → δ → Prop) : Prop :=
  Ensures (fun site : Site δ σ => before site.driver) (Driver.serve request)
    (fun value site => done value site.driver) (fun _ _ => True)

/-- A request is done whatever the device does, and leaves what is said. -/
def Answers (σ : Type) [Driver δ σ] (before : δ → Prop)
    (request : Request α) (done : α → δ → Prop) : Prop :=
  Completes (fun site : Site δ σ => before site.driver)
    (Driver.serve request) (fun value site => done value site.driver)

section

variable {before : δ → Prop} {request : Request α} {done last : α → δ → Prop}

theorem Leaves.imp (leaves : Leaves σ before request done)
    (weaken : ∀ value driver, done value driver → last value driver) :
    Leaves σ before request last :=
  Ensures.imp leaves (fun _ known => known)
    (fun value site => weaken value site.driver) fun _ _ known => known

theorem Answers.imp (answers : Answers σ before request done)
    (weaken : ∀ value driver, done value driver → last value driver) :
    Answers σ before request last :=
  Completes.imp answers (fun _ known => known)
    fun value site => weaken value site.driver

theorem Answers.leaves (answers : Answers σ before request done) :
    Leaves σ before request done :=
  Completes.ensures answers _

end

/-! ### Files in pieces -/

/-- What is seen of a driver from outside. -/
structure Outlook (δ : Type) where
  /-- Nothing is wrong with the driver. -/
  sound : δ → Prop
  /-- The contents of the file at a path, as the driver sees it. -/
  contents : δ → String → Option Bytes
  /-- The driver has given out all numbers for open files but the last. -/
  spent : δ → Prop
  /-- By how much it will overstate the size of the file that it opens
  next. -/
  surplus : δ → Nat

/-- The flags of the mode in which a whole file is written. -/
def wholeFlags : OpenFlags := .write ||| .create ||| .truncate

theorem writable_wholeFlags : wholeFlags.writable = true := by decide

theorem appends_wholeFlags : wholeFlags.appends = false := by decide

theorem truncates_wholeFlags : wholeFlags.truncates = true := by decide

theorem readable_read : OpenFlags.read.readable = true := by decide

/-- A driver that moves files piece by piece. The four properties say what
state a file is in, and the clauses how requests change that. -/
structure Piecewise (σ : Type) [Driver δ σ] (outlook : Outlook δ) where
  /-- A file has been opened to be written, and has got these bytes. -/
  writing : FileId → String → Bytes → δ → Prop
  /-- A file with these contents can be opened, read and closed. -/
  keeping : String → Bytes → δ → Prop
  /-- It has been opened to be read, and its size will be overstated by so
  much. -/
  begun : FileId → String → Bytes → Nat → δ → Prop
  /-- It has been read up to a place. -/
  reading : FileId → String → Bytes → Nat → δ → Prop
  contents {path : String} {data : Bytes} {driver : δ} :
    keeping path data driver → outlook.contents driver path = some data
  /-- What a driver keeps has been written. -/
  short {path : String} {data : Bytes} {driver : δ} :
    keeping path data driver → data.length < sizeLimit
  openToWrite (path : String) (permissions : UInt32) :
    Leaves σ outlook.sound (.openFile path wholeFlags permissions)
      (fun file => writing file path [])
  /-- As many bytes are written as the driver says, which are no more than
  there are. -/
  write {file : FileId} {path : String} {sent data : Bytes} :
    data ≠ [] →
    Leaves σ (writing file path sent) (.write file data none)
      (fun count driver => count ≤ data.length
        ∧ writing file path (sent ++ data.take count) driver)
  /-- A driver that closes one file does not refuse to close others. -/
  closeWritten {file : FileId} {path : String} {data : Bytes} :
    Leaves σ (writing file path data) (.close file)
      (fun _ => keeping path data)
  openToRead {path : String} {data : Bytes} {surplus : Nat}
    (permissions : UInt32) :
    Answers σ
      (fun driver => keeping path data driver ∧ ¬ outlook.spent driver
        ∧ outlook.surplus driver = surplus)
      (.openFile path .read permissions)
      (fun file => begun file path data surplus)
  /-- Without a number for one more file the driver stops. -/
  openSpent {path : String} {data : Bytes} (permissions : UInt32)
    (site : Site δ σ) : keeping path data site.driver →
    outlook.spent site.driver →
    (Driver.serve (.openFile path .read permissions)).run site
      = .stopped .fileIdOverflow
  stat {file : FileId} {path : String} {data : Bytes} {surplus : Nat} :
    Answers σ (begun file path data surplus) (.stat path)
      (fun found driver => found = .file (data.length + surplus)
        ∧ reading file path data 0 driver)
  /-- Some of the bytes are read, but not none unless there are none. -/
  read {file : FileId} {path : String} {data : Bytes} {cursor length : Nat} :
    length ≠ 0 →
    Answers σ (reading file path data cursor) (.read file length none)
      (fun found driver => ∃ most, most ≠ 0 ∧ most ≤ length
        ∧ found = data.window cursor most
        ∧ reading file path data (cursor + found.length) driver)
  closeRead {file : FileId} {path : String} {data : Bytes} {cursor : Nat} :
    Answers σ (reading file path data cursor) (.close file)
      (fun _ _ => True)

end MountSpace.Proofs.Drivers
