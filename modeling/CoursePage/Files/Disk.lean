import CoursePage.Files.Path

/-!
A disk held in memory: files by their paths below one directory. A directory exists if a file
is in it. Nothing is known of what lies outside but that the null device is there, and a file
written outside is not kept.
-/

namespace CoursePage

structure Disk where
  files : List (String × Bytes)
  deriving DecidableEq, Repr

/-- What is found at a place. -/
inductive Entry where
  | directory
  | file (bytes : Bytes)
  deriving DecidableEq, Repr

namespace Disk

def find? (d : Disk) (path : Path) : Option (String × Bytes) :=
  d.files.find? fun f => Path.parts f.1 == path

/-- A file is somewhere below the path. -/
def isDirectory (d : Disk) (path : Path) : Bool :=
  path.isEmpty || d.files.any fun f =>
    path.isPrefixOf (Path.parts f.1) && path != Path.parts f.1

/-- What is at a place on the disk. -/
def inner? (d : Disk) (path : Path) : Option Entry :=
  if d.isDirectory path then some .directory else (d.find? path).map fun f => .file f.2

/-- The file that is always empty. -/
def nullDevice : Path := ["dev", "null"]

/-- What is at a place outside. -/
def outer? (path : Path) : Option Entry :=
  if path == nullDevice then some (.file [])
  else if path.isPrefixOf nullDevice then some .directory
  else none

def entry? (d : Disk) : Place → Option Entry
  | .inside path => d.inner? path
  | .outside path => outer? path

/-- Goes on to a part of a path behind which the path goes on. -/
def enter (d : Disk) (place : Place) (part : String) : Except FileFault Place := do
  let place ← place.follow part
  match d.entry? place with
  | some .directory => return place
  | some (.file _) => throw .notDirectory
  | none => throw .notFound

/-- The place that holds the last part of a path. -/
def holder (d : Disk) (text : String) : Except FileFault Place :=
  if text.isEmpty then .error .notFound
  else if text.utf8ByteSize > Path.lengthLimit then .error .nameTooLong
  else (Path.parts text).dropLast.foldlM d.enter (Place.start text)

def read (d : Disk) (text : String) : Except FileFault Bytes := do
  let place ← (← d.holder text).follow (Path.last text)
  match d.entry? place with
  | some .directory => throw .isDirectory
  | some (.file bytes) => if Path.isForDirectory text then throw .notDirectory else return bytes
  | none => throw .notFound

/-- Puts a file in the place of one with the same path, or adds it. -/
def put (d : Disk) (path : Path) (bytes : Bytes) : Disk :=
  match d.find? path with
  | some old => { files := d.files.map fun f => if f.1 == old.1 then (f.1, bytes) else f }
  | none => { files := d.files ++ [(Path.text path, bytes)] }

/-- The place of a file that can be written. -/
def target (d : Disk) (text : String) : Except FileFault Place := do
  let place ← d.holder text
  if Path.isForDirectory text || Path.isStep (Path.last text) then throw .isDirectory
  let place ← place.follow (Path.last text)
  if d.entry? place == some .directory then throw .isDirectory else return place

def write (d : Disk) (text : String) (bytes : Bytes) : Except FileFault Unit × Disk :=
  match d.target text with
  | .error fault => (.error fault, d)
  | .ok (.inside path) => (.ok (), d.put path bytes)
  | .ok (.outside _) => (.ok (), d)

/-- The files of a disk that is passed along. Whatever is printed is taken. -/
def access : Files (StateM Disk) where
  read path := fun d => (d.read path, d)
  write path bytes := fun d => d.write path bytes
  print _ := fun d => (.ok (), d)

end Disk

end CoursePage
