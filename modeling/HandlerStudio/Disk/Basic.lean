import HandlerStudio.Disk.Path
import HandlerStudio.Disk.Place

/-!
# Disks

Paths are followed name by name from the top of a disk or from its working folder, so each folder on
the way has to be there. A path with too many bytes is not followed at all.
-/

namespace HandlerStudio

structure Disk where
  top : DiskItem := .folder []
  /-- Where relative paths start. -/
  workingFolder : List String := []

namespace Disk

/-- A path has fewer bytes than this. -/
def pathLimit : Nat := 4096

/-- Whether a path may be followed. -/
def checkPath (path : String) : Except DiskFault Unit :=
  if path.toList.contains (Char.ofNat 0) then .error .badName
  else if path.isEmpty then .error .missing
  else if pathLimit ≤ path.utf8ByteSize then .error .badName
  else .ok ()

/-- Where names lead from the top; what they lead to need not be there. -/
def walk (d : Disk) (names : List String) : Except DiskFault Place :=
  names.foldlM Place.follow { item := some d.top }

/-- Where a path starts. -/
def startOf (d : Disk) (path : String) : List String :=
  if Path.isAbsolute path then [] else d.workingFolder

/-- Where a path leads. -/
def locate (d : Disk) (path : String) : Except DiskFault Place := do
  checkPath path
  d.walk (d.startOf path ++ Path.names path)

/-- Where a path to a file leads: it does not end in a slash. -/
def locateFile (d : Disk) (path : String) : Except DiskFault Place := do
  let place ← d.locate path
  if path.toList.getLast? == some '/' then place.follow "." else return place

def put (place : Place) (item : DiskItem) (d : Disk) : Disk := { d with top := place.fill item }

def erase (place : Place) (d : Disk) : Disk := { d with top := place.clear }

/-- The text of a file. -/
def read (d : Disk) (path : String) : Except DiskFault String := do
  match (← d.locateFile path).item with
  | none => throw .missing
  | some (.folder _) => throw .aFolder
  | some (.file (.text s)) => return s
  | some (.file .binary) => throw .notText

/-- Put content into a file, which may be new. -/
def write (path : String) (content : Content) (d : Disk) : Except DiskFault Disk := do
  let place ← d.locateFile path
  if place.isFolder then throw .aFolder else return d.put place (.file content)

/-- Give a file another path; a file that is there is replaced. -/
def rename (source target : String) (d : Disk) : Except DiskFault Disk := do
  let place ← d.locateFile source
  match place.item with
  | none => throw .missing
  | some item =>
      let d := d.erase place
      let place ← d.locateFile target
      if place.isFolder then throw .aFolder else return d.put place item

/-- Make the folder that names lead to, in a folder that is there. -/
def makeFolder (names : List String) (d : Disk) : Except DiskFault Disk := do
  let place ← d.walk names
  match names.getLast?, place.item with
  | none, _ | some ".", _ | some "..", _ | _, some _ => throw .taken
  | some _, none => return d.put place (.folder [])

def isFolder (names : List String) (d : Disk) : Bool :=
  (d.walk names).toOption.any Place.isFolder

/-- Make a folder and those above it, trying so many of them. Folders made before a failure stay. -/
def makeFoldersUp : Nat → List String → Disk → Except DiskFault Unit × Disk
  | tries, names, d =>
      match d.makeFolder names with
      | .ok d => (.ok (), d)
      | .error .missing =>
          match tries with
          | 0 => (.error .missing, d)
          | tries + 1 =>
              match makeFoldersUp tries (Path.parentNames names) d with
              | (.error e, d) => (.error e, d)
              | (.ok (), d) =>
                  match d.makeFolder names with
                  | .ok d => (.ok (), d)
                  | .error e => (if d.isFolder names then .ok () else .error e, d)
      | .error e => (if d.isFolder names then .ok () else .error e, d)

/-- Make the folder that a path leads to, with those above it. The empty path needs no folder. -/
def makeFolders (path : String) (d : Disk) : Except DiskFault Unit × Disk :=
  if path.isEmpty then (.ok (), d)
  else
    match checkPath path with
    | .error e => (.error e, d)
    | .ok () =>
        let names := d.startOf path ++ Path.names path
        makeFoldersUp names.length names d

/-- The paths of all that is in a folder, from there and in order. -/
def listing (path : String) (d : Disk) : List String :=
  match (d.locate path).toOption.bind Place.item with
  | some (.folder entries) => (DiskItem.pathsBelow "" entries).mergeSort
  | _ => []

end Disk

end HandlerStudio
