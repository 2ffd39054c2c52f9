import HandlerStudio.Entries

/-!
# Files, folders and places

An item is a file, or a folder that holds items by name. A place is where names lead from the top:
what is there, which may be nothing, with the folders gone through on the way. So names can lead up
again, and `Place.fill` and `Place.clear` give the whole with one place changed.
-/

namespace HandlerStudio

/-- Why a path cannot be used. -/
inductive DiskFault where
  | missing
  | notAFolder
  | aFolder
  | taken
  | badName
  | notText
deriving DecidableEq, Repr

def DiskFault.message : DiskFault → String
  | .missing => "no such file or directory"
  | .notAFolder => "not a directory"
  | .aFolder => "is a directory"
  | .taken => "file exists"
  | .badName => "invalid file name"
  | .notText => "stream did not contain valid text"

/-- What a file holds: a text, or bytes that are none. -/
inductive Content where
  | text (text : String)
  | binary
deriving DecidableEq, Repr

def Content.ofBytes (bytes : List UInt8) : Content :=
  match String.fromUTF8? ⟨bytes.toArray⟩ with
  | some s => .text s
  | none => .binary

inductive DiskItem where
  | file (content : Content)
  | folder (entries : List (String × DiskItem))

mutual

/-- The paths of an item that is found under `path` and of all below it. Folders end in a slash. -/
def DiskItem.paths (path : String) : DiskItem → List String
  | .file _ => [path]
  | .folder entries => (path ++ "/") :: DiskItem.pathsBelow (path ++ "/") entries
termination_by structural x => x

/-- The paths of the entries of a folder, after that of the folder. -/
def DiskItem.pathsBelow (path : String) : List (String × DiskItem) → List String
  | [] => []
  | e :: rest => DiskItem.pathsOfEntry path e ++ DiskItem.pathsBelow path rest
termination_by structural x => x

def DiskItem.pathsOfEntry (path : String) : String × DiskItem → List String
  | (name, item) => DiskItem.paths (path ++ name) item
termination_by structural x => x

end

structure Place where
  item : Option DiskItem
  /-- The entries of the folders on the way, nearest first, each with the name followed there. -/
  above : List (String × List (String × DiskItem)) := []

namespace Place

/-- The names that lead to a place from the top. -/
def location (p : Place) : List String := (p.above.map Prod.fst).reverse

def isFolder (p : Place) : Bool :=
  match p.item with
  | some (.folder _) => true
  | _ => false

/-- The most bytes that a name may have. -/
def nameLimit : Nat := 255

/-- Follow one name. The top is above itself. -/
def follow (p : Place) (name : String) : Except DiskFault Place :=
  match p.item with
  | none => .error .missing
  | some (.file _) => .error .notAFolder
  | some (.folder entries) =>
      if name = "." then .ok p
      else if name = ".." then
        match p.above with
        | [] => .ok p
        | (_, entries) :: above => .ok { item := some (.folder entries), above }
      else if nameLimit < name.utf8ByteSize then .error .badName
      else .ok { item := Entries.get? name entries, above := (name, entries) :: p.above }

/-- The whole, with an item below so many folders. -/
def rebuild (item : DiskItem) (above : List (String × List (String × DiskItem))) : DiskItem :=
  above.foldl (fun inner (name, entries) => .folder (Entries.insert name inner entries)) item

/-- The whole, with an item at this place. -/
def fill (item : DiskItem) (p : Place) : DiskItem := rebuild item p.above

/-- The whole, with nothing at this place. The top cannot go, only what is in it. -/
def clear (p : Place) : DiskItem :=
  match p.above with
  | [] => .folder []
  | (name, entries) :: above => rebuild (.folder (entries.filter fun e => e.1 != name)) above

@[simp] theorem fill_nil (item : DiskItem) (here : Option DiskItem) :
    fill item { item := here } = item := rfl

@[simp] theorem fill_cons (item : DiskItem) (here : Option DiskItem) (name : String)
    (entries : List (String × DiskItem)) (above : List (String × List (String × DiskItem))) :
    fill item { item := here, above := (name, entries) :: above } =
      fill (.folder (Entries.insert name item entries)) { item := here, above } := rfl

end Place

end HandlerStudio
