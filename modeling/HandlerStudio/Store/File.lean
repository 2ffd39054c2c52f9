import HandlerStudio.Store.Error

/-!
# Documents in files

Each document has a file of its own under the root of the store. A save writes the text to a file
beside it first, which then takes its place, so that a document is never half written.
-/

namespace HandlerStudio

structure FileStore where
  root : String

namespace FileStore

/-- The file of a document. -/
def pathFor (document : DocumentId) (s : FileStore) : String :=
  Path.join s.root (document.text ++ ".json")

/-- The file that is written before it takes the place of another: the ending `json` of its name
becomes `json.tmp`. A name that begins with its only dot has no ending, and gets one. A name of
which only dots stay without the ending is the folder above, and gets none. -/
def stagingFor (path : String) : String :=
  match (Path.pieces path).getLast? with
  | some ".json" => path ++ ".json.tmp"
  | some "..json" => String.ofList (path.toList.take (path.toList.length - 4))
  | _ => path ++ ".tmp"

def load (document : DocumentId) (supply : IdSupply) (d : Disk) (s : FileStore) :
    Except StoreError (Handler × IdSupply) :=
  match d.read (s.pathFor document) with
  | .ok text => Handler.ofStored document supply text
  | .error .missing => .error (.notFound document)
  | .error fault => .error (.disk fault)

/-- Write a text to a file by way of the staging file. -/
def replace (path text : String) (d : Disk) : Except DiskFault Unit × Disk :=
  match d.write (stagingFor path) (.text text) with
  | .error fault => (.error fault, d)
  | .ok d =>
      match d.rename (stagingFor path) path with
      | .error fault => (.error fault, d)
      | .ok d => (.ok (), d)

/-- Save a document. What was done before a failure stays. -/
def save (document : DocumentId) (h : Handler) (d : Disk) (s : FileStore) :
    Except StoreError Unit × Disk :=
  let path := s.pathFor document
  match d.makeFolders (Path.parent path) with
  | (.error fault, d) => (.error (.disk fault), d)
  | (.ok (), d) =>
      match replace path h.text d with
      | (.error fault, d) => (.error (.disk fault), d)
      | (.ok (), d) => (.ok (), d)

end FileStore

end HandlerStudio
