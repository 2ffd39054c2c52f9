import HandlerStudio.Store.Error

/-!
# Documents in memory

A store of texts by document. A document is loaded and saved whole.
-/

namespace HandlerStudio

structure MemoryStore where
  /-- The texts, by document in order. -/
  documents : List (String × String) := []

namespace MemoryStore

/-- Put a text into the store, be it a handler's or not. -/
def insertText (document : DocumentId) (text : String) (s : MemoryStore) : MemoryStore :=
  ⟨Entries.insert document.text text s.documents⟩

def contains (document : DocumentId) (s : MemoryStore) : Bool :=
  Entries.has document.text s.documents

def size (s : MemoryStore) : Nat := s.documents.length

def load (document : DocumentId) (supply : IdSupply) (s : MemoryStore) :
    Except StoreError (Handler × IdSupply) :=
  match Entries.get? document.text s.documents with
  | none => .error (.notFound document)
  | some text => Handler.ofStored document supply text

def save (document : DocumentId) (h : Handler) (s : MemoryStore) : MemoryStore :=
  s.insertText document h.text

end MemoryStore

end HandlerStudio
