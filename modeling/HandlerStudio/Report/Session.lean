import HandlerStudio.Report.Error
import HandlerStudio.Session.Basic

/-!
# Reports of handlers and sessions
-/

namespace HandlerStudio

def Tracker.report (t : Tracker) : Json :=
  .ofEntries [("state", .string t.state.name), ("dirty", .bool t.isDirty),
    ("revision", .nat t.revision), ("saved", .nat t.savedRevision),
    ("ever_saved", .bool t.everSaved)]

def Selection.report (body : Body) (s : Selection) : Json :=
  .ofEntries [("selected", .ofOption NodeId.toJson s.selected),
    ("node", .ofOption Node.toJson (s.node? body)), ("empty", .bool s.selected.isNone)]

namespace Handler

/-- Whether a handler can be stored as it is. -/
def validity (h : Handler) : Json :=
  match h.validate with
  | .ok _ => .null
  | .error e => e.toJson

/-- Whether the stored text gives the handler back. -/
def roundTrip (supply : IdSupply) (h : Handler) : Json :=
  match Handler.ofText supply h.text with
  | .ok (again, _) => .bool (h.same again)
  | .error e => e.toJson

def report (supply : IdSupply) (h : Handler) : Json :=
  .ofEntries [("text", .string h.text), ("compact", .string h.toJson.compactText),
    ("name", .string h.name), ("is_async", .bool h.isAsync), ("params", .nat h.params.length),
    ("return_type", .ofText? h.returnType), ("roots", .nat h.body.length),
    ("extra", .texts (h.extra.map Prod.fst)), ("valid", h.validity),
    ("round_trip", h.roundTrip supply)]

end Handler

def Snapshot.report (s : Snapshot) : Json :=
  .ofEntries [("document", .string s.document.text), ("generation", .nat s.generation),
    ("revision", .nat s.revision), ("spec", .string s.handler.text)]

def Session.report (s : Session) : Json :=
  .ofEntries [("document", .string s.document.text), ("name", .string s.handler.name),
    ("is_async", .bool s.handler.isAsync), ("state", .string s.state.name),
    ("dirty", .bool s.isDirty), ("revision", .nat s.revision), ("generation", .nat s.generation),
    ("ever_saved", .bool s.tracker.everSaved),
    ("selected", .ofOption NodeId.toJson s.selection.selected),
    ("selected_node", .ofOption (NodeId.toJson ∘ Node.id) s.selectedNode?),
    ("roots", .nat s.body.length)]

end HandlerStudio
