import HandlerStudio.Editor.Live
import HandlerStudio.Report.Error
import HandlerStudio.Report.Preview

/-!
# Reports of editors
-/

namespace HandlerStudio

def SaveOutcome.toJson : SaveOutcome → Json
  | .saved revision clean => .ofEntries [("saved", .nat revision), ("clean", .bool clean)]
  | .alreadyClean => .string "already_clean"

/-- What a save came to. -/
def SaveResult.toJson : SaveResult → Json
  | .ok outcome => outcome.toJson
  | .error e => (EditorError.store e).toJson

namespace LiveEditor

def report (l : LiveEditor) : Json :=
  let s := l.editor.session
  .ofEntries [("t", .nat l.now), ("document", .string s.document.text),
    ("state", .string s.state.name), ("dirty", .bool s.isDirty),
    ("nodes", .nat (TreeStats.collect s.body).nodes),
    ("selected", .ofOption (NodeId.toJson ∘ Node.id) s.selectedNode?),
    ("preview", l.editor.preview.state.toJson), ("requests", .nat l.generator.requests.length),
    ("saves", .nat l.editor.accepted.length)]

/-- All that the store accepted. -/
def savedReport (l : LiveEditor) : Json :=
  .ofEntries [("saves", .texts (l.editor.accepted.map fun s => s.handler.text)),
    ("max_concurrent", .nat l.busiest)]

end LiveEditor

end HandlerStudio
