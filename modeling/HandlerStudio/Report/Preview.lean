import HandlerStudio.Preview.Basic
import HandlerStudio.Report.Tree

/-!
# Reports of targets and previews
-/

namespace HandlerStudio

namespace Target

def report (t : Target) : Json :=
  .ofEntries [("display", .string t.text), ("language", .string t.language.name),
    ("framework", .string t.framework.name)]

/-- All that can be targeted. -/
def catalogReport : Json :=
  .ofEntries [("default", default.report), ("catalog", .texts (catalog.map Target.text)),
    ("languages", .texts (Language.all.map Language.name)),
    ("frameworks", .texts (Framework.all.map Framework.name))]

end Target

def Language.report (l : Language) : Json :=
  .ofEntries [("name", .string l.name), ("extension", .string l.extension),
    ("frameworks", .texts (l.frameworks.map Framework.name)),
    ("default", .string l.defaultFramework.name),
    ("supports", .nat (Framework.all.filter l.supports).length),
    ("target", (Target.ofLanguage l).report)]

def Framework.report (f : Framework) : Json :=
  .ofEntries [("name", .string f.name), ("language", .string f.language.name)]

def Phase.toJson : Phase → Json
  | .idle => .string "idle"
  | .scheduled deadline => .ofEntries [("scheduled", .nat deadline)]
  | .inFlight seq => .ofEntries [("in_flight", .nat seq)]

def Verdict.name : Verdict → String
  | .apply => "apply"
  | .discard => "discard"

def Scheduler.report (s : Scheduler) : Json :=
  .ofEntries [("phase", s.phase.toJson), ("deadline", .ofOption .nat s.deadline),
    ("issued", .nat s.issued), ("settled", .nat s.settled), ("awaiting", .bool s.isAwaiting)]

namespace Display

def kindName : Display → String
  | .empty => "empty"
  | .source _ _ _ => "source"
  | .error _ => "error"

/-- The entries that only some displays have. -/
def ownEntries : Display → List (String × Json)
  | .empty => []
  | .source _ files _ => [("files", .texts files)]
  | .error message => [("message", .string message)]

def toJson (d : Display) : Json :=
  .ofEntries ([("kind", .string d.kindName), ("text", .ofText? d.text?), ("file", .ofText? d.file?),
    ("is_error", .bool d.isError)] ++ d.ownEntries)

end Display

def PreviewState.toJson (s : PreviewState) : Json :=
  .ofEntries [("target", .string s.target.text), ("loading", .bool s.loading),
    ("display", s.display.toJson), ("issued", .nat s.issued), ("applied", .nat s.applied)]

def Request.toJson (r : Request) : Json :=
  .ofEntries [("seq", .nat r.seq), ("target", .string r.target.text),
    ("artifact", .string r.artifact), ("body", Tree.toJson r.body)]

end HandlerStudio
