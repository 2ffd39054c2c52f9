import HandlerStudio.Target.Basic
import HandlerStudio.Text.Quoted
import HandlerStudio.Tree.Stats

/-!
# Code generators

A generator answers a request with source text, with a set of files, or with an error. Files keep
the order in which the generator names them; of a name given twice the first place and the last
text stay.

`ScriptedGenerator` answers by a script, and from its end on with an echo of each request. An
answer comes after a delay that the script gives.
-/

namespace HandlerStudio

inductive GeneratorError where
  | rejected (reason : String)
  | timeout (afterMs : Nat)
  | unavailable (reason : String)
  | unsupported (what : String)
deriving DecidableEq, Repr

namespace GeneratorError

def message : GeneratorError → String
  | .rejected reason => "generator rejected request: " ++ reason
  | .timeout ms => s!"generator timed out after {ms}ms"
  | .unavailable reason => "generator unavailable: " ++ reason
  | .unsupported what => "generator does not support " ++ what

/-- Whether the same request may succeed later. -/
def isRetryable : GeneratorError → Bool
  | .timeout _ => true
  | .unavailable _ => true
  | _ => false

/-- The error of a generator that crashed with a message. -/
def crashed (message : String) : GeneratorError :=
  .unavailable ("generator task failed: task # panicked with message " ++ Text.quoted message)

end GeneratorError

namespace Files

/-- Add a file; one that is there already keeps its place. -/
def insert (name text : String) : List (String × String) → List (String × String)
  | [] => [(name, text)]
  | (n, t) :: rest => if n = name then (n, text) :: rest else (n, t) :: insert name text rest

/-- The files in the order of their first mention. -/
def ofList (given : List (String × String)) : List (String × String) :=
  given.foldl (fun files f => insert f.1 f.2 files) []

end Files

/-- What a generator produces. -/
inductive Output where
  | source (text : String)
  | files (files : List (String × String))
deriving DecidableEq, Repr

/-- The names of the files, in order. -/
def Output.fileNames : Output → List String
  | .source _ => []
  | .files fs => fs.map Prod.fst

/-- What a generator is asked for. -/
structure Request where
  seq : Nat
  target : Target
  artifact : String
  body : Body

namespace Request

/-- A line that describes the request. -/
def echoLine (r : Request) : String :=
  s!"// {r.target.text} #{r.seq} {r.artifact} ({(TreeStats.collect r.body).nodes} nodes)"

/-- Two files that describe the request. -/
def echo (r : Request) : Output :=
  let ending := "." ++ r.target.language.extension
  .files (Files.ofList
    [("main" ++ ending, "// " ++ r.target.text ++ " entry point"),
      ("handlers/" ++ r.artifact ++ ending, r.echoLine)])

end Request

/-- An answer in a script. -/
inductive ScriptedAnswer where
  | echo
  | output (output : Output)
  | fail (error : GeneratorError)
  | crash (message : String)
deriving DecidableEq, Repr

/-- What comes back for a request. -/
def ScriptedAnswer.result (r : Request) : ScriptedAnswer → Except GeneratorError Output
  | .echo => .ok r.echo
  | .output o => .ok o
  | .fail e => .error e
  | .crash message => .error (.crashed message)

/-- An answer on its way. -/
structure Answer where
  due : Nat
  seq : Nat
  result : Except GeneratorError Output

/-- A generator that follows a script. -/
structure ScriptedGenerator where
  /-- Answers to come, each with its delay. -/
  script : List (Nat × ScriptedAnswer) := []
  /-- The delay of answers after the script. -/
  latency : Nat := 0
  /-- All requests so far. -/
  requests : List Request := []
  /-- Answers on their way, by request. -/
  pending : List Answer := []
  /-- All projects asked for so far. -/
  projects : List Target := []
  /-- Whether whole projects can be generated. -/
  makesProjects : Bool := true

namespace ScriptedGenerator

/-- The delay and the answer that the script has for the next request. -/
def nextAnswer (g : ScriptedGenerator) : Nat × ScriptedAnswer :=
  g.script.headD (g.latency, .echo)

/-- Take a request at an instant; its answer is on the way from then on. -/
def ask (now : Nat) (r : Request) (g : ScriptedGenerator) : ScriptedGenerator :=
  { g with
    script := g.script.tail
    requests := g.requests ++ [r]
    pending := g.pending ++ [⟨now + g.nextAnswer.1, r.seq, g.nextAnswer.2.result r⟩] }

/-- When the next answer comes. -/
def nextDue? (g : ScriptedGenerator) : Option Nat := (g.pending.map Answer.due).min?

/-- The first answer that is due at an instant, taken out. -/
def deliver? (now : Nat) (g : ScriptedGenerator) : Option (Answer × ScriptedGenerator) :=
  match g.pending.find? fun a => a.due ≤ now with
  | none => none
  | some a => some (a, { g with pending := g.pending.eraseP fun a => a.due ≤ now })

/-- Generate a whole project, and give the paths of its files. -/
def project (t : Target) (g : ScriptedGenerator) :
    Except GeneratorError (List String) × ScriptedGenerator :=
  if g.makesProjects then
    let ending := "." ++ t.language.extension
    (.ok ["src/main" ++ ending, "src/handlers" ++ ending],
      { g with projects := g.projects ++ [t] })
  else (.error (.unsupported "generate_project"), g)

end ScriptedGenerator

end HandlerStudio
