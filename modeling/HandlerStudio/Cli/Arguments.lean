/-!
# The command line

What the arguments ask for. Options may stand before or after the name of a command; after `--` all
arguments stand for themselves. Of a settings file given in both places the later one counts.
-/

namespace HandlerStudio.Cli

inductive Action where
  | inspect (file : String) (json : Bool)
  | targets
  | config (path : Option String)
deriving DecidableEq, Repr

/-- The names of actions. -/
inductive Verb where
  | inspect
  | targets
  | config
deriving DecidableEq, Repr

inductive Invocation where
  | version
  | help (verb : Option Verb)
  | run (settings : Option String) (action : Action)
deriving DecidableEq, Repr

def Verb.ofName? (name : String) : Option Verb :=
  if name = "inspect" then some .inspect
  else if name = "targets" then some .targets
  else if name = "config" then some .config
  else none

/-- An argument as it looks. -/
inductive Argument where
  | plain (text : String)
  | stop
  | long (name : String) (value : Option String)
  | short (flag : Char)

/-- The part before the first equals sign, and the one after it if there is one. -/
def splitValue (cs : List Char) : String × Option String :=
  let name := String.ofList (cs.takeWhile (· != '='))
  match cs.dropWhile (· != '=') with
  | [] => (name, none)
  | _ :: value => (name, some (String.ofList value))

def Argument.ofText (text : String) : Argument :=
  match text.toList with
  | ['-', '-'] => .stop
  | '-' :: '-' :: cs =>
      let (name, value) := splitValue cs
      .long name value
  | '-' :: flag :: _ => .short flag
  | _ => .plain text

/-- A path is not empty. -/
def path? (text : String) : Option String := if text.isEmpty then none else some text

/-- The value of an option that is an argument of its own. -/
def value? (text : String) : Option String :=
  match Argument.ofText text with
  | .plain text => path? text
  | _ => none

/-- What was given after the name of a command. -/
structure Given where
  settings : Option String := none
  json : Bool := false
  paths : List String := []

/-- The option for a settings file is given once. -/
def Given.withSettings (path : String) (g : Given) : Option Given :=
  if g.settings.isSome then none else some { g with settings := some path }

/-- What the name of a command and what was given after it ask for. -/
def Given.action? (g : Given) : Verb → Option Action
  | .inspect =>
      match g.paths with
      | [file] => some (.inspect file g.json)
      | _ => none
  | .targets => if g.paths.isEmpty then some .targets else none
  | .config =>
      match g.paths with
      | [] => some (.config none)
      | [file] => some (.config (some file))
      | _ => none

/-- How many paths a command takes. -/
def Verb.arity : Verb → Nat
  | .inspect => 1
  | .targets => 0
  | .config => 1

/-- One more path, if the command takes it. -/
def Given.withPath (verb : Verb) (path : String) (g : Given) : Option Given :=
  if g.paths.length < verb.arity then do return { g with paths := g.paths ++ [← path? path] }
  else none

/-- What a command is given, or that help is asked for. -/
inductive Rest where
  | given (given : Given)
  | help

/-- The arguments after the name of a command. -/
def parseRest (verb : Verb) (g : Given) : List String → Option Rest
  | [] => some (.given g)
  | text :: rest =>
      match Argument.ofText text with
      | .plain path => do parseRest verb (← g.withPath verb path) rest
      | .stop => do return .given (← rest.foldlM (fun g path => g.withPath verb path) g)
      | .short 'h' => some .help
      | .short _ => none
      | .long "help" none => some .help
      | .long "json" none =>
          if verb == .inspect && !g.json then parseRest verb { g with json := true } rest else none
      | .long "config" (some path) => do parseRest verb (← g.withSettings (← path? path)) rest
      | .long "config" none =>
          match rest with
          | [] => none
          | path :: rest => do parseRest verb (← g.withSettings (← value? path)) rest
      | .long _ _ => none

/-- The arguments from the name of a command on. -/
def parseCommand (settings : Option String) (verb : Verb) (rest : List String) :
    Option Invocation := do
  match ← parseRest verb {} rest with
  | .help => return .help (some verb)
  | .given g => return .run (g.settings.or settings) (← g.action? verb)

/-- The arguments up to the name of a command; none if they ask for nothing that there is. -/
def parseFrom (settings : Option String) : List String → Option Invocation
  | [] => none
  | text :: rest =>
      match Argument.ofText text with
      | .plain "help" =>
          match rest with
          | [] => some (.help none)
          | [name] => do return .help (some (← Verb.ofName? name))
          | _ => none
      | .plain name => do parseCommand settings (← Verb.ofName? name) rest
      | .stop => none
      | .short 'V' => some .version
      | .short 'h' => some (.help none)
      | .short _ => none
      | .long "version" none => some .version
      | .long "help" none => some (.help none)
      | .long "config" (some path) => do
          if settings.isSome then none else parseFrom (some (← path? path)) rest
      | .long "config" none =>
          match rest with
          | [] => none
          | path :: rest => do
              if settings.isSome then none else parseFrom (some (← value? path)) rest
      | .long _ _ => none

def parse (arguments : List String) : Option Invocation := parseFrom none arguments

/-- The files that an invocation reads. -/
def Invocation.paths : Invocation → List String
  | .version => []
  | .help _ => []
  | .run settings action =>
      settings.toList ++ match action with
        | .inspect file _ => [file]
        | .targets => []
        | .config path => path.toList

end HandlerStudio.Cli
