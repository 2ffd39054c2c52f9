import HandlerStudio.Cli.Arguments
import HandlerStudio.Config.Toml
import HandlerStudio.Handler.Json
import HandlerStudio.Json.Printer
import HandlerStudio.Report.Tree

/-!
# Running the command line

What a command prints and how it ends, given the files that it reads.
-/

namespace HandlerStudio.Cli

/-- How a run ends. -/
structure Outcome where
  code : Nat
  output : String := ""
  errors : String := ""
deriving DecidableEq, Repr

/-- A failure: what was being done, and why it could not be done if that is known. -/
structure Failure where
  doing : String
  cause : Option String := none

def Failure.text (f : Failure) : String :=
  "Error: " ++ f.doing ++ match f.cause with
    | some cause => "\n\nCaused by:\n    " ++ cause ++ "\n"
    | none => "\n"

/-- How files are read. -/
abbrev Files := String → Except DiskFault String

def lines (ls : List String) : String := String.join (ls.map (· ++ "\n"))

/-- The first line of a text. A line ends with a line feed, which a carriage return may precede. -/
def firstLine (text : String) : String :=
  let cs := text.toList
  let line := cs.takeWhile (· != '\n')
  String.ofList
    (if line.length < cs.length && line.getLast? == some '\r' then line.dropLast else line)

/-- The first line of what a run says when it fails at what it was asked for. -/
def Outcome.errorLine? (o : Outcome) : Option String :=
  if o.code = 1 then some (firstLine o.errors) else none

/-! ## Settings -/

/-- The settings in a file, or those that are in force without one. -/
def loadConfig (files : Files) : Option String → Except Failure Config
  | none => .ok {}
  | some path =>
      match Config.ofFile path (files path) with
      | .ok c => .ok c
      | .error e => .error ⟨"loading " ++ path, some e.message⟩

def configText (c : Config) : Except Failure String :=
  match c.toToml with
  | .ok text => .ok text
  | .error e => .error ⟨e.message, none⟩

/-! ## Targets -/

/-- A language with its frameworks. -/
def languageLine (l : Language) : String :=
  l.name ++ ", ".intercalate ((l.defaultFramework.name ++ " (default)")
    :: l.otherFrameworks.map Framework.name)

def targetsText : String :=
  lines (Language.all.map languageLine ++ ["", "Default target: " ++ Target.default.text])

/-! ## Inspection -/

def paramText (p : Param) : String :=
  p.name ++ (if p.optional then "?" else "") ++ ": " ++ p.typeName

/-- The handler as a signature. -/
def signature (h : Handler) : String :=
  (if h.isAsync then "async " else "") ++ h.name ++ "("
    ++ ", ".intercalate (h.params.map paramText) ++ ")"
    ++ match h.returnType with
      | some t => " -> " ++ t
      | none => ""

/-- A row of the outline, set in by its depth. -/
def rowLine (r : Row) : String :=
  String.join (List.replicate (r.depth + 1) "  ")
    ++ (match r.slot with
      | some slot => slot ++ ": "
      | none => "")
    ++ r.label ++ "  [" ++ r.tier.label ++ "]"

/-- Whether the handler runs everywhere. -/
def portability (s : TreeStats) : String :=
  match s.worstTier? with
  | some t =>
      if s.isFullyPortable then "Portable: yes"
      else "Portable: no (worst tier: " ++ t.label ++ ")"
  | none => "Portable: yes"

def inspectionText (h : Handler) : String :=
  let stats := TreeStats.collect h.body
  let tiers := Tier.all.map fun t =>
    let count := stats.count t
    t.label ++ s!" {count}"
  lines ([signature h, ""] ++ (Gallery.standard.outline h.body).map rowLine
    ++ ["", s!"Nodes: {stats.nodes}  Depth: {stats.maxDepth}",
      "Tiers: " ++ ", ".intercalate tiers, portability stats])

def inspectionJson (h : Handler) : Json :=
  .ofEntries [("name", .string h.name),
    ("outline", .array ((Gallery.standard.outline h.body).map Row.toJson)),
    ("stats", (TreeStats.collect h.body).toJson)]

/-- Inspect a stored handler. -/
def inspect (files : Files) (supply : IdSupply) (file : String) (json : Bool) :
    Except Failure (String × IdSupply) :=
  match files file with
  | .error fault => .error ⟨"reading " ++ file, some fault.message⟩
  | .ok text =>
      match Handler.ofText supply text with
      | .error e => .error ⟨"decoding " ++ file, some e.message⟩
      | .ok (h, supply) =>
          .ok (if json then (inspectionJson h).prettyText ++ "\n" else inspectionText h, supply)

/-! ## Help -/

def versionText : String := "weft 0.1.0\n"

def usageLine : String := "Usage: weft [OPTIONS] <COMMAND>"

def settingsOption : String := "      --config <config>  Editor config file (TOML)"

def helpOption : String := "  -h, --help             Print help"

def helpText : Option Verb → String
  | none =>
      lines ["Inspect portable handler trees and the preview target catalog", "", usageLine, "",
        "Commands:",
        "  inspect  Print the canvas outline and tier summary of a handler document",
        "  targets  List supported languages and frameworks",
        "  config   Print the effective configuration",
        "  help     Print this message or the help of the given subcommand(s)", "",
        "Options:", settingsOption, helpOption, "  -V, --version          Print version"]
  | some .inspect =>
      lines ["Print the canvas outline and tier summary of a handler document", "",
        "Usage: weft inspect [OPTIONS] <file>", "", "Arguments:",
        "  <file>  Handler document (JSON)", "", "Options:",
        "      --json             Output as JSON", settingsOption, helpOption]
  | some .targets =>
      lines ["List supported languages and frameworks", "", "Usage: weft targets [OPTIONS]", "",
        "Options:", settingsOption, helpOption]
  | some .config =>
      lines ["Print the effective configuration", "", "Usage: weft config [OPTIONS] [path]", "",
        "Arguments:", "  [path]  Config file to load instead of defaults", "", "Options:",
        settingsOption, helpOption]

/-! ## Runs -/

/-- Do what is asked for. The settings are read first, whatever the action is. -/
def act (files : Files) (supply : IdSupply) (settings : Option String) (action : Action) :
    Except Failure (String × IdSupply) := do
  let config ← loadConfig files settings
  match action with
  | .inspect file json => inspect files supply file json
  | .targets => return (targetsText, supply)
  | .config none => return (← configText config, supply)
  | .config (some path) => return (← configText (← loadConfig files (some path)), supply)

/-- Run an invocation. -/
def Invocation.perform (files : Files) (supply : IdSupply) : Invocation → Outcome × IdSupply
  | .version => ({ code := 0, output := versionText }, supply)
  | .help verb => ({ code := 0, output := helpText verb }, supply)
  | .run settings action =>
      match act files supply settings action with
      | .ok (output, supply) => ({ code := 0, output }, supply)
      | .error f => ({ code := 1, errors := f.text }, supply)

/-- Run the command line. Arguments that ask for nothing there is are an error of their own. -/
def run (files : Files) (supply : IdSupply) (arguments : List String) : Outcome × IdSupply :=
  match parse arguments with
  | some invocation => invocation.perform files supply
  | none =>
      ({ code := 2, errors := "error: unexpected arguments\n\n" ++ usageLine ++ "\n" }, supply)

end HandlerStudio.Cli
