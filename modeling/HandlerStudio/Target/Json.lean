import HandlerStudio.Json.Basic
import HandlerStudio.Json.Ignored
import HandlerStudio.Json.Record
import HandlerStudio.Target.Basic

/-!
# Targets as structured data

A target is written as an object with the names of its language and its framework.
-/

namespace HandlerStudio

/-- Languages by name. -/
def Language.choices : List (String × Language) := all.map fun l => (l.name, l)

/-- Frameworks by name. -/
def Framework.choices : List (String × Framework) := all.map fun f => (f.name, f)

namespace Target

def toJson (t : Target) : Json :=
  .object [("language", .string t.language.name), ("framework", .string t.framework.name)]

/-- A pair as read, which may not go together. -/
structure Parts where
  language? : Option Language := none
  framework? : Option Framework := none

/-- Read an entry; keys that mean nothing here are passed over. -/
def Parts.entry (limit : Nat) (p : Parts) (key : String) (cs : List Char) :
    Except Json.Fault (Parts × List Char) := do
  if key = "language" then
    let (l, cs) ← Json.Read.setOnce key p.language? (Json.Read.choice Language.choices limit) cs
    return ({ p with language? := l }, cs)
  else if key = "framework" then
    let (f, cs) ← Json.Read.setOnce key p.framework? (Json.Read.choice Framework.choices limit) cs
    return ({ p with framework? := f }, cs)
  else
    return (p, ← Json.Read.ignored (← Json.Read.colon cs))

/-- The pair as an object. -/
def readEntries : Json.Reader (Language × Framework)
  | limit, cs => do
      let (p, cs) ← Json.Read.members (Parts.entry limit) {} cs
      let l ← Json.Read.require "language" p.language?
      let f ← Json.Read.require "framework" p.framework?
      return ((l, f), cs)

/-- The fault of a list with too few fields. -/
def tooShort (n : Nat) : Json.Fault :=
  .mismatch (.wrongLength n "struct TargetRepr with 2 elements")

/-- The pair as a list. -/
def readFields : Json.Reader (Language × Framework)
  | limit, cs => do
      match ← Json.Read.nextItem true cs with
      | .closed _ => throw (tooShort 0)
      | .another cs =>
          let (l, cs) ← Json.Read.choice Language.choices limit cs
          match ← Json.Read.nextItem false cs with
          | .closed _ => throw (tooShort 1)
          | .another cs =>
              let (f, cs) ← Json.Read.choice Framework.choices limit cs
              return ((l, f), ← Json.Read.endList cs)

/-- Read a target. The pair is checked once it is read. -/
def read : Json.Reader Target
  | limit, cs => do
      let ((l, f), cs) ← Json.Read.record "struct TargetRepr" readFields readEntries limit cs
      match make l f with
      | .ok t => return (t, cs)
      | .error e => throw (.mismatch (.refused e.message))

end Target

end HandlerStudio
