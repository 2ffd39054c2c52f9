import HandlerStudio.Preview.Generator
import HandlerStudio.Text.Lowercase

/-!
# What a preview shows

Of several files the preview shows the first whose name contains that of the handler, whatever the
case of its letters, and else the first of all.
-/

namespace HandlerStudio

/-- Whether `needle` occurs somewhere in the characters. -/
def Text.occursIn (needle : List Char) : List Char → Bool
  | [] => needle.isEmpty
  | c :: cs => needle.isPrefixOf (c :: cs) || occursIn needle cs

inductive Display where
  | empty
  | source (file : Option String) (files : List String) (text : String)
  | error (message : String)
deriving DecidableEq, Repr

namespace Display

def text? : Display → Option String
  | .source _ _ text => some text
  | _ => none

def file? : Display → Option String
  | .source file _ _ => file
  | _ => none

def isError : Display → Bool
  | .error _ => true
  | _ => false

/-- Whether a file name contains the name of the artifact, which is given in lower case. -/
def nameMatches (needle : List Char) (name : String) : Bool :=
  !needle.isEmpty && Text.occursIn needle (Text.lowercase name).toList

/-- The place of the file to show. -/
def pick (names : List String) (artifact : String) : Option Nat :=
  match names.findIdx? (nameMatches (Text.lowercase artifact).toList) with
  | some i => some i
  | none => if names.isEmpty then none else some 0

/-- How an output is shown. -/
def ofOutput (artifact : String) : Output → Display
  | .source text => .source none [] text
  | .files files =>
      match pick (files.map Prod.fst) artifact with
      | none => .empty
      | some i =>
          let shown := files.getD i ("", "")
          .source (some shown.1) (files.map Prod.fst) shown.2

/-- How an answer is shown. -/
def ofResult (artifact : String) : Except GeneratorError Output → Display
  | .ok output => ofOutput artifact output
  | .error e => .error e.message

end Display

end HandlerStudio
