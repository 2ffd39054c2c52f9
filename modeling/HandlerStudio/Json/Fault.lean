import HandlerStudio.Number.Basic
import HandlerStudio.Text.Quoted

/-!
# Faults of reading

Reading stops at the first fault. A text can be malformed, it can end too early, or it can be well
formed and say something other than what is expected. Only the last kind has a message.
-/

namespace HandlerStudio

namespace Json

/-- What stood where something else was expected. -/
inductive Found where
  | null
  | bool (value : Bool)
  | int (value : Int)
  | float (value : Double)
  | string (value : String)
  | sequence
  | map
deriving DecidableEq

/-- Something other than what was expected. -/
inductive Mismatch where
  | wrongType (found : Found) (expected : String)
  | wrongValue (found : Found) (expected : String)
  | wrongLength (length : Nat) (expected : String)
  | missingField (name : String)
  | duplicateField (name : String)
  | unknownVariant (name : String) (allowed : List String)
  /-- The data was read and then refused, for this reason. -/
  | refused (reason : String)
deriving DecidableEq

inductive Fault where
  | malformed
  | truncated
  | mismatch (cause : Mismatch)
deriving DecidableEq

/-- A number where something else was expected. -/
def Found.ofNumber : Number → Found
  | .int z => .int z
  | .float x => .float x

def Found.describe : Found → String
  | .null => "null"
  | .bool b => "boolean `" ++ (if b then "true" else "false") ++ "`"
  | .int z => "integer `" ++ String.ofList (Number.intText z) ++ "`"
  | .float x => "floating point `" ++ String.ofList x.text ++ "`"
  | .string s => "string " ++ Text.quoted s
  | .sequence => "sequence"
  | .map => "map"

/-- A list of names to choose from. -/
def alternatives : List String → String
  | [] => "there are no variants"
  | [a] => "`" ++ a ++ "`"
  | [a, b] => "`" ++ a ++ "` or `" ++ b ++ "`"
  | names => "one of " ++ ", ".intercalate (names.map fun a => "`" ++ a ++ "`")

/-! ## Messages

A reason may come from outside and end with a place, as in `unknown at line 3 column 14`. Places are
no part of messages, so it is cut off. -/

/-- The characters after a word that stands here. -/
def afterWord? (word cs : List Char) : Option (List Char) :=
  if word.isPrefixOf cs then some (cs.drop word.length) else none

/-- The characters after a number that stands here and fits 64 bits. -/
def afterNumber? (cs : List Char) : Option (List Char) :=
  let digits := cs.takeWhile Char.isDigit
  let value := digits.foldl (fun n c => n * 10 + (c.toNat - '0'.toNat)) 0
  if digits.isEmpty || unsignedLimit ≤ value then none else some (cs.dropWhile Char.isDigit)

/-- Whether the characters are a place and nothing more. -/
def isPlace (cs : List Char) : Bool :=
  let rest := do
    let line ← afterNumber? (← afterWord? " at line ".toList cs)
    afterNumber? (← afterWord? " column ".toList line)
  rest.any List.isEmpty

/-- The characters up to a place at the end. -/
def dropPlace : List Char → List Char
  | [] => []
  | c :: cs => if isPlace (c :: cs) then [] else c :: dropPlace cs

def Mismatch.message : Mismatch → String
  | .wrongType found expected => "invalid type: " ++ found.describe ++ ", expected " ++ expected
  | .wrongValue found expected => "invalid value: " ++ found.describe ++ ", expected " ++ expected
  | .wrongLength n expected => s!"invalid length {n}, expected " ++ expected
  | .missingField name => "missing field `" ++ name ++ "`"
  | .duplicateField name => "duplicate field `" ++ name ++ "`"
  | .unknownVariant name allowed =>
      "unknown variant `" ++ name ++ "`, expected " ++ alternatives allowed
  | .refused reason => String.ofList (dropPlace reason.toList)

end Json

end HandlerStudio
