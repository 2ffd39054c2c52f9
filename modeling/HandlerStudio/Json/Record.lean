import HandlerStudio.Json.Reader

/-!
# Reading expected values

Readers for values of a known type: texts, truth values, small numbers, lists, choices among names,
and records. A value of another type is a mismatch, unless reading it shows another fault first. A
record may be written as an object or as the list of its fields.
-/

namespace HandlerStudio

namespace Json.Read

/-- The fault of a value that is not of the expected type. The characters start with the value. -/
def wrongType (expected : String) (cs : List Char) : Fault :=
  let found : Except Fault Found :=
    match cs with
    | 'n' :: cs => do let _ ← word ['u', 'l', 'l'] cs; return .null
    | 't' :: cs => do let _ ← word ['r', 'u', 'e'] cs; return .bool true
    | 'f' :: cs => do let _ ← word ['a', 'l', 's', 'e'] cs; return .bool false
    | '"' :: cs => do let (s, _) ← string cs; return .string s
    | '[' :: _ => .ok .sequence
    | '\x7b' :: _ => .ok .map
    | c :: cs =>
        if startsNumber c then do let (n, _) ← number (c :: cs); return .ofNumber n
        else .error .malformed
    | [] => .error .malformed
  match found with
  | .ok found => .mismatch (.wrongType found expected)
  | .error fault => fault

def text (cs : List Char) : Except Fault (String × List Char) :=
  match skipSpace cs with
  | [] => .error .truncated
  | '"' :: cs => string cs
  | cs => .error (wrongType "a string" cs)

/-- The key of an object. Nothing but a string can be one. -/
def key (cs : List Char) : Except Fault (String × List Char) :=
  match skipSpace cs with
  | [] => .error .truncated
  | '"' :: cs => string cs
  | _ => .error .malformed

/-- A text or null. -/
def optionalText (cs : List Char) : Except Fault (Option String × List Char) :=
  match skipSpace cs with
  | 'n' :: cs => do return (none, ← word ['u', 'l', 'l'] cs)
  | cs => do
      let (s, cs) ← text cs
      return (some s, cs)

def boolean (cs : List Char) : Except Fault (Bool × List Char) :=
  match skipSpace cs with
  | [] => .error .truncated
  | 't' :: cs => do return (true, ← word ['r', 'u', 'e'] cs)
  | 'f' :: cs => do return (false, ← word ['a', 'l', 's', 'e'] cs)
  | cs => .error (wrongType "a boolean" cs)

/-- A number from 0 to 255. -/
def byte (cs : List Char) : Except Fault (Nat × List Char) :=
  match skipSpace cs with
  | [] => .error .truncated
  | c :: cs =>
      if startsNumber c then do
        let (n, cs) ← number (c :: cs)
        match n with
        | .int z =>
            if 0 ≤ z ∧ z < 256 then return (z.toNat, cs)
            throw (.mismatch (.wrongValue (.int z) "u8"))
        | .float x => throw (.mismatch (.wrongType (.float x) "u8"))
      else .error (wrongType "u8" (c :: cs))

/-- A list of values. -/
def list (item : Reader α) : Reader (List α)
  | limit, cs =>
      match skipSpace cs with
      | [] => .error .truncated
      | '[' :: cs =>
          match limit with
          | 0 => .error .malformed
          | limit + 1 => items (item limit) cs
      | cs => .error (wrongType "a sequence" cs)

/-- Null, as the value beside a name. -/
def unit (cs : List Char) : Except Fault (List Char) :=
  match skipSpace cs with
  | [] => .error .truncated
  | 'n' :: cs => word ['u', 'l', 'l'] cs
  | cs => .error (wrongType "unit" cs)

/-- The choice that a name stands for. -/
def choose (choices : List (String × α)) (name : String) : Except Fault α :=
  match Entries.get? name choices with
  | some a => .ok a
  | none => .error (.mismatch (.unknownVariant name (choices.map Prod.fst)))

/-- One of several choices, by name: a text, or an object with the name as its one key and null. -/
def choice (choices : List (String × α)) : Reader α
  | limit, cs =>
      match skipSpace cs with
      | [] => .error .truncated
      | '"' :: cs => do
          let (name, cs) ← string cs
          return (← choose choices name, cs)
      | '\x7b' :: cs =>
          match limit with
          | 0 => .error .malformed
          | _ + 1 => do
              let (name, cs) ← key cs
              let a ← choose choices name
              let cs ← unit (← colon cs)
              match skipSpace cs with
              | [] => throw .truncated
              | '\x7d' :: cs => return (a, cs)
              | _ => throw .malformed
      | _ => .error .malformed

/-- The end of a list that holds nothing more. -/
def endList (cs : List Char) : Except Fault (List Char) :=
  match skipSpace cs with
  | [] => .error .truncated
  | ']' :: cs => .ok cs
  | _ => .error .malformed

/-- A record, as a list of its fields or as an object; both readers start after the bracket. -/
def record (expected : String) (fields entries : Reader α) : Reader α
  | limit, cs =>
      match skipSpace cs with
      | [] => .error .truncated
      | '[' :: cs =>
          match limit with
          | 0 => .error .malformed
          | limit + 1 => fields limit cs
      | '\x7b' :: cs =>
          match limit with
          | 0 => .error .malformed
          | limit + 1 => entries limit cs
      | cs => .error (wrongType expected cs)

/-- Read the value of a field, from its colon on, unless the field was given before. -/
def setOnce (name : String) (old : Option α) (read : List Char → Except Fault (α × List Char))
    (cs : List Char) : Except Fault (Option α × List Char) :=
  match old with
  | some _ => .error (.mismatch (.duplicateField name))
  | none => do
      let (a, cs) ← read (← colon cs)
      return (some a, cs)

/-- A field that has to be there. -/
def require (name : String) : Option α → Except Fault α
  | some a => .ok a
  | none => .error (.mismatch (.missingField name))

end Json.Read

end HandlerStudio
