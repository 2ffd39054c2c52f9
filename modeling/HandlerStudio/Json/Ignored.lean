import HandlerStudio.Json.Reader

/-!
# Passing over values

The value of an entry that nobody asks for is passed over. It has to be well formed, but its
brackets may nest without limit, its numbers may have any size, and escapes in its strings may name
any code unit.
-/

namespace HandlerStudio

namespace Json.Read

/-- Pass over the digits after the mark of an exponent. -/
def ignoredExponent (cs : List Char) : Except Fault (List Char) :=
  let cs :=
    match cs with
    | '+' :: rest => rest
    | '-' :: rest => rest
    | _ => cs
  match cs with
  | c :: rest => if c.isDigit then .ok (skipDigits rest) else .error .malformed
  | [] => .error .malformed

/-- Pass over what follows the digits of a decimal. -/
def ignoredAfterDigits : List Char → Except Fault (List Char)
  | 'e' :: cs => ignoredExponent cs
  | 'E' :: cs => ignoredExponent cs
  | cs => .ok cs

/-- Pass over what follows the first digits of a number. -/
def ignoredAfterWhole : List Char → Except Fault (List Char)
  | '.' :: c :: cs =>
      if c.isDigit then ignoredAfterDigits (skipDigits cs) else .error .malformed
  | '.' :: [] => .error .malformed
  | cs => ignoredAfterDigits cs

/-- Pass over a number without its sign. -/
def ignoredUnsigned : List Char → Except Fault (List Char)
  | [] => .error .malformed
  | '0' :: c :: cs => if c.isDigit then .error .malformed else ignoredAfterWhole (c :: cs)
  | c :: cs => if c.isDigit then ignoredAfterWhole (skipDigits cs) else .error .malformed

/-- Pass over a number. -/
def ignoredNumber : List Char → Except Fault (List Char)
  | '-' :: cs => ignoredUnsigned cs
  | cs => ignoredUnsigned cs

/-- Pass over what follows a backslash. -/
def ignoredEscape : List Char → Except Fault (List Char)
  | [] => .error .truncated
  | 'u' :: cs => do
      let (_, cs) ← hexQuad cs
      return cs
  | c :: cs => if "\"\\/bfnrt".toList.contains c then .ok cs else .error .malformed

/-- Pass over the characters of a string and its closing quote. -/
def ignoredString : (fuel : List Char) → List Char → Except Fault (List Char)
  | _, [] => .error .truncated
  | [], _ => .error .truncated
  | _ :: fuel, c :: cs =>
      if c = '"' then .ok cs
      else if c = '\\' then do ignoredString fuel (← ignoredEscape cs)
      else if c < ' ' then .error .malformed
      else ignoredString fuel cs

/-- Pass over a key and its colon. -/
def ignoredKey (cs : List Char) : Except Fault (List Char) :=
  match skipSpace cs with
  | [] => .error .truncated
  | '"' :: cs => do colon (← ignoredString cs cs)
  | _ => .error .malformed

/-- Pass over a value that opens no bracket. -/
def ignoredScalar : List Char → Except Fault (List Char)
  | 'n' :: cs => word ['u', 'l', 'l'] cs
  | 't' :: cs => word ['r', 'u', 'e'] cs
  | 'f' :: cs => word ['a', 'l', 's', 'e'] cs
  | '"' :: cs => ignoredString cs cs
  | c :: cs => if startsNumber c then ignoredNumber (c :: cs) else .error .malformed
  | [] => .error .truncated

/-- A bracket that is open. -/
inductive Bracket where
  | list
  | object
deriving DecidableEq

/-- Pass over what is left of a value: `atValue` says whether one starts here or has just ended,
`opened` are the brackets around it, innermost first. Each step takes one character of the fuel. -/
def ignoredFrom : (fuel : List Char) → (atValue : Bool) → (opened : List Bracket) → List Char →
    Except Fault (List Char)
  | _, false, [], cs => .ok cs
  | [], _, _, _ => .error .truncated
  | _ :: fuel, true, opened, cs =>
      match skipSpace cs with
      | '[' :: cs =>
          match skipSpace cs with
          | [] => .error .truncated
          | ']' :: cs => ignoredFrom fuel false opened cs
          | cs => ignoredFrom fuel true (.list :: opened) cs
      | '\x7b' :: cs =>
          match skipSpace cs with
          | [] => .error .truncated
          | '\x7d' :: cs => ignoredFrom fuel false opened cs
          | cs => do ignoredFrom fuel true (.object :: opened) (← ignoredKey cs)
      | cs => do ignoredFrom fuel false opened (← ignoredScalar cs)
  | _ :: fuel, false, bracket :: opened, cs =>
      match skipSpace cs with
      | [] => .error .truncated
      | c :: cs =>
          if c = ',' then
            match bracket with
            | .list => ignoredFrom fuel true (.list :: opened) cs
            | .object => do ignoredFrom fuel true (.object :: opened) (← ignoredKey cs)
          else if (c = ']' ∧ bracket = .list) ∨ (c = '\x7d' ∧ bracket = .object) then
            ignoredFrom fuel false opened cs
          else .error .malformed

/-- Pass over a value. -/
def ignored (cs : List Char) : Except Fault (List Char) :=
  ignoredFrom cs true [] cs

end Json.Read

end HandlerStudio
