import CardCensus.Json.Structure

/-!
# Values that nobody reads

The rest behind a value, without building it. Lists and objects may be nested to any depth; the open
ones are kept on a stack.
-/

namespace CardCensus.Json

/-- An open bracket. -/
inductive Bracket where
  | list
  | object
  deriving Repr, DecidableEq

namespace Bracket

/-- What closes the bracket. -/
def closing : Bracket → Char
  | list => ']'
  | object => '\x7d'

/-- The document ends inside the bracket. -/
def endCause : Bracket → Cause
  | list => .endInList
  | object => .endInObject

/-- Something other than a comma or the end follows a value inside the bracket. -/
def commaCause : Bracket → Cause
  | list => .expectedListCommaOrEnd
  | object => .expectedObjectCommaOrEnd

end Bracket

/-- What comes next while a value is skipped. -/
inductive SkipState where
  /-- A value. -/
  | value
  /-- The first element of the innermost bracket, or its end. -/
  | opened
  /-- A comma or the end of the innermost bracket. -/
  | afterValue
  deriving Repr, DecidableEq

/-- The rest at the value of the next element of a bracket: for an object, behind the key and its
    colon. -/
def skipToValue (bracket : Bracket) (rest : List Char) : Except Fault (List Char) :=
  match bracket with
  | .list => .ok rest
  | .object => match skipSpace rest with
    | [] => .error (.here .endInObject [])
    | c :: s =>
      if c = '"' then do skipColon (← skipString s)
      else .error (.next .keyMustBeString (c :: s))

/-- The rest behind a word, a number or a string, whose first character is given; nothing for
    others. -/
def skipScalar? (c : Char) (s : List Char) : Option (Except Fault (List Char)) :=
  if c = 'n' then some (skipLetters "ull".toList s)
  else if c = 't' then some (skipLetters "rue".toList s)
  else if c = 'f' then some (skipLetters "alse".toList s)
  else if c = '-' || c.isDigit then some (skipNumber (c :: s))
  else if c = '"' then some (skipString s)
  else none

/-- The rest behind the value under way. Every step takes a character or comes right before one that
    does, so twice the length of the rest bounds their number. -/
def skipFrom : Nat → SkipState → List Bracket → List Char → Except Fault (List Char)
  | 0, _, _, _ => .error (.here .endInValue [])
  | fuel + 1, .value, stack, rest =>
    match skipSpace rest with
    | [] => .error (.here .endInValue [])
    | c :: s =>
      if c = '[' then skipFrom fuel .opened (.list :: stack) s
      else if c = '\x7b' then skipFrom fuel .opened (.object :: stack) s
      else match skipScalar? c s with
        | none => .error (.next .expectedValue (c :: s))
        | some (.error fault) => .error fault
        | some (.ok s) => skipFrom fuel .afterValue stack s
  | _ + 1, _, [], rest => .ok rest
  | fuel + 1, .opened, bracket :: stack, rest =>
    match skipSpace rest with
    | [] => .error (.here bracket.endCause [])
    | c :: s =>
      if c = bracket.closing then skipFrom fuel .afterValue stack s
      else match skipToValue bracket (c :: s) with
        | .error fault => .error fault
        | .ok s => skipFrom fuel .value (bracket :: stack) s
  | fuel + 1, .afterValue, bracket :: stack, rest =>
    match skipSpace rest with
    | [] => .error (.here bracket.endCause [])
    | c :: s =>
      if c = bracket.closing then skipFrom fuel .afterValue stack s
      else if c ≠ ',' then .error (.next bracket.commaCause (c :: s))
      else match skipToValue bracket s with
        | .error fault => .error fault
        | .ok s => skipFrom fuel .value (bracket :: stack) s

/-- The rest behind a value. -/
def skipValue (rest : List Char) : Except Fault (List Char) :=
  skipFrom (2 * rest.length + 2) .value [] rest

end CardCensus.Json
