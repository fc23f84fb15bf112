import ContentBlocker.Json.Number
import ContentBlocker.Regex.Cause

/-!
# Defects

A defect is a failure that no caller is meant to see: an operation met a value that it was not made
for.  Its label and text are shown only where internal errors are exposed.
-/

namespace ContentBlocker

inductive Defect where
  /-- a value of this kind was given where several values were due -/
  | notIterable (kind : String)
  /-- a value of this kind was given where a key was due -/
  | unhashable (kind : String)
  /-- a pattern was refused for a reason that is not its grammar -/
  | pattern (refusal : Regex.Refusal)
  /-- a value of this kind was given where a number was due -/
  | notNumber (kind : String)
  /-- a whole number is out of the range of floating-point numbers -/
  | numberTooLarge
  /-- work was given to a pool that takes no more -/
  | poolClosed
  /-- nothing was given where a path was due -/
  | noPath
deriving DecidableEq, Repr

namespace Defect

def label : Defect → String
  | notIterable _ | unhashable _ | notNumber _ | noPath => "TypeError"
  | pattern .repetitionTooLarge | pattern .codeTooLarge | numberTooLarge => "OverflowError"
  | pattern .lookBehindTooWide => "RuntimeError"
  | pattern _ => "ValueError"
  | poolClosed => "RuntimeError"

def text : Defect → String
  | notIterable kind => s!"'{kind}' object is not iterable"
  | unhashable kind => s!"unhashable type: '{kind}'"
  | pattern refusal => refusal.message []
  | notNumber kind => s!"float() argument must be a string or a real number, not '{kind}'"
  | numberTooLarge => "int too large to convert to float"
  | poolClosed => "cannot schedule new futures after shutdown"
  | noPath => "expected str, bytes or os.PathLike object, not list"

end Defect

/-! ## Values where several values, keys or numbers are due -/

namespace Json

/-- The values that a value stands for where several are due: the elements of an array, the
characters of a text, the keys of an object. -/
def values : Json → Except Defect (List Json)
  | arr items => .ok items
  | str s => .ok (s.map fun p => str [p])
  | obj fields => .ok (Table.keys fields |>.map str)
  | v => .error (.notIterable v.kindName)

/-- As `values`, but a void value stands for none. -/
def valuesOrNone (v : Json) : Except Defect (List Json) :=
  if v.isVoid then .ok [] else v.values

/-- Whether a value can be looked up; arrays and objects cannot. -/
def hashable : Json → Except Defect Unit
  | arr _ => .error (.unhashable (arr []).kindName)
  | obj _ => .error (.unhashable (obj []).kindName)
  | _ => .ok ()

/-- The floating-point number that a value stands for. -/
def real (v : Json) : Except Defect Binary64 :=
  match v.real?, v.integer? with
  | some x, _ => .ok x
  | none, some _ => .error .numberTooLarge
  | none, none => .error (.notNumber v.kindName)

end Json

end ContentBlocker
