import ContentBlocker.Decimal.Shortest
import ContentBlocker.Table
import ContentBlocker.Text.Quoted

/-!
# JSON values

Numbers come in two kinds, whole numbers of any size and 64-bit floating-point numbers, and the two
are never confused.  Strings are texts, in which surrogates may stand alone.  The fields of an
object keep the order in which they were first set.
-/

namespace ContentBlocker

inductive Json where
  | null
  | bool (b : Bool)
  | int (n : Int)
  | float (x : Binary64)
  | str (s : Text)
  | arr (items : List Json)
  | obj (fields : List (Text × Json))
deriving Inhabited

/-- The fields of an object, in order. -/
abbrev Fields := Table Text Json

namespace Json

/-! ## Kinds of values -/

def str? : Json → Option Text
  | str s => some s
  | _ => none

def bool? : Json → Option Bool
  | bool b => some b
  | _ => none

/-- A whole number; `true` and `false` are none. -/
def int? : Json → Option Int
  | int n => some n
  | _ => none

def arr? : Json → Option (List Json)
  | arr items => some items
  | _ => none

def obj? : Json → Option Fields
  | obj fields => some fields
  | _ => none

def isNull : Json → Bool
  | null => true
  | _ => false

/-- Whether a value counts as nothing where a default stands in for nothing: null, false, zero and
everything empty. -/
def isVoid : Json → Bool
  | null => true
  | bool b => !b
  | int n => n = 0
  | float x => x.isZero
  | str s => s.isEmpty
  | arr items => items.isEmpty
  | obj fields => fields.isEmpty

/-- The name of a value's kind in messages. -/
def kindName : Json → String
  | null => "NoneType"
  | bool _ => "bool"
  | int _ => "int"
  | float _ => "float"
  | str _ => "str"
  | arr _ => "list"
  | obj _ => "dict"

mutual

/-- A value as a message shows it, with texts in quotes. -/
def described : Json → String
  | null => "None"
  | bool b => if b then "True" else "False"
  | int n => toString n
  | float x => x.text
  | str s => Text.quoted s
  | arr items => "[" ++ ", ".intercalate (describedItems items) ++ "]"
  | obj fields => "\x7b" ++ ", ".intercalate (describedFields fields) ++ "\x7d"

def describedItems : List Json → List String
  | [] => []
  | v :: rest => described v :: describedItems rest

def describedFields : List (Text × Json) → List String
  | [] => []
  | (k, v) :: rest => (Text.quoted k ++ ": " ++ described v) :: describedFields rest

end

/-- A value as a message shows it, with a text as it is. -/
def shown : Json → Text
  | str s => s
  | v => v.described

/-- Texts as an array. -/
def texts (texts : List Text) : Json := arr (texts.map str)

/-- Strings as an array. -/
def strings (strings : List String) : Json := arr (strings.map fun (s : String) => str s)

/-- Whole numbers as an array. -/
def ints (numbers : List Int) : Json := arr (numbers.map int)

end Json

end ContentBlocker
