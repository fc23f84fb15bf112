import ContentBlocker.Regex.Cause

/-!
# The shape of a pattern

Whether a pattern is accepted depends on its shape alone: on what may be repeated and on how many
characters each part can match.  A node therefore keeps no characters.  `width` gives the least and
greatest number of characters that a node matches, and `review` looks for repetitions and
look-behinds that the matcher cannot run.
-/

namespace ContentBlocker.Regex

/-! ## Widths -/

/-- The least and the greatest number of characters of a match. -/
structure Width where
  least : Nat
  most : Nat
deriving DecidableEq, Repr

/-- Greatest widths are not told apart from here on, and least widths from one below.  So a part
that is too wide to be measured has no fixed width. -/
def widthBound : Nat := Nat.pow 2 32 - 1

namespace Width

def clip (w : Width) : Width := ⟨min w.least (widthBound - 1), min w.most widthBound⟩

def add (v w : Width) : Width := clip ⟨v.least + w.least, v.most + w.most⟩

def choose (v w : Width) : Width := ⟨min v.least w.least, max v.most w.most⟩

/-- The width of a repetition; without a greatest count the width is unbounded unless the repeated
part is empty. -/
def scale (w : Width) (least : Nat) (most : Option Nat) : Width :=
  clip ⟨w.least * least,
    match most with
    | some n => w.most * n
    | none => if w.most = 0 then 0 else widthBound⟩

end Width

/-! ## Nodes -/

/-- How much of what it can a repetition takes. -/
inductive Greed where
  | greedy
  | lazy
  | possessive
deriving DecidableEq, Repr

def Greed.operator : Greed → String
  | greedy => "MAX_REPEAT"
  | lazy => "MIN_REPEAT"
  | possessive => "POSSESSIVE_REPEAT"

inductive Node where
  | empty
  /-- a character, a set of characters or the dot -/
  | unit
  /-- a position such as the start of a line -/
  | anchor
  /-- the text of a closed group again -/
  | backref (width : Width)
  | look (behind : Bool) (body : Node)
  | group (body : Node)
  | seq (first second : Node)
  | choice (first second : Node)
  /-- one of two parts, depending on whether a group has matched -/
  | conditional (yes no : Node)
  | repeated (greed : Greed) (least : Nat) (most : Option Nat) (body : Node)
deriving DecidableEq, Repr, Inhabited

namespace Node

def width : Node → Width
  | empty => ⟨0, 0⟩
  | unit => ⟨1, 1⟩
  | anchor => ⟨0, 0⟩
  | backref w => w
  | look _ _ => ⟨0, 0⟩
  | group body => body.width
  | seq first second => first.width.add second.width
  | choice first second => first.width.choose second.width
  | conditional yes no => yes.width.choose no.width
  | repeated _ least most body => body.width.scale least most

/-- The nodes of a list, one after the other. -/
def ofList (nodes : List Node) : Node := nodes.foldr seq empty

/-- The first part that the matcher cannot run: any repetition of a template, and a look-behind
whose width varies. -/
def review (template : Bool) : Node → Option Cause
  | empty | unit | anchor | backref _ => none
  | look behind body =>
    if behind && body.width.least ≠ body.width.most then some .variableLookBehind
    else review template body
  | group body => review template body
  | seq first second | choice first second | conditional first second =>
    (review template first).or (review template second)
  | repeated greed _ _ body =>
    if template then some (.templateRepeat greed.operator) else review template body

/-- Whether some look-behind is at least `bound` characters wide. -/
def looksBehind (bound : Nat) : Node → Bool
  | empty | unit | anchor | backref _ => false
  | look behind body => (behind && bound ≤ body.width.least) || looksBehind bound body
  | group body | repeated _ _ _ body => looksBehind bound body
  | seq first second | choice first second | conditional first second =>
    looksBehind bound first || looksBehind bound second

end Node

end ContentBlocker.Regex
