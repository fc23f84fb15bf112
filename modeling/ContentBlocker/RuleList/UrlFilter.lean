import ContentBlocker.Text.Basic

/-!
# Filters of addresses

A rule filters addresses by a text in which some characters have a meaning: two bars at the start
stand for any text before the filter, one bar at the start or the end for that end of the address, a
star for any text and a caret for a separator.  `tokens` takes a filter apart, and `pattern` writes
its tokens as a pattern of a rule list, where every other character stands for itself.
-/

namespace ContentBlocker.RuleList.UrlFilter

inductive Token where
  | anyText
  | separator
  | start
  | stop
  | char (p : CodePoint)
deriving DecidableEq, Repr

/-! ## Tokens of a filter -/

/-- The token of a character between the ends of a filter. -/
def tokenOf (p : CodePoint) : Token :=
  if p = '*' then .anyText else if p = '^' then .separator else .char p

/-- The bars at the start of a filter, and what follows them. -/
def splitStart (s : Text) : List Token × Text :=
  match Text.behind? "||" s, Text.behind? "|" s with
  | some rest, _ => ([.anyText], rest)
  | none, some rest => ([.start], rest)
  | none, none => ([], s)

/-- A filter without the bar at its end, and that bar. -/
def splitStop (s : Text) : Text × List Token :=
  if s.getLast? = some '|' then (s.dropLast, [.stop]) else (s, [])

def tokens (filter : Text) : List Token :=
  let (first, rest) := splitStart filter
  let (middle, last) := splitStop rest
  first ++ middle.map tokenOf ++ last

/-! ## Patterns -/

/-- Characters that have a meaning in patterns. -/
def specials : Text := "\\.+?()[]\x7b\x7d$|"

def Token.pattern : Token → Text
  | anyText => ".*"
  | separator => "[/:?]"
  | start => "^"
  | stop => "$"
  | char p => if specials.contains p then ['\\', p] else [p]

/-- The pattern of a rule list that a filter stands for. -/
def pattern (filter : Text) : Text := (tokens filter).flatMap Token.pattern

/-- The pattern that every address matches. -/
def matchAll : Text := Token.anyText.pattern

end ContentBlocker.RuleList.UrlFilter
