import ContentBlocker.Text.Basic
import ContentBlocker.Text.CaseTable

/-!
# Lower case

The lower-case form of a text by the full Unicode mapping.  Two letters do not map to one fixed
letter: the capital I with a dot becomes two characters, and the capital sigma becomes a final
sigma at the end of a word, that is, after a cased letter and not before one, where the
case-ignorable characters in between do not count.
-/

namespace ContentBlocker.Text

/-- The lower-case form of a code point that does not depend on its neighbours. -/
def lowerOne (p : CodePoint) : Text :=
  if p = 'İ' then ['i', '\u0307']
  else
    let n := p.toNat
    match caseRuns.find? fun run =>
      run.first ≤ n && n ≤ run.last && (n - run.first) % run.step = 0 with
    | some run => [.ofNat (n + run.shift).toNat]
    | none => [p]

/-- Whether the nearest character that is not case-ignorable exists and has case. -/
def meetsCased (s : Text) : Bool :=
  match s.dropWhile (caseIgnorable.has ·.toNat) with
  | [] => false
  | p :: _ => cased.has p.toNat

/-- The lower-case form of a code point between two texts, the first with its end in front. -/
def lowerAmid (before after : Text) (p : CodePoint) : Text :=
  if p ≠ 'Σ' then lowerOne p
  else if meetsCased before && !meetsCased after then ['ς']
  else ['σ']

/-- Lower case of a text; the first argument is what stands before it, nearest first. -/
def lowerAfter : Text → Text → Text
  | _, [] => []
  | before, p :: rest =>
    lowerAmid before rest p ++ lowerAfter (p :: before) rest

def lower (s : Text) : Text := lowerAfter [] s

end ContentBlocker.Text
