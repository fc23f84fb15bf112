/-!
# Names of Hangul syllables

A syllable is named for its sounds: a consonant, which may be silent, a vowel and a consonant,
which may be absent.  The syllables are in the order of their sounds.
-/

namespace ContentBlocker.Text.CharacterName

def leadingSounds : List String :=
  ["G", "GG", "N", "D", "DD", "R", "M", "B", "BB", "S", "SS", "", "J", "JJ", "C", "K", "T", "P",
    "H"]

def vowels : List String :=
  ["A", "AE", "YA", "YAE", "EO", "E", "YEO", "YE", "O", "WA", "WAE", "OE", "YO", "U", "WEO", "WE",
    "WI", "YU", "EU", "YI", "I"]

def trailingSounds : List String :=
  ["", "G", "GG", "GS", "N", "NJ", "NH", "D", "L", "LG", "LM", "LB", "LS", "LT", "LP", "LH", "M",
    "B", "BS", "S", "SS", "NG", "J", "C", "K", "T", "P", "H"]

/-- The code point of the first syllable. -/
def firstSyllable : Nat := 0xAC00

/-- The longest sound that a text begins with: its position and the rest of the text. -/
def longestSound? (sounds : List String) (s : List Char) : Option (Nat × List Char) :=
  sounds.zipIdx.foldl
    (fun best (sound, i) =>
      match sound.toList.isPrefixOf? s, best with
      | some rest, some (j, shortest) =>
        if rest.length < shortest.length then some (i, rest) else some (j, shortest)
      | some rest, none => some (i, rest)
      | none, best => best)
    none

/-- The code point of the syllable with given sounds. -/
def syllable? (s : List Char) : Option Nat := do
  let (lead, s) ← longestSound? leadingSounds s
  let (vowel, s) ← longestSound? vowels s
  let (trail, s) ← longestSound? trailingSounds s
  if s.isEmpty then
    some (firstSyllable + (lead * vowels.length + vowel) * trailingSounds.length + trail)
  else none

end ContentBlocker.Text.CharacterName
