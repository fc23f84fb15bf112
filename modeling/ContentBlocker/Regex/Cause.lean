import ContentBlocker.Text.Place
import ContentBlocker.Text.Quoted

/-!
# Why a pattern is refused

A pattern is refused as malformed, with a cause and a place, or for a reason that lies outside the
grammar: a number or a width beyond the bounds of the notation.  `Refusal.message` gives the wording
of both.
-/

namespace ContentBlocker.Regex

/-- What is wrong with a malformed pattern. -/
inductive Cause where
  | trailingBackslash
  | badEscape (escape : List Char)
  | incompleteEscape (escape : List Char)
  | octalTooLarge (escape : List Char)
  | missingBrace
  | missingName (what : String)
  | unterminatedName (terminator : Char)
  | undefinedCharacter (name : List Char)
  | unterminatedSet
  | badRange (first last : List Char)
  | nothingToRepeat
  | multipleRepeat
  | leastAboveMost
  | unexpectedEnd
  | unknownExtension (extension : List Char)
  | unterminatedComment
  | unterminatedGroup
  | unbalanced
  | badGroupName (name : List Char)
  | unknownGroupName (name : List Char)
  | renamedGroup (name : List Char) (number earlier : Nat)
  | invalidReference (number : Nat)
  | badGroupNumber
  | openGroup
  | groupOfSameLookBehind
  | manyBranches
  | lateGlobalFlags
  | unknownFlag
  | missingFlag
  | missingFlagEnd
  | missingColon
  | localeFlag
  | conflictingFlags
  | globalFlagOn
  | globalFlagOff
  | characterFlagOff
  | flagOnAndOff
  | templateRepeat (operator : String)
  | variableLookBehind
deriving DecidableEq, Repr

def Cause.message : Cause → String
  | trailingBackslash => "bad escape (end of pattern)"
  | badEscape e => "bad escape " ++ String.ofList e
  | incompleteEscape e => "incomplete escape " ++ String.ofList e
  | octalTooLarge e => "octal escape value " ++ String.ofList e ++ " outside of range 0-0o377"
  | missingBrace => "missing \x7b"
  | missingName what => "missing " ++ what
  | unterminatedName c => "missing " ++ c.toString ++ ", unterminated name"
  | undefinedCharacter n => "undefined character name " ++ Text.quoted (String.ofList n)
  | unterminatedSet => "unterminated character set"
  | badRange a b => "bad character range " ++ String.ofList a ++ "-" ++ String.ofList b
  | nothingToRepeat => "nothing to repeat"
  | multipleRepeat => "multiple repeat"
  | leastAboveMost => "min repeat greater than max repeat"
  | unexpectedEnd => "unexpected end of pattern"
  | unknownExtension e => "unknown extension ?" ++ String.ofList e
  | unterminatedComment => "missing ), unterminated comment"
  | unterminatedGroup => "missing ), unterminated subpattern"
  | unbalanced => "unbalanced parenthesis"
  | badGroupName n => "bad character in group name " ++ Text.quoted (String.ofList n)
  | unknownGroupName n => "unknown group name " ++ Text.quoted (String.ofList n)
  | renamedGroup n number earlier =>
    "redefinition of group name " ++ Text.quoted (String.ofList n) ++
      s!" as group {number}; was group {earlier}"
  | invalidReference n => s!"invalid group reference {n}"
  | badGroupNumber => "bad group number"
  | openGroup => "cannot refer to an open group"
  | groupOfSameLookBehind =>
    "cannot refer to group defined in the same lookbehind subpattern"
  | manyBranches => "conditional backref with more than two branches"
  | lateGlobalFlags => "global flags not at the start of the expression"
  | unknownFlag => "unknown flag"
  | missingFlag => "missing flag"
  | missingFlagEnd => "missing -, : or )"
  | missingColon => "missing :"
  | localeFlag => "bad inline flags: cannot use 'L' flag with a str pattern"
  | conflictingFlags => "bad inline flags: flags 'a', 'u' and 'L' are incompatible"
  | globalFlagOn => "bad inline flags: cannot turn on global flag"
  | globalFlagOff => "bad inline flags: cannot turn off global flag"
  | characterFlagOff => "bad inline flags: cannot turn off flags 'a', 'u' and 'L'"
  | flagOnAndOff => "bad inline flags: flag turned on and off"
  | templateRepeat operator => "internal: unsupported template operator " ++ operator
  | variableLookBehind => "look-behind requires fixed-width pattern"

/-- Why a pattern is refused.  The place of a malformed pattern is given by the number of
characters left there; some causes belong to no place. -/
inductive Refusal where
  | malformed (cause : Cause) (remaining : Option Nat)
  /-- a bound of a repetition is out of range -/
  | repetitionTooLarge
  /-- a bound of a repetition has too many digits -/
  | numeralTooLong (digits : Nat)
  /-- the code of a character does not fit a signed number of 32 bits -/
  | codeTooLarge
  /-- the pattern asks for ASCII and for Unicode classes -/
  | asciiAndUnicode
  /-- a look-behind is too wide for the matcher -/
  | lookBehindTooWide
deriving DecidableEq, Repr

/-- The cause and the place of a malformed pattern; line and column are added to the offset if the
pattern has more than one line. -/
def placed (pattern : List Char) (cause : Cause) (remaining : Nat) : String :=
  let place := Text.Place.before pattern remaining
  s!"{cause.message} at position {place.offset}" ++
    if pattern.contains '\n' then s!" (line {place.line}, column {place.column})" else ""

def Refusal.message (pattern : List Char) : Refusal → String
  | malformed cause none => cause.message
  | malformed cause (some remaining) => placed pattern cause remaining
  | repetitionTooLarge => "the repetition number is too large"
  | numeralTooLong digits =>
    "Exceeds the limit (4300 digits) for integer string conversion: " ++
      s!"value has {digits} digits; " ++
      "use sys.set_int_max_str_digits() to increase the limit"
  | codeTooLarge => "Python int too large to convert to C int"
  | asciiAndUnicode => "ASCII and UNICODE flags are incompatible"
  | lookBehindTooWide => "invalid SRE code"

end ContentBlocker.Regex
