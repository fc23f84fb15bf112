import ContentBlocker.Text.DecimalDigit
import ContentBlocker.Text.Quoted

/-!
# The command line of the offline compiler

The words of a command line are told apart first, all of them, and then read from left to right.
An option may be shortened to a beginning that no other option has, and may carry its value behind
an equals sign.  The rule files are the first run of words that are no options; after `--` no word
is one.
-/

namespace ContentBlocker.Offline

/-- What a command line asks for. -/
structure Arguments where
  ruleFiles : List String
  /-- where the rule list goes, if that is a path -/
  out : Option String
  /-- where the report goes, if there is to be one -/
  report : Option String
  /-- whether the rule list is checked before it is written -/
  validates : Bool
deriving DecidableEq, Repr

/-! ## Options -/

inductive Switch where
  | help
  | out
  | report
  | noValidate
deriving DecidableEq, Repr

namespace Switch

/-- The spellings of an option. -/
def spellings : Switch → List String
  | help => ["-h", "--help"]
  | out => ["--out"]
  | report => ["--report"]
  | noValidate => ["--no-validate"]

/-- Whether an option needs a value; the others take none. -/
def takesValue : Switch → Bool
  | out | report => true
  | help | noValidate => false

/-- An option in messages. -/
def title (s : Switch) : String := "/".intercalate s.spellings

def all : List Switch := [help, out, report, noValidate]

/-- All spellings with their options. -/
def table : List (String × Switch) := all.flatMap fun s => s.spellings.map (·, s)

end Switch

/-- What is wrong with a command line. -/
inductive ArgumentFault where
  | ambiguous (word : String) (spellings : List String)
  | valueMissing (option : Switch)
  | valueNotTaken (option : Switch) (value : String)
  | missing (names : List String)
  | unrecognized (words : List String)
deriving DecidableEq, Repr

def ArgumentFault.message : ArgumentFault → String
  | ambiguous word spellings =>
    s!"ambiguous option: {word} could match " ++ ", ".intercalate spellings
  | valueMissing option => s!"argument {option.title}: expected one argument"
  | valueNotTaken option value =>
    s!"argument {option.title}: ignored explicit argument {Text.quoted value}"
  | missing names => "the following arguments are required: " ++ ", ".intercalate names
  | unrecognized words => "unrecognized arguments: " ++ " ".intercalate words

/-- Why a command line asks for no compilation. -/
inductive Stop where
  | help
  | fault (f : ArgumentFault)
deriving DecidableEq, Repr

/-- The exit status when nothing is compiled. -/
def Stop.status : Stop → Nat
  | help => 0
  | fault _ => 2

/-! ## Words -/

/-- What a word of a command line is. -/
inductive Word where
  | argument (text : String)
  /-- after it all words are arguments -/
  | separator
  /-- an option, with the value in the same word -/
  | option (switch : Switch) (value : Option String)
  | unknown (text : String)
deriving DecidableEq, Repr

/-- A word's part before the first equals sign, and what follows the sign. -/
def splitAtEquals (s : List Char) : List Char × Option (List Char) :=
  match s.span (· ≠ '=') with
  | (name, _ :: value) => (name, some value)
  | (name, []) => (name, none)

/-- A one-letter option with what stands behind it in the same word: its letter may be repeated, and
all else is a value. -/
def clustered (switch : Switch) (letter : Char) (rest : List Char) : Word :=
  let value := rest.dropWhile (· = letter)
  .option switch (if rest ≠ [] ∧ value = [] then none else some (String.ofList value))

/-- Whether a word that looks like an option is a negative number; a line break may end it. -/
def isNegativeNumber (s : List Char) : Bool :=
  let s := if s.getLast? = some '\n' then s.dropLast else s
  let isDigit (c : Char) : Bool := (Text.digitValue? c).isSome
  match s with
  | '-' :: digits =>
    match digits.span isDigit with
    | (whole, []) => !whole.isEmpty
    | (_, '.' :: places) => !places.isEmpty && places.all isDigit
    | _ => false
  | _ => false

/-- The spellings that a word shortens. -/
def shortened (name : List Char) : List (String × Switch) :=
  Switch.table.filter fun (spelling, _) => name.isPrefixOf spelling.toList

/-- A word with a dash in front that is no spelling of an option. -/
def classifyRest (text : String) (s : List Char) : Word :=
  if isNegativeNumber s || s.contains ' ' then .argument text else .unknown text

/-- A word that begins with a dash and is more than that. -/
def classifyDashed (text : String) (s : List Char) : Except Stop Word :=
  let (name, value) := splitAtEquals s
  match Switch.table.lookup text, Switch.table.lookup (String.ofList name) with
  | some switch, _ => .ok (.option switch none)
  | none, some switch =>
    if name = ['-', 'h'] then .ok (clustered switch 'h' (value.getD []))
    else .ok (.option switch (value.map String.ofList))
  | none, none =>
    match s with
    | '-' :: '-' :: _ =>
      match shortened name with
      | [] => .ok (classifyRest text s)
      | [(_, switch)] => .ok (.option switch (value.map String.ofList))
      | several => .error (.fault (.ambiguous text (several.map (·.1))))
    | '-' :: 'h' :: rest => .ok (clustered .help 'h' rest)
    | _ => .ok (classifyRest text s)

def classify (text : String) : Except Stop Word :=
  match text.toList with
  | '-' :: c :: rest => classifyDashed text ('-' :: c :: rest)
  | _ => .ok (.argument text)

/-- What the words of a command line are. -/
def wordsOf : List String → Except Stop (List Word)
  | [] => .ok []
  | text :: rest =>
    if text = "--" then .ok (.separator :: rest.map .argument)
    else do
      let word ← classify text
      let words ← wordsOf rest
      return word :: words

/-! ## Reading -/

/-- How far the run of rule files is. -/
inductive Progress where
  | before
  | within
  | after
deriving DecidableEq, Repr

/-- What the words read so far ask for. -/
structure Given where
  progress : Progress
  ruleFiles : List String
  /-- the value of the option for the rule list, if the option was given -/
  out : Option (Option String)
  report : Option String
  validates : Bool
  unrecognized : List String

namespace Given

def none : Given := ⟨.before, [], Option.none, Option.none, true, []⟩

/-- A word that is no argument ends the run of rule files. -/
def endRun (g : Given) : Given :=
  { g with progress := if g.progress = .before then .before else .after }

def addArgument (g : Given) (text : String) : Given :=
  match g.progress with
  | .after => { g with unrecognized := g.unrecognized ++ [text] }
  | _ => { g with progress := .within, ruleFiles := g.ruleFiles ++ [text] }

def addSeparator (g : Given) : Given :=
  match g.progress with
  | .after => { g with unrecognized := g.unrecognized ++ ["--"] }
  | _ => g

def addUnknown (g : Given) (text : String) : Given :=
  { g.endRun with unrecognized := g.unrecognized ++ [text] }

/-- The path that the value of an option is; two dashes are none. -/
def pathOf? (value : String) : Option String := if value = "--" then Option.none else some value

/-- Sets what an option sets. -/
def setValue (g : Given) (switch : Switch) (value : String) : Given :=
  match switch with
  | .out => { g.endRun with out := some (pathOf? value) }
  | .report => { g.endRun with report := (pathOf? value).filter (· ≠ "") }
  | .noValidate => { g.endRun with validates := false }
  | .help => g.endRun

def read (g : Given) : List Word → Except Stop Given
  | [] => .ok g
  | .argument text :: rest => read (g.addArgument text) rest
  | .separator :: rest => read g.addSeparator rest
  | .unknown text :: rest => read (g.addUnknown text) rest
  | .option switch value :: rest =>
    if switch.takesValue then
      match value, rest with
      | some value, rest => read (g.setValue switch value) rest
      | Option.none, .argument value :: rest => read (g.setValue switch value) rest
      | Option.none, _ => .error (.fault (.valueMissing switch))
    else
      match value with
      | some value => .error (.fault (.valueNotTaken switch value))
      | Option.none => if switch = .help then .error .help else read (g.setValue switch "") rest

/-- What is asked for, if nothing is missing and nothing is left over. -/
def finish (g : Given) : Except Stop Arguments :=
  let absent := (if g.ruleFiles.isEmpty then ["rule_files"] else []) ++
    (if g.out.isNone then ["--out"] else [])
  match g.out with
  | some out =>
    if !absent.isEmpty then .error (.fault (.missing absent))
    else if !g.unrecognized.isEmpty then .error (.fault (.unrecognized g.unrecognized))
    else .ok ⟨g.ruleFiles, out, g.report, g.validates⟩
  | Option.none => .error (.fault (.missing absent))

end Given

/-- What a command line asks for. -/
def Arguments.ofStrings (texts : List String) : Except Stop Arguments := do
  let words ← wordsOf texts
  let given ← Given.none.read words
  given.finish

/-! ## Help -/

def usage : String :=
  "usage: dnr_compile [-h] --out OUT [--report REPORT] [--no-validate] rule_files [rule_files ...]"

def help : String :=
  "\n".intercalate
    [usage, "",
      "Compile declarativeNetRequest rule files into a content-blocker rule list.", "",
      "positional arguments:",
      "  rule_files       JSON files, each an array of rules", "",
      "options:",
      "  -h, --help       show this help message and exit",
      "  --out OUT        Path to write the rule list JSON",
      "  --report REPORT  Optional path for a JSON report",
      "  --no-validate    Skip target document validation", ""]

end ContentBlocker.Offline
