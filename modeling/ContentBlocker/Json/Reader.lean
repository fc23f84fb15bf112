import ContentBlocker.Json.Basic
import ContentBlocker.Text.Place

/-!
# Reading JSON

`Json.read` reads one value from a text, with blanks around it.  It accepts the numbers that are no
numbers (`NaN`, `Infinity`, `-Infinity`), refuses whole numbers above a bound of digits, and of an
object's repeated keys keeps the last value.  A fault says where the text stopped being JSON: it
holds the rest of the text at that place, from which line and column follow.

Every loop takes at least one character a round, so `size`, a number above the length of the text,
bounds all of them.
-/

namespace ContentBlocker.Json

/-! ## Faults -/

inductive ReadCause where
  | value
  | extraData
  | propertyName
  | colon
  | comma
  | unterminatedString
  | controlCharacter
  | escape
  | unicodeEscape
  | byteOrderMark
  | numberTooLong (digits bound : Nat)
deriving DecidableEq, Repr

/-- Why a text is not JSON, and what is left of it there. -/
structure ReadFault where
  cause : ReadCause
  rest : List Char

def ReadCause.message : ReadCause → String
  | value => "Expecting value"
  | extraData => "Extra data"
  | propertyName => "Expecting property name enclosed in double quotes"
  | colon => "Expecting ':' delimiter"
  | comma => "Expecting ',' delimiter"
  | unterminatedString => "Unterminated string starting at"
  | controlCharacter => "Invalid control character at"
  | escape => "Invalid \\escape"
  | unicodeEscape => "Invalid \\uXXXX escape"
  | byteOrderMark => "Unexpected UTF-8 BOM (decode using utf-8-sig)"
  | numberTooLong digits bound =>
    s!"Exceeds the limit ({bound} digits) for integer string conversion: value has {digits} " ++
      "digits; use sys.set_int_max_str_digits() to increase the limit"

/-- The message of a fault that was met while reading `text`.  A number that is too long is
reported without its place. -/
def ReadFault.message (text : List Char) (fault : ReadFault) : String :=
  match fault.cause with
  | .numberTooLong .. => fault.cause.message
  | cause =>
    let place := Text.Place.before text fault.rest.length
    s!"{cause.message}: line {place.line} column {place.column} (char {place.offset})"

/-- A step of the reader: a value and the rest of the text, or a fault. -/
abbrev Step (α : Type) := Except ReadFault (α × List Char)

def fail {α : Type} (cause : ReadCause) (rest : List Char) : Except ReadFault α :=
  .error ⟨cause, rest⟩

/-! ## Blanks -/

/-- The four blanks of JSON. -/
def isJsonBlank (c : Char) : Bool := c = ' ' || c = '\t' || c = '\n' || c = '\r'

def skipBlanks (s : List Char) : List Char := s.dropWhile isJsonBlank

/-! ## Strings -/

/-- The value of four hexadecimal digits at the start of a text that goes on after them. -/
def fourHex? : List Char → Option (Nat × List Char)
  | a :: b :: c :: d :: e :: rest => do
    let a ← Text.hexValue? a
    let b ← Text.hexValue? b
    let c ← Text.hexValue? c
    let d ← Text.hexValue? d
    pure (((a * 16 + b) * 16 + c) * 16 + d, e :: rest)
  | _ => none

/-- The character that the letter after a backslash stands for. -/
def unescape? : Char → Option Char
  | '"' => some '"'
  | '\\' => some '\\'
  | '/' => some '/'
  | 'b' => some '\x08'
  | 'f' => some '\x0c'
  | 'n' => some '\n'
  | 'r' => some '\r'
  | 't' => some '\t'
  | _ => none

def isHighSurrogate (n : Nat) : Bool := 0xD800 ≤ n && n < 0xDC00

def isLowSurrogate (n : Nat) : Bool := 0xDC00 ≤ n && n < 0xE000

/-- The code point of a surrogate pair. -/
def paired (high low : Nat) : CodePoint :=
  .ofNat (0x10000 + (high - 0xD800) * 0x400 + (low - 0xDC00))

/-- The code point written as `\uXXXX`, or as a pair of these, from the text behind the letter `u`.
Half of a pair alone is the code point of that half. -/
def unicodeEscape (s : List Char) : Step CodePoint :=
  match fourHex? s with
  | none => fail .unicodeEscape ('u' :: s)
  | some (high, rest) =>
    if isHighSurrogate high then
      match rest with
      | '\\' :: 'u' :: low =>
        match fourHex? low with
        | none => fail .unicodeEscape ('u' :: low)
        | some (n, rest') =>
          if isLowSurrogate n then .ok (paired high n, rest') else .ok (.ofNat high, rest)
      | _ => .ok (.ofNat high, rest)
    else .ok (.ofNat high, rest)

/-- The code points up to the closing quote, in reverse on top of `done`; `opening` is the text from
the opening quote on. -/
def stringBody (opening : List Char) : Nat → Text → List Char → Step Text
  | 0, _, _ => fail .unterminatedString opening
  | fuel + 1, done, s =>
    match s with
    | [] => fail .unterminatedString opening
    | '"' :: rest => .ok (done, rest)
    | '\\' :: [] => fail .unterminatedString opening
    | '\\' :: 'u' :: rest =>
      match unicodeEscape rest with
      | .error fault => .error fault
      | .ok (p, rest) => stringBody opening fuel (p :: done) rest
    | '\\' :: c :: rest =>
      match unescape? c with
      | none => fail .escape s
      | some c => stringBody opening fuel (c :: done) rest
    | c :: rest =>
      if c.toNat < 32 then fail .controlCharacter s else stringBody opening fuel (c :: done) rest

/-- A string, from the text behind its opening quote. -/
def string (size : Nat) (s : List Char) : Step Text :=
  match stringBody ('"' :: s) size [] s with
  | .error fault => .error fault
  | .ok (done, rest) => .ok (done.reverse, rest)

/-! ## Numbers -/

def digitsValue (s : List Char) : Nat := s.foldl (fun n c => n * 10 + (c.toNat - 48)) 0

/-- Digits at the start of a text, and what follows them. -/
def spanDigits (s : List Char) : List Char × List Char := s.span Char.isDigit

/-- The digits before the point: one zero, or digits that do not start with a zero. -/
def wholeDigits : List Char → List Char × List Char
  | '0' :: rest => (['0'], rest)
  | s => spanDigits s

/-- The digits behind a point, if there are any. -/
def fraction : List Char → List Char × List Char
  | '.' :: rest =>
    match spanDigits rest with
    | ([], _) => ([], '.' :: rest)
    | found => found
  | s => ([], s)

/-- An exponent with its sign, if it has digits. -/
def exponent? (s : List Char) : Option (Int × List Char) :=
  match s with
  | c :: rest =>
    if c = 'e' || c = 'E' then
      let (negative, rest) :=
        match rest with
        | '-' :: r => (true, r)
        | '+' :: r => (false, r)
        | r => (false, r)
      match spanDigits rest with
      | ([], _) => none
      | (ds, rest) =>
        let n : Int := digitsValue ds
        some (if negative then -n else n, rest)
    else none
  | [] => none

/-- A number, from the text behind its sign; `start` is the text from the sign on. -/
def number (bound : Option Nat) (start : List Char) (negative : Bool) (s : List Char) : Step Json :=
  match wholeDigits s with
  | ([], _) => fail .value start
  | (whole, rest) =>
    let (part, rest) := fraction rest
    match part, exponent? rest with
    | [], none =>
      let n : Int := digitsValue whole
      match bound with
      | none => .ok (.int (if negative then -n else n), rest)
      | some most =>
        if most < whole.length then fail (.numberTooLong whole.length most) start
        else .ok (.int (if negative then -n else n), rest)
    | part, power =>
      let (e, rest) := power.getD (0, rest)
      .ok (.float (.ofDecimal negative (digitsValue (whole ++ part)) (e - part.length)), rest)

/-! ## Values -/

/-- The text behind `word`, if it starts with it. -/
def afterWord? : List Char → List Char → Option (List Char)
  | [], s => some s
  | _ :: _, [] => none
  | w :: word, c :: s => if w = c then afterWord? word s else none

/-- A value that is neither an array nor an object. -/
def scalar (bound : Option Nat) (size : Nat) (s : List Char) : Step Json :=
  match s with
  | '"' :: rest =>
    match string size rest with
    | .error fault => .error fault
    | .ok (text, rest) => .ok (.str text, rest)
  | 'n' :: rest => word ['u', 'l', 'l'] rest .null
  | 't' :: rest => word ['r', 'u', 'e'] rest (.bool true)
  | 'f' :: rest => word ['a', 'l', 's', 'e'] rest (.bool false)
  | 'N' :: rest => word ['a', 'N'] rest (.float .nan)
  | 'I' :: rest => word ['n', 'f', 'i', 'n', 'i', 't', 'y'] rest (.float (.infinite false))
  | '-' :: rest =>
    match afterWord? ['I', 'n', 'f', 'i', 'n', 'i', 't', 'y'] rest with
    | some rest => .ok (.float (.infinite true), rest)
    | none => number bound s true rest
  | _ => number bound s false s
where
  word (letters rest : List Char) (value : Json) : Step Json :=
    match afterWord? letters rest with
    | some rest => .ok (value, rest)
    | none => fail .value s

/-- The elements of an array up to its closing bracket, in reverse on top of `done`. -/
def elements (value : List Char → Step Json) : Nat → List Json → List Char → Step (List Json)
  | 0, _, s => fail .value s
  | fuel + 1, done, s =>
    match value s with
    | .error fault => .error fault
    | .ok (v, rest) =>
      match skipBlanks rest with
      | ']' :: rest => .ok (v :: done, rest)
      | ',' :: rest => elements value fuel (v :: done) (skipBlanks rest)
      | rest => fail .comma rest

/-- The fields of an object up to its closing brace, set on top of `done`. -/
def fields (value : List Char → Step Json) (size : Nat) : Nat → Fields → List Char → Step Fields
  | 0, _, s => fail .propertyName s
  | fuel + 1, done, s =>
    match s with
    | '"' :: rest =>
      match string size rest with
      | .error fault => .error fault
      | .ok (key, rest) =>
        match skipBlanks rest with
        | ':' :: rest =>
          match value (skipBlanks rest) with
          | .error fault => .error fault
          | .ok (v, rest) =>
            match skipBlanks rest with
            | '\x7d' :: rest => .ok (done.set key v, rest)
            | ',' :: rest => fields value size fuel (done.set key v) (skipBlanks rest)
            | rest => fail .comma rest
        | rest => fail .colon rest
    | rest => fail .propertyName rest

/-- A value at the start of a text, with brackets nested below `depth`. -/
def valueWithin (bound : Option Nat) (size : Nat) : Nat → List Char → Step Json
  | 0, s => scalar bound size s
  | depth + 1, s =>
    match s with
    | '[' :: rest =>
      match skipBlanks rest with
      | ']' :: rest => .ok (.arr [], rest)
      | rest =>
        match elements (valueWithin bound size depth) size [] rest with
        | .error fault => .error fault
        | .ok (done, rest) => .ok (.arr done.reverse, rest)
    | '\x7b' :: rest =>
      match skipBlanks rest with
      | '\x7d' :: rest => .ok (.obj [], rest)
      | rest =>
        match fields (valueWithin bound size depth) size size [] rest with
        | .error fault => .error fault
        | .ok (done, rest) => .ok (.obj done, rest)
    | _ => scalar bound size s

/-- The whole of a text as one value; whole numbers have at most `bound` digits. -/
def readChars (bound : Option Nat) (s : List Char) : Except ReadFault Json :=
  match s with
  | '\ufeff' :: _ => fail .byteOrderMark s
  | _ =>
    let size := s.length + 1
    match valueWithin bound size size (skipBlanks s) with
    | .error fault => .error fault
    | .ok (v, rest) =>
      match skipBlanks rest with
      | [] => .ok v
      | rest => fail .extraData rest

/-- The most digits of a whole number in a document. -/
def digitBound : Nat := 4300

/-- Reads a document. -/
def read (text : String) : Except String Json :=
  (readChars (some digitBound) text.toList).mapError (·.message text.toList)

end ContentBlocker.Json
