import ContentBlocker.Json.Printer
import ContentBlocker.Json.Reader
import ContentBlocker.Text.Blank
import ContentBlocker.Text.Lower
import ContentBlocker.Text.Utf8

/-!
# Bodies

The body of a request counts as JSON if its media type says so.  Its encoding is told from where its
first bytes are zero.  A body that is no JSON reads as null.
-/

namespace ContentBlocker.Api

/-! ## Media types -/

/-- The media type of a content type, without parameters and in lower case. -/
def mediaType (contentType : String) : Text :=
  Text.lower (Text.trim ((Text.ofString contentType).takeWhile (· ≠ ';')))

def isJsonType (contentType : String) : Bool :=
  let type := mediaType contentType
  type = "application/json" ||
    ((Text.ofString "application/").isPrefixOf type && (Text.ofString "+json").isSuffixOf type)

/-! ## Encodings -/

/-- The numbers of `width` bytes each, or none if bytes are left over. -/
def units? (width : Nat) (littleEndian : Bool) : Nat → List UInt8 → Option (List Nat)
  | _, [] => some []
  | 0, _ :: _ => none
  | fuel + 1, bytes =>
    let group := bytes.take width
    if group.length < width then none
    else
      let group := if littleEndian then group.reverse else group
      (units? width littleEndian fuel (bytes.drop width)).map
        (group.foldl (fun n b => n * 256 + b.toNat) 0 :: ·)

/-- The character with a number.  Half of a surrogate pair is none: it is given by the escape that
stands for it in strings. -/
def charactersOf (n : Nat) : List Char :=
  match (CodePoint.ofNat n).char? with
  | some c => [c]
  | none => Json.unitEscape n

/-- The characters of 16-bit units. -/
def pairUp : List Nat → List Char
  | high :: low :: rest =>
    if Json.isHighSurrogate high && Json.isLowSurrogate low then
      (Json.paired high low).char :: pairUp rest
    else charactersOf high ++ pairUp (low :: rest)
  | [unit] => charactersOf unit
  | [] => []

def decode16? (littleEndian : Bool) (bytes : List UInt8) : Option (List Char) :=
  (units? 2 littleEndian bytes.length bytes).map pairUp

def decode32? (littleEndian : Bool) (bytes : List UInt8) : Option (List Char) := do
  let codes ← units? 4 littleEndian bytes.length bytes
  if codes.all (· ≤ 0x10FFFF) then some (codes.flatMap charactersOf) else none

def decode8? (bytes : List UInt8) : Option (List Char) := (Text.Utf8.decode bytes).toOption

/-- The characters of a body.  A byte order mark may stand before UTF-8. -/
def characters? (bytes : List UInt8) : Option (List Char) :=
  match bytes with
  | 0xEF :: 0xBB :: 0xBF :: rest => decode8? rest
  | [0, _] => decode16? false bytes
  | [_, 0] => decode16? true bytes
  | 0 :: b :: _ :: _ :: _ => if b = 0 then decode32? false bytes else decode16? false bytes
  | _ :: 0 :: c :: d :: _ =>
    if c = 0 && d = 0 then decode32? true bytes else decode16? true bytes
  | _ => decode8? bytes

/-! ## Reading -/

structure Body where
  contentType : Option String
  content : String

/-- Why a body is not read. -/
inductive BodyFault where
  | tooLong
deriving DecidableEq, Repr

/-- The value of a body of at most `limit` bytes.  The length of a body that is not JSON does not
matter. -/
def Body.read (limit : Nat) (b : Body) : Except BodyFault Json :=
  if !(b.contentType.any isJsonType) then .ok .null
  else if limit < b.content.utf8ByteSize then .error .tooLong
  else
    match characters? b.content.toUTF8.toList with
    | none => .ok .null
    | some cs =>
      match Json.readChars (some Json.digitBound) cs with
      | .ok v => .ok v
      | .error _ => .ok .null

end ContentBlocker.Api
