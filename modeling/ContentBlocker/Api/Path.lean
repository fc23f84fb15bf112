import ContentBlocker.Json.Reader
import ContentBlocker.Text.Utf8

/-!
# Paths

The target of a request is an address, of which only the path counts.  Percent escapes are resolved
before the path is split, so that an escaped slash separates segments too.
-/

namespace ContentBlocker.Api

/-! ## Addresses -/

/-- An address without the characters that do not count: blanks and controls at its start, tabs and
line breaks anywhere. -/
def visible (address : List Char) : List Char :=
  (address.dropWhile (·.toNat ≤ 32)).filter fun c => c ≠ '\t' && c ≠ '\n' && c ≠ '\r'

def isSchemeChar (c : Char) : Bool := c.isAlphanum || c = '+' || c = '-' || c = '.'

/-- An address without its scheme. -/
def dropScheme (address : List Char) : List Char :=
  match address.span (· ≠ ':') with
  | (c :: scheme, _ :: rest) => if c.isAlpha && scheme.all isSchemeChar then rest else address
  | _ => address

/-- An address without its authority, which stands between two slashes and the path. -/
def dropAuthority : List Char → List Char
  | '/' :: '/' :: rest => rest.dropWhile fun c => c ≠ '/' && c ≠ '?' && c ≠ '#'
  | address => address

/-- The path of an address with its query; an empty query is none. -/
def pathAndQuery (address : List Char) : List Char :=
  let rest := (dropAuthority (dropScheme (visible address))).takeWhile (· ≠ '#')
  if (rest.dropWhile (· ≠ '?')).length = 1 then rest.dropLast else rest

/-- The path of a target, where what is left without scheme and authority is an address again. -/
def pathOnly (target : List Char) : List Char :=
  (pathAndQuery (pathAndQuery target)).takeWhile (· ≠ '?')

/-! ## Escapes -/

/-- The bytes that a text with percent escapes stands for; a percent sign without two hexadecimal
digits stands for itself. -/
def unescape : List UInt8 → List UInt8
  | 0x25 :: a :: b :: rest =>
    match Text.hexValue? (Char.ofNat a.toNat), Text.hexValue? (Char.ofNat b.toNat) with
    | some x, some y => (x * 16 + y).toUInt8 :: unescape rest
    | _, _ => 0x25 :: unescape (a :: b :: rest)
  | c :: rest => c :: unescape rest
  | [] => []

/-- The path that a target asks for, with one slash at its start. -/
def pathOf (target : String) : List Char :=
  let bytes := (String.ofList (pathOnly target.toList)).toUTF8.toList
  '/' :: (Text.Utf8.decodeLossy (unescape bytes)).dropWhile (· = '/')

/-! ## Segments -/

/-- The path with every run of slashes made one slash. -/
def mergeSlashes : List Char → List Char
  | '/' :: '/' :: rest => mergeSlashes ('/' :: rest)
  | c :: rest => c :: mergeSlashes rest
  | [] => []

/-- The texts between slashes; `done` is the current one in reverse. -/
def splitAtSlashes : List Char → List Char → List String
  | [], done => [String.ofList done.reverse]
  | '/' :: rest, done => String.ofList done.reverse :: splitAtSlashes rest []
  | c :: rest, done => splitAtSlashes rest (c :: done)

/-- The segments of a path behind its first slash. -/
def segments (path : List Char) : List String := (splitAtSlashes path []).drop 1

end ContentBlocker.Api
