import ContentBlocker.Text.Quoted

/-!
# UTF-8

Bytes are read character by character.  Bytes that are no character are malformed for one of three
causes, and the malformed part ends before the first byte that could not belong to it.  `decode`
refuses malformed bytes, `decodeLossy` puts a replacement character for each malformed part.
-/

namespace ContentBlocker.Text.Utf8

/-! ## One character -/

inductive Cause where
  | start
  | continuation
  | truncated
deriving DecidableEq, Repr

def Cause.message : Cause → String
  | start => "invalid start byte"
  | continuation => "invalid continuation byte"
  | truncated => "unexpected end of data"

/-- What stands at the start of bytes: a character or `width` malformed bytes, and what follows. -/
inductive First where
  | char (c : Char) (rest : List UInt8)
  | malformed (cause : Cause) (width : Nat) (rest : List UInt8)

/-- What a first byte announces: the bits of the character in it, the number of bytes that follow
and the bounds of the next one. -/
structure Lead where
  bits : Nat
  follow : Nat
  low : Nat
  high : Nat

/-- The announcement of a first byte beyond ASCII. -/
def lead? (b : Nat) : Option Lead :=
  if b < 0xC2 then none
  else if b < 0xE0 then some ⟨b - 0xC0, 1, 0x80, 0xBF⟩
  else if b < 0xF0 then
    some ⟨b - 0xE0, 2, if b = 0xE0 then 0xA0 else 0x80, if b = 0xED then 0x9F else 0xBF⟩
  else if b < 0xF5 then
    some ⟨b - 0xF0, 3, if b = 0xF0 then 0x90 else 0x80, if b = 0xF4 then 0x8F else 0xBF⟩
  else none

/-- Takes the following bytes of a character of which `width` bytes are taken. -/
def follow : Nat → Nat → Nat → Nat → Nat → List UInt8 → First
  | 0, _, _, bits, _, rest => .char (Char.ofNat bits) rest
  | _ + 1, _, _, _, width, [] => .malformed .truncated width []
  | n + 1, low, high, bits, width, b :: rest =>
    if low ≤ b.toNat && b.toNat ≤ high then
      follow n 0x80 0xBF (bits * 64 + b.toNat % 64) (width + 1) rest
    else .malformed .continuation width (b :: rest)

/-- What stands at the start of the bytes `b :: rest`. -/
def first (b : UInt8) (rest : List UInt8) : First :=
  if b.toNat < 0x80 then .char (Char.ofNat b.toNat) rest
  else
    match lead? b.toNat with
    | none => .malformed .start 1 rest
    | some l => follow l.follow l.low l.high l.bits 1 rest

/-! ## All characters -/

/-- Where bytes are malformed. -/
structure Fault where
  cause : Cause
  bytes : List UInt8
  offset : Nat
deriving DecidableEq, Repr

def Fault.message (f : Fault) : String :=
  let where_ := match f.bytes with
    | [b] => s!"byte 0x{String.ofList (hex 2 b.toNat)} in position {f.offset}"
    | bs => s!"bytes in position {f.offset}-{f.offset + bs.length - 1}"
  s!"'utf-8' codec can't decode {where_}: {f.cause.message}"

/-- The characters of `bytes` on top of `done`, with `size` bytes in all and at most `fuel`
characters. -/
def decodeLoop (size : Nat) : Nat → List UInt8 → List Char → Except Fault (List Char)
  | 0, _, done => .ok done.reverse
  | _ + 1, [], done => .ok done.reverse
  | fuel + 1, b :: rest, done =>
    match first b rest with
    | .char c rest => decodeLoop size fuel rest (c :: done)
    | .malformed cause width _ =>
      .error ⟨cause, (b :: rest).take width, size - (rest.length + 1)⟩

def decode (bytes : List UInt8) : Except Fault (List Char) :=
  decodeLoop bytes.length (bytes.length + 1) bytes []

/-- As `decodeLoop`, with replacement characters. -/
def decodeLossyLoop : Nat → List UInt8 → List Char
  | 0, _ => []
  | _ + 1, [] => []
  | fuel + 1, b :: rest =>
    match first b rest with
    | .char c rest => c :: decodeLossyLoop fuel rest
    | .malformed _ _ rest => '\ufffd' :: decodeLossyLoop fuel rest

def decodeLossy (bytes : List UInt8) : List Char := decodeLossyLoop bytes.length bytes

end ContentBlocker.Text.Utf8
