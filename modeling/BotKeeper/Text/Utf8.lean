/-! Bytes read as UTF-8. A byte that begins no character, and a character that
breaks off, are invalid parts: each reaches as far as some valid character begins
in the same way, and the byte that breaks it begins the next part. -/

namespace BotKeeper.Text.Utf8

/-- A character of which some bytes are still to come, and the range in which the
next of them lies. -/
structure Pending where
  more : Nat
  low : UInt8
  high : UInt8
  value : Nat
  deriving DecidableEq, Repr

/-- What a byte is where a character may begin. -/
inductive Start where
  | whole (c : Char)
  | lead (pending : Pending)
  | invalid
  deriving DecidableEq, Repr

/-- The first byte of a character. The range of the second byte leaves out forms
that are too long, surrogates, and codes beyond the last one. -/
def start (byte : UInt8) : Start :=
  let code := byte.toNat
  if code < 0x80 then .whole (Char.ofNat code)
  else if code < 0xC2 then .invalid
  else if code < 0xE0 then .lead ⟨0, 0x80, 0xBF, code - 0xC0⟩
  else if code = 0xE0 then .lead ⟨1, 0xA0, 0xBF, 0⟩
  else if code = 0xED then .lead ⟨1, 0x80, 0x9F, 0xD⟩
  else if code < 0xF0 then .lead ⟨1, 0x80, 0xBF, code - 0xE0⟩
  else if code = 0xF0 then .lead ⟨2, 0x90, 0xBF, 0⟩
  else if code < 0xF4 then .lead ⟨2, 0x80, 0xBF, code - 0xF0⟩
  else if code = 0xF4 then .lead ⟨2, 0x80, 0x8F, 4⟩
  else .invalid

def Pending.accepts (pending : Pending) (byte : UInt8) : Bool :=
  pending.low ≤ byte && byte ≤ pending.high

def Pending.extended (pending : Pending) (byte : UInt8) : Nat :=
  pending.value * 64 + (byte.toNat - 0x80)

/-- A byte where a character may begin: the character that it is, or nothing for an
invalid part, and the character that it begins. -/
def begin (byte : UInt8) : List (Option Char) × Option Pending :=
  match start byte with
  | .whole c => ([some c], none)
  | .lead pending => ([], some pending)
  | .invalid => ([none], none)

/-- One byte more: the parts that it completes, and the character that is open after it. -/
def advance (pending : Option Pending) (byte : UInt8) : List (Option Char) × Option Pending :=
  match pending with
  | none => begin byte
  | some pending =>
    if pending.accepts byte then
      match pending.more with
      | 0 => ([some (Char.ofNat (pending.extended byte))], none)
      | more + 1 => ([], some ⟨more, 0x80, 0xBF, pending.extended byte⟩)
    else
      let (parts, pending) := begin byte
      (none :: parts, pending)

/-- The characters of the bytes, and nothing in the place of each invalid part. -/
def parts (pending : Option Pending) : List UInt8 → List (Option Char)
  | [] => if pending.isSome then [none] else []
  | byte :: rest =>
    let (done, pending) := advance pending byte
    done ++ parts pending rest

/-- The text of the bytes, with a replacement character for each invalid part. -/
def decodeLossy (bytes : List UInt8) : List Char :=
  (parts none bytes).map (·.getD '\uFFFD')

def decode? (bytes : List UInt8) : Option (List Char) :=
  (parts none bytes).mapM id

end BotKeeper.Text.Utf8
