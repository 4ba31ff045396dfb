/-!
# Reading UTF-8

Bytes that may or may not be a text.  Where they are not, each longest run of bytes that begins a
character without completing it, and each other stray byte, counts as one replacement character.
-/

namespace ZoneKeeper.Text

/-- The number of continuation bytes behind a first byte, and the range of the first of them. -/
def sequenceShape (first : UInt8) : Option (Nat × UInt8 × UInt8) :=
  if 0xC2 ≤ first && first ≤ 0xDF then some (1, 0x80, 0xBF)
  else if first = 0xE0 then some (2, 0xA0, 0xBF)
  else if first = 0xED then some (2, 0x80, 0x9F)
  else if 0xE1 ≤ first && first ≤ 0xEF then some (2, 0x80, 0xBF)
  else if first = 0xF0 then some (3, 0x90, 0xBF)
  else if 0xF1 ≤ first && first ≤ 0xF3 then some (3, 0x80, 0xBF)
  else if first = 0xF4 then some (3, 0x80, 0x8F)
  else none

/-- The state between two bytes: nothing is begun, or a character that still lacks some bytes. -/
inductive Partial where
  | none
  | begun (value missing : Nat) (low high : UInt8)

/-- The bits of the first byte that count. -/
def leadingBits (first : UInt8) (missing : Nat) : Nat :=
  first.toNat % Nat.pow 2 (6 - missing)

/-- What a byte begins, and the character that it is by itself. -/
def begin (byte : UInt8) : List Char × Partial :=
  if byte < 0x80 then ([Char.ofNat byte.toNat], .none)
  else
    match sequenceShape byte with
    | some (missing, low, high) => ([], .begun (leadingBits byte missing) missing low high)
    | .none => (['\uFFFD'], .none)

/-- Takes one more byte. -/
def continueWith (state : Partial) (byte : UInt8) : List Char × Partial :=
  match state with
  | .none => begin byte
  | .begun value missing low high =>
      if low ≤ byte && byte ≤ high then
        let value := value * 64 + byte.toNat % 64
        if missing = 1 then ([Char.ofNat value], .none)
        else ([], .begun value (missing - 1) 0x80 0xBF)
      else
        let (chars, state) := begin byte
        ('\uFFFD' :: chars, state)

def decodeFrom : Partial → List UInt8 → List Char
  | .none, [] => []
  | .begun .., [] => ['\uFFFD']
  | state, byte :: bytes =>
      let (chars, state) := continueWith state byte
      chars ++ decodeFrom state bytes

/-- The text of the bytes, with replacement characters where they are no text. -/
def decodeLossy (bytes : ByteArray) : String :=
  String.ofList (decodeFrom .none bytes.toList)

end ZoneKeeper.Text
