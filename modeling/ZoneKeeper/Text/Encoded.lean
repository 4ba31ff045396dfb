/-!
# Encoded parameters

A text as it stands in the query of a request: a blank becomes a plus sign, and a byte that is
neither a letter, a digit nor one of a few signs becomes a percent sign with two digits.
-/

namespace ZoneKeeper.Text

/-- Whether a byte of a parameter stands for itself. -/
def isPlainByte (byte : UInt8) : Bool :=
  let char := Char.ofNat byte.toNat
  char.isAlphanum || char = '*' || char = '-' || char = '.' || char = '_'

/-- A hexadecimal digit in upper case. -/
def upperDigit (value : Nat) : Char :=
  (Nat.digitChar value).toUpper

def encodeByte (byte : UInt8) : List Char :=
  if byte = 0x20 then ['+']
  else if isPlainByte byte then [Char.ofNat byte.toNat]
  else ['%', upperDigit (byte.toNat / 16), upperDigit (byte.toNat % 16)]

def encodeParameter (text : String) : String :=
  String.ofList (text.toUTF8.toList.flatMap encodeByte)

def encodeQuery (parameters : List (String × String)) : String :=
  "&".intercalate <| parameters.map fun (name, value) =>
    encodeParameter name ++ "=" ++ encodeParameter value

end ZoneKeeper.Text
