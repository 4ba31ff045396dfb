/-!
# Socket addresses

A socket address is an address of version 4 or 6 and the number of a service there.  It is read from
a text such as `127.0.0.1:80` or `[::1]:80`, and written with the longest run of zero groups left
out.
-/

namespace ZoneKeeper

structure Ipv4 where
  first : Nat
  second : Nat
  third : Nat
  fourth : Nat
  deriving DecidableEq, Repr

/-- An address of version 6: eight groups of 16 bits. -/
structure Ipv6 where
  groups : List Nat
  deriving DecidableEq, Repr

inductive SocketAddress where
  | v4 (address : Ipv4) (service : Nat)
  | v6 (address : Ipv6) (scope service : Nat)
  deriving DecidableEq, Repr

namespace SocketAddress

def digit? (base : Nat) (char : Char) : Option Nat :=
  let value? :=
    if char.isDigit then some (char.toNat - '0'.toNat)
    else if 'a' ≤ char && char ≤ 'f' then some (char.toNat - 'a'.toNat + 10)
    else if 'A' ≤ char && char ≤ 'F' then some (char.toNat - 'A'.toNat + 10)
    else none
  value?.filter (· < base)

/-- The digits at the front of a text, and the text behind them. -/
def takeDigits (base : Nat) : List Char → List Nat × List Char
  | [] => ([], [])
  | char :: text =>
      match digit? base char with
      | some digit =>
          let (digits, rest) := takeDigits base text
          (digit :: digits, rest)
      | none => ([], char :: text)

def digitsValue (base : Nat) (digits : List Nat) : Nat :=
  digits.foldl (fun value digit => value * base + digit) 0

/-- A reader takes its part from the front of a text and leaves the rest, or takes nothing. -/
def readNumber (base bound : Nat) (text : List Char) : Option (Nat × List Char) :=
  let (digits, rest) := takeDigits base text
  let value := digitsValue base digits
  if digits ≠ [] && value < bound then some (value, rest) else none

def readChar (char : Char) : List Char → Option (List Char)
  | first :: rest => if first = char then some rest else none
  | [] => none

/-- Reads one of the four numbers of an address of version 4, which has no leading zeros. -/
def readOctet (text : List Char) : Option (Nat × List Char) :=
  match text with
  | '0' :: rest => if (takeDigits 10 rest).1 = [] then some (0, rest) else none
  | text => readNumber 10 256 text

def readIpv4 (text : List Char) : Option (Ipv4 × List Char) := do
  let (first, text) ← readOctet text
  let (second, text) ← readOctet (← readChar '.' text)
  let (third, text) ← readOctet (← readChar '.' text)
  let (fourth, text) ← readOctet (← readChar '.' text)
  some (⟨first, second, third, fourth⟩, text)

def readGroup (text : List Char) : Option (Nat × List Char) :=
  if (takeDigits 16 text).1.length ≤ 4 then readNumber 16 0x10000 text else none

def readSeparator (isFirst : Bool) (text : List Char) : Option (List Char) :=
  if isFirst then some text else readChar ':' text

/-- Groups at the front of a text. -/
structure Groups where
  groups : List Nat
  /-- Whether the last two groups were written as an address of version 4. -/
  endsInIpv4 : Bool
  rest : List Char

/-- Reads as many groups as there are, up to a limit. -/
def readGroups (isFirst : Bool) (text : List Char) : Nat → Groups
  | 0 => ⟨[], false, text⟩
  | limit + 1 =>
      match readSeparator isFirst text with
      | none => ⟨[], false, text⟩
      | some behind =>
          match if limit = 0 then none else readIpv4 behind with
          | some (address, rest) =>
              ⟨[address.first * 256 + address.second, address.third * 256 + address.fourth],
                true, rest⟩
          | none =>
              match readGroup behind with
              | some (group, rest) =>
                  let following := readGroups false rest limit
                  { following with groups := group :: following.groups }
              | none => ⟨[], false, text⟩

/-- Reads eight groups, or fewer with a pair of colons for one or more groups of zeros. -/
def readIpv6 (text : List Char) : Option (Ipv6 × List Char) := do
  let front := readGroups true text 8
  if front.groups.length = 8 then return (⟨front.groups⟩, front.rest)
  if front.endsInIpv4 then failure
  let rest ← readChar ':' (← readChar ':' front.rest)
  let back := readGroups true rest (7 - front.groups.length)
  let zeros := List.replicate (8 - front.groups.length - back.groups.length) 0
  some (⟨front.groups ++ zeros ++ back.groups⟩, back.rest)

def readService (text : List Char) : Option (Nat × List Char) := do
  readNumber 10 0x10000 (← readChar ':' text)

/-- Reads the scope behind an address of version 6, which is 0 if there is none. -/
def readScope (text : List Char) : Nat × List Char :=
  (do readNumber 10 0x100000000 (← readChar '%' text)).getD (0, text)

def read (text : List Char) : Option (SocketAddress × List Char) :=
  match text with
  | '[' :: text => do
      let (address, text) ← readIpv6 text
      let (scope, text) := readScope text
      let (service, text) ← readService (← readChar ']' text)
      some (.v6 address scope service, text)
  | text => do
      let (address, text) ← readIpv4 text
      let (service, text) ← readService text
      some (.v4 address service, text)

def parse? (text : String) : Option SocketAddress :=
  match read text.toList with
  | some (address, []) => some address
  | _ => none

end SocketAddress

def Ipv4.text (address : Ipv4) : String :=
  ".".intercalate
    ([address.first, address.second, address.third, address.fourth].map fun part => toString part)

namespace Ipv6

def groupsText (groups : List Nat) : String :=
  ":".intercalate (groups.map fun group => String.ofList (Nat.toDigits 16 group))

/-- The number of zeros at the front of a list. -/
def leadingZeros (groups : List Nat) : Nat :=
  (groups.takeWhile (· = 0)).length

/-- The place and the length of the first of the longest runs of zeros. -/
def longestZeros : List Nat → Nat × Nat
  | [] => (0, 0)
  | group :: groups =>
      let (place, length) := longestZeros groups
      if length ≤ leadingZeros (group :: groups) then (0, leadingZeros (group :: groups))
      else (place + 1, length)

/-- The address of version 4 that this one stands for. -/
def mapped? (address : Ipv6) : Option Ipv4 :=
  match address.groups with
  | [0, 0, 0, 0, 0, 0xffff, high, low] =>
      some ⟨high / 256, high % 256, low / 256, low % 256⟩
  | _ => none

def text (address : Ipv6) : String :=
  match address.mapped? with
  | some mapped => "::ffff:" ++ mapped.text
  | none =>
      let (place, length) := longestZeros address.groups
      if 1 < length then
        groupsText (address.groups.take place) ++ "::" ++
          groupsText (address.groups.drop (place + length))
      else groupsText address.groups

end Ipv6

def SocketAddress.text : SocketAddress → String
  | v4 address service => address.text ++ ":" ++ toString service
  | v6 address scope service =>
      let suffix := if scope = 0 then "" else "%" ++ toString scope
      "[" ++ address.text ++ suffix ++ "]:" ++ toString service

end ZoneKeeper
