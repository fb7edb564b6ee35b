import LmntalServer.Address.Ipv4

/-!
# Addresses of 128 bits

An address is written as eight hexadecimal numbers between colons.  Two colons stand for as many
zeros as are missing, and the last two numbers may be given as an address of 32 bits.

Main definitions:

* `Ipv6`: the addresses.
* `Ipv6.render`: the text of an address, with the longest run of zeros left out.
* `Ipv6.read?`: the address of a text.
-/

namespace LmntalServer

/-- An address of 128 bits, as eight numbers of 16 bits. -/
structure Ipv6 where
  groups : List Nat
deriving DecidableEq, Repr, Inhabited

namespace Ipv6

/-- The number of groups. -/
def size : Nat :=
  8

/-! ## Writing -/

/-- The number of zeros at the front. -/
def leadingZeros (groups : List Nat) : Nat :=
  (groups.takeWhile (· = 0)).length

/-- The first of the longest runs of zeros: its place and its length. -/
def longestRun : List Nat → Nat × Nat
  | [] => (0, 0)
  | n :: groups =>
      let (place, length) := longestRun groups
      if length ≤ leadingZeros (n :: groups) then (0, leadingZeros (n :: groups))
      else (place + 1, length)

/-- Some groups between colons. -/
def renderGroups (groups : List Nat) : Text :=
  Text.join ':' (groups.map (Nat.toDigits 16))

/-- The text of an address.  The longest run of at least two zeros is left out. -/
def render (a : Ipv6) : String :=
  let (place, length) := longestRun a.groups
  String.ofList <|
    if 2 ≤ length then
      renderGroups (a.groups.take place) ++ [':', ':']
        ++ renderGroups (a.groups.drop (place + length))
    else renderGroups a.groups

/-- The address of 32 bits that is written as part of an address. -/
def mapped? (a : Ipv6) : Option Ipv4 :=
  match a.groups with
  | [0, 0, 0, 0, 0, 0xFFFF, high, low] => some ⟨(high * 0x10000 + low).toUInt32⟩
  | _ => none

/-! ## Reading -/

/-- Reads a group of one to four digits. -/
def readGroup? (t : Text) : Option Nat :=
  if t = [] ∨ 4 < t.length then none else Ipv4.readDigits? 16 t

/-- Reads a byte, without zeros in front. -/
def readByte? (t : Text) : Option Nat :=
  match t with
  | [] => none
  | ['0'] => some 0
  | '0' :: _ => none
  | t => (Ipv4.readDigits? 10 t).filter (· < 256)

/-- Reads an address of 32 bits as two groups. -/
def readQuad? (t : Text) : Option (List Nat) :=
  match (Text.pieces (· = '.') t).mapM readByte? with
  | some [a, b, c, d] => some [a * 256 + b, c * 256 + d]
  | _ => none

/-- Reads the last group of an address, which may be two. -/
def readLast? (t : Text) : Option (List Nat) :=
  if t.contains '.' then readQuad? t else (readGroup? t).map fun n => [n]

/-- Reads groups between colons, of which the last may be two. -/
def readGroups? (readLast? : Text → Option (List Nat)) (t : Text) : Option (List Nat) :=
  if t = [] then some []
  else
    let pieces := Text.pieces (· = ':') t
    match pieces.dropLast.mapM readGroup?, readLast? (pieces.getLastD []) with
    | some groups, some last => some (groups ++ last)
    | _, _ => none

/-- What stands before the first two colons, and what stands after them. -/
def splitGap? : Text → Option (Text × Text)
  | [] => none
  | ':' :: ':' :: t => some ([], t)
  | c :: t => (splitGap? t).map fun p => (c :: p.1, p.2)

/-- Reads an address. -/
def read? (t : Text) : Option Ipv6 :=
  match splitGap? t with
  | none =>
      match readGroups? readLast? t with
      | some groups => if groups.length = size then some ⟨groups⟩ else none
      | none => none
  | some (before, after) =>
      match readGroups? (fun t => (readGroup? t).map fun n => [n]) before,
        readGroups? readLast? after with
      | some groups, some others =>
          let length := groups.length + others.length
          if length < size then some ⟨groups ++ List.replicate (size - length) 0 ++ others⟩
          else none
      | _, _ => none

example : (read? "0:0:1:0:0:0:2:0".toList).map render = some "0:0:1::2:0" := by
  decide +kernel

example : (read? "::1.2.3.4".toList).map render = some "::102:304" := by
  decide +kernel

end Ipv6
end LmntalServer
