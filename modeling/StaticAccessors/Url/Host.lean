import StaticAccessors.Text.Split

/-!
# Hosts in brackets

A host in brackets is a numeric address of the sixth version, with an optional zone after a percent
sign, or an address of a version that is named in front of it.

## Contents
- `isOctets`: four numbers with dots.
- `isGroups`: eight groups of hexadecimal digits, or fewer with one gap.
- `isBracketed`.
-/

namespace StaticAccessors.Url

open Text (splitChar)

/-- A number from 0 to 255 without leading zeros. -/
def isOctet (cs : List Char) : Bool :=
  !cs.isEmpty && cs.length ≤ 3 && cs.all Char.isDigit && (cs = ['0'] || cs.head? ≠ some '0') &&
    cs.foldl (fun n c => 10 * n + (c.toNat - '0'.toNat)) 0 ≤ 255

/-- Four numbers with dots between them. -/
def isOctets (cs : List Char) : Bool :=
  let parts := splitChar '.' cs
  parts.length = 4 && parts.all isOctet

/-- A hexadecimal digit. -/
def isHexDigit (c : Char) : Bool := c.isDigit || ('a' ≤ c && c ≤ 'f') || ('A' ≤ c && c ≤ 'F')

/-- One to four hexadecimal digits. -/
def isGroup (cs : List Char) : Bool := !cs.isEmpty && cs.length ≤ 4 && cs.all isHexDigit

/-- How many groups a part stands for, if it is one; four numbers with dots count as two groups and
may stand last. -/
def groupsOf (last : Bool) (cs : List Char) : Option Nat :=
  if last && cs.contains '.' then (if isOctets cs then some 2 else none)
  else if isGroup cs then some 1 else none

/-- How many groups some parts stand for, if all of them do. -/
def countGroups (final : Bool) : List (List Char) → Option Nat
  | [] => some 0
  | part :: rest => do
    let first ← groupsOf (final && rest.isEmpty) part
    let more ← countGroups final rest
    return first + more

/-- The groups of one side of a gap. -/
def countSide (final : Bool) (cs : List Char) : Option Nat :=
  if cs.isEmpty then some 0 else countGroups final (splitChar ':' cs)

/-- What stands before and after the first gap, which is a pair of colons. -/
def cutGap : List Char → Option (List Char × List Char)
  | ':' :: ':' :: rest => some ([], rest)
  | c :: rest => (cutGap rest).map fun (before, after) => (c :: before, after)
  | [] => none

/-- Eight groups, or at most seven with a gap. -/
def isGroups (cs : List Char) : Bool :=
  match cutGap cs with
  | none => countGroups true (splitChar ':' cs) == some 8
  | some (before, after) =>
    match countSide false before, countSide true after with
    | some m, some n => m + n ≤ 7
    | _, _ => false

/-- An address with its version in front. -/
def isVersioned (cs : List Char) : Bool :=
  let version := cs.drop 1
  let digits := version.takeWhile isHexDigit
  match version.drop digits.length with
  | '.' :: _ :: _ => !digits.isEmpty
  | _ => false

/-- A zone, if there is one, is named and holds no further percent sign. -/
def isZoned (cs : List Char) : Bool :=
  match splitChar '%' cs with
  | [address] => isGroups address
  | [address, zone] => !zone.isEmpty && isGroups address
  | _ => false

/-- Whether a text may stand in brackets as a host. -/
def isBracketed (cs : List Char) : Bool :=
  if cs.head? = some 'v' then isVersioned cs else isZoned cs

end StaticAccessors.Url
