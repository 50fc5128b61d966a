import StaticAccessors.Url.Host

/-!
# Addresses of documents

The address of a document starts with a scheme and a colon, and then, after two slashes, with the
authority that serves it. `Url.parse?` cuts them off. Blanks and control characters before the address
and tabs and line ends anywhere in it do not count.

An address is refused if its authority has brackets and the host is none that may stand in them, or if a
character of its authority is only another form of one that separates its parts.
-/

namespace StaticAccessors

/-- The scheme and the authority of an address; either is empty if the address has none. -/
structure Url where
  scheme : String
  authority : String
deriving Repr, DecidableEq

namespace Url

open Text (splitLast?)

/-- Characters that are other forms of a separator, or contain one. -/
def separatorForms : List Nat := [
  0x2047, 0x2048, 0x2049, 0x2100, 0x2101, 0x2105, 0x2106, 0x2a74, 0xfe13, 0xfe16, 0xfe55, 0xfe56,
  0xfe5f, 0xfe6b, 0xff03, 0xff0f, 0xff1a, 0xff1f, 0xff20]

/-- The characters of schemes. -/
def isSchemeChar (c : Char) : Bool := c.isAlphanum || c = '+' || c = '-' || c = '.'

/-- The text of an address without the characters that do not count. -/
def significant (s : String) : List Char :=
  (s.toList.dropWhile (· ≤ ' ')).filter fun c => c ≠ '\t' && c ≠ '\r' && c ≠ '\n'

/-- Cuts off the scheme. -/
def cutScheme (cs : List Char) : List Char × List Char :=
  let scheme := cs.takeWhile (· ≠ ':')
  match cs.drop scheme.length with
  | ':' :: rest =>
    if (scheme.head?.any Char.isAlpha) && scheme.all isSchemeChar then (scheme, rest) else ([], cs)
  | _ => ([], cs)

/-- The authority, which follows two slashes and ends before the path, the query or the fragment. -/
def authorityOf : List Char → List Char
  | '/' :: '/' :: rest => rest.takeWhile fun c => c ≠ '/' && c ≠ '?' && c ≠ '#'
  | _ => []

/-- The part of an authority after the name of a user. -/
def afterUser (cs : List Char) : List Char :=
  match splitLast? '@' cs with
  | some (_, host) => host
  | none => cs

/-- Whether an authority that has brackets names a host that may stand in them. In the host, brackets go
around all but what a colon after them adds. -/
def enclosesHost (cs : List Char) : Bool :=
  let host := afterUser cs
  if host.contains '[' then
    let inside := (host.drop 1).takeWhile (· ≠ ']')
    let after := host.drop (inside.length + 2)
    host.head? = some '[' && (after.isEmpty || after.head? = some ':') && isBracketed inside
  else isBracketed (host.takeWhile (· ≠ ':'))

/-- Whether an authority is well formed. -/
def isAuthority (cs : List Char) : Bool :=
  (if cs.contains '[' || cs.contains ']' then cs.contains '[' && cs.contains ']' && enclosesHost cs
  else true) && cs.all fun c => !separatorForms.contains c.toNat

/-- Reads an address. -/
def parse? (s : String) : Option Url :=
  let (scheme, rest) := cutScheme (significant s)
  let authority := authorityOf rest
  if isAuthority authority then some ⟨String.ofList scheme, String.ofList authority⟩ else none

end Url

end StaticAccessors
