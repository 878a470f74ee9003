import KsqlBatch.Engine.HostName

/-
  This file says which URLs requests can be sent to, and what
  a request to a URL names as its target.

  Key definitions include:
    * `Url`
    * `Url.isAuthority`
    * `Url.targetOf`
    * `Url.parse?`
-/

------------------------------------------------------------
-- URLs
------------------------------------------------------------

namespace KsqlBatch

/- The parts of a URL of the web. -/
structure Url where
  secure : Bool
  authority : List Char
  target : List Char
deriving DecidableEq, Repr, Inhabited

namespace Url

/- A capital letter of a scheme as a small one. -/
def lowerLetter
    (c : Char) : Char :=
  if 0x41 ≤ c.toNat ∧ c.toNat ≤ 0x5A then
    Char.ofNat (c.toNat + 0x20)
  else c

/- What follows a text, whose letters may be capital. -/
def after?
    (start : List Char)
    (cs : List Char) : Option (List Char) :=
  if (cs.take start.length).map lowerLetter = start then
    some (cs.drop start.length)
  else none

/- A character at which the authority of a URL ends. -/
def endsAuthority
    (c : Char) : Bool :=
  c == '/' || c == '?' || c == '#'

/- The port is absent or a number that fits 16 bits. -/
def isPort
    (digits : List Char) : Bool :=
  digits.all Text.isDecimalDigit &&
    digits.foldl
      (fun number c => number * 10 + Text.decimalValue c) 0
      ≤ 65535

/-
  An authority consists of a host and possibly a port behind
  a colon. An at sign ends what stands in front of the host.
  A host in brackets contains colons.
-/
def isAuthority
    (authority : List Char) : Bool :=
  let user :=
    (authority.reverse.dropWhile (· != '@')).reverse
  let place := authority.drop user.length
  match place with
  | '[' :: rest =>
      let inner := rest.takeWhile (· != ']')
      isGroupedAddress inner &&
        match rest.drop inner.length with
        | [']'] => true
        | ']' :: ':' :: port => isPort port
        | _ => false
  | _ =>
      let name := place.takeWhile (· != ':')
      isHostName name &&
        isPort ((place.drop name.length).drop 1)

/-
  The target of a request: the path, which is never empty,
  and the query.
-/
def targetOf
    (cs : List Char) : List Char :=
  let shown := cs.takeWhile (· != '#')
  match shown with
  | '/' :: _ => shown
  | _ => '/' :: shown

/- The scheme of a URL, and what follows it. -/
def scheme?
    (cs : List Char) : Option (Bool × List Char) :=
  match after? "http:".toList cs with
  | some rest => some (false, rest)
  | none =>
      (after? "https:".toList cs).map fun rest => (true, rest)

/-
  The parts of a URL, if a request can be sent to it. Any
  number of slashes may stand in front of the authority.

  Not all that a URL may contain is read. Blanks around it,
  tabs and line feeds in it, and backslashes are not removed
  or replaced; in a host they are refused, and so is a byte
  that is written with a percent sign. Letters of a host
  outside ASCII are neither checked nor mapped. The target is
  as it is written: dots in its path are not followed, and
  nothing in it is encoded.
-/
def parse?
    (url : String) : Option Url := do
  let (secure, behind) ← scheme? url.toList
  let rest := behind.dropWhile (· == '/')
  let authority := rest.takeWhile (! endsAuthority ·)
  if isAuthority authority then
    some
      { secure
        authority
        target := targetOf (rest.drop authority.length) }
  else none

end Url

end KsqlBatch
