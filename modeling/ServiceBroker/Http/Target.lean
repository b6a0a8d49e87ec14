/-
# Targets

The path and the query of a URI.  The URI of a request is a path, an asterisk, the name
of a server, or all of scheme, server and path; a fragment is left out.  Names of
servers are checked as far as they can be told from a fault in the spelling.
-/

import ServiceBroker.Text.Bytes

namespace ServiceBroker
namespace Http

/-- The part of a URI that a request is routed by. -/
structure Target where
  path : Bytes
  query : Option Bytes := none
deriving DecidableEq, Repr

namespace Target

/-- A letter or a digit of ASCII. -/
def isAlphanumeric (b : UInt8) : Bool :=
  (0x30 ≤ b && b ≤ 0x39) || (0x41 ≤ b && b ≤ 0x5a) || (0x61 ≤ b && b ≤ 0x7a)

/-- A byte that may stand in a path. -/
def isPathByte (b : UInt8) : Bool :=
  b = 0x21 || b = 0x22 || (0x24 ≤ b && b ≤ 0x3b) || b = 0x3d || (0x40 ≤ b && b ≤ 0x5f) ||
    (0x61 ≤ b && b ≤ 0x7e) || 0x80 ≤ b

/-- A byte that may stand in a query. -/
def isQueryByte (b : UInt8) : Bool :=
  b = 0x21 || (0x24 ≤ b && b ≤ 0x3b) || b = 0x3d || (0x3f ≤ b && b ≤ 0x7e) || 0x80 ≤ b

/-- A byte that may stand in a scheme. -/
def isSchemeByte (b : UInt8) : Bool :=
  isAlphanumeric b || b = 0x2b || b = 0x2d || b = 0x2e || b = 0x7e

/-- The longest scheme. -/
def maxScheme : Nat := 64

/-- The longest URI. -/
def maxLength : Nat := 65534

/-- A byte that may stand in the name of a server, apart from those that structure it. -/
def isServerByte (b : UInt8) : Bool :=
  isAlphanumeric b || b = 0x21 || b = 0x24 || (0x26 ≤ b && b ≤ 0x2e) || b = 0x3b || b = 0x3d ||
    b = 0x5f || b = 0x7e

/-- A byte that ends the name of a server. -/
def endsServer (b : UInt8) : Bool := b = 0x2f || b = 0x3f || b = 0x23

/-- The bytes of a URI before its fragment. -/
def withoutFragment (uri : Bytes) : Bytes := uri.takeWhile (· ≠ 0x23)

/-- The target that is spelled by a path and, behind a question mark, a query. -/
def ofPathAndQuery? (spelled : Bytes) : Option Target :=
  let path := spelled.takeWhile (· ≠ 0x3f)
  if (Bytes.text? spelled).isSome ∧ path.all isPathByte then
    match spelled.dropWhile (· ≠ 0x3f) with
    | [] => some ⟨path, none⟩
    | _ :: query => if query.all isQueryByte then some ⟨path, some query⟩ else none
  else none

/-- What has been seen of the name of a server. -/
structure ServerScan where
  /-- The colons that would stand before a port. -/
  colons : Nat := 0
  opened : Bool := false
  closed : Bool := false
  /-- A percent sign outside user and brackets. -/
  percent : Bool := false
  /-- The last byte ended the name of a user. -/
  afterUser : Bool := false

namespace ServerScan

/-- The scan after one more byte, or nothing for a fault. -/
def step (scan : ServerScan) (b : UInt8) : Option ServerScan :=
  let scan := { scan with afterUser := false }
  match b with
  | 0x3a => if scan.colons < 8 then some { scan with colons := scan.colons + 1 } else none
  | 0x5b => if scan.percent || scan.opened then none else some { scan with opened := true }
  | 0x5d =>
    if !scan.opened || scan.closed then none
    else some { scan with closed := true, colons := 0, percent := false }
  | 0x40 => some { scan with colons := 0, percent := false, afterUser := true }
  | 0x25 => some { scan with percent := true }
  | b => if isServerByte b then some scan else none

/-- The name may end here. -/
def isComplete (scan : ServerScan) : Bool :=
  scan.opened = scan.closed && scan.colons ≤ 1 && !scan.afterUser && !scan.percent

end ServerScan

/-- The bytes name a server. -/
def isServer (name : Bytes) : Bool := (name.foldlM ServerScan.step {}).any (·.isComplete)

/-- The bytes behind the two slashes of an absolute URI, next to its scheme. -/
def cutScheme? (uri : Bytes) : Option (Bytes × Bytes) :=
  match uri.dropWhile isSchemeByte with
  | 0x3a :: 0x2f :: 0x2f :: rest => some (uri.takeWhile isSchemeByte, rest)
  | _ => none

/-- The target of an absolute URI behind its scheme; the path may be left out. -/
def ofServerAndPath? (spelled : Bytes) : Option Target :=
  let server := spelled.takeWhile (!endsServer ·)
  if server ≠ [] ∧ isServer server then
    match withoutFragment (spelled.dropWhile (!endsServer ·)) with
    | 0x2f :: rest => ofPathAndQuery? (0x2f :: rest)
    | rest => ofPathAndQuery? (0x2f :: rest)
  else none

/-- The target of a URI that is not too long. -/
def ofShortUri? (uri : Bytes) : Option Target :=
  match uri with
  | [] => none
  | [0x2a] => some ⟨uri, none⟩
  | 0x2f :: _ => ofPathAndQuery? (withoutFragment uri)
  | _ =>
    match cutScheme? uri with
    | some (scheme, rest) => if scheme.length ≤ maxScheme then ofServerAndPath? rest else none
    | none => if isServer uri then some ⟨[], none⟩ else none

/-- The target of a URI. -/
def ofUri? (uri : Bytes) : Option Target :=
  if uri.length ≤ maxLength then ofShortUri? uri else none

end Target
end Http
end ServiceBroker
