import HttpServer.Bytes.Numeral

/-!
# Request targets

A request names its target in one of four forms: `*` for the server itself, a path with an optional
query, an authority alone (as a tunnel request has it), or a whole address with scheme, authority,
path and query. `Target.parse` reads any of them and `Target.render` writes the canonical text. A
fragment, from `#` on, is dropped when the target is read.
-/

namespace HttpServer

/-- The scheme of an absolute target. The two common ones are recognised in any letter case. -/
inductive Scheme where
  | http
  | https
  | other (name : Bytes)
deriving DecidableEq

def Scheme.text : Scheme → Bytes
  | .http => Bytes.ascii "http"
  | .https => Bytes.ascii "https"
  | .other name => name

inductive Target where
  /-- The server as a whole, written `*`. -/
  | asterisk
  /-- A path on the server, with the query after its question mark. -/
  | origin (path : Bytes) (query : Option Bytes)
  /-- A host and port. -/
  | authority (text : Bytes)
  /-- A whole address. -/
  | absolute (scheme : Scheme) (authority path : Bytes) (query : Option Bytes)
deriving DecidableEq

inductive TargetError where
  | tooLong
  | empty
  | invalidCharacter
  | invalidFormat
  | invalidAuthority
  | schemeTooLong
deriving DecidableEq, Repr

def TargetError.message : TargetError → String
  | .tooLong => "uri too long"
  | .empty => "empty string"
  | .invalidCharacter => "invalid uri character"
  | .invalidFormat => "invalid format"
  | .invalidAuthority => "invalid authority"
  | .schemeTooLong => "scheme too long"

namespace Target

def slash : UInt8 := 0x2F
def questionMark : UInt8 := 0x3F
def numberSign : UInt8 := 0x23
def colon : UInt8 := 0x3A
def atSign : UInt8 := 0x40
def openBracket : UInt8 := 0x5B
def closeBracket : UInt8 := 0x5D
def percent : UInt8 := 0x25

/-! ## Path and query -/

def isPath (byte : UInt8) : Bool :=
  byte == 0x21 || (0x24 ≤ byte && byte ≤ 0x3B) || byte == 0x3D || (0x40 ≤ byte && byte ≤ 0x5F)
    || (0x61 ≤ byte && byte ≤ 0x7E) || byte == 0x22 || 0x7F ≤ byte

def isQuery (byte : UInt8) : Bool :=
  byte == 0x21 || (0x24 ≤ byte && byte ≤ 0x3B) || byte == 0x3D || 0x3F ≤ byte

/-- Reads a path and, after a question mark, a query; both end where a fragment begins. -/
def parsePathAndQuery (text : Bytes) : Except TargetError (Bytes × Option Bytes) :=
  let inPath := fun byte => byte != questionMark && byte != numberSign
  let path := text.takeWhile inPath
  if path.all isPath then
    match text.dropWhile inPath with
    | mark :: rest =>
      if mark == questionMark then
        let query := rest.takeWhile (· != numberSign)
        if query.all isQuery then .ok (path, some query) else .error .invalidCharacter
      else .ok (path, none)
    | [] => .ok (path, none)
  else .error .invalidCharacter

/-! ## Authority -/

/-- The marks an authority may hold besides letters, digits and the percent sign. -/
def authorityMarks : Bytes := Bytes.ascii "!$&'()*+,-.:;=_~@[]"

/-- The most colons an authority may hold before a bracket or an at sign forgives them. -/
def maximumColons : Nat := 8

structure AuthoritySeen where
  colons : Nat := 0
  opened : Bool := false
  closed : Bool := false
  percent : Bool := false
  last : UInt8 := 0

/-- Takes one more character of an authority. A closing bracket or an at sign forgives the colons
and percent signs before it, which belong to an address literal or to the user part. -/
def AuthoritySeen.next (seen : AuthoritySeen) (byte : UInt8) : Except TargetError AuthoritySeen :=
  if byte == colon then
    if maximumColons ≤ seen.colons then .error .invalidAuthority
    else .ok { seen with colons := seen.colons + 1, last := byte }
  else if byte == openBracket then
    if seen.percent || seen.opened then .error .invalidAuthority
    else .ok { seen with opened := true, last := byte }
  else if byte == closeBracket then
    if !seen.opened || seen.closed then .error .invalidAuthority
    else .ok { seen with closed := true, colons := 0, percent := false, last := byte }
  else if byte == atSign then
    .ok { seen with colons := 0, percent := false, last := byte }
  else if byte == Target.percent then
    .ok { seen with percent := true, last := byte }
  else if Bytes.isAlphanumeric byte || authorityMarks.contains byte then
    .ok { seen with last := byte }
  else .error .invalidCharacter

/-- Whether what was seen makes a whole authority: matched brackets, at most the colon of a port,
something after the user part, and no percent sign left over. -/
def AuthoritySeen.isWhole (seen : AuthoritySeen) : Bool :=
  seen.opened == seen.closed && seen.colons ≤ 1 && seen.last != atSign && !seen.percent

/-- Cuts the authority off the front of a text and checks it. It ends before the first slash,
question mark or number sign, and may be empty. -/
def cutAuthority (text : Bytes) : Except TargetError (Bytes × Bytes) := do
  let inAuthority := fun byte => byte != slash && byte != questionMark && byte != numberSign
  let authority := text.takeWhile inAuthority
  let seen ← authority.foldlM AuthoritySeen.next {}
  if seen.isWhole then .ok (authority, text.dropWhile inAuthority) else .error .invalidAuthority

/-! ## Scheme -/

def isScheme (byte : UInt8) : Bool :=
  Bytes.isAlphanumeric byte || byte == 0x2B || byte == 0x2D || byte == 0x2E || byte == 0x7E

/-- What stands between a scheme and an authority. -/
def schemeEnd : Bytes := Bytes.ascii "://"

def maximumScheme : Nat := 64

/-- Cuts a scheme with its mark off the front of a text, when there is one. -/
def cutScheme (text : Bytes) : Except TargetError (Option (Scheme × Bytes)) :=
  if Bytes.sameLetters (text.take 7) (Bytes.ascii "http://") then
    .ok (some (.http, text.drop 7))
  else if Bytes.sameLetters (text.take 8) (Bytes.ascii "https://") then
    .ok (some (.https, text.drop 8))
  else if text.length ≤ 3 then .ok none
  else
    let name := text.takeWhile isScheme
    let rest := text.dropWhile isScheme
    if rest.take 3 == schemeEnd then
      if maximumScheme < name.length then .error .schemeTooLong
      else .ok (some (.other name, rest.drop 3))
    else .ok none

/-! ## Whole targets -/

def maximumLength : Nat := 65534

/-- Reads a target. An absolute target without a path has the path `/`. -/
def parse (text : Bytes) : Except TargetError Target :=
  if maximumLength < text.length then .error .tooLong
  else
    match text with
    | [] => .error .empty
    | first :: rest =>
      if first == slash then
        (parsePathAndQuery text).map fun (path, query) => .origin path query
      else if first == 0x2A && rest.isEmpty then .ok .asterisk
      else if rest.isEmpty then do
        let (_, remainder) ← cutAuthority text
        if remainder.isEmpty then .ok (.authority text) else .error .invalidCharacter
      else do
        match ← cutScheme text with
        | none =>
          let (place, remainder) ← cutAuthority text
          if remainder.isEmpty then .ok (.authority place) else .error .invalidFormat
        | some (scheme, address) =>
          if address.isEmpty then .error .empty
          else
            let (place, remainder) ← cutAuthority address
            if place.isEmpty then .error .invalidFormat
            else
              let (path, query) ← parsePathAndQuery remainder
              .ok (.absolute scheme place (if path.isEmpty then [slash] else path) query)

/-! ## Parts -/

/-- The path; an authority alone has an empty one. -/
def path : Target → Bytes
  | .asterisk => [0x2A]
  | .origin path _ => path
  | .authority _ => []
  | .absolute _ _ path _ => path

def query : Target → Option Bytes
  | .origin _ query => query
  | .absolute _ _ _ query => query
  | _ => none

def scheme? : Target → Option Scheme
  | .absolute scheme _ _ _ => some scheme
  | _ => none

def authority? : Target → Option Bytes
  | .authority text => some text
  | .absolute _ place _ _ => some place
  | _ => none

/-- What stands after the last occurrence of a mark, or everything when it does not occur. -/
def afterLast (mark : UInt8) (text : Bytes) : Bytes :=
  (text.reverse.takeWhile (· != mark)).reverse

/-- The host of an authority: after the user part, an address literal through its closing bracket,
or everything up to the first colon. -/
def hostOf (authority : Bytes) : Bytes :=
  let hostAndPort := afterLast atSign authority
  if hostAndPort.head? == some openBracket then
    hostAndPort.takeWhile (· != closeBracket) ++ [closeBracket]
  else hostAndPort.takeWhile (· != colon)

/-- The port of an authority, when the text after the last colon is a port number. -/
def portOf (authority : Bytes) : Option Nat :=
  if authority.contains colon then
    (Numeral.readNatural 65535 (afterLast colon authority)).toOption
  else none

def host? (target : Target) : Option Bytes := target.authority?.map hostOf

def port? (target : Target) : Option Nat := target.authority?.bind portOf

def renderQuery : Option Bytes → Bytes
  | some query => questionMark :: query
  | none => []

def render : Target → Bytes
  | .asterisk => [0x2A]
  | .origin path query => path ++ renderQuery query
  | .authority text => text
  | .absolute scheme place path query =>
    scheme.text ++ schemeEnd ++ place ++ path ++ renderQuery query

end Target

end HttpServer
