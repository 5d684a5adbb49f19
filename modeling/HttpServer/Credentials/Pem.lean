import HttpServer.Bytes.Utf8
import HttpServer.Credentials.Base64
import HttpServer.Text.Quoted

/-!
# Sections of a PEM text

A PEM text holds labelled sections of base64 between a line that begins the section and one that
ends it. What stands between sections is ignored, and so are sections with an unknown label. A
section that is begun anew before it has ended keeps what it has collected.
-/

namespace HttpServer.Pem

inductive KeyForm where
  /-- With the kind of the key inside. -/
  | general
  | rsa
  | ellipticCurve
deriving DecidableEq, Repr

/-- What a section holds. -/
inductive Label where
  | certificate
  | key (form : KeyForm)
  /-- Something of another known kind. -/
  | other
deriving DecidableEq, Repr

structure Section where
  label : Label
  content : Bytes
deriving DecidableEq

inductive Error where
  /-- A section has begun and not ended with the line that ends it. -/
  | unended (ending : Bytes)
  /-- A line begins a section but is not complete. -/
  | illegalStart (line : Bytes)
  /-- A section holds something else than base64. -/
  | notBase64 (error : Base64.Error)
deriving DecidableEq, Repr

def Error.message : Error → String
  | .unended ending => "section end " ++ Text.quoted (Utf8.readable ending) ++ " missing"
  | .illegalStart line => "illegal section start: " ++ Text.quoted (Utf8.readable line)
  | .notBase64 error => error.message

def labels : List (Bytes × Label) :=
  [(Bytes.ascii "CERTIFICATE", .certificate), (Bytes.ascii "PRIVATE KEY", .key .general),
    (Bytes.ascii "RSA PRIVATE KEY", .key .rsa), (Bytes.ascii "EC PRIVATE KEY", .key .ellipticCurve),
    (Bytes.ascii "PUBLIC KEY", .other), (Bytes.ascii "X509 CRL", .other),
    (Bytes.ascii "CERTIFICATE REQUEST", .other), (Bytes.ascii "ECHCONFIG", .other)]

/-! ## Lines -/

/-- Whether an octet ends a line. Either half of a line ending does. -/
def endsLine (byte : UInt8) : Bool := byte == Bytes.lineFeed || byte == Bytes.carriageReturn

def lines (text : Bytes) : List Bytes :=
  text.foldr
    (fun byte lines =>
      if endsLine byte then [byte] :: lines
      else
        match lines with
        | [] => [[byte]]
        | line :: others => (byte :: line) :: others)
    []

def hyphen : UInt8 := 0x2D

/-- Five hyphens, which frame the lines that begin and end sections. -/
def frame : Bytes := List.replicate 5 hyphen

def beginning : Bytes := frame ++ Bytes.ascii "BEGIN "
def ending : Bytes := frame ++ Bytes.ascii "END "

/-- The label on a line that begins a section: what stands before the five hyphens at its end,
among which spaces do not count. -/
def beginLabel? (line : Bytes) : Option Bytes :=
  let line := (line.reverse.dropWhile endsLine).reverse
  let closing := line.reverse.takeWhile fun byte => byte == hyphen || byte == Bytes.space
  if closing.count hyphen = 5 then
    let spaces := (closing.reverse.takeWhile (· == Bytes.space)).length
    some ((line.take (line.length - closing.length + spaces)).drop beginning.length)
  else none

/-- The front of the line that ends the section with a label. -/
def endOf (label : Bytes) : Bytes := ending ++ label ++ frame

/-! ## Sections -/

/-- The next section of a list of lines, and the lines after it. `opened` is the label of the
section that has begun, and `held` are its lines so far, latest first. -/
def nextIn (opened : Option Bytes) (held : List Bytes) :
    List Bytes → Except Error (Option (Section × List Bytes))
  | [] =>
    match opened with
    | some label => .error (.unended (endOf label))
    | none => .ok none
  | line :: rest =>
    if beginning.isPrefixOf line then
      match beginLabel? line with
      | some label => nextIn (some label) held rest
      | none => .error (.illegalStart line)
    else
      match opened with
      | none => nextIn none held rest
      | some label =>
        if (endOf label).isPrefixOf line then
          match labels.find? fun known => known.1 = label with
          | none => nextIn none [] rest
          | some (_, label) =>
            match Base64.decode held.reverse.flatten with
            | .ok content => .ok (some (⟨label, content⟩, rest))
            | .error error => .error (.notBase64 error)
        else nextIn opened (line :: held) rest

def next (lines : List Bytes) : Except Error (Option (Section × List Bytes)) := nextIn none [] lines

def sectionsUpTo : (most : Nat) → List Bytes → Except Error (List Section)
  | 0, _ => .ok []
  | most + 1, lines => do
    match ← next lines with
    | none => .ok []
    | some (found, rest) => return found :: (← sectionsUpTo most rest)

/-- All sections of a text. A section takes at least one line, so there are no more of them than
lines. -/
def sections (text : Bytes) : Except Error (List Section) :=
  let lines := lines text
  sectionsUpTo lines.length lines

/-- The certificates of a text, in order. -/
def certificates (text : Bytes) : Except Error (List Bytes) := do
  let sections ← sections text
  return (sections.filter fun found => found.label = .certificate).map Section.content

/-- The first private key among at most `most` sections of a list of lines. -/
def firstKeyUpTo : (most : Nat) → List Bytes → Except Error (Option (KeyForm × Bytes))
  | 0, _ => .ok none
  | most + 1, lines => do
    match ← next lines with
    | none => .ok none
    | some (⟨.key form, content⟩, _) => .ok (some (form, content))
    | some (_, rest) => firstKeyUpTo most rest

/-- The first private key of a text. What follows it is not read. -/
def firstKey (text : Bytes) : Except Error (Option (KeyForm × Bytes)) :=
  let lines := lines text
  firstKeyUpTo lines.length lines

end HttpServer.Pem
