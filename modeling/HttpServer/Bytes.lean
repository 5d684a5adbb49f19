/-!
# Octets and their ASCII classes

A message travels as a run of octets. This module holds the run itself, the character classes of
the HTTP/1.x grammar as tests on one octet, and the few list operations the grammar needs:
trimming blanks, comparing without regard to letter case, and cutting a list at its commas.
-/

namespace HttpServer

abbrev Bytes := List UInt8

namespace Bytes

/-! ## Texts as octets -/

/-- The octets of an ASCII text, one for each character. -/
def ascii (text : String) : Bytes :=
  text.toList.map fun character => character.toNat.toUInt8

/-- The text whose code points are the octets. It undoes `ascii`. -/
def toText (bytes : Bytes) : String :=
  String.ofList (bytes.map fun byte => Char.ofNat byte.toNat)

def carriageReturn : UInt8 := 0x0D
def lineFeed : UInt8 := 0x0A
def space : UInt8 := 0x20
def lineEnd : Bytes := [carriageReturn, lineFeed]

/-! ## Character classes -/

def isDigit (byte : UInt8) : Bool := 0x30 ≤ byte && byte ≤ 0x39

def isUpper (byte : UInt8) : Bool := 0x41 ≤ byte && byte ≤ 0x5A

def isLower (byte : UInt8) : Bool := 0x61 ≤ byte && byte ≤ 0x7A

def isAlphanumeric (byte : UInt8) : Bool := isDigit byte || isUpper byte || isLower byte

/-- Space or tab: the blanks that may surround a field value. -/
def isBlank (byte : UInt8) : Bool := byte == 0x20 || byte == 0x09

def tokenMarks : Bytes := ascii "!#$%&'*+-.^_`|~"

/-- A character of a token: of a method or of a field name. -/
def isToken (byte : UInt8) : Bool := isAlphanumeric byte || tokenMarks.contains byte

/-- A character of a request target: anything visible, or the start or tail of a wider character. -/
def isTarget (byte : UInt8) : Bool := (0x21 ≤ byte && byte ≤ 0x7E) || 0x80 ≤ byte

/-- A character of a field value: blank, visible, or beyond ASCII. -/
def isFieldValue (byte : UInt8) : Bool :=
  byte == 0x09 || (0x20 ≤ byte && byte ≤ 0x7E) || 0x80 ≤ byte

/-- A character of a textual field value: visible ASCII, space or tab. -/
def isTextual (byte : UInt8) : Bool := byte == 0x09 || (0x20 ≤ byte && byte ≤ 0x7E)

/-! ## Letter case -/

/-- The small form of a capital letter; every other octet is its own. -/
def toLower (byte : UInt8) : UInt8 := if isUpper byte then byte + 0x20 else byte

def lowered (bytes : Bytes) : Bytes := bytes.map toLower

def sameLetters (left right : Bytes) : Bool := lowered left == lowered right

/-! ## Blanks and commas -/

def trimRight (bytes : Bytes) : Bytes := (bytes.reverse.dropWhile isBlank).reverse

/-- The run without the blanks at either end. -/
def trim (bytes : Bytes) : Bytes := trimRight (bytes.dropWhile isBlank)

def comma : UInt8 := 0x2C

/-- The pieces between the octets that are `separator`, in order; a run without any is its own single
piece. -/
def splitAtEach (separator : UInt8) (bytes : Bytes) : List Bytes :=
  bytes.foldr
    (fun byte pieces =>
      if byte == separator then [] :: pieces
      else
        match pieces with
        | [] => [[byte]]
        | piece :: others => (byte :: piece) :: others)
    [[]]

theorem splitAtEach_ne_nil (separator : UInt8) (bytes : Bytes) :
    splitAtEach separator bytes ≠ [] := by
  cases bytes with
  | nil => simp [splitAtEach]
  | cons byte rest =>
    unfold splitAtEach
    rw [List.foldr_cons]
    split
    · simp
    · split <;> simp

def splitAtCommas : Bytes → List Bytes := splitAtEach comma

theorem splitAtCommas_ne_nil (bytes : Bytes) : splitAtCommas bytes ≠ [] :=
  splitAtEach_ne_nil comma bytes

/-! ## Lines -/

/-- What follows the first line ending, when there is one. -/
def afterLine : Bytes → Option Bytes
  | 0x0D :: 0x0A :: rest => some rest
  | _ :: rest => afterLine rest
  | [] => none

/-- What follows a line ending is shorter than the run by at least the line ending. -/
theorem length_of_afterLine {bytes rest : Bytes} (found : afterLine bytes = some rest) :
    rest.length + 2 ≤ bytes.length := by
  fun_induction afterLine bytes with
  | case1 tail =>
    simp only [Option.some.injEq] at found
    subst found
    simp
  | case2 first tail _ inductionHypothesis =>
    have := inductionHypothesis found
    simp only [List.length_cons]
    omega
  | case3 => simp at found

end Bytes

end HttpServer
