import HttpServer.Bytes

/-!
# Well-formed UTF-8

A request target may hold characters beyond ASCII, but only as well-formed UTF-8: no stray or
missing continuation, no overlong form, no surrogate, nothing past the last code point. `decode`
gives the text of a well-formed run and nothing otherwise.
-/

namespace HttpServer.Utf8

def isTail (byte : UInt8) : Bool := 0x80 ≤ byte && byte ≤ 0xBF

/-- The least and the greatest octet that may follow the first octet of a three-octet form. -/
def secondOfThree (first second : UInt8) : Bool :=
  if first == 0xE0 then 0xA0 ≤ second && second ≤ 0xBF
  else if first == 0xED then 0x80 ≤ second && second ≤ 0x9F
  else isTail second

/-- The least and the greatest octet that may follow the first octet of a four-octet form. -/
def secondOfFour (first second : UInt8) : Bool :=
  if first == 0xF0 then 0x90 ≤ second && second ≤ 0xBF
  else if first == 0xF4 then 0x80 ≤ second && second ≤ 0x8F
  else isTail second

/-- The code points of a well-formed run appended to those already read, latest first. -/
def decodeOnto (seen : List Char) : Bytes → Option (List Char)
  | [] => some seen
  | first :: rest =>
    if first < 0x80 then decodeOnto (Char.ofNat first.toNat :: seen) rest
    else if 0xC2 ≤ first && first ≤ 0xDF then
      match rest with
      | second :: tail =>
        if isTail second then
          decodeOnto (Char.ofNat ((first.toNat - 0xC0) * 64 + (second.toNat - 0x80)) :: seen) tail
        else none
      | [] => none
    else if 0xE0 ≤ first && first ≤ 0xEF then
      match rest with
      | second :: third :: tail =>
        if secondOfThree first second && isTail third then
          decodeOnto
            (Char.ofNat
              (((first.toNat - 0xE0) * 64 + (second.toNat - 0x80)) * 64 + (third.toNat - 0x80))
              :: seen) tail
        else none
      | _ => none
    else if 0xF0 ≤ first && first ≤ 0xF4 then
      match rest with
      | second :: third :: fourth :: tail =>
        if secondOfFour first second && isTail third && isTail fourth then
          decodeOnto
            (Char.ofNat
              ((((first.toNat - 0xF0) * 64 + (second.toNat - 0x80)) * 64
                + (third.toNat - 0x80)) * 64 + (fourth.toNat - 0x80))
              :: seen) tail
        else none
      | _ => none
    else none

/-- The text of a well-formed run. -/
def decode (bytes : Bytes) : Option String :=
  (decodeOnto [] bytes).map fun characters => String.ofList characters.reverse

def isWellFormed (bytes : Bytes) : Bool := (decodeOnto [] bytes).isSome

/-- The first character of a run and how many octets it takes, when the run begins with one. -/
def first? (bytes : Bytes) : Option (Char × Nat) :=
  [1, 2, 3, 4].findSome? fun length =>
    match decodeOnto [] (bytes.take length) with
    | some [character] => some (character, length)
    | _ => none

/-- A part of a run that need not be well formed. -/
inductive Piece where
  | whole (character : Char)
  /-- An octet that begins no character, with those that could have followed it in one. -/
  | broken (octets : Bytes)

/-- How many octets the broken piece has with which a run begins. -/
def brokenLength : Bytes → Nat
  | first :: second :: rest =>
    if 0xE0 ≤ first && first ≤ 0xEF && secondOfThree first second then 2
    else if 0xF0 ≤ first && first ≤ 0xF4 && secondOfFour first second then
      if rest.head?.any isTail then 3 else 2
    else 1
  | _ => 1

/-- At most `most` pieces from the front of a run. -/
def takePieces : (most : Nat) → Bytes → List Piece
  | 0, _ | _, [] => []
  | most + 1, bytes =>
    match first? bytes with
    | some (character, length) => .whole character :: takePieces most (bytes.drop length)
    | none =>
      let length := brokenLength bytes
      .broken (bytes.take length) :: takePieces most (bytes.drop length)

/-- The pieces of a run. None of them is empty. -/
def pieces (bytes : Bytes) : List Piece := takePieces bytes.length bytes

def Piece.readable : Piece → Char
  | .whole character => character
  | .broken _ => '\ufffd'

/-- The text of a run, well formed or not, with a sign in place of every broken piece. -/
def readable (bytes : Bytes) : String := String.ofList ((pieces bytes).map Piece.readable)

/-- The sign stands once for the front of a character, and once for each octet that fits nowhere. -/
example : readable [0xF0, 0x9F, 0x98, 0x61, 0xC0, 0x80] = "\ufffda\ufffd\ufffd" := by
  decide +kernel

def encode (text : String) : Bytes := text.toUTF8.toList

/-- Whether a run is well formed does not depend on what has been read before it. -/
theorem isSome_decodeOnto (seen other : List Char) (bytes : Bytes) :
    (decodeOnto seen bytes).isSome = (decodeOnto other bytes).isSome := by
  fun_induction decodeOnto seen bytes generalizing other
  -- Both sides go the same way, since only the octets decide it.
  all_goals conv => rhs; rw [decodeOnto.eq_def]
  all_goals simp only [*, if_true, if_false, Bool.false_eq_true, Option.isSome_some]
  case case2 inductionHypothesis => exact inductionHypothesis _
  case case3 inductionHypothesis => exact inductionHypothesis _
  case case6 inductionHypothesis => exact inductionHypothesis _
  case case9 inductionHypothesis => exact inductionHypothesis _

theorem isWellFormed_ascii_append {front rest : Bytes} (ascii : ∀ byte ∈ front, byte < 0x80) :
    isWellFormed (front ++ rest) = isWellFormed rest := by
  induction front with
  | nil => rfl
  | cons first front inductionHypothesis =>
      have small : first < 0x80 := ascii first List.mem_cons_self
      rw [← inductionHypothesis fun byte member => ascii byte (List.mem_cons_of_mem first member)]
      unfold isWellFormed
      rw [List.cons_append, decodeOnto.eq_def]
      simp only [small, if_true]
      exact isSome_decodeOnto _ _ _

theorem isWellFormed_of_ascii {bytes : Bytes} (ascii : ∀ byte ∈ bytes, byte < 0x80) :
    isWellFormed bytes = true := by
  rw [← List.append_nil bytes, isWellFormed_ascii_append ascii]
  rfl

end HttpServer.Utf8
