import HttpServer.Bytes.Utf8
import HttpServer.Text.Quoted

/-!
# Paths

A path is a run of octets that need not be text, so two paths may differ where no reader could tell.
Messages show one in quotes, like a text; every octet that belongs to no character is shown by its
two digits.
-/

namespace HttpServer

abbrev Path := Bytes

/-- A text spells the path of its octets. -/
instance : Coe String Path := ⟨Utf8.encode⟩

namespace Path

def escapeOctet (byte : UInt8) : List Char :=
  ['\\', 'x'] ++ (Nat.toDigits 16 byte.toNat).map Char.toUpper

def escape : Utf8.Piece → List Char
  | .whole character => Text.escape character
  | .broken octets => octets.flatMap escapeOctet

def quoted (path : Path) : String :=
  String.ofList ('"' :: (Utf8.pieces path).flatMap escape ++ ['"'])

example : quoted [0xFF, 0xFE] = "\"\\xFF\\xFE\"" := by decide +kernel

end Path

end HttpServer
