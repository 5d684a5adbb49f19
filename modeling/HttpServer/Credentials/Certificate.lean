import HttpServer.Credentials.Element

/-!
# Certificates

A certificate states the public key of whoever holds it. It is read as far as that takes, and what
it holds besides must have its proper shape: above all its extensions, among which one that is
critical has to be known.
-/

namespace HttpServer.Certificate

/-! ## Extensions -/

structure Extension where
  name : Bytes
  isCritical : Bool
  value : Bytes
deriving DecidableEq

/-- A truth value, which is false when it is not there, at the front of a run, and what follows
it. -/
def truth? (bytes : Bytes) : Option (Bool × Bytes) := do
  match ← Element.optional Element.truth bytes with
  | (none, rest) => some (false, rest)
  | (some [0x00], rest) => some (false, rest)
  | (some [0xFF], rest) => some (true, rest)
  | _ => none

def Extension.ofBytes? (bytes : Bytes) : Option Extension := do
  let (name, rest) ← Element.expect Element.objectName bytes
  let (isCritical, rest) ← truth? rest
  let value ← Element.whole Element.octets rest
  return { name, isCritical, value }

/-- The name of a standard extension, of which all but the last octet are common. -/
def standardName (number : UInt8) : Bytes := [0x55, 0x1D, number]

def keyUsage : Bytes := standardName 15

/-- The extensions that are known: key usage, other names, basic constraints, constraints on names,
places of revocation lists, and purposes. -/
def knownNames : List Bytes := [15, 17, 19, 30, 31, 37].map standardName

/-- Whether an extension has its proper shape. A known one is a sequence unless it is on key usage,
and an unknown one must not be critical. -/
def Extension.isSound (extension : Extension) : Bool :=
  if !knownNames.contains extension.name then !extension.isCritical
  else extension.name == keyUsage || (Element.whole Element.sequence extension.value).isSome

/-- The contents of at most `most` sequences that make up a whole run. -/
def sequencesUpTo : (most : Nat) → Bytes → Option (List Bytes)
  | _, [] => some []
  | 0, _ => none
  | most + 1, bytes => do
    let (content, rest) ← Element.expect Element.sequence bytes
    return content :: (← sequencesUpTo most rest)

/-- The extensions at the end of what is signed, if there are any. Each takes at least one octet. -/
def extensions? (bytes : Bytes) : Option (List Extension) := do
  if bytes.isEmpty then return []
  let list ← Element.whole Element.sequence (← Element.whole (Element.part 3) bytes)
  (← sequencesUpTo list.length list).mapM Extension.ofBytes?

/-- Whether extensions have their proper shapes and no known one stands twice. -/
def areSound (extensions : List Extension) : Bool :=
  extensions.all Extension.isSound
    && knownNames.all fun name => (extensions.countP fun extension => extension.name == name) ≤ 1

/-! ## The whole -/

def thirdVersion : Bytes := Element.encode Element.integer [0x02]
def lengthLimit : Nat := 65535

def publicKey? (certificate : Bytes) : Option Bytes := do
  let content ← Element.whole Element.sequence certificate
  let (signed, rest) ← Element.expect Element.sequence content
  let (algorithm, rest) ← Element.expect Element.sequence rest
  let _signature ← Element.wholeOctets? (← Element.whole Element.bits rest)
  let (version, rest) ← Element.expect (Element.part 0) signed
  let (_serial, rest) ← Element.expect Element.integer rest
  let (innerAlgorithm, rest) ← Element.expect Element.sequence rest
  let (_issuer, rest) ← Element.expect Element.sequence rest
  let (_validity, rest) ← Element.expect Element.sequence rest
  let (_subject, rest) ← Element.expect Element.sequence rest
  let (key, rest) ← Element.expect Element.sequence rest
  let extensions ← extensions? rest
  if content.length < lengthLimit ∧ version = thirdVersion ∧ innerAlgorithm = algorithm
      ∧ areSound extensions then
    some key
  else none

end HttpServer.Certificate
