import HttpServer.Credentials.Curve
import HttpServer.Credentials.Pem
import HttpServer.Credentials.RsaKey
import HttpServer.Credentials.TwistedCurve

/-!
# Private keys

A private key is stored by itself, or in a wrapping that names its algorithm. It is of use if it is
whole and if the public key that is stored with it, where there is one, is its own. What is made of
it is the statement of its public key: the algorithm, and the key as a string of bits.
-/

namespace HttpServer.PrivateKey

/-! ## Algorithms -/

def curveAlgorithm (curve : Curve) : Bytes :=
  Element.encode Element.objectName [0x2A, 0x86, 0x48, 0xCE, 0x3D, 0x02, 0x01]
    ++ Element.encode Element.objectName curve.name

def twistedCurveAlgorithm : Bytes := Element.encode Element.objectName [0x2B, 0x65, 0x70]

def rsaAlgorithm : Bytes :=
  Element.encode Element.objectName [0x2A, 0x86, 0x48, 0x86, 0xF7, 0x0D, 0x01, 0x01, 0x01]
    ++ Element.encode Element.nothing []

/-- The statement of a public key. -/
def statement (algorithm key : Bytes) : Bytes :=
  Element.encode Element.sequence algorithm ++ Element.encodeBits key

/-! ## Keys by themselves -/

/-- The public key of a key for a curve. The curve may be named in it, and the public key must be
stored with it. -/
def ofCurveKey? (curve : Curve) (key : Bytes) : Option Bytes := do
  let (version, rest) ← Element.number? (← Element.whole Element.sequence key)
  let (secret, rest) ← Element.expect Element.octets rest
  let (named, rest) ← Element.optional (Element.part 0) rest
  let stated ← Element.whole (Element.part 1) rest
  let stored ← Element.wholeOctets? (← Element.whole Element.bits stated)
  let own ← curve.publicKey? secret
  if version = 1 ∧ named.all (· = Element.encode Element.objectName curve.name) ∧ stored = own then
    some (statement (curveAlgorithm curve) own)
  else none

def ofRsaKey? (key : Bytes) : Option Bytes := do
  let key ← RsaKey.ofBytes? key
  if key.isSound then some (statement rsaAlgorithm key.publicKey) else none

/-! ## Wrapped keys -/

structure Wrapped where
  version : Nat
  algorithm : Bytes
  key : Bytes
  /-- What follows the key and its attributes. -/
  rest : Bytes

/-- Reads a wrapping. Attributes may follow the key. -/
def unwrap? (bytes : Bytes) : Option Wrapped := do
  let (version, rest) ← Element.number? (← Element.whole Element.sequence bytes)
  let (algorithm, rest) ← Element.expect Element.sequence rest
  let (key, rest) ← Element.expect Element.octets rest
  let (_attributes, rest) ← Element.optional (Element.part 0) rest
  return { version, algorithm, key, rest }

/-- The public key that is stored after a key in a wrapping of the second version. It is a part by
itself, or a string of bits within one. -/
def Wrapped.publicKey? (wrapped : Wrapped) : Option Bytes :=
  if wrapped.rest.head? = some (Element.part 1) then do
    let part ← Element.whole (Element.part 1) wrapped.rest
    Element.wholeOctets? (← Element.whole Element.bits part)
  else do
    Element.wholeOctets? (← Element.whole (Element.plainPart 1) wrapped.rest)

/-- The public key of a seed in a wrapping. Only the second version stores a public key. -/
def ofSeed? (wrapped : Wrapped) : Option Bytes := do
  let own ← TwistedCurve.publicKey? (← Element.whole Element.octets wrapped.key)
  let isConsistent : Bool :=
    match wrapped.version with
    | 0 => wrapped.rest == []
    | 1 => wrapped.publicKey? == some own
    | _ => false
  if isConsistent then some (statement twistedCurveAlgorithm own) else none

def ofWrapped? (bytes : Bytes) : Option Bytes := do
  let wrapped ← unwrap? bytes
  if wrapped.algorithm = twistedCurveAlgorithm then ofSeed? wrapped
  else if wrapped.version ≠ 0 ∨ wrapped.rest ≠ [] then none
  else if wrapped.algorithm = rsaAlgorithm then ofRsaKey? wrapped.key
  else
    let curve ← Curve.all.find? fun curve => wrapped.algorithm = curveAlgorithm curve
    ofCurveKey? curve wrapped.key

/-- The statement of the public key of a private key that is of use. -/
def publicKey? (form : Pem.KeyForm) (key : Bytes) : Option Bytes :=
  match form with
  | .general => ofWrapped? key
  | .ellipticCurve => Curve.all.findSome? fun curve => ofCurveKey? curve key
  | .rsa => ofRsaKey? key

end HttpServer.PrivateKey
