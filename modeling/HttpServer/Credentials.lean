import HttpServer.Config
import HttpServer.Credentials.Certificate
import HttpServer.Credentials.PrivateKey
import HttpServer.Files

/-!
# Credentials of a secure listener

A secure listener proves who it is with a chain of certificates and the private key that fits the
first of them. Both are loaded from files before any socket is touched. Whether both files exist is
looked at before either is read.
-/

namespace HttpServer

inductive CredentialFile where
  | certificate
  | key
deriving DecidableEq, Repr

def CredentialFile.name : CredentialFile → String
  | .certificate => "Certificate"
  | .key => "Private key"

inductive CredentialReadError where
  | system (failure : SystemFailure)
  /-- The sections of the file are broken. -/
  | broken (error : Pem.Error)
deriving DecidableEq, Repr

def CredentialReadError.message : CredentialReadError → String
  | .system failure => failure.message
  | .broken error => error.message

inductive CredentialsError where
  | notFound (file : CredentialFile) (path : Path)
  | unreadable (path : Path) (error : CredentialReadError)
  | noCertificates (path : Path)
  | noKey (path : Path)
  /-- A certificate or the key is of no use, or the two are not a pair. -/
  | unusable
deriving DecidableEq, Repr

def CredentialsError.message : CredentialsError → String
  | .notFound file path => file.name ++ " file not found: " ++ path.quoted
  | .unreadable path error => "failed to read " ++ path.quoted ++ ": " ++ error.message
  | .noCertificates path => "no certificates found in " ++ path.quoted
  | .noKey path => "no private key found in " ++ path.quoted
  | .unusable => "invalid TLS configuration"

/-- A chain of certificates, the first of which is the server's own, and the key that fits it. -/
structure Credentials where
  certificate : Bytes
  issuers : List Bytes
  keyForm : Pem.KeyForm
  key : Bytes
deriving DecidableEq

namespace Credentials

/-- The protocols that a secure listener speaks inside its connections. -/
def protocols : List String := ["http/1.1"]

/-- Whether the key is the one that the certificate speaks of. -/
def isPair (certificate : Bytes) (form : Pem.KeyForm) (key : Bytes) : Bool :=
  match Certificate.publicKey? certificate, PrivateKey.publicKey? form key with
  | some stated, some held => stated == held
  | _, _ => false

def readFile (files : FileSystem) (path : Path) : Except CredentialsError Bytes :=
  match files.read path with
  | .ok content => .ok content
  | .error failure => .error (.unreadable path (.system failure))

/-- Sections of a file, when they are not broken. -/
def unbroken {α : Type} (path : Path) (read : Except Pem.Error α) : Except CredentialsError α :=
  match read with
  | .ok found => .ok found
  | .error error => .error (.unreadable path (.broken error))

def load (files : FileSystem) (paths : CredentialPaths) : Except CredentialsError Credentials := do
  if !files.has paths.certificate then throw (.notFound .certificate paths.certificate)
  if !files.has paths.key then throw (.notFound .key paths.key)
  let chain ← unbroken paths.certificate
    (Pem.certificates (← readFile files paths.certificate))
  match chain with
  | [] => .error (.noCertificates paths.certificate)
  | certificate :: issuers =>
    match ← unbroken paths.key (Pem.firstKey (← readFile files paths.key)) with
    | none => .error (.noKey paths.key)
    | some (keyForm, key) =>
      if isPair certificate keyForm key then .ok { certificate, issuers, keyForm, key }
      else .error .unusable

end Credentials

end HttpServer
