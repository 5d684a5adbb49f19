import HttpServer.Config.Load
import HttpServer.Server

/-!
# Failures in full

A program that cannot start shows why with everything it knows: the kinds of failure one inside the
other, each with its parts. Texts stand in quotes, parts of a failure in braces after its name.
-/

namespace HttpServer

/-! ## Failures of the host -/

def SystemFailure.kindName (failure : SystemFailure) : String :=
  (failure.kind?.map IoFailure.name).getD "Uncategorized"

def SystemFailure.describe (failure : SystemFailure) : String :=
  Text.record "Os" [("code", toString failure.number), ("kind", failure.kindName),
    ("message", Text.quoted failure.description)]

def IoFailure.describeWith (kind : IoFailure) (message : String) : String :=
  Text.record "Error" [("kind", kind.name), ("message", Text.quoted message)]

/-- A failure of a kind that another failure, shown as `cause`, has brought about. -/
def IoFailure.describeFrom (kind : IoFailure) (cause : String) : String :=
  Text.record "Custom" [("kind", kind.name), ("error", cause)]

/-! ## Numbers and addresses -/

def Numeral.Error.name : Numeral.Error → String
  | .empty => "Empty"
  | .invalidDigit => "InvalidDigit"
  | .tooLarge => "PosOverflow"
  | .tooSmall => "NegOverflow"

def Numeral.Error.describe (error : Numeral.Error) : String :=
  Text.record "ParseIntError" [("kind", error.name)]

def ResolveError.describe (error : ResolveError) : String :=
  match error with
  | .port cause => IoFailure.invalidInput.describeFrom cause.describe
  | .notAnAddress | .portValue | .endInside => IoFailure.invalidInput.describeWith error.message
  | .lookup _ => Text.record "Custom"
    [("kind", "Uncategorized"), ("error", Text.quoted error.message)]
  | .noAddresses => IoFailure.addressNotAvailable.describeFrom (Text.quoted error.message)

/-! ## Listeners and credentials -/

def AdoptionError.describe (error : AdoptionError) : String :=
  match error with
  | .system failure => failure.describe
  | .negative | .notStream | .notListening | .notInternet =>
    IoFailure.invalidInput.describeFrom (Text.quoted error.message)

def ListenerError.describe : ListenerError → String
  | .unresolved address error =>
    Text.record "Resolve" [("address", Text.quoted address), ("source", error.describe)]
  | .bind address failure =>
    Text.record "Bind" [("address", address.render), ("source", failure.describe)]
  | .notAListener number error =>
    Text.record "NotAListener" [("fd", toString number.toInt), ("source", error.describe)]
  | .setup failure => Text.wrapped "Io" [failure.describe]

def CredentialReadError.describe (error : CredentialReadError) : String :=
  match error with
  | .system failure => failure.describe
  | .broken _ => IoFailure.invalidData.describeFrom (Text.quoted error.message)

def CredentialsError.describe : CredentialsError → String
  | .notFound file path =>
    Text.record "NotFound" [("kind", Text.quoted file.name), ("path", path.quoted)]
  | .unreadable path error =>
    Text.record "Read" [("path", path.quoted), ("source", error.describe)]
  | .noCertificates path => Text.wrapped "NoCertificates" [path.quoted]
  | .noKey path => Text.wrapped "NoPrivateKey" [path.quoted]
  | .unusable => "Rustls"

def ServerError.describe : ServerError → String
  | .listener error => Text.wrapped "Listener" [error.describe]
  | .credentials error => Text.wrapped "Tls" [error.describe]
  | .alreadyListening => "AlreadyListening"
  | .notListening => "NotListening"

/-! ## Configurations -/

def ConfigProblem.describe : ConfigProblem → String
  | .noListenerSource => "NoListenerSource"
  | .negativeDescriptor number => Text.wrapped "NegativeFd" [toString number.toInt]
  | .zeroAcceptTimeout => "ZeroAcceptTimeout"
  | .emptyCredentialPath setting => Text.wrapped "EmptyTlsPath" [Text.quoted setting.name]
  | .zeroLimit setting => Text.wrapped "ZeroLimit" [Text.quoted setting.name]
  | .badMetricsAddress address => Text.wrapped "BadMetricsAddress" [Text.quoted address]

def ConfigFileError.describe (error : ConfigFileError) : String :=
  match error with
  | .system failure => failure.describe
  | .notText => IoFailure.invalidData.describeWith error.message

def ConfigError.describe : ConfigError → String
  | .file error => Text.wrapped "Io" [error.describe]
  | .form => "Parse"
  | .invalid problems =>
    Text.wrapped "Validation" [Text.bracketed (problems.map ConfigProblem.describe)]

end HttpServer
