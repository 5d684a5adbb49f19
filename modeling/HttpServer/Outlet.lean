import HttpServer.Bytes
import HttpServer.IoFailure

/-!
# The outgoing side of a connection

What is written reaches the wire in order. A peer may stop taking octets at some point; then a
write puts out what still fits and fails, and so does every later write of anything.
-/

namespace HttpServer

structure SystemFailure where
  number : Nat
  description : String
deriving DecidableEq, Repr

def SystemFailure.message (failure : SystemFailure) : String :=
  failure.description ++ " (os error " ++ toString failure.number ++ ")"

namespace SystemFailure

def connectionReset : SystemFailure := ⟨104, "Connection reset by peer"⟩
def badDescriptor : SystemFailure := ⟨9, "Bad file descriptor"⟩
def notASocket : SystemFailure := ⟨88, "Socket operation on non-socket"⟩
def addressInUse : SystemFailure := ⟨98, "Address already in use"⟩
def addressNotAvailable : SystemFailure := ⟨99, "Cannot assign requested address"⟩
def noSuchFile : SystemFailure := ⟨2, "No such file or directory"⟩
def isADirectory : SystemFailure := ⟨21, "Is a directory"⟩
def notADirectory : SystemFailure := ⟨20, "Not a directory"⟩
def nameTooLong : SystemFailure := ⟨36, "File name too long"⟩
def invalidArgument : SystemFailure := ⟨22, "Invalid argument"⟩
def noSuchDevice : SystemFailure := ⟨19, "No such device"⟩
def permissionDenied : SystemFailure := ⟨13, "Permission denied"⟩
def brokenPipe : SystemFailure := ⟨32, "Broken pipe"⟩

def known : List SystemFailure :=
  [noSuchFile, badDescriptor, permissionDenied, noSuchDevice, notADirectory, isADirectory,
    invalidArgument, brokenPipe, nameTooLong, notASocket, addressInUse, addressNotAvailable,
    connectionReset]

/-- The failure with a number, if it has a name here; `description` describes any other. -/
def numbered (number : Nat) (description : String) : SystemFailure :=
  (known.find? fun failure => failure.number = number).getD ⟨number, description⟩

end SystemFailure

/-- The kind of a system failure, where its number belongs to one. -/
def SystemFailure.kind? (failure : SystemFailure) : Option IoFailure :=
  match failure.number with
  | 2 => some .notFound
  | 13 => some .permissionDenied
  | 20 => some .notADirectory
  | 21 => some .isADirectory
  | 22 => some .invalidInput
  | 32 => some .brokenPipe
  | 36 => some .invalidFilename
  | 98 => some .addressInUse
  | 99 => some .addressNotAvailable
  | 104 => some .connectionReset
  | _ => none

inductive WriteFailure where
  | plain (kind : IoFailure)
  | system (failure : SystemFailure)
deriving DecidableEq, Repr

def WriteFailure.message : WriteFailure → String
  | .plain kind => kind.message
  | .system failure => failure.message

/-- The point from which a peer takes no more octets. -/
structure WriteBound where
  room : Nat
  failure : WriteFailure := .plain .writeZero
deriving DecidableEq, Repr

/-- What has reached the wire, and the bound on it when there is one. -/
structure Outlet where
  wire : Bytes := []
  bound : Option WriteBound := none
deriving DecidableEq

namespace Outlet

/-- Writes octets. On failure the octets that still fitted have reached the wire. -/
def write (outlet : Outlet) (bytes : Bytes) : Except WriteFailure Unit × Outlet :=
  match outlet.bound with
  | none => (.ok (), { outlet with wire := outlet.wire ++ bytes })
  | some bound =>
    let left := bound.room - outlet.wire.length
    if bytes.length ≤ left then (.ok (), { outlet with wire := outlet.wire ++ bytes })
    else (.error bound.failure, { outlet with wire := outlet.wire ++ bytes.take left })

end Outlet

end HttpServer
