/-!
# Kinds of input and output failure

A read, a write or an accept can fail on grounds outside the program. The kind decides how the
failure is treated: some only mean that the peer has gone, some pass by themselves.
-/

namespace HttpServer

inductive IoFailure where
  | notFound
  | permissionDenied
  | connectionRefused
  | connectionReset
  | connectionAborted
  | notConnected
  | addressInUse
  | addressNotAvailable
  | brokenPipe
  | alreadyExists
  | wouldBlock
  | invalidInput
  | invalidData
  | timedOut
  | writeZero
  | interrupted
  | unsupported
  | unexpectedEnd
  | outOfMemory
  | notADirectory
  | isADirectory
  | invalidFilename
  | other
deriving DecidableEq, Repr

namespace IoFailure

def message : IoFailure → String
  | .notFound => "entity not found"
  | .permissionDenied => "permission denied"
  | .connectionRefused => "connection refused"
  | .connectionReset => "connection reset"
  | .connectionAborted => "connection aborted"
  | .notConnected => "not connected"
  | .addressInUse => "address in use"
  | .addressNotAvailable => "address not available"
  | .brokenPipe => "broken pipe"
  | .alreadyExists => "entity already exists"
  | .wouldBlock => "operation would block"
  | .invalidInput => "invalid input parameter"
  | .invalidData => "invalid data"
  | .timedOut => "timed out"
  | .writeZero => "write zero"
  | .interrupted => "operation interrupted"
  | .unsupported => "unsupported"
  | .unexpectedEnd => "unexpected end of file"
  | .outOfMemory => "out of memory"
  | .notADirectory => "not a directory"
  | .isADirectory => "is a directory"
  | .invalidFilename => "invalid filename"
  | .other => "other error"

def name : IoFailure → String
  | .notFound => "NotFound"
  | .permissionDenied => "PermissionDenied"
  | .connectionRefused => "ConnectionRefused"
  | .connectionReset => "ConnectionReset"
  | .connectionAborted => "ConnectionAborted"
  | .notConnected => "NotConnected"
  | .addressInUse => "AddrInUse"
  | .addressNotAvailable => "AddrNotAvailable"
  | .brokenPipe => "BrokenPipe"
  | .alreadyExists => "AlreadyExists"
  | .wouldBlock => "WouldBlock"
  | .invalidInput => "InvalidInput"
  | .invalidData => "InvalidData"
  | .timedOut => "TimedOut"
  | .writeZero => "WriteZero"
  | .interrupted => "Interrupted"
  | .unsupported => "Unsupported"
  | .unexpectedEnd => "UnexpectedEof"
  | .outOfMemory => "OutOfMemory"
  | .notADirectory => "NotADirectory"
  | .isADirectory => "IsADirectory"
  | .invalidFilename => "InvalidFilename"
  | .other => "Other"

def all : List IoFailure :=
  [.notFound, .permissionDenied, .connectionRefused, .connectionReset, .connectionAborted,
    .notConnected, .addressInUse, .addressNotAvailable, .brokenPipe, .alreadyExists, .wouldBlock,
    .invalidInput, .invalidData, .timedOut, .writeZero, .interrupted, .unsupported,
    .unexpectedEnd, .outOfMemory, .notADirectory, .isADirectory, .invalidFilename, .other]

/-- The kind with a name. A name that none has stands for a kind of its own. -/
def named (name : String) : IoFailure := (all.find? fun kind => kind.name = name).getD .other

/-- Whether a failed read only means that the peer has stopped talking. -/
def meansPeerLeft : IoFailure → Bool
  | .unexpectedEnd | .connectionReset | .connectionAborted | .brokenPipe => true
  | _ => false

/-- Whether a failed accept is expected now and then and passes by itself. -/
def isTransient : IoFailure → Bool
  | .interrupted | .wouldBlock | .timedOut | .connectionAborted | .connectionReset => true
  | _ => false

end IoFailure

end HttpServer
