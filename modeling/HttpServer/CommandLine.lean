import HttpServer.Bytes.Numeral
import HttpServer.Bytes.Utf8
import HttpServer.Handoff

/-!
# The command line

The program takes options only. An option is named in full after two dashes, or by a letter after
one dash where it has one; its value stands in the same argument or in the next, which may not begin
with a dash. No option may be given twice. Some can be given by a variable of the environment
instead, which counts only when the option is not given.

`CommandLine.parse` reads arguments one after the other. An option whose value stands in the next
argument is taken into account when the one after it is named, so an argument that cannot be there
at all is told before a wrong value in front of it.
-/

namespace HttpServer

/-! ## Options -/

inductive CommandOption where
  | config
  | port
  | descriptor
  | certificate
  | key
deriving DecidableEq, Repr

namespace CommandOption

def all : List CommandOption := [.config, .port, .descriptor, .certificate, .key]

def name : CommandOption → String
  | .config => "config"
  | .port => "port"
  | .descriptor => "fd"
  | .certificate => "cert"
  | .key => "key"

def letter? : CommandOption → Option Char
  | .config => some 'c'
  | .port => some 'p'
  | .descriptor | .certificate | .key => none

def environmentName? : CommandOption → Option String
  | .config => some "CONVEYOR_CONFIG"
  | .descriptor => some Handoff.descriptorVariable
  | .port | .certificate | .key => none

/-- How messages show the option: with its name and a name for its value. -/
def shown (option : CommandOption) : String :=
  "--" ++ option.name ++ " <" ++ option.name.toUpper ++ ">"

def named? (name : Bytes) : Option CommandOption :=
  all.find? fun option => Bytes.ascii option.name = name

def lettered? (letter : UInt8) : Option CommandOption :=
  all.find? fun option => option.letter?.any fun own => own.toNat = letter.toNat

end CommandOption

structure Options where
  config : Option Path := none
  port : Option UInt16 := none
  descriptor : Option DescriptorNumber := none
  certificate : Option Path := none
  key : Option Path := none
deriving DecidableEq, Repr

def Options.has (options : Options) : CommandOption → Bool
  | .config => options.config.isSome
  | .port => options.port.isSome
  | .descriptor => options.descriptor.isSome
  | .certificate => options.certificate.isSome
  | .key => options.key.isSome

/-! ## Refusals -/

inductive NumberProblem where
  | malformed (error : Numeral.Error)
  | outOfRange (number least greatest : Int)
deriving DecidableEq, Repr

def NumberProblem.message : NumberProblem → String
  | .malformed error => error.message
  | .outOfRange number least greatest =>
    toString number ++ " is not in " ++ toString least ++ "..=" ++ toString greatest

inductive CommandLineError where
  /-- No argument can be this one. -/
  | unexpected (argument : String)
  | missingValue (option : CommandOption)
  | wrongValue (option : CommandOption) (value : String) (problem : NumberProblem)
  /-- A flag is given a value. -/
  | needlessValue (flag value : String)
  | repeated (option : CommandOption)
  /-- An option is given that makes no sense without this one. -/
  | missingOption (option : CommandOption)
  /-- A number is not even a text. -/
  | notText
deriving DecidableEq, Repr

def CommandLineError.message : CommandLineError → String
  | .unexpected argument => "unexpected argument '" ++ argument ++ "' found"
  | .missingValue option =>
    "a value is required for '" ++ option.shown ++ "' but none was supplied"
  | .wrongValue option value problem =>
    "invalid value '" ++ value ++ "' for '" ++ option.shown ++ "': " ++ problem.message
  | .needlessValue flag value =>
    "unexpected value '" ++ value ++ "' for '" ++ flag ++ "' found; no more were expected"
  | .repeated option => "the argument '" ++ option.shown ++ "' cannot be used multiple times"
  | .missingOption option =>
    "the following required arguments were not provided:\n  " ++ option.shown
  | .notText => "invalid UTF-8 was detected in one or more arguments"

inductive CommandLineExit where
  | help
  | version
  | refused (error : CommandLineError)
deriving DecidableEq, Repr

/-! ## Values -/

namespace Options

def number (option : CommandOption) (least greatest : Int) (value : Bytes) :
    Except CommandLineError Int :=
  match Utf8.decode value with
  | none => .error .notText
  | some text =>
    match Numeral.readInteger (UInt64.size / 2) (UInt64.size / 2 - 1) value with
    | .error error => .error (.wrongValue option text (.malformed error))
    | .ok number =>
      if least ≤ number ∧ number ≤ greatest then .ok number
      else .error (.wrongValue option text (.outOfRange number least greatest))

def path (option : CommandOption) (value : Bytes) : Except CommandLineError Path :=
  if value.isEmpty then .error (.missingValue option) else .ok value

/-- Gives an option its value, whether it had one or not. -/
def put (options : Options) (option : CommandOption) (value : Bytes) :
    Except CommandLineError Options :=
  match option with
  | .config => (path option value).map fun path => { options with config := some path }
  | .port =>
    (number option 0 65535 value).map fun number =>
      { options with port := some number.toNat.toUInt16 }
  | .descriptor =>
    (number option (-2147483648) 2147483647 value).map fun number =>
      { options with descriptor := some (Int32.ofInt number) }
  | .certificate => (path option value).map fun path => { options with certificate := some path }
  | .key => (path option value).map fun path => { options with key := some path }

def give (options : Options) (option : CommandOption) (value : Bytes) :
    Except CommandLineError Options :=
  if options.has option then .error (.repeated option) else options.put option value

end Options

namespace CommandLine

/-! ## Arguments -/

def dash : UInt8 := 0x2D
def equals : UInt8 := 0x3D

inductive Form where
  /-- Two dashes: only words follow. -/
  | escape
  /-- A name after two dashes, perhaps with a value. -/
  | long (name : Bytes) (value : Option Bytes)
  /-- A letter after one dash, and what follows it. -/
  | short (letter : UInt8) (rest : Bytes)
  | word
deriving DecidableEq

def formOf : Bytes → Form
  | first :: second :: rest =>
    if first = dash then
      if second = dash then
        match rest with
        | [] => .escape
        | _ =>
          let name := rest.takeWhile (· != equals)
          match rest.dropWhile (· != equals) with
          | _ :: value => .long name (some value)
          | [] => .long name none
      else .short second rest
    else .word
  | _ => .word

/-- The value that follows a letter in the same argument. -/
def joinedValue? : Bytes → Option Bytes
  | [] => none
  | first :: rest => if first = equals then some rest else some (first :: rest)

/-- How messages show a letter that is no option: with its dash. -/
def shownLetter (cluster : Bytes) : String :=
  match Utf8.first? cluster with
  | some (character, _) => "-" ++ toString character
  | none => "-" ++ Utf8.readable cluster

/-! ## Reading -/

structure Reading where
  options : Options := {}
  /-- The option whose value stands in an argument of its own, with the value once it has come. -/
  pending : Option (CommandOption × Option Bytes) := none
  /-- Whether only words may follow. -/
  escaped : Bool := false
deriving DecidableEq

namespace Reading

def resolve (reading : Reading) : Except CommandLineError Reading :=
  match reading.pending with
  | none => .ok reading
  | some (option, none) => .error (.missingValue option)
  | some (option, some value) =>
    (reading.options.give option value).map fun options =>
      { reading with options, pending := none }

def name (reading : Reading) (option : CommandOption) (value : Option Bytes) :
    Except CommandLineError Reading := do
  let reading ← reading.resolve
  match value with
  | none => .ok { reading with pending := some (option, none) }
  | some value =>
    (reading.options.give option value).map fun options => { reading with options }

/-- A word is the value of an option that has none yet. -/
def word (reading : Reading) (argument : Bytes) : Except CommandLineError Reading :=
  match reading.pending with
  | some (option, none) =>
    if reading.escaped then .error (.unexpected (Utf8.readable argument))
    else .ok { reading with pending := some (option, some argument) }
  | _ => .error (.unexpected (Utf8.readable argument))

/-- A flag ends the reading, if what came before it is right. -/
def flag {α : Type} (reading : Reading) (exit : CommandLineExit) : Except CommandLineExit α :=
  match reading.resolve with
  | .ok _ => .error exit
  | .error error => .error (.refused error)

def flag? (name : Bytes) : Option (String × CommandLineExit) :=
  if name = Bytes.ascii "help" then some ("--help", .help)
  else if name = Bytes.ascii "version" then some ("--version", .version)
  else none

def letterFlag? (letter : UInt8) : Option CommandLineExit :=
  if letter = 0x68 then some .help else if letter = 0x56 then some .version else none

def long (reading : Reading) (name : Bytes) (value : Option Bytes) :
    Except CommandLineExit Reading :=
  match flag? name, value with
  | some (_, exit), none => reading.flag exit
  | some (flag, _), some value =>
    .error (.refused (.needlessValue flag (Utf8.readable value)))
  | none, _ =>
    match CommandOption.named? name with
    | some option => (reading.name option value).mapError .refused
    | none => .error (.refused (.unexpected ("--" ++ Utf8.readable name)))

def short (reading : Reading) (letter : UInt8) (rest : Bytes) : Except CommandLineExit Reading :=
  match letterFlag? letter with
  | some exit => reading.flag exit
  | none =>
    match CommandOption.lettered? letter with
    | some option => (reading.name option (joinedValue? rest)).mapError .refused
    | none => .error (.refused (.unexpected (shownLetter (letter :: rest))))

def step (reading : Reading) (argument : Bytes) : Except CommandLineExit Reading :=
  if reading.escaped then (reading.word argument).mapError .refused
  else
    match formOf argument with
    | .escape => .ok { reading with escaped := true }
    | .long name value => reading.long name value
    | .short letter rest => reading.short letter rest
    | .word => (reading.word argument).mapError .refused

end Reading

/-! ## Command lines -/

/-- Gives an option that is not given the value of its variable, when that is set. -/
def giveFrom (environment : Environment) (options : Options) (option : CommandOption) :
    Except CommandLineError Options :=
  if options.has option then .ok options
  else
    match option.environmentName?.bind environment with
    | none => .ok options
    | some value => options.put option value

/-- Checks that options which need each other are given together. -/
def complete (options : Options) : Except CommandLineError Options :=
  match options.certificate, options.key with
  | some _, none => .error (.missingOption .key)
  | none, some _ => .error (.missingOption .certificate)
  | _, _ => .ok options

/-- The options once all arguments have been read. -/
def finish (environment : Environment) (reading : Reading) : Except CommandLineError Options := do
  let reading ← reading.resolve
  let options ← CommandOption.all.foldlM (giveFrom environment) reading.options
  complete options

def parse (environment : Environment) (arguments : List Bytes) :
    Except CommandLineExit Options := do
  let reading ← arguments.foldlM Reading.step {}
  (finish environment reading).mapError .refused

end CommandLine

end HttpServer
