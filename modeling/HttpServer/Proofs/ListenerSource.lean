import HttpServer.Proofs.Attachment
import HttpServer.Proofs.Overrides

/-!
# Where a listening socket comes from

The socket of a configured listener is adopted or bound: a descriptor given by an option comes
first, then one of the file, then a port given by an option, which is bound on every interface, and
last the address of the file. So an option that gives a port comes behind a setting of the file. It
makes no difference where the file has a descriptor.
-/

namespace HttpServer

/-- Where the socket of a listener comes from. -/
inductive ListenerSource where
  | descriptor (number : DescriptorNumber)
  | everyInterface (port : UInt16)
  | address (text : String)
deriving DecidableEq

variable {host after : Host} {acceptTimeout : Word} {listener : Listener}

/-! ## Bound addresses -/

namespace SocketAddress

theorem withPort_port (address : SocketAddress) : address.withPort address.port = address := by
  cases address <;> rfl

end SocketAddress

/-- A socket is bound to the address that is asked for, with any port where none is asked for. -/
theorem Host.bound_of_bind {address bound : SocketAddress} {number : DescriptorNumber}
    (binds : host.bind address = (.ok (number, bound), after)) :
    number = host.nextNumber ∧
      ∃ port, bound = address.withPort port ∧ (address.port ≠ 0 → port = address.port) := by
  unfold Host.bind at binds
  cases refused : host.refuses address with
  | some failure =>
      rw [refused] at binds
      cases binds
  | none =>
      simp only [refused] at binds
      split at binds
      case isTrue anyPort =>
        cases binds
        exact ⟨rfl, _, rfl, fun other => absurd anyPort other⟩
      case isFalse fixed =>
        split at binds
        · cases binds
        · cases binds
          exact ⟨rfl, address.port, address.withPort_port.symm, fun _ => rfl⟩

namespace Listener

theorem fields_of_setUp {number : DescriptorNumber} {address : SocketAddress}
    (sets : setUp number address acceptTimeout host = (.ok listener, after)) :
    listener.number = number ∧ listener.address = address ∧
      listener.acceptTimeout = acceptTimeout := by
  rcases setUp_cases number address acceptTimeout host with ⟨failure, same⟩ | same
  · rw [same] at sets
    cases sets
  · rw [same] at sets
    cases sets
    exact ⟨rfl, rfl, rfl⟩

theorem fields_of_bindFirst {failure : ListenerError} {addresses : List SocketAddress}
    (binds : bindFirst acceptTimeout failure addresses host = (.ok listener, after)) :
    listener.acceptTimeout = acceptTimeout ∧ listener.number = host.nextNumber ∧
      ∃ address ∈ addresses, ∃ port, listener.address = address.withPort port ∧
        (address.port ≠ 0 → port = address.port) := by
  induction addresses generalizing failure with
  | nil =>
      cases binds
  | cons address rest inductionHypothesis =>
      unfold bindFirst at binds
      cases tried : host.bind address with
      | mk outcome opened =>
          rw [tried] at binds
          cases outcome with
          | ok bound =>
              obtain ⟨number, bound⟩ := bound
              obtain ⟨isNew, port, isBound, fixed⟩ := Host.bound_of_bind tried
              obtain ⟨sameNumber, sameAddress, waits⟩ := fields_of_setUp binds
              refine ⟨waits, sameNumber.trans isNew, address, List.mem_cons_self, port, ?_, fixed⟩
              exact sameAddress.trans isBound
          | error refused =>
              rcases host.bind_cases address with ⟨_, same⟩ | ⟨_, _, same⟩
              · rw [same] at tried
                cases tried
                obtain ⟨waits, isNew, other, member, found⟩ := inductionHypothesis binds
                exact ⟨waits, isNew, other, List.mem_cons_of_mem _ member, found⟩
              · rw [same] at tried
                cases tried

theorem fields_of_adopt {number : DescriptorNumber}
    (adopts : adopt number acceptTimeout host = (.ok listener, after)) :
    listener.acceptTimeout = acceptTimeout ∧ listener.number = number ∧
      check host number = .ok listener.address := by
  unfold adopt at adopts
  split at adopts
  · cases adopts
  · cases checked : check host number with
    | error error =>
        rw [checked] at adopts
        cases adopts
    | ok address =>
        rw [checked] at adopts
        obtain ⟨sameNumber, sameAddress, waits⟩ := fields_of_setUp adopts
        exact ⟨waits, sameNumber, by rw [sameAddress]⟩

end Listener

/-! ## Ports -/

namespace BindAddress

theorem toString_ne {text : String} (number : Nat) {byte : UInt8}
    (member : byte ∈ Utf8.encode text) (letter : Bytes.isDigit byte = false) :
    toString number ≠ text := by
  rintro rfl
  rw [Numeral.encode_toString] at member
  rw [Numeral.isDigit_of_mem_decimal member] at letter
  cases letter

theorem namedPort_toString (port : UInt16) :
    namedPort (toString port.toNat) = .ok port := by
  have letter : Bytes.isDigit 0x68 = false := by decide
  have notHttp : toString port.toNat ≠ "http" := toString_ne _ (by decide +kernel) letter
  have notHttps : toString port.toNat ≠ "https" := toString_ne _ (by decide +kernel) letter
  have within : port.toNat ≤ maximumPort := Nat.le_of_lt_succ port.toNat_lt
  rw [namedPort, if_neg notHttp, if_neg notHttps, Numeral.encode_toString,
    Numeral.readNatural_decimal within]
  exact congrArg Except.ok port.ofNat_toNat

/-- Nobody is asked where no host is named. -/
theorem resolve_port (port : UInt16) (names : NameService) :
    resolve (":" ++ toString port.toNat) names = .ok (everyInterface port) := by
  have begins : (":" ++ toString port.toNat).toList = ':' :: (toString port.toNat).toList := by
    rw [String.toList_append]
    rfl
  rw [resolve, begins]
  simp only [String.ofList_toList, namedPort_toString]

end BindAddress

theorem Listener.bind_port (port : UInt16) (acceptTimeout : Word) (host : Host) :
    Listener.bind (":" ++ toString port.toNat) acceptTimeout host =
      Listener.bindFirst acceptTimeout (.unresolved (":" ++ toString port.toNat) .noAddresses)
        (BindAddress.everyInterface port) host := by
  rw [Listener.bind, BindAddress.resolve_port]

/-! ## Sources -/

namespace ListenerSource

def openSocket (source : ListenerSource) (acceptTimeout : Word) (host : Host) :
    Except ListenerError Listener × Host :=
  match source with
  | .descriptor number => Listener.adopt number acceptTimeout host
  | .everyInterface port =>
    Listener.bindFirst acceptTimeout (.unresolved (":" ++ toString port.toNat) .noAddresses)
      (BindAddress.everyInterface port) host
  | .address text => Listener.bind text acceptTimeout host

/-- The listener of a source, secured where credentials are wanted. These are loaded first. -/
def openListener (source : ListenerSource) (acceptTimeout : Word) (paths : Option CredentialPaths)
    (host : Host) : Except ServerError Listener × Host :=
  match paths.mapM (Credentials.load host.files) with
  | .error error => (.error (.credentials error), host)
  | .ok credentials =>
    let (opened, after) := source.openSocket acceptTimeout host
    ((opened.mapError ServerError.listener).map ({ · with credentials }), after)

/-- Whether a listener has the socket of a source: an open one that listens, or one that has been
bound anew to an address of the source, with any port where that is zero. -/
inductive Gives (host : Host) : ListenerSource → Listener → Prop
  | adopted {number : DescriptorNumber} {listener : Listener} (same : listener.number = number)
      (listens : Listener.check host number = .ok listener.address) :
      Gives host (.descriptor number) listener
  | everyInterface {port bound : UInt16} {listener : Listener}
      (isNew : listener.number = host.nextNumber) (fixed : port ≠ 0 → bound = port)
      (unspecified : listener.address = .long .unspecified 0 bound ∨
        listener.address = .short .unspecified bound) :
      Gives host (.everyInterface port) listener
  | bound {text : String} {addresses : List SocketAddress} {address : SocketAddress}
      {port : UInt16} {listener : Listener} (isNew : listener.number = host.nextNumber)
      (resolved : BindAddress.resolve text host.names = .ok addresses) (member : address ∈ addresses)
      (isBound : listener.address = address.withPort port)
      (fixed : address.port ≠ 0 → port = address.port) :
      Gives host (.address text) listener

theorem gives_of_openSocket {source : ListenerSource}
    (opens : source.openSocket acceptTimeout host = (.ok listener, after)) :
    source.Gives host listener ∧ listener.acceptTimeout = acceptTimeout := by
  cases source with
  | descriptor number =>
      obtain ⟨waits, same, listens⟩ := Listener.fields_of_adopt opens
      exact ⟨.adopted same listens, waits⟩
  | everyInterface port =>
      obtain ⟨waits, isNew, address, member, bound, isBound, fixed⟩ :=
        Listener.fields_of_bindFirst opens
      refine ⟨?_, waits⟩
      rcases List.mem_cons.mp member with rfl | member
      · exact .everyInterface isNew fixed (.inl isBound)
      · rw [List.mem_singleton.mp member] at isBound fixed
        exact .everyInterface isNew fixed (.inr isBound)
  | address text =>
      have opens : Listener.bind text acceptTimeout host = (.ok listener, after) := opens
      unfold Listener.bind at opens
      cases resolved : BindAddress.resolve text host.names with
      | error error =>
          rw [resolved] at opens
          cases opens
      | ok addresses =>
          rw [resolved] at opens
          obtain ⟨waits, isNew, address, member, port, isBound, fixed⟩ :=
            Listener.fields_of_bindFirst opens
          exact ⟨.bound isNew resolved member isBound fixed, waits⟩

/-- Credentials do not change where a listener listens. -/
theorem gives_of_openListener {source : ListenerSource} {paths : Option CredentialPaths}
    (opens : source.openListener acceptTimeout paths host = (.ok listener, after)) :
    source.Gives host listener ∧ listener.acceptTimeout = acceptTimeout := by
  unfold openListener at opens
  cases loaded : paths.mapM (Credentials.load host.files) with
  | error error =>
      rw [loaded] at opens
      cases opens
  | ok credentials =>
      rw [loaded] at opens
      cases opened : source.openSocket acceptTimeout host with
      | mk outcome left =>
          simp only [opened, Prod.mk.injEq] at opens
          cases outcome with
          | error error =>
              cases opens.1
          | ok plain =>
              obtain ⟨gives, waits⟩ := gives_of_openSocket opened
              cases opens.1
              refine ⟨?_, waits⟩
              cases gives with
              | adopted same listens =>
                  exact .adopted same listens
              | everyInterface isNew fixed unspecified =>
                  exact .everyInterface isNew fixed unspecified
              | bound isNew resolved member isBound fixed =>
                  exact .bound isNew resolved member isBound fixed

end ListenerSource

namespace Options

variable {options : Options} {files : FileSystem} {file config : Config}

/-- Where the socket of the listener comes from when options override a file. -/
def source (options : Options) (file : Config) : ListenerSource :=
  match options.descriptor, file.listener.inherited, options.port with
  | some number, _, _ => .descriptor number
  | none, some number, _ => .descriptor number
  | none, none, some port => .everyInterface port
  | none, none, none => .address file.listener.bindAddress

/-- Where it would come from if every option came before every setting of the file. -/
def optionsFirst (options : Options) (file : Config) : ListenerSource :=
  match options.descriptor, options.port, file.listener.inherited with
  | some number, _, _ => .descriptor number
  | none, some port, _ => .everyInterface port
  | none, none, some number => .descriptor number
  | none, none, none => .address file.listener.bindAddress

theorem source_eq_optionsFirst_iff :
    options.source file = options.optionsFirst file ↔
      ¬ (options.descriptor = none ∧ options.port.isSome = true ∧
        file.listener.inherited.isSome = true) := by
  unfold source optionsFirst
  cases options.descriptor <;> cases options.port <;> cases file.listener.inherited <;> simp

theorem openSocket_override (options : Options) (file : Config) (host : Host) :
    (options.override file).listener.openSocket host =
      (options.source file).openSocket file.listener.acceptTimeout host := by
  unfold ListenerConfig.openSocket source
  rw [inherited_override, bindAddress_override]
  cases options.descriptor with
  | some number =>
      rfl
  | none =>
      cases file.listener.inherited with
      | some number =>
          rfl
      | none =>
          cases options.port with
          | some port =>
              exact Listener.bind_port port file.listener.acceptTimeout host
          | none =>
              rfl

theorem openListener_override (options : Options) (file : Config) (host : Host) :
    (options.override file).listener.openListener host =
      (options.source file).openListener file.listener.acceptTimeout (options.credentials file)
        host := by
  unfold ListenerConfig.openListener ListenerSource.openListener
  rw [credentials_override, openSocket_override]
  cases (options.credentials file).mapM (Credentials.load host.files) with
  | error error =>
      rfl
  | ok credentials =>
      rcases (options.source file).openSocket file.listener.acceptTimeout host with
        ⟨error | listener, after⟩ <;> rfl

/-- Where there is a descriptor, the rules do not look at the address. -/
theorem problems_override_of_port
    (adopts : (options.descriptor.or file.listener.inherited).isSome = true)
    (port : Option UInt16) :
    (({ options with port } : Options).override file).problems =
      (options.override file).problems := by
  obtain ⟨number, set⟩ := Option.isSome_iff_exists.mp adopts
  have same : (({ options with port } : Options).override file).listener.sourceProblems =
      (options.override file).listener.sourceProblems := by
    unfold ListenerConfig.sourceProblems
    rw [inherited_override, inherited_override, set]
  rw [Config.problems, same]
  rfl

theorem source_of_port (adopts : (options.descriptor.or file.listener.inherited).isSome = true)
    (port : Option UInt16) :
    ({ options with port } : Options).source file = options.source file := by
  unfold source
  cases stated : options.descriptor with
  | some number =>
      rfl
  | none =>
      cases set : file.listener.inherited with
      | some number =>
          rfl
      | none =>
          rw [stated, set] at adopts
          cases adopts

/-- The listener of a loaded configuration comes from a descriptor given by an option, else from one
of the file, else from a port given by an option, else from the address of the file. That is the
order in which every option comes before every setting of the file, except where a port is given,
no descriptor, and the file has one. Wherever a descriptor is adopted, whoever gives it, it makes no
difference which port is given, or whether any is. -/
theorem openListener_of_loadConfig (described : options.fileConfig files = .ok file)
    (loaded : options.loadConfig files = .ok config) :
    (∀ host, config.listener.openListener host =
        (options.source file).openListener file.listener.acceptTimeout (options.credentials file)
          host) ∧
      (∀ host listener after, config.listener.openListener host = (.ok listener, after) →
        (options.source file).Gives host listener ∧
          listener.acceptTimeout = file.listener.acceptTimeout) ∧
      (options.source file = options.optionsFirst file ↔
        ¬ (options.descriptor = none ∧ options.port.isSome = true ∧
          file.listener.inherited.isSome = true)) ∧
      ((options.descriptor.or file.listener.inherited).isSome = true → ∀ port, ∃ other,
        ({ options with port } : Options).loadConfig files = .ok other ∧
          ∀ host, other.listener.openListener host = config.listener.openListener host) := by
  obtain ⟨loads, -, -, -⟩ := loadConfig_judges_file_first described
  obtain ⟨rfl, valid, sound⟩ := (loads config).mp loaded
  have opens := openListener_override options file
  refine ⟨opens, ?_, source_eq_optionsFirst_iff, ?_⟩
  · intro host listener after opened
    rw [opens] at opened
    exact ListenerSource.gives_of_openListener opened
  · intro adopts port
    have describedToo : ({ options with port } : Options).fileConfig files = .ok file := described
    refine ⟨({ options with port } : Options).override file, ?_, ?_⟩
    · rw [loadConfig_eq describedToo, if_pos valid, Config.judge_eq,
        problems_override_of_port adopts port, if_pos sound]
    · intro host
      rw [openListener_override, openListener_override, source_of_port adopts port]
      rfl

/-- A port takes the place of the address in the file and is bound on every interface. -/
theorem openListener_of_loadConfig_of_port :
    let files : FileSystem := fun _ =>
      .ok (.file (Utf8.encode "[listener]\nbind_address = \"127.0.0.1:9\"\n"))
    let options : Options := { config := some "c.toml", port := some 8081 }
    let file : Config := { listener := { bindAddress := "127.0.0.1:9" } }
    let host : Host := { files, descriptors := Descriptor.initial, nextNumber := 9 }
    options.fileConfig files = .ok file ∧
      ∃ config listener, options.loadConfig files = .ok config ∧
        (config.listener.openListener host).1 = .ok listener ∧
        (ListenerSource.everyInterface 8081).Gives host listener ∧
        listener.address = .long .unspecified 0 8081 := by
  intro files options file host
  have described : options.fileConfig files = .ok file := eq_ok_of_toOption (by decide +kernel)
  have loaded : options.loadConfig files = .ok (options.override file) :=
    eq_ok_of_toOption (by decide +kernel)
  let listener : Listener :=
    { number := 9, address := .long .unspecified 0 8081, acceptTimeout := 3000 }
  obtain ⟨opens, gives, -, -⟩ := openListener_of_loadConfig described loaded
  have opened : ((options.override file).listener.openListener host).1 = .ok listener := by
    rw [opens]
    decide +kernel
  obtain ⟨socket, -⟩ := gives host listener _ (Prod.ext opened rfl)
  exact ⟨described, _, listener, loaded, opened, socket, rfl⟩

/-- A port is given that could be bound on every interface. But the file has a descriptor, so that
nothing is bound, and under the descriptor nothing is open. -/
theorem openListener_ignores_port :
    let arguments := ["--config", "c.toml", "--port", "8081"].map Bytes.ascii
    let files : FileSystem := fun _ =>
      .ok (.file (Utf8.encode "[listener]\ninherited_fd = 77\n"))
    let options : Options := { config := some "c.toml", port := some 8081 }
    let file : Config := { listener := { inherited := some 77 } }
    let config : Config := { listener := { bindAddress := ":8081", inherited := some 77 } }
    let host : Host := { files, descriptors := Descriptor.initial, nextNumber := 9 }
    CommandLine.parse (fun _ => none) arguments = .ok options ∧
      options.fileConfig files = .ok file ∧
      options.loadConfig files = .ok config ∧
      options.optionsFirst file = .everyInterface 8081 ∧
      ((options.optionsFirst file).openListener file.listener.acceptTimeout none host).1 =
        .ok { number := 9, address := .long .unspecified 0 8081, acceptTimeout := 3000 } ∧
      (config.listener.openListener host).1 =
        .error (.listener (.notAListener 77 (.system .badDescriptor))) := by
  intro arguments files options file config host
  exact ⟨eq_ok_of_toOption (by decide +kernel), eq_ok_of_toOption (by decide +kernel),
    eq_ok_of_toOption (by decide +kernel), rfl, by decide +kernel, by decide +kernel⟩

end Options

end HttpServer
