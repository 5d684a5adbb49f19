import HttpServer.Server
import Mathlib.Data.List.Induction

/-!
# How a server comes by its listener

A server is asked to do things with its listener one after the other, each time on a host that may
have changed in the meantime in any way. `Server.Goes` says in which ways a call can go. From these
it follows that a listener is got once and stays, that a call which fails leaves the server as it
was, and that nothing but what a call was about is closed or taken (`Server.attaches_once`).
-/

namespace HttpServer

/-! ## What is open on a host -/

namespace Host

variable {host : Host} {number other : DescriptorNumber}

theorem find?_close_of_ne (different : other ≠ number) :
    (host.close number).find? other = host.find? other := by
  unfold close find?
  rw [List.find?_filter]
  congr 1
  funext descriptor
  by_cases same : descriptor.number = other
  · simp [same, different]
  · simp [same]

theorem isOpen_close (host : Host) (number : DescriptorNumber) :
    (host.close number).isOpen number = false := by
  unfold isOpen close find?
  rw [List.find?_filter, Option.isSome_eq_false_iff, Option.isNone_iff_eq_none,
    List.find?_eq_none]
  intro descriptor _
  simp

theorem find?_openFile_of_ne (host : Host) (opened : OpenFile)
    (different : other ≠ host.nextNumber) :
    (host.openFile opened).2.find? other = host.find? other := by
  unfold openFile find?
  rw [List.find?_append]
  simp [Ne.symm different]

theorem isOpen_openFile (host : Host) (opened : OpenFile) :
    (host.openFile opened).2.isOpen host.nextNumber = true := by
  unfold openFile isOpen find?
  rw [List.find?_append]
  simp

/-- Where an address cannot be bound nothing happens, and else one socket is opened. -/
theorem bind_cases (host : Host) (address : SocketAddress) :
    (∃ failure, host.bind address = (.error failure, host)) ∨
      ∃ (bound : SocketAddress) (portsGiven : Nat),
        host.bind address =
          (.ok (host.nextNumber, bound),
            (Host.openFile { host with portsGiven } (.listener bound)).2) := by
  unfold bind
  cases host.refuses address with
  | some failure =>
      exact .inl ⟨failure, rfl⟩
  | none =>
      simp only
      by_cases anyPort : address.port = 0
      · rw [if_pos anyPort]
        exact .inr ⟨_, _, rfl⟩
      · rw [if_neg anyPort]
        by_cases taken : host.isTaken address = true
        · rw [if_pos taken]
          exact .inl ⟨_, rfl⟩
        · rw [if_neg taken]
          exact .inr ⟨address, host.portsGiven, rfl⟩

end Host

/-! ## Opening a listener -/

namespace Listener

variable {host after : Host} {number : DescriptorNumber} {address : SocketAddress}
  {acceptTimeout : Word}

/-- How opening a listener on a host can go, where perhaps a descriptor is offered. The socket that
it is about is the offered one, or else a new one. -/
inductive Opens (offered : Option DescriptorNumber) (host : Host) :
    Except ListenerError Listener × Host → Prop
  /-- Nothing has been bound or taken. -/
  | failed {error : ListenerError} (spared : ∀ failure, error ≠ .setup failure) :
      Opens offered host (.error error, host)
  /-- The socket has been closed. -/
  | closed {failure : SystemFailure} {after : Host}
      (gone : after.isOpen (offered.getD host.nextNumber) = false)
      (others : ∀ other, other ≠ offered.getD host.nextNumber →
        after.find? other = host.find? other) :
      Opens offered host (.error (.setup failure), after)
  | opened {listener : Listener} {after : Host}
      (number : listener.number = offered.getD host.nextNumber)
      (plain : listener.credentials = none)
      (isOpen : after.isOpen listener.number = true)
      (others : ∀ other, other ≠ listener.number → after.find? other = host.find? other)
      (kept : offered.isSome = true → after = host) :
      Opens offered host (.ok listener, after)

theorem setUp_cases (number : DescriptorNumber) (address : SocketAddress) (acceptTimeout : Word)
    (host : Host) :
    (∃ failure, setUp number address acceptTimeout host =
        (.error (.setup failure), host.close number)) ∨
      setUp number address acceptTimeout host = (.ok { number, address, acceptTimeout }, host) := by
  unfold setUp
  cases host.setupFailure number with
  | some failure =>
      exact .inl ⟨failure, rfl⟩
  | none =>
      exact .inr rfl

theorem opens_adopt (number : DescriptorNumber) (acceptTimeout : Word) (host : Host) :
    Opens (some number) host (adopt number acceptTimeout host) := by
  unfold adopt
  by_cases negative : number < 0
  · rw [if_pos negative]
    exact .failed fun _ same => nomatch same
  · rw [if_neg negative]
    rcases checked : check host number with error | address
    · exact .failed fun _ same => nomatch same
    · simp only
      rcases setUp_cases number address acceptTimeout host with ⟨failure, same⟩ | same
      · rw [same]
        exact .closed (host.isOpen_close number) fun other => Host.find?_close_of_ne
      · rw [same]
        refine .opened rfl rfl ?_ (fun _ _ => rfl) fun _ => rfl
        unfold Host.isOpen
        unfold check at checked
        cases found : host.find? number with
        | none =>
            simp [found] at checked
        | some descriptor =>
            rfl

theorem opens_bindFirst (failure : ListenerError) (acceptTimeout : Word)
    (addresses : List SocketAddress) (host : Host) (spared : ∀ other, failure ≠ .setup other) :
    Opens none host (bindFirst acceptTimeout failure addresses host) := by
  induction addresses generalizing failure with
  | nil =>
      exact .failed spared
  | cons address rest inductionHypothesis =>
      unfold bindFirst
      rcases host.bind_cases address with ⟨refused, same⟩ | ⟨bound, portsGiven, same⟩
      · rw [same]
        apply inductionHypothesis
        intro other equal
        cases equal
      · rw [same]
        let given : Host := { host with portsGiven }
        let opened := (given.openFile (.listener bound)).2
        have others : ∀ other, other ≠ host.nextNumber → opened.find? other = host.find? other :=
          fun other different => given.find?_openFile_of_ne (.listener bound) different
        rcases setUp_cases host.nextNumber bound acceptTimeout opened with ⟨broken, setUp⟩ | setUp
        · simp only
          rw [setUp]
          refine .closed (opened.isOpen_close host.nextNumber) ?_
          intro other different
          exact (Host.find?_close_of_ne different).trans (others other different)
        · simp only
          rw [setUp]
          exact .opened rfl rfl (given.isOpen_openFile (.listener bound)) others
            fun isSome => nomatch isSome

theorem opens_bind (address : String) (acceptTimeout : Word) (host : Host) :
    Opens none host (bind address acceptTimeout host) := by
  unfold bind
  cases BindAddress.resolve address host.names with
  | error error =>
      exact .failed fun _ same => nomatch same
  | ok addresses =>
      exact opens_bindFirst _ acceptTimeout addresses host fun _ same => nomatch same

end Listener

/-! ## The configured listener -/

namespace ListenerConfig

variable {config : ListenerConfig} {host : Host}

theorem opens_openSocket (config : ListenerConfig) (host : Host) :
    Listener.Opens config.inherited host (config.openSocket host) := by
  unfold openSocket
  cases config.inherited with
  | some number =>
      exact Listener.opens_adopt number config.acceptTimeout host
  | none =>
      exact Listener.opens_bind config.bindAddress config.acceptTimeout host

/-- No socket is touched where the configured credentials cannot be loaded. -/
theorem openListener_of_unloaded {error : CredentialsError}
    (unloaded : config.credentials.mapM (Credentials.load host.files) = .error error) :
    config.openListener host = (.error (.credentials error), host) := by
  unfold openListener
  rw [unloaded]

theorem openListener_of_loaded {credentials : Option Credentials}
    (loaded : config.credentials.mapM (Credentials.load host.files) = .ok credentials) :
    config.openListener host =
      ((((config.openSocket host).1.mapError ServerError.listener).map
        ({ · with credentials := credentials })), (config.openSocket host).2) := by
  unfold openListener
  rw [loaded]
  rcases config.openSocket host with ⟨error | listener, after⟩ <;> rfl

/-- What is loaded are credentials exactly where some are configured. -/
theorem isSome_of_loaded {credentials : Option Credentials}
    (loaded : config.credentials.mapM (Credentials.load host.files) = .ok credentials) :
    credentials.isSome = config.credentials.isSome := by
  cases configured : config.credentials with
  | none =>
      rw [configured] at loaded
      cases loaded
      rfl
  | some paths =>
      rw [configured] at loaded
      have loaded : (Credentials.load host.files paths).map some = .ok credentials := loaded
      cases single : Credentials.load host.files paths with
      | error error =>
          rw [single] at loaded
          cases loaded
      | ok only =>
          rw [single] at loaded
          cases loaded
          rfl

end ListenerConfig

/-! ## What a call is about -/

namespace ServerCall

/-- Whether a call is to give a server its listener. -/
def attaches : ServerCall → Bool
  | .secure _ => false
  | _ => true

/-- The descriptor that a server is offered by a call, if it need not open one itself. -/
def offered? (config : ListenerConfig) : ServerCall → Option DescriptorNumber
  | .listen => config.inherited
  | .adopt number => some number
  | .bind _ | .secure _ => none

/-- Whether connections are secured once a call has succeeded. -/
def secures (config : ListenerConfig) : ServerCall → Bool
  | .listen => config.credentials.isSome
  | .bind _ | .adopt _ => false
  | .secure _ => true

end ServerCall

/-! ## How a call goes -/

namespace Server

variable {server : Server} {host : Host} {call : ServerCall}

/-- How a call of a server can go on a host. -/
inductive Goes (server : Server) (host : Host) :
    ServerCall → Except ServerError Unit × Server × Host → Prop
  | refused {call : ServerCall} (attaches : call.attaches = true)
      (listening : server.listener.isSome = true) :
      Goes server host call (.error .alreadyListening, server, host)
  | failed {call : ServerCall} {error : ServerError} (attaches : call.attaches = true)
      (free : server.listener = none) (spared : ∀ failure, error ≠ .listener (.setup failure)) :
      Goes server host call (.error error, server, host)
  | closed {call : ServerCall} {failure : SystemFailure} {after : Host}
      (attaches : call.attaches = true) (free : server.listener = none)
      (gone : after.isOpen
        ((call.offered? server.config.listener).getD host.nextNumber) = false)
      (others : ∀ other, other ≠ (call.offered? server.config.listener).getD host.nextNumber →
        after.find? other = host.find? other) :
      Goes server host call (.error (.listener (.setup failure)), server, after)
  | attached {call : ServerCall} {listener : Listener} {next : Server} {after : Host}
      (attaches : call.attaches = true) (free : server.listener = none)
      (number : listener.number = (call.offered? server.config.listener).getD host.nextNumber)
      (isSecure : listener.isSecure = call.secures server.config.listener)
      (isOpen : after.isOpen listener.number = true)
      (others : ∀ other, other ≠ listener.number → after.find? other = host.find? other)
      (kept : (call.offered? server.config.listener).isSome = true → after = host)
      (config : next.config = server.config) (got : next.listener = some listener) :
      Goes server host call (.ok (), next, after)
  | missing {paths : CredentialPaths} (free : server.listener = none) :
      Goes server host (.secure paths) (.error .notListening, server, host)
  | unloaded {paths : CredentialPaths} {listener : Listener} {error : CredentialsError}
      (found : server.listener = some listener) :
      Goes server host (.secure paths) (.error (.credentials error), server, host)
  | secured {paths : CredentialPaths} {listener : Listener} {credentials : Credentials}
      {next : Server} (found : server.listener = some listener)
      (config : next.config = server.config)
      (got : next.listener = some (listener.secured credentials)) :
      Goes server host (.secure paths) (.ok (), next, host)

/-- Attaching goes as opening the listener goes, which is perhaps completed before it is taken. -/
theorem goes_attachWith {message : String} {completed : Listener → Listener}
    {opening : Except ListenerError Listener × Host}
    {openWith : Host → Except ServerError Listener × Host} (attaches : call.attaches = true)
    (opens : Listener.Opens (call.offered? server.config.listener) host opening)
    (opened : openWith host = ((opening.1.mapError ServerError.listener).map completed, opening.2))
    (number : ∀ listener, (completed listener).number = listener.number)
    (secures : ∀ listener, listener.credentials = none →
      (completed listener).isSecure = call.secures server.config.listener) :
    Goes server host call (server.attachWith host message openWith) := by
  unfold attachWith
  by_cases listening : server.listener.isSome = true
  · rw [if_pos listening]
    exact .refused attaches listening
  · have free : server.listener = none := by simpa using listening
    rw [if_neg listening, opened]
    cases opens with
    | failed spared =>
        refine .failed attaches free ?_
        intro failure same
        exact spared failure (ServerError.listener.inj same)
    | closed gone others =>
        exact .closed attaches free gone others
    | @opened listener after numbered plain isOpen others kept =>
        refine .attached attaches free ((number listener).trans numbered)
          (secures listener plain) ?_ ?_ kept rfl rfl
        · rw [number]
          exact isOpen
        · rw [number]
          exact others

theorem goes_listen (server : Server) (host : Host) :
    Goes server host .listen (server.listen host) := by
  unfold listen
  cases loaded : server.config.listener.credentials.mapM (Credentials.load host.files) with
  | error error =>
      unfold attachWith
      by_cases listening : server.listener.isSome = true
      · rw [if_pos listening]
        exact .refused rfl listening
      · rw [if_neg listening, ListenerConfig.openListener_of_unloaded loaded]
        exact .failed rfl (by simpa using listening) fun _ same => nomatch same
  | ok credentials =>
      refine goes_attachWith rfl (server.config.listener.opens_openSocket host)
        (ListenerConfig.openListener_of_loaded loaded) ?_ ?_
      · intro listener
        rfl
      · intro listener plain
        exact ListenerConfig.isSome_of_loaded loaded

/-- A listener that is bound or adopted is taken as it is. -/
theorem goes_attachWith_ofListener {message : String}
    {opening : Host → Except ListenerError Listener × Host} (attaches : call.attaches = true)
    (opens : Listener.Opens (call.offered? server.config.listener) host (opening host))
    (insecure : call.secures server.config.listener = false) :
    Goes server host call
      (server.attachWith host message fun host => ofListener (opening host)) := by
  have opened : ofListener (opening host) =
      (((opening host).1.mapError ServerError.listener).map id, (opening host).2) := by
    rcases opening host with ⟨error | listener, after⟩ <;> rfl
  refine goes_attachWith attaches opens opened ?_ ?_
  · intro listener
    rfl
  · intro listener plain
    simp [Listener.isSecure, plain, insecure]

theorem goes_secure (server : Server) (paths : CredentialPaths) (host : Host) :
    Goes server host (.secure paths)
      ((server.secure paths host).1, (server.secure paths host).2, host) := by
  unfold secure
  rcases found : server.listener with _ | listener
  · exact .missing found
  · rcases Credentials.load host.files paths with error | credentials
    · exact .unloaded found
    · exact .secured found rfl (by rfl)

theorem goes_call (server : Server) (host : Host) (call : ServerCall) :
    Goes server host call (server.call host call) := by
  cases call with
  | listen =>
      exact server.goes_listen host
  | bind address =>
      exact goes_attachWith_ofListener rfl
        (Listener.opens_bind address server.config.listener.acceptTimeout host) rfl
  | adopt number =>
      exact goes_attachWith_ofListener rfl
        (Listener.opens_adopt number server.config.listener.acceptTimeout host) rfl
  | secure paths =>
      exact server.goes_secure paths host

/-! ## What a caller can rely on -/

/-- What holds of a call of a server on a host, whichever failures there are. -/
structure Answers (server : Server) (host : Host) (call : ServerCall) : Prop where
  /-- There is never a second listener, and no socket is touched in the attempt. -/
  refused : call.attaches = true → server.listener.isSome = true →
    server.call host call = (.error .alreadyListening, server, host)
  missing : call.attaches = false → server.listener = none →
    server.call host call = (.error .notListening, server, host)
  failed : ∀ error, (server.call host call).1 = .error error →
    (server.call host call).2.1 = server
  /-- Unless the socket has passed the check, it stays as it was, with whoever had it. -/
  spared : ∀ error, (server.call host call).1 = .error error →
    (∀ failure, error ≠ .listener (.setup failure)) → (server.call host call).2.2 = host
  unloaded : ∀ error, server.listener = none → call = .listen →
    server.config.listener.credentials.mapM (Credentials.load host.files) = .error error →
      server.call host call = (.error (.credentials error), server, host)
  /-- A socket that cannot be set up is closed, and no other. -/
  closed : ∀ failure, (server.call host call).1 = .error (.listener (.setup failure)) →
    (server.call host call).2.2.isOpen
        ((call.offered? server.config.listener).getD host.nextNumber) = false ∧
      ∀ other, other ≠ (call.offered? server.config.listener).getD host.nextNumber →
        (server.call host call).2.2.find? other = host.find? other
  /-- The listener has the socket that has been offered, or else a new one. -/
  attached : call.attaches = true → (server.call host call).1 = .ok () →
    ∃ listener, (server.call host call).2.1.listener = some listener ∧
      listener.number = (call.offered? server.config.listener).getD host.nextNumber ∧
      (server.call host call).2.2.isOpen listener.number = true ∧
      ((call.offered? server.config.listener).isSome = true →
        (server.call host call).2.2 = host) ∧
      ∀ other, other ≠ listener.number →
        (server.call host call).2.2.find? other = host.find? other

theorem listen_of_unloaded {error : CredentialsError} (free : server.listener = none)
    (unloaded :
      server.config.listener.credentials.mapM (Credentials.load host.files) = .error error) :
    server.listen host = (.error (.credentials error), server, host) := by
  unfold listen attachWith
  rw [ListenerConfig.openListener_of_unloaded unloaded, free]
  rfl

theorem answers_call (server : Server) (host : Host) (call : ServerCall) :
    server.Answers host call := by
  have goes := server.goes_call host call
  constructor
  case unloaded =>
    rintro error free rfl unloaded
    exact listen_of_unloaded free unloaded
  all_goals generalize server.call host call = result at goes ⊢
  case refused =>
    intro attaches listening
    cases goes <;> simp_all [ServerCall.attaches]
  case missing =>
    intro attaches free
    cases goes <;> simp_all
  case failed =>
    intro error told
    cases goes with
    | attached => cases told
    | secured => cases told
    | _ => rfl
  case spared =>
    intro error told spared
    cases goes with
    | closed =>
        cases told
        exact absurd rfl (spared _)
    | attached => cases told
    | secured => cases told
    | _ => rfl
  case closed =>
    intro failure told
    cases goes with
    | failed _ _ spared =>
        cases told
        exact absurd rfl (spared failure)
    | closed _ _ gone others => exact ⟨gone, others⟩
    | _ => cases told
  case attached =>
    intro attaches done
    cases goes with
    | attached _ _ number _ isOpen others kept _ got =>
        exact ⟨_, got, number, isOpen, kept, others⟩
    | secured => cases attaches
    | _ => cases done

/-! ## What is left of a sequence of calls -/

/-- A server after one call after the other, each on a host of its own. -/
def afterCalls (server : Server) (calls : List (Host × ServerCall)) : Server :=
  calls.foldl (fun server (host, call) => (server.call host call).2.1) server

/-- One of the calls of a kind has succeeded. -/
def HasDone (server : Server) (calls : List (Host × ServerCall))
    (kind : ServerCall → Prop) : Prop :=
  ∃ earlier host call later, calls = earlier ++ (host, call) :: later ∧ kind call ∧
    ((server.afterCalls earlier).call host call).1 = .ok ()

theorem afterCalls_append (server : Server) (earlier later : List (Host × ServerCall)) :
    server.afterCalls (earlier ++ later) = (server.afterCalls earlier).afterCalls later :=
  List.foldl_append

theorem hasDone_concat {calls : List (Host × ServerCall)} {kind : ServerCall → Prop} :
    server.HasDone (calls ++ [(host, call)]) kind ↔
      server.HasDone calls kind ∨
        kind call ∧ ((server.afterCalls calls).call host call).1 = .ok () := by
  constructor
  · rintro ⟨earlier, former, done, later, same, isKind, succeeded⟩
    rcases List.eq_nil_or_concat later with rfl | ⟨front, last, rfl⟩
    · obtain ⟨rfl, last⟩ := List.append_inj' same rfl
      cases last
      exact .inr ⟨isKind, succeeded⟩
    · rw [List.concat_eq_append, ← List.cons_append, ← List.append_assoc] at same
      obtain ⟨rfl, -⟩ := List.append_inj' same rfl
      exact .inl ⟨earlier, former, done, front, rfl, isKind, succeeded⟩
  · rintro (⟨earlier, former, done, later, rfl, isKind, succeeded⟩ | ⟨isKind, succeeded⟩)
    · exact ⟨earlier, former, done, later ++ [(host, call)], by simp, isKind, succeeded⟩
    · exact ⟨calls, host, call, [], rfl, isKind, succeeded⟩

theorem afterCalls_concat (server : Server) (calls : List (Host × ServerCall)) (host : Host)
    (call : ServerCall) :
    server.afterCalls (calls ++ [(host, call)]) =
      ((server.afterCalls calls).call host call).2.1 :=
  afterCalls_append server calls [(host, call)]

theorem config_afterCalls (server : Server) (calls : List (Host × ServerCall)) :
    (server.afterCalls calls).config = server.config := by
  induction calls using List.reverseRecOn with
  | nil => rfl
  | append_singleton calls last inductionHypothesis =>
      rcases last with ⟨host, call⟩
      rw [afterCalls_concat, ← inductionHypothesis]
      have goes := (server.afterCalls calls).goes_call host call
      generalize (server.afterCalls calls).call host call = result at goes ⊢
      cases goes with
      | attached _ _ _ _ _ _ _ config _ => exact config
      | secured _ config _ => exact config
      | _ => rfl

/-- A listener is never exchanged, and can only be secured. -/
theorem listener_afterCalls {listener : Listener} (listening : server.listener = some listener)
    (calls : List (Host × ServerCall)) :
    ∃ credentials, (server.afterCalls calls).listener = some { listener with credentials } := by
  induction calls using List.reverseRecOn with
  | nil => exact ⟨listener.credentials, listening⟩
  | append_singleton calls last inductionHypothesis =>
      rcases last with ⟨host, call⟩
      obtain ⟨credentials, still⟩ := inductionHypothesis
      rw [afterCalls_concat]
      have goes := (server.afterCalls calls).goes_call host call
      generalize (server.afterCalls calls).call host call = result at goes ⊢
      cases goes with
      | attached _ free =>
          rw [free] at still
          cases still
      | secured found _ got =>
          rw [found] at still
          cases still
          exact ⟨_, got⟩
      | _ => exact ⟨credentials, still⟩

theorem isSome_afterCalls_iff (free : server.listener = none)
    (calls : List (Host × ServerCall)) :
    (server.afterCalls calls).listener.isSome = true ↔
      server.HasDone calls fun call => call.attaches = true := by
  induction calls using List.reverseRecOn with
  | nil => simp [afterCalls, free, HasDone]
  | append_singleton calls last inductionHypothesis =>
      rcases last with ⟨host, call⟩
      rw [afterCalls_concat, hasDone_concat, ← inductionHypothesis]
      have goes := (server.afterCalls calls).goes_call host call
      generalize (server.afterCalls calls).call host call = result at goes ⊢
      cases goes with
      | attached attaches _ _ _ _ _ _ _ got => simp [got, attaches]
      | secured found _ got => simp [got, found]
      | _ => simp

theorem isSecure_afterCalls_iff (free : server.listener = none)
    (calls : List (Host × ServerCall)) :
    (server.afterCalls calls).listener.any Listener.isSecure = true ↔
      server.HasDone calls fun call => call.secures server.config.listener = true := by
  induction calls using List.reverseRecOn with
  | nil => simp [afterCalls, free, HasDone]
  | append_singleton calls last inductionHypothesis =>
      rcases last with ⟨host, call⟩
      rw [afterCalls_concat, hasDone_concat, ← inductionHypothesis]
      have config := server.config_afterCalls calls
      have goes := (server.afterCalls calls).goes_call host call
      generalize (server.afterCalls calls).call host call = result at goes ⊢
      cases goes with
      | attached _ unattached _ isSecure _ _ _ _ got =>
          rw [config] at isSecure
          simp [got, unattached, isSecure]
      | secured found _ got =>
          simp [got, ServerCall.secures, Listener.isSecure, Listener.secured]
      | _ => simp

/-! ## One listener for good -/

/-- Whatever a server is asked to do, on whichever hosts: it gets a listener once and keeps it, a
call that fails changes nothing about it, and it is secured by successful calls alone. -/
theorem attaches_once (config : Config) (process : Nat) (calls : List (Host × ServerCall)) :
    let server := (ofConfig config process).afterCalls calls
    (∀ host call, server.Answers host call) ∧
      (∀ listener, server.listener = some listener → ∀ later,
        ∃ credentials, (server.afterCalls later).listener = some { listener with credentials }) ∧
      (server.listener.isSome = true ↔
        (ofConfig config process).HasDone calls fun call => call.attaches = true) ∧
      (server.listener.any Listener.isSecure = true ↔
        (ofConfig config process).HasDone calls fun call =>
          call.secures config.listener = true) := by
  intro server
  refine ⟨?_, ?_, ?_, ?_⟩
  · intro host call
    exact server.answers_call host call
  · intro listener listening later
    exact listener_afterCalls listening later
  · exact isSome_afterCalls_iff rfl calls
  · exact isSecure_afterCalls_iff rfl calls

/-- A server whose credentials are missing gets no listener from its configuration, then takes over
the descriptor that it is offered, and keeps it as it is when further calls fail. -/
theorem attaches_once_of_missing_credentials :
    let paths : CredentialPaths := { certificate := "a.crt", key := "a.key" }
    let config : Config := { listener := { inherited := some 9, credentials := some paths } }
    let address : SocketAddress := .short ⟨127, 0, 0, 1⟩ 8080
    let host : Host :=
      { files := fun _ => .error .noSuchFile, descriptors := [⟨9, .listener address, true⟩] }
    let calls : List (Host × ServerCall) :=
      [(host, .secure paths), (host, .listen), (host, .adopt 9)]
    let server := (ofConfig config 1).afterCalls calls
    server.listener = some { number := 9, address, acceptTimeout := 3000 } ∧
      server.call host (.bind ":8081") = (.error .alreadyListening, server, host) ∧
      (server.call host (.secure paths)).2.1 = server ∧
      ∀ later, ∃ credentials, (server.afterCalls later).listener =
        some { number := 9, address, acceptTimeout := 3000, credentials } := by
  intro paths config address host calls server
  have attached : server.listener = some { number := 9, address, acceptTimeout := 3000 } := rfl
  obtain ⟨answers, stays, _, _⟩ := attaches_once config 1 calls
  refine ⟨attached, ?_, ?_, ?_⟩
  · exact (answers host (.bind ":8081")).refused rfl rfl
  · exact (answers host (.secure paths)).failed (.credentials (.notFound .certificate "a.crt")) rfl
  · intro later
    exact stays _ attached later

end Server

end HttpServer
