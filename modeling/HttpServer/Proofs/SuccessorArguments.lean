import HttpServer.CommandLine.Settings
import HttpServer.Proofs.Spelling
import HttpServer.Proofs.WrittenNumbers

/-!
# A successor starts with the same configuration

The arguments that a successor is given spell what the arguments of the running process spell, less
the descriptor. With the number of a descriptor in its environment they therefore lead to the same
options and to the same configuration, but for that descriptor.
-/

namespace HttpServer

open CommandLine

/-! ## Arguments that are left out -/

namespace Handoff

variable {argument : Bytes} {arguments : List Bytes}

/-- An argument that a successor may be given. -/
def IsKept (argument : Bytes) : Prop := argument ≠ descriptorOption ∧ isJoined argument = false

theorem isJoined_of_isWellFormed {value : Bytes} (text : Utf8.isWellFormed value = true) :
    isJoined (joinedOption ++ value) = true := by
  have small : joinedOption.all (· < 0x80) = true := by decide
  have ascii : ∀ byte ∈ joinedOption, byte < 0x80 := fun byte member =>
    of_decide_eq_true (List.all_eq_true.mp small byte member)
  unfold isJoined
  rw [Utf8.isWellFormed_ascii_append ascii, text,
    List.isPrefixOf_iff_prefix.mpr (List.prefix_append joinedOption value)]
  rfl

theorem successorArguments_cons_of_isKept (kept : IsKept argument) (rest : List Bytes) :
    successorArguments (argument :: rest) = argument :: successorArguments rest := by
  rw [successorArguments.eq_def]
  simp [kept.1, kept.2]

theorem successorArguments_cons_of_isJoined (joined : isJoined argument = true)
    (rest : List Bytes) : successorArguments (argument :: rest) = successorArguments rest := by
  have different : argument ≠ descriptorOption := by
    rintro rfl
    exact absurd joined (by decide)
  rw [successorArguments.eq_def]
  simp [different, joined]

theorem successorArguments_sublist (arguments : List Bytes) :
    (successorArguments arguments).Sublist arguments := by
  fun_induction successorArguments arguments with
  | case1 => exact .slnil
  | case2 => exact List.nil_sublist _
  | case3 value rest inductionHypothesis => exact (inductionHypothesis.cons value).cons _
  | case4 argument rest _ _ inductionHypothesis => exact inductionHypothesis.cons argument
  | case5 argument rest _ _ inductionHypothesis => exact inductionHypothesis.cons_cons argument

theorem isKept_of_mem_successorArguments (member : argument ∈ successorArguments arguments) :
    IsKept argument := by
  fun_induction successorArguments arguments with
  | case1 => cases member
  | case2 => cases member
  | case3 value rest inductionHypothesis => exact inductionHypothesis member
  | case4 other rest _ _ inductionHypothesis => exact inductionHypothesis member
  | case5 other rest different notJoined inductionHypothesis =>
      rcases List.mem_cons.mp member with rfl | later
      · exact ⟨different, by simpa using notJoined⟩
      · exact inductionHypothesis later

theorem successorArguments_eq_self (kept : ∀ argument ∈ arguments, IsKept argument) :
    successorArguments arguments = arguments := by
  induction arguments with
  | nil => rfl
  | cons first rest inductionHypothesis =>
      rw [successorArguments_cons_of_isKept (kept first List.mem_cons_self),
        inductionHypothesis fun argument member =>
          kept argument (List.mem_cons_of_mem first member)]

/-- Arguments behind others are looked at by themselves, unless the first is the value of a
descriptor option. -/
theorem successorArguments_append {front : List Bytes}
    (apart : front.getLast? ≠ some descriptorOption) (rest : List Bytes) :
    successorArguments (front ++ rest) = successorArguments front ++ successorArguments rest := by
  have tail {first : Bytes} {later : List Bytes}
      (apart : (first :: later).getLast? ≠ some descriptorOption) :
      later.getLast? ≠ some descriptorOption := by
    intro last
    rw [List.getLast?_cons, last] at apart
    exact apart rfl
  fun_induction successorArguments front with
  | case1 => rfl
  | case2 => exact absurd rfl apart
  | case3 value later inductionHypothesis =>
      rw [← inductionHypothesis (tail (tail apart)), List.cons_append, List.cons_append,
        successorArguments.eq_def]
      simp
  | case4 argument later _ joined inductionHypothesis =>
      rw [← inductionHypothesis (tail apart), List.cons_append,
        successorArguments_cons_of_isJoined joined]
  | case5 argument later different notJoined inductionHypothesis =>
      rw [List.cons_append, List.cons_append, ← inductionHypothesis (tail apart),
        successorArguments_cons_of_isKept ⟨different, by simpa using notJoined⟩]

theorem isKept_of_malformed (begins : joinedOption <+: argument)
    (malformed : Utf8.isWellFormed argument = false) : IsKept argument := by
  constructor
  · rintro rfl
    exact absurd begins (by decide)
  · rw [isJoined, malformed, Bool.and_false]

end Handoff

/-! ## Arguments that name the descriptor -/

namespace CommandLine

variable {argument value : Bytes} {option other : CommandOption} {named also : Option Bytes}

theorem Names.unique (first : Names argument option named) (second : Names argument other also) :
    option = other ∧ named = also := by
  cases first with
  | long form known =>
      cases second with
      | long sameForm sameKnown => simp_all
      | short sameForm => simp_all
  | short form known =>
      cases second with
      | long sameForm => simp_all
      | short sameForm sameKnown => simp_all

theorem lettered?_ne_descriptor (letter : UInt8) :
    CommandOption.lettered? letter ≠ some .descriptor := by
  intro known
  have lettered := List.find?_some known
  simp [CommandOption.letter?] at lettered

theorem formOf_dashes {first : UInt8} {rest : Bytes} :
    formOf (dash :: dash :: first :: rest) =
      match (first :: rest).dropWhile (· != equals) with
      | _ :: value => .long ((first :: rest).takeWhile (· != equals)) (some value)
      | [] => .long ((first :: rest).takeWhile (· != equals)) none := rfl

/-- An argument with a name after two dashes is written in one way only. -/
theorem eq_of_formOf_eq_long {name : Bytes} {value : Option Bytes}
    (form : formOf argument = .long name value) :
    argument = dash :: dash :: name ++ value.elim [] (equals :: ·) := by
  rcases argument with _ | ⟨first, _ | ⟨second, rest⟩⟩
  · cases form
  · cases form
  by_cases dashed : first = dash
  · by_cases twice : second = dash
    · subst dashed twice
      cases rest with
      | nil => cases form
      | cons third rest =>
          rw [formOf_dashes] at form
          have parts : (third :: rest).takeWhile (· != equals) ++
              (third :: rest).dropWhile (· != equals) = third :: rest :=
            List.takeWhile_append_dropWhile
          cases behind : (third :: rest).dropWhile (· != equals) with
          | nil =>
              rw [behind] at form parts
              cases form
              simpa using parts.symm
          | cons mark value =>
              have isMark : mark = equals := by
                have head := List.head?_dropWhile_not (· != equals) (third :: rest)
                simpa [behind] using head
              rw [behind] at form parts
              cases form
              simpa [isMark] using parts.symm
    · simp [formOf, dashed, twice] at form
  · simp [formOf, dashed] at form

theorem Names.eq_of_descriptor (names : Names argument .descriptor named) :
    argument = Handoff.descriptorOption ++ named.elim [] (equals :: ·) := by
  cases names with
  | long form known =>
      rw [eq_of_formOf_eq_long form, ← name_of_named? known]
      rfl
  | short form known => exact absurd known (lettered?_ne_descriptor _)

theorem names_descriptorOption : Names Handoff.descriptorOption .descriptor none := by
  have form : formOf Handoff.descriptorOption = .long (Bytes.ascii "fd") none := by decide
  exact .long form (by decide)

theorem names_joinedOption (value : Bytes) :
    Names (Handoff.joinedOption ++ value) .descriptor (some value) := by
  have form : formOf (Handoff.joinedOption ++ value) = .long (Bytes.ascii "fd") (some value) := rfl
  exact .long form (by decide)

theorem isKept_of_not_names (nameless : ∀ named, ¬ Names argument .descriptor named) :
    Handoff.IsKept argument := by
  constructor
  · rintro rfl
    exact nameless none names_descriptorOption
  · by_cases begins : Handoff.joinedOption.isPrefixOf argument = true
    · obtain ⟨value, rfl⟩ := List.isPrefixOf_iff_prefix.mp begins
      exact absurd (names_joinedOption value) (nameless (some value))
    · simp [Handoff.isJoined, begins]

theorem isKept_of_names (names : Names argument option named) (different : option ≠ .descriptor) :
    Handoff.IsKept argument := by
  apply isKept_of_not_names
  intro also naming
  exact different (names.unique naming).1

theorem isKept_of_form (plain : formOf argument = .word ∨ formOf argument = .escape) :
    Handoff.IsKept argument := by
  apply isKept_of_not_names
  intro named naming
  cases naming with
  | long other => simp_all
  | short other => simp_all

/-- An argument with a descriptor and its value gives it, wherever it stands. -/
theorem given_of_joinedOption {awaited : Option CommandOption} {arguments : List Bytes}
    {given : List (CommandOption × Bytes)} (spells : Spells awaited arguments given)
    (member : Handoff.joinedOption ++ value ∈ arguments) : (.descriptor, value) ∈ given := by
  have names := names_joinedOption value
  have form : formOf (Handoff.joinedOption ++ value) = .long (Bytes.ascii "fd") (some value) := rfl
  induction spells with
  | done =>
      cases member
  | escape escapes =>
      rw [← List.mem_singleton.mp member, form] at escapes
      cases escapes
  | joined first _ inductionHypothesis =>
      rcases List.mem_cons.mp member with rfl | later
      · obtain ⟨rfl, ⟨⟩⟩ := names.unique first
        exact List.mem_cons_self
      · exact List.mem_cons_of_mem _ (inductionHypothesis later)
  | apart first _ inductionHypothesis =>
      rcases List.mem_cons.mp member with rfl | later
      · cases (names.unique first).2
      · exact inductionHypothesis later
  | value word _ inductionHypothesis =>
      rcases List.mem_cons.mp member with rfl | later
      · rw [form] at word
        cases word
      · exact List.mem_cons_of_mem _ (inductionHypothesis later)

/-! ## What a successor's arguments spell -/

/-- What is given besides the descriptor. -/
def others (given : List (CommandOption × Bytes)) : List (CommandOption × Bytes) :=
  given.filter fun one => one.1 ≠ .descriptor

@[simp] theorem others_cons_descriptor (value : Bytes) (given : List (CommandOption × Bytes)) :
    others ((.descriptor, value) :: given) = others given := rfl

theorem others_cons_of_ne (different : option ≠ .descriptor) (value : Bytes)
    (given : List (CommandOption × Bytes)) :
    others ((option, value) :: given) = (option, value) :: others given := by
  simp [others, different]

/-- The arguments of a successor spell what the others do, less the descriptor. Where the value of
the descriptor is awaited it is left out together with its option. -/
theorem spells_successorArguments {awaited : Option CommandOption} {arguments : List Bytes}
    {given : List (CommandOption × Bytes)} (spells : Spells awaited arguments given)
    (texts : ∀ value, (CommandOption.descriptor, value) ∈ given → Utf8.isWellFormed value = true) :
    (awaited ≠ some .descriptor →
      Spells awaited (Handoff.successorArguments arguments) (others given)) ∧
    (awaited = some .descriptor → ∃ value rest, arguments = value :: rest ∧
      Spells none (Handoff.successorArguments rest) (others given)) := by
  induction spells with
  | done =>
      exact ⟨fun _ => .done, fun same => nomatch same⟩
  | escape form =>
      refine ⟨fun _ => ?_, fun same => nomatch same⟩
      rw [Handoff.successorArguments_cons_of_isKept (isKept_of_form (.inr form))]
      exact .escape form
  | @joined argument value rest option given names spells inductionHypothesis =>
      refine ⟨fun _ => ?_, fun same => nomatch same⟩
      obtain ⟨kept, -⟩ := inductionHypothesis fun value member =>
        texts value (List.mem_cons_of_mem _ member)
      by_cases same : option = .descriptor
      · subst same
        have joined : Handoff.isJoined argument = true := by
          rw [names.eq_of_descriptor]
          exact Handoff.isJoined_of_isWellFormed (texts value List.mem_cons_self)
        rw [Handoff.successorArguments_cons_of_isJoined joined, others_cons_descriptor]
        exact kept nofun
      · rw [Handoff.successorArguments_cons_of_isKept (isKept_of_names names same),
          others_cons_of_ne same]
        exact .joined names (kept nofun)
  | @apart argument rest option given names spells inductionHypothesis =>
      refine ⟨fun _ => ?_, fun same => nomatch same⟩
      obtain ⟨kept, dropped⟩ := inductionHypothesis texts
      by_cases same : option = .descriptor
      · subst same
        obtain ⟨value, later, rfl, spelled⟩ := dropped rfl
        rw [names.eq_of_descriptor]
        exact spelled
      · rw [Handoff.successorArguments_cons_of_isKept (isKept_of_names names same)]
        exact .apart names (kept fun equal => same (Option.some.inj equal))
  | @value argument rest option given form spells inductionHypothesis =>
      obtain ⟨kept, -⟩ := inductionHypothesis fun value member =>
        texts value (List.mem_cons_of_mem _ member)
      constructor
      · intro different
        have different : option ≠ .descriptor := fun equal => different (congrArg some equal)
        rw [Handoff.successorArguments_cons_of_isKept (isKept_of_form (.inl form)),
          others_cons_of_ne different]
        exact .value form (kept nofun)
      · intro same
        cases same
        exact ⟨argument, rest, rfl, kept nofun⟩

end CommandLine

/-! ## Options but for the descriptor -/

namespace Options

variable {options next : Options} {option : CommandOption} {value : Bytes}
  {given : List (CommandOption × Bytes)} {descriptor : Option DescriptorNumber}

/-- The options with another descriptor, or with none. -/
def withDescriptor (options : Options) (descriptor : Option DescriptorNumber) : Options :=
  { options with descriptor }

theorem has_withDescriptor (different : option ≠ .descriptor) :
    (options.withDescriptor descriptor).has option = options.has option := by
  cases option with
  | descriptor => exact absurd rfl different
  | _ => rfl

theorem put_withDescriptor (different : option ≠ .descriptor) (value : Bytes) :
    (options.withDescriptor descriptor).put option value =
      (options.put option value).map (·.withDescriptor descriptor) := by
  cases option with
  | descriptor => exact absurd rfl different
  | config => unfold put; cases path .config value <;> rfl
  | port => unfold put; cases number .port 0 65535 value <;> rfl
  | certificate => unfold put; cases path .certificate value <;> rfl
  | key => unfold put; cases path .key value <;> rfl

theorem give_withDescriptor (different : option ≠ .descriptor) (value : Bytes) :
    (options.withDescriptor descriptor).give option value =
      (options.give option value).map (·.withDescriptor descriptor) := by
  unfold give
  rw [has_withDescriptor different, put_withDescriptor different]
  cases options.has option <;> rfl

theorem put_of_give (given : options.give option value = .ok next) :
    options.put option value = .ok next := by
  unfold give at given
  by_cases repeated : options.has option = true
  · rw [if_pos repeated] at given
    cases given
  · rwa [if_neg repeated] at given

theorem isWellFormed_of_put (put : options.put .descriptor value = .ok next) :
    Utf8.isWellFormed value = true := by
  obtain ⟨read, reads, -⟩ := map_eq_ok_iff.mp put
  unfold number at reads
  unfold Utf8.isWellFormed
  cases decoded : Utf8.decodeOnto [] value with
  | none => simp [Utf8.decode, decoded] at reads
  | some characters => rfl

theorem withDescriptor_of_put (put : options.put .descriptor value = .ok next)
    (descriptor : Option DescriptorNumber) :
    next.withDescriptor descriptor = options.withDescriptor descriptor := by
  obtain ⟨read, -, rfl⟩ := map_eq_ok_iff.mp put
  rfl

theorem isWellFormed_of_giveAll (all : options.giveAll given = .ok next)
    (member : (CommandOption.descriptor, value) ∈ given) : Utf8.isWellFormed value = true := by
  induction given generalizing options with
  | nil => cases member
  | cons first rest inductionHypothesis =>
      obtain ⟨middle, step, later⟩ := bind_eq_ok_iff.mp ((giveAll_cons _ _ _).symm.trans all)
      rcases List.mem_cons.mp member with same | member
      · rw [← same] at step
        exact isWellFormed_of_put (put_of_give step)
      · exact inductionHypothesis later member

/-- What is given besides a descriptor has the same effect without it. -/
theorem giveAll_others (all : options.giveAll given = .ok next) :
    (options.withDescriptor none).giveAll (others given) = .ok (next.withDescriptor none) := by
  induction given generalizing options with
  | nil =>
      cases all
      rfl
  | cons first rest inductionHypothesis =>
      rcases first with ⟨option, value⟩
      obtain ⟨middle, step, later⟩ := bind_eq_ok_iff.mp ((giveAll_cons _ _ _).symm.trans all)
      by_cases same : option = .descriptor
      · subst same
        rw [others_cons_descriptor, ← withDescriptor_of_put (put_of_give step)]
        exact inductionHypothesis later
      · rw [others_cons_of_ne same, giveAll_cons, give_withDescriptor same, step]
        exact inductionHypothesis later

theorem put_written (options : Options) {descriptor : DescriptorNumber}
    (natural : 0 ≤ descriptor) :
    options.put .descriptor (Utf8.encode (toString descriptor.toInt)) =
      .ok (options.withDescriptor (some descriptor)) := by
  have least : 0 ≤ descriptor.toInt := Int32.le_iff_toInt_le.mp natural
  have greatest : descriptor.toInt ≤ 2147483647 := descriptor.toInt_le
  obtain ⟨magnitude, same⟩ := Int.eq_ofNat_of_zero_le least
  have octets : Utf8.encode (toString descriptor.toInt) = Numeral.decimal magnitude := by
    rw [same]
    exact Numeral.encode_toString magnitude
  have read : number .descriptor (-2147483648) 2147483647 (Numeral.decimal magnitude) =
      .ok descriptor.toInt := by
    have within : magnitude ≤ UInt64.size / 2 - 1 := by
      have word : UInt64.size / 2 - 1 = 9223372036854775807 := by decide
      omega
    have inRange : -2147483648 ≤ (magnitude : Int) ∧ (magnitude : Int) ≤ 2147483647 := by omega
    obtain ⟨characters, decoded⟩ :=
      Option.isSome_iff_exists.mp (Numeral.isWellFormed_decimal magnitude)
    simp [number, Utf8.decode, decoded, Numeral.readInteger_decimal within, inRange, same]
  unfold put
  rw [octets, read]
  change Except.ok { options with descriptor := some (Int32.ofInt descriptor.toInt) } = _
  rw [Int32.ofInt_toInt]
  rfl

end Options

/-! ## The environment of a successor -/

namespace CommandLine

variable {environment : Environment} {options next stated completed : Options}
  {option : CommandOption} {descriptor : DescriptorNumber}

theorem giveFrom_of_ne (different : option ≠ .descriptor) (value : Bytes)
    (given : giveFrom environment options option = .ok next) (other : Option DescriptorNumber) :
    giveFrom (environment.set Handoff.descriptorVariable value) (options.withDescriptor other)
        option =
      .ok (next.withDescriptor other) := by
  have sameVariable : option.environmentName?.bind
        (environment.set Handoff.descriptorVariable value) =
      option.environmentName?.bind environment := by
    cases option with
    | descriptor => exact absurd rfl different
    | _ => rfl
  unfold giveFrom at given ⊢
  rw [Options.has_withDescriptor different, sameVariable]
  by_cases has : options.has option = true
  · rw [if_pos has] at given ⊢
    cases given
    rfl
  · rw [if_neg has] at given ⊢
    cases set : option.environmentName?.bind environment with
    | none =>
        rw [set] at given
        cases given
        rfl
    | some value =>
        rw [set] at given
        simp only [Options.put_withDescriptor different, given]
        rfl

theorem withDescriptor_of_giveFrom
    (given : giveFrom environment options .descriptor = .ok next)
    (other : Option DescriptorNumber) :
    next.withDescriptor other = options.withDescriptor other := by
  unfold giveFrom at given
  by_cases has : options.has .descriptor = true
  · rw [if_pos has] at given
    cases given
    rfl
  · rw [if_neg has] at given
    cases set : CommandOption.descriptor.environmentName?.bind environment with
    | none =>
        rw [set] at given
        cases given
        rfl
    | some value =>
        rw [set] at given
        exact Options.withDescriptor_of_put given other

theorem giveFrom_written (environment : Environment) (options : Options)
    (natural : 0 ≤ descriptor) :
    giveFrom
        (environment.set Handoff.descriptorVariable (Utf8.encode (toString descriptor.toInt)))
        (options.withDescriptor none) .descriptor =
      .ok (options.withDescriptor (some descriptor)) :=
  Options.put_written (options.withDescriptor none) natural

/-- The environment of a successor completes the options as before and gives the descriptor. -/
theorem completed_of_written (natural : 0 ≤ descriptor)
    (completes : CommandOption.all.foldlM (giveFrom environment) stated = .ok completed) :
    CommandOption.all.foldlM
        (giveFrom
          (environment.set Handoff.descriptorVariable (Utf8.encode (toString descriptor.toInt))))
        (stated.withDescriptor none) =
      .ok (completed.withDescriptor (some descriptor)) := by
  simp only [CommandOption.all, List.foldlM_cons, List.foldlM_nil, bind_eq_ok_iff] at completes ⊢
  obtain ⟨withConfig, config, withPort, port, withAny, any, withCertificate, certificate, withKey,
    key, same⟩ := completes
  cases same
  have written := giveFrom_written environment withPort natural
  rw [← withDescriptor_of_giveFrom any (some descriptor)] at written
  exact ⟨_, giveFrom_of_ne (by decide) _ config none, _, giveFrom_of_ne (by decide) _ port none,
    _, written, _, giveFrom_of_ne (by decide) _ certificate _, _,
    giveFrom_of_ne (by decide) _ key _, rfl⟩

theorem complete_withDescriptor (completes : complete completed = .ok options)
    (other : Option DescriptorNumber) :
    complete (completed.withDescriptor other) = .ok (options.withDescriptor other) := by
  rcases completed with ⟨config, port, descriptor, certificate, key⟩
  cases certificate with
  | none =>
      cases key with
      | none =>
          cases completes
          rfl
      | some key => cases completes
  | some certificate =>
      cases key with
      | none => cases completes
      | some key =>
          cases completes
          rfl

/-- No descriptor that is given in an accepted argument is malformed. -/
theorem isWellFormed_of_parse {arguments : List Bytes} {argument : Bytes}
    (accepted : parse environment arguments = .ok options) (member : argument ∈ arguments)
    (begins : Handoff.joinedOption <+: argument) : Utf8.isWellFormed argument = true := by
  obtain ⟨value, rfl⟩ := begins
  obtain ⟨given, stated, completed, spells, all, -, -⟩ := parse_eq_ok_iff.mp accepted
  have text := Options.isWellFormed_of_giveAll all (given_of_joinedOption spells member)
  exact (Bool.and_eq_true_iff.mp (Handoff.isJoined_of_isWellFormed text)).2

/-- A successor is given the options of the running process and the descriptor. -/
theorem parse_command {arguments : List Bytes} (natural : 0 ≤ descriptor)
    (accepted : parse environment arguments = .ok options) :
    parse ((Handoff.command arguments descriptor).environment environment)
        (Handoff.command arguments descriptor).arguments =
      .ok (options.withDescriptor (some descriptor)) := by
  obtain ⟨given, stated, completed, spells, all, completes, last⟩ := parse_eq_ok_iff.mp accepted
  refine parse_eq_ok_iff.mpr
    ⟨others given, stated.withDescriptor none, completed.withDescriptor (some descriptor), ?_, ?_,
      ?_, ?_⟩
  · have texts : ∀ value, (CommandOption.descriptor, value) ∈ given →
        Utf8.isWellFormed value = true :=
      fun value member => Options.isWellFormed_of_giveAll all member
    exact (spells_successorArguments spells texts).1 nofun
  · exact Options.giveAll_others all
  · exact completed_of_written natural completes
  · exact complete_withDescriptor last _

end CommandLine

/-! ## The configuration of a successor -/

namespace Options

variable {options : Options} {files : FileSystem} {config : Config} {descriptor : DescriptorNumber}

theorem judge_eq_ok_iff {judged : Config} :
    config.judge = .ok judged ↔ config = judged ∧ config.problems = [] := by
  unfold Config.judge Config.isValid
  by_cases valid : config.problems = []
  · simp [valid]
  · simp [valid]

/-- A configuration that is valid stays so with any descriptor that can be adopted. -/
theorem problems_of_inherited (natural : 0 ≤ descriptor) (valid : config.problems = []) :
    ({ config with listener := { config.listener with inherited := some descriptor } } :
      Config).problems = [] := by
  have notNegative : ¬ descriptor < 0 := Int32.not_lt.mpr natural
  simp only [Config.problems, List.append_eq_nil_iff] at valid ⊢
  obtain ⟨⟨⟨⟨-, timeout⟩, credentials⟩, limits⟩, metrics⟩ := valid
  refine ⟨⟨⟨⟨?_, timeout⟩, credentials⟩, limits⟩, metrics⟩
  simp [ListenerConfig.sourceProblems, notNegative]

theorem loadConfig_withDescriptor (natural : 0 ≤ descriptor)
    (loaded : options.loadConfig files = .ok config) :
    (options.withDescriptor (some descriptor)).loadConfig files =
      .ok { config with listener := { config.listener with inherited := some descriptor } } := by
  obtain ⟨base, based, judged⟩ := bind_eq_ok_iff.mp loaded
  obtain ⟨rfl, valid⟩ := judge_eq_ok_iff.mp judged
  refine bind_eq_ok_iff.mpr ⟨base, based, ?_⟩
  exact judge_eq_ok_iff.mpr ⟨rfl, problems_of_inherited natural valid⟩

end Options

/-! ## The start of a successor -/

namespace Handoff

/-- A successor of a process that has been started well is started with the same options and the
same configuration but for the descriptor; and from any arguments nothing but descriptor options and
their values is left out, all of them at once where they are texts. One that is no text is kept at
its place, unless it stands there as the value of another; but nothing is started well with one. -/
theorem command_keeps_configuration :
    (∀ (environment : Environment) (arguments : List Bytes) (options : Options)
        (files : FileSystem) (config : Config) (descriptor : DescriptorNumber),
      parse environment arguments = .ok options → options.loadConfig files = .ok config →
      0 ≤ descriptor →
        let successor := command arguments descriptor
        let same : Options := { options with descriptor := some descriptor }
        parse (successor.environment environment) successor.arguments = .ok same ∧
          same.loadConfig files =
            .ok { config with listener := { config.listener with inherited := some descriptor } }) ∧
      (∀ arguments, (successorArguments arguments).Sublist arguments ∧
        descriptorOption ∉ successorArguments arguments ∧
        (∀ argument ∈ successorArguments arguments, Utf8.isWellFormed argument = true →
          ¬ joinedOption <+: argument) ∧
        successorArguments (successorArguments arguments) = successorArguments arguments) ∧
      (∀ front argument rest, front.getLast? ≠ some descriptorOption →
        joinedOption <+: argument → Utf8.isWellFormed argument = false →
          successorArguments (front ++ argument :: rest) =
            successorArguments front ++ argument :: successorArguments rest) ∧
      ∀ environment arguments options, parse environment arguments = .ok options →
        ∀ argument ∈ arguments, joinedOption <+: argument →
          Utf8.isWellFormed argument = true := by
  refine ⟨?_, ?_, ?_, ?_⟩
  · intro environment arguments options files config descriptor accepted loaded natural
    exact ⟨parse_command natural accepted, Options.loadConfig_withDescriptor natural loaded⟩
  · intro arguments
    have kept : ∀ argument ∈ successorArguments arguments, IsKept argument :=
      fun argument member => isKept_of_mem_successorArguments member
    refine ⟨successorArguments_sublist arguments, ?_, ?_, successorArguments_eq_self kept⟩
    · intro member
      exact (kept _ member).1 rfl
    · intro argument member text begins
      have notJoined := (kept argument member).2
      rw [isJoined, List.isPrefixOf_iff_prefix.mpr begins, text] at notJoined
      cases notJoined
  · intro front argument rest apart begins malformed
    rw [successorArguments_append apart,
      successorArguments_cons_of_isKept (isKept_of_malformed begins malformed)]
  · intro environment arguments options accepted argument member begins
    exact isWellFormed_of_parse accepted member begins

/-- A process with a configuration file and a port, which has been handed its descriptor itself. -/
theorem command_keeps_configuration_of_handed :
    let arguments := ["-c", "c.toml", "--port=80", "--fd", "3"].map Bytes.ascii
    let files : FileSystem := fun _ =>
      .ok (.file (Bytes.ascii "[listener]\naccept_timeout_ms = 50\n"))
    let successor := command arguments 7
    let same : Options := { config := some "c.toml", port := some 80, descriptor := some 7 }
    successor.arguments = ["-c", "c.toml", "--port=80"].map Bytes.ascii ∧
      parse (successor.environment fun _ => none) successor.arguments = .ok same ∧
      same.loadConfig files =
        .ok { listener := { bindAddress := ":80", inherited := some 7, acceptTimeout := 50 } } ∧
      successorArguments successor.arguments = successor.arguments ∧
      successorArguments (arguments.take 3 ++ (joinedOption ++ [0xFF]) :: arguments.drop 3) =
        successor.arguments ++ [joinedOption ++ [0xFF]] := by
  intro arguments files successor same
  have accepted : parse (fun _ => none) arguments =
      .ok { config := some "c.toml", port := some 80, descriptor := some 3 } :=
    eq_ok_of_toOption (by decide +kernel)
  have loaded :
      Options.loadConfig { config := some "c.toml", port := some 80, descriptor := some 3 } files =
      .ok { listener := { bindAddress := ":80", inherited := some 3, acceptTimeout := 50 } } :=
    eq_ok_of_toOption (by decide +kernel)
  obtain ⟨starts, keeps, keepsMalformed, -⟩ := command_keeps_configuration
  obtain ⟨parsed, configured⟩ := starts _ arguments _ files _ 7 accepted loaded (by decide)
  refine ⟨by decide +kernel, parsed, configured, (keeps arguments).2.2.2, ?_⟩
  rw [keepsMalformed _ _ _ (by decide) (List.prefix_append _ _) (by decide)]
  decide +kernel

/-- A descriptor option whose value is no text is not left out. -/
theorem successorArguments_keeps_malformed :
    let argument := joinedOption ++ [0xFF]
    argument ∈ successorArguments [argument] ∧ joinedOption <+: argument := by
  refine ⟨?_, List.prefix_append _ _⟩
  decide

end Handoff

end HttpServer
