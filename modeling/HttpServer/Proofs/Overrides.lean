import HttpServer.Proofs.BrokenRules
import HttpServer.Proofs.SuccessorArguments

/-!
# Options that override a file

Options override settings of a configuration file, and what comes of that is judged. But the file
is judged before, by itself. So it is not enough that the overridden configuration is valid: a rule
that the file breaks is reported even where an option repairs it, and no rule that an option breaks
is reported as long as the file breaks any.
-/

namespace HttpServer

namespace Config

theorem judge_eq (config : Config) :
    config.judge =
      if config.problems = [] then .ok config else .error (.invalid config.problems) := by
  simp only [judge, isValid, List.isEmpty_iff]

end Config

namespace Options

variable {options : Options} {files : FileSystem} {file : Config}

/-! ## Loading -/

/-- The configuration that the file of the options describes, valid or not. Without a file it is
the one that has all its defaults. -/
def fileConfig (options : Options) (files : FileSystem) : Except ConfigError Config :=
  match options.config with
  | some path => Config.readFile files path >>= Config.read
  | none => .ok {}

theorem baseConfig_eq (options : Options) (files : FileSystem) :
    options.baseConfig files = (options.fileConfig files >>= Config.judge) := by
  unfold baseConfig fileConfig
  cases options.config with
  | none =>
      rfl
  | some path =>
      exact (bind_assoc _ _ _).symm

theorem loadConfig_eq (described : options.fileConfig files = .ok file) :
    options.loadConfig files =
      if file.problems = [] then (options.override file).judge
      else .error (.invalid file.problems) := by
  have based : options.baseConfig files = file.judge := by
    rw [baseConfig_eq, described]
    rfl
  rw [loadConfig, based, Config.judge_eq]
  by_cases valid : file.problems = []
  · rw [if_pos valid, if_pos valid]
    rfl
  · rw [if_neg valid, if_neg valid]
    rfl

/-! ## Overridden settings -/

theorem inherited_override (options : Options) (file : Config) :
    (options.override file).listener.inherited =
      options.descriptor.or file.listener.inherited := by
  unfold override
  cases options.descriptor <;> rfl

theorem bindAddress_override (options : Options) (file : Config) :
    (options.override file).listener.bindAddress =
      (options.port.map fun port => ":" ++ toString port.toNat).getD file.listener.bindAddress :=
  rfl

/-- The credentials that are given take the place of others only together. -/
def credentials (options : Options) (file : Config) : Option CredentialPaths :=
  match options.certificate, options.key with
  | some certificate, some key => some { certificate, key }
  | _, _ => file.listener.credentials

theorem credentials_override (options : Options) (file : Config) :
    (options.override file).listener.credentials = options.credentials file :=
  rfl

/-! ## Rules that options repair and break -/

/-- Whether the setting that breaks a rule is overridden. -/
def repairs (options : Options) : ConfigProblem → Bool
  | .noListenerSource => options.port.isSome || options.descriptor.isSome
  | .negativeDescriptor _ => options.descriptor.isSome
  | .emptyCredentialPath _ => options.certificate.isSome && options.key.isSome
  | .zeroAcceptTimeout | .zeroLimit _ | .badMetricsAddress _ => false

theorem isBlankText_port (port : UInt16) :
    Text.isBlankText (":" ++ toString port.toNat) = false := by
  have begins : (":" ++ toString port.toNat).toList = ':' :: (toString port.toNat).toList := by
    rw [String.toList_append]
    rfl
  have colon : Text.isBlank ':' = false := by decide
  rw [Text.isBlankText, begins, List.all_cons, colon, Bool.false_and]

theorem isBlankText_bindAddress (options : Options) :
    Text.isBlankText (options.override {}).listener.bindAddress = false := by
  rw [bindAddress_override]
  cases options.port with
  | none =>
      decide
  | some port =>
      exact isBlankText_port port

theorem mem_problems_override {problem : ConfigProblem} :
    problem ∈ (options.override file).problems ↔
      problem ∈ file.problems ∧ options.repairs problem = false ∨
        problem ∈ (options.override {}).problems := by
  simp only [Config.mem_problems_iff]
  cases problem with
  | noListenerSource =>
      have visible : ¬ (options.override {}).Breaks .noListenerSource := by
        rintro ⟨-, blank⟩
        rw [isBlankText_bindAddress] at blank
        cases blank
      rw [or_iff_left visible]
      simp only [Config.Breaks, repairs, inherited_override, bindAddress_override]
      cases options.descriptor with
      | some number =>
          simp
      | none =>
          cases options.port with
          | none =>
              simp
          | some port =>
              simp only [Option.map_some, Option.getD_some, isBlankText_port]
              simp
  | negativeDescriptor number =>
      simp only [Config.Breaks, repairs, inherited_override]
      cases options.descriptor <;> simp
  | emptyCredentialPath setting =>
      simp only [Config.Breaks, repairs, credentials_override, credentials]
      cases options.certificate <;> cases options.key <;> simp
  | zeroAcceptTimeout =>
      simp [Config.Breaks, repairs, override]
  | zeroLimit setting =>
      cases setting <;> simp [Config.Breaks, repairs, override, ConnectionConfig.limit]
  | badMetricsAddress address =>
      simp [Config.Breaks, repairs, override]

/-- The configuration that comes of options and a file is loaded exactly if it is valid and the
file is valid by itself. What is reported otherwise are the rules that the file breaks, also those
that an option repairs; only if there are none, the rules that the options break. So what is loaded
is what the overridden configuration alone would give exactly if the file breaks no rule, or if the
overridden configuration breaks the same. -/
theorem loadConfig_judges_file_first (described : options.fileConfig files = .ok file) :
    (∀ config, options.loadConfig files = .ok config ↔
        config = options.override file ∧ file.problems = [] ∧
          (options.override file).problems = []) ∧
      (∀ error, options.loadConfig files = .error error ↔
        (file.problems ≠ [] ∧ error = .invalid file.problems) ∨
          file.problems = [] ∧ (options.override file).problems ≠ [] ∧
            error = .invalid (options.override file).problems) ∧
      (∀ problem, problem ∈ (options.override file).problems ↔
        problem ∈ file.problems ∧ options.repairs problem = false ∨
          problem ∈ (options.override {}).problems) ∧
      (options.loadConfig files = (options.override file).judge ↔
        file.problems = [] ∨ file.problems = (options.override file).problems) := by
  rw [loadConfig_eq described]
  refine ⟨?_, ?_, fun problem => mem_problems_override, ?_⟩
  · intro config
    by_cases valid : file.problems = []
    · rw [if_pos valid, judge_eq_ok_iff]
      constructor
      · rintro ⟨rfl, sound⟩
        exact ⟨rfl, valid, sound⟩
      · rintro ⟨rfl, -, sound⟩
        exact ⟨rfl, sound⟩
    · simp [valid]
  · intro error
    by_cases valid : file.problems = []
    · rw [if_pos valid, Config.judge_eq]
      by_cases sound : (options.override file).problems = []
      · simp [valid, sound]
      · simp only [valid, sound, if_false, Except.error.injEq, ne_eq, not_true, not_false_eq_true,
          false_and, true_and, false_or]
        exact eq_comm
    · simp only [valid, if_false, Except.error.injEq, ne_eq, not_false_eq_true, false_and, true_and,
        or_false]
      exact eq_comm
  · by_cases valid : file.problems = []
    · simp [valid]
    · rw [if_neg valid, Config.judge_eq]
      by_cases sound : (options.override file).problems = []
      · simp [valid, sound]
      · simp [valid, sound]

/-- A valid file whose address, descriptor and credentials are overridden. -/
theorem loadConfig_judges_file_first_of_valid_file :
    let text := "[listener]\nbind_address = \":1\"\ninherited_fd = 4\n\n[listener.tls]\n" ++
      "cert_path = \"a\"\nkey_path = \"b\"\n"
    let files : FileSystem := fun _ => .ok (.file (Utf8.encode text))
    let options : Options :=
      { config := some "c.toml", port := some 80, descriptor := some 7, certificate := some "c"
        key := some "d" }
    let file : Config :=
      { listener :=
          { bindAddress := ":1", inherited := some 4
            credentials := some { certificate := "a", key := "b" } } }
    options.fileConfig files = .ok file ∧
      options.loadConfig files =
        .ok { listener :=
                { bindAddress := ":80", inherited := some 7
                  credentials := some { certificate := "c", key := "d" } } } := by
  intro text files options file
  have described : options.fileConfig files = .ok file := eq_ok_of_toOption (by decide +kernel)
  obtain ⟨loads, -, -, -⟩ := loadConfig_judges_file_first described
  exact ⟨described, (loads _).mpr ⟨by decide +kernel, by decide +kernel, by decide +kernel⟩⟩

/-- A port takes the place of an empty address, but the empty address is reported. -/
theorem loadConfig_reports_repaired :
    let arguments := ["--config", "c.toml", "--port", "80"].map Bytes.ascii
    let files : FileSystem := fun _ =>
      .ok (.file (Utf8.encode "[listener]\nbind_address = \"\"\n"))
    let options : Options := { config := some "c.toml", port := some 80 }
    let file : Config := { listener := { bindAddress := "" } }
    CommandLine.parse (fun _ => none) arguments = .ok options ∧
      options.fileConfig files = .ok file ∧
      (options.override file).problems = [] ∧
      (options.override file).listener.bindAddress = ":80" ∧
      options.loadConfig files = .error (.invalid [.noListenerSource]) := by
  intro arguments files options file
  have described : options.fileConfig files = .ok file := eq_ok_of_toOption (by decide +kernel)
  have broken : file.problems = [.noListenerSource] := by decide +kernel
  refine ⟨eq_ok_of_toOption (by decide +kernel), described, by decide +kernel,
    by decide +kernel, ?_⟩
  rw [loadConfig_eq described, broken]
  rfl

end Options

end HttpServer
