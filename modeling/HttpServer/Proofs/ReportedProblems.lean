import HttpServer.Connection
import HttpServer.Program
import HttpServer.Proofs.ListenerSource
import Mathlib.Data.List.Sort

/-!
# What is reported of a configuration

A configuration is judged by its settings in groups, and no group hides another. All the rules that
it breaks are reported, each of them once and in an order that is the same for every configuration.
What is accepted is fit for the stages that come after: none of them meets a value that the rules
are there to keep out.
-/

namespace HttpServer

/-! ## Groups of settings -/

/-- Settings that are judged together. -/
inductive SettingGroup where
  /-- The address to bind and the descriptor to adopt instead. -/
  | source
  | acceptTimeout
  | credentialPath (setting : CredentialSetting)
  | limit (setting : LimitSetting)
  /-- Whether metrics are wanted, and under which address. -/
  | metrics
deriving DecidableEq

/-- Whether two configurations have the same settings in a group. -/
def SettingGroup.Agree (group : SettingGroup) (config other : Config) : Prop :=
  match group with
  | .source =>
    config.listener.inherited = other.listener.inherited ∧
      config.listener.bindAddress = other.listener.bindAddress
  | .acceptTimeout => config.listener.acceptTimeout = other.listener.acceptTimeout
  | .credentialPath setting =>
    config.listener.credentials.map (fun paths => paths.path setting) =
      other.listener.credentials.map (fun paths => paths.path setting)
  | .limit setting => config.connection.limit setting = other.connection.limit setting
  | .metrics =>
    config.observability.metricsEnabled = other.observability.metricsEnabled ∧
      config.observability.metricsAddress = other.observability.metricsAddress

namespace ConfigProblem

def group : ConfigProblem → SettingGroup
  | .noListenerSource | .negativeDescriptor _ => .source
  | .zeroAcceptTimeout => .acceptTimeout
  | .emptyCredentialPath setting => .credentialPath setting
  | .zeroLimit setting => .limit setting
  | .badMetricsAddress _ => .metrics

def place : ConfigProblem → Nat
  | .noListenerSource => 0
  | .negativeDescriptor _ => 1
  | .zeroAcceptTimeout => 2
  | .emptyCredentialPath .certificate => 3
  | .emptyCredentialPath .key => 4
  | .zeroLimit .readBuffer => 5
  | .zeroLimit .maximumHead => 6
  | .zeroLimit .maximumBody => 7
  | .badMetricsAddress _ => 8

/-- Whether a problem is reported before another. -/
def Precedes (first second : ConfigProblem) : Prop := first.place < second.place

instance : Std.Irrefl Precedes := ⟨fun _ => Nat.lt_irrefl _⟩

instance : Std.Antisymm Precedes := ⟨fun _ _ before after => absurd after (Nat.lt_asymm before)⟩

end ConfigProblem

/-! ## The order of the problems -/

theorem ListenerConfig.sourceProblems_sublist (config : ListenerConfig) :
    config.sourceProblems.Sublist
      [.noListenerSource, .negativeDescriptor (config.inherited.getD 0)] := by
  unfold sourceProblems
  cases config.inherited with
  | some number =>
      simp only
      split <;> simp
  | none =>
      simp only
      split <;> simp

theorem ListenerConfig.timeoutProblems_sublist (config : ListenerConfig) :
    config.timeoutProblems.Sublist [.zeroAcceptTimeout] := by
  unfold timeoutProblems
  split <;> simp

theorem ListenerConfig.credentialProblems_sublist (config : ListenerConfig) :
    config.credentialProblems.Sublist
      [.emptyCredentialPath .certificate, .emptyCredentialPath .key] := by
  unfold credentialProblems
  cases config.credentials with
  | none =>
      simp
  | some paths =>
      have certificate : (if paths.certificate.isEmpty then
          [ConfigProblem.emptyCredentialPath .certificate] else []).Sublist
            [.emptyCredentialPath .certificate] := by
        split <;> simp
      have key : (if paths.key.isEmpty then
          [ConfigProblem.emptyCredentialPath .key] else []).Sublist
            [.emptyCredentialPath .key] := by
        split <;> simp
      exact certificate.append key

theorem ConnectionConfig.limitProblems_sublist (config : ConnectionConfig) :
    config.limitProblems.Sublist
      [.zeroLimit .readBuffer, .zeroLimit .maximumHead, .zeroLimit .maximumBody] := by
  simp only [limitProblems, List.filterMap_cons, List.filterMap_nil]
  by_cases readBuffer : config.readBuffer = 0 <;> by_cases head : config.maximumHead = 0 <;>
    by_cases body : config.maximumBody = 0 <;> simp [readBuffer, head, body]

theorem ObservabilityConfig.metricsProblems_sublist (config : ObservabilityConfig) :
    config.metricsProblems.Sublist [.badMetricsAddress config.metricsAddress] := by
  unfold metricsProblems
  split <;> simp

namespace Config

variable {config other : Config}

/-- Problems are reported in order, so that none is reported twice. -/
theorem pairwise_problems (config : Config) :
    config.problems.Pairwise ConfigProblem.Precedes := by
  have among := (((config.listener.sourceProblems_sublist.append
    config.listener.timeoutProblems_sublist).append
      config.listener.credentialProblems_sublist).append
        config.connection.limitProblems_sublist).append
          config.observability.metricsProblems_sublist
  refine List.Pairwise.sublist among ?_
  simp [ConfigProblem.Precedes, ConfigProblem.place]

/-! ## Groups do not hide each other -/

theorem breaks_congr {problem : ConfigProblem} (agree : problem.group.Agree config other) :
    config.Breaks problem ↔ other.Breaks problem := by
  cases problem with
  | noListenerSource | negativeDescriptor =>
      obtain ⟨inherited, address⟩ := agree
      simp only [Breaks, inherited, address]
  | zeroAcceptTimeout =>
      have same : config.listener.acceptTimeout = other.listener.acceptTimeout := agree
      simp only [Breaks, same]
  | emptyCredentialPath setting =>
      have means (config : Config) : config.Breaks (.emptyCredentialPath setting) ↔
          ((config.listener.credentials.map fun paths => paths.path setting).any
            List.isEmpty) = true := by
        cases credentials : config.listener.credentials <;> simp [Breaks, credentials]
      have same : config.listener.credentials.map (fun paths => paths.path setting) =
          other.listener.credentials.map (fun paths => paths.path setting) := agree
      rw [means, means, same]
  | zeroLimit setting =>
      have same : config.connection.limit setting = other.connection.limit setting := agree
      simp only [Breaks, same]
  | badMetricsAddress address =>
      obtain ⟨enabled, same⟩ := agree
      simp only [Breaks, enabled, same]

/-- The problems that are reported of the settings of a group. -/
def reported (config : Config) (group : SettingGroup) : List ConfigProblem :=
  config.problems.filter fun problem => problem.group = group

theorem reported_congr {group : SettingGroup} (agree : group.Agree config other) :
    config.reported group = other.reported group := by
  apply List.Pairwise.eq_of_mem_iff ((pairwise_problems config).filter _)
    ((pairwise_problems other).filter _)
  intro problem
  simp only [List.mem_filter, mem_problems_iff, decide_eq_true_eq]
  constructor
  · rintro ⟨breaks, rfl⟩
    exact ⟨(breaks_congr agree).mp breaks, rfl⟩
  · rintro ⟨breaks, rfl⟩
    exact ⟨(breaks_congr agree).mpr breaks, rfl⟩

end Config

/-! ## What later stages are given -/

namespace Listener

/-- Binding never finds fault with a descriptor. -/
theorem bindFirst_ne_notAListener {failure : ListenerError} {number : DescriptorNumber}
    {error : AdoptionError} (other : failure ≠ .notAListener number error) (acceptTimeout : Word)
    (addresses : List SocketAddress) (host : Host) :
    (bindFirst acceptTimeout failure addresses host).1 ≠ .error (.notAListener number error) := by
  induction addresses generalizing failure host with
  | nil =>
      simpa [bindFirst] using other
  | cons address rest inductionHypothesis =>
      unfold bindFirst
      rcases host.bind address with ⟨refused | ⟨opened, bound⟩, next⟩
      · have otherToo : ListenerError.bind address refused ≠ .notAListener number error := by simp
        exact inductionHypothesis otherToo next
      · rcases setUp_cases opened bound acceptTimeout next with ⟨failure, same⟩ | same
        · simp [same]
        · simp [same]

theorem negative_of_adopt {number given : DescriptorNumber} {acceptTimeout : Word} {host : Host}
    (refused : (adopt given acceptTimeout host).1 = .error (.notAListener number .negative)) :
    given < 0 := by
  by_contra natural
  unfold adopt at refused
  rw [if_neg natural] at refused
  cases checked : check host given with
  | error error =>
      simp only [checked, Except.error.injEq, ListenerError.notAListener.injEq] at refused
      obtain ⟨-, rfl⟩ := refused
      unfold check at checked
      split at checked <;> simp at checked
  | ok address =>
      rcases setUp_cases given address acceptTimeout host with ⟨failure, same⟩ | same
      · simp [checked, same] at refused
      · simp [checked, same] at refused

end Listener

namespace ListenerConfig

variable {config : ListenerConfig}

/-- Where no negative descriptor is configured, none is refused for being negative. -/
theorem openListener_ne_negative (natural : ∀ given, config.inherited = some given → 0 ≤ given)
    (host : Host) (number : DescriptorNumber) :
    (config.openListener host).1 ≠ .error (.listener (.notAListener number .negative)) := by
  have socket : (config.openSocket host).1 ≠ .error (.notAListener number .negative) := by
    unfold openSocket
    cases inherited : config.inherited with
    | some given =>
        intro refused
        exact Int32.not_lt.mpr (natural given inherited) (Listener.negative_of_adopt refused)
    | none =>
        simp only [Listener.bind]
        cases BindAddress.resolve config.bindAddress host.names with
        | error error =>
            simp
        | ok addresses =>
            have other : ListenerError.unresolved config.bindAddress .noAddresses ≠
                .notAListener number .negative := by simp
            exact Listener.bindFirst_ne_notAListener other _ _ _
  cases loaded : config.credentials.mapM (Credentials.load host.files) with
  | error error =>
      simp [openListener_of_unloaded loaded]
  | ok credentials =>
      rw [openListener_of_loaded loaded]
      rcases opened : (config.openSocket host).1 with error | listener
      · rw [opened] at socket
        simpa [Except.mapError, Except.map] using socket
      · simp [Except.mapError, Except.map]

end ListenerConfig

theorem Server.listen_ofConfig (config : Config) (process : Nat) (host : Host) :
    ((ofConfig config process).listen host).1 =
      (config.listener.openListener host).1.map fun _ => () := by
  simp only [listen, attachWith, ofConfig, Option.isSome_none, Bool.false_eq_true, if_false]
  rcases config.listener.openListener host with ⟨error | listener, after⟩
  · rfl
  · rfl

namespace Config

variable {config : Config}

/-- Whether a configuration is fit for the stages that come after its judgement. -/
structure IsUsable (config : Config) : Prop where
  metrics : config.observability.metricsEnabled = true →
    ∃ address, SocketAddress.parse? config.observability.metricsAddress = some address
  descriptor : ∀ number, config.listener.inherited = some number → 0 ≤ number
  acceptTimeout : 0 < config.listener.acceptTimeout
  limits : ∀ setting, 0 < config.connection.limit setting

theorem isUsable_of_unbroken (unbroken : ∀ problem, ¬ config.Breaks problem) :
    config.IsUsable where
  metrics := by
    intro enabled
    apply Option.ne_none_iff_exists'.mp
    intro wrong
    exact unbroken (.badMetricsAddress _) ⟨rfl, enabled, wrong⟩
  descriptor := by
    intro number inherited
    apply Int32.not_lt.mp
    intro negative
    exact unbroken (.negativeDescriptor number) ⟨inherited, negative⟩
  acceptTimeout := UInt64.pos_iff_ne_zero.mpr (unbroken .zeroAcceptTimeout)
  limits setting := UInt64.pos_iff_ne_zero.mpr (unbroken (.zeroLimit setting))

theorem IsUsable.openMetrics_ne (usable : config.IsUsable) (logPrefix : String) (host : Host) :
    Program.openMetrics logPrefix config.observability host ≠ .error .metricsAddress := by
  unfold Program.openMetrics
  cases enabled : config.observability.metricsEnabled with
  | false =>
      simp
  | true =>
      obtain ⟨address, parsed⟩ := usable.metrics enabled
      simp only [parsed, Bool.not_true, Bool.false_eq_true, if_false]
      rcases host.bind address with ⟨failure | bound, after⟩
      · simp
      · simp

theorem problems_eq_nil_iff : config.problems = [] ↔ ∀ problem, ¬ config.Breaks problem := by
  simp only [List.eq_nil_iff_forall_not_mem, mem_problems_iff]

/-- A configuration is accepted exactly if it breaks no rule, and otherwise all the rules that it
breaks are reported, each once and in an order that is the same for every configuration. What is
reported of a group of settings depends on that group alone, whatever else is wrong. In a server
with an accepted configuration no stage fails for what the rules keep out: wanted metrics have an
address, no negative descriptor is adopted, and times and limits let something through. -/
theorem judge_reports_broken_rules (config : Config) :
    (∀ accepted, config.judge = .ok accepted ↔
      accepted = config ∧ ∀ problem, ¬ config.Breaks problem) ∧
    (∀ error, config.judge = .error error ↔
      error = .invalid config.problems ∧ ∃ problem, config.Breaks problem) ∧
    (∀ problem, problem ∈ config.problems ↔ config.Breaks problem) ∧
    config.problems.Nodup ∧ config.problems.Pairwise ConfigProblem.Precedes ∧
    (∀ group other, group.Agree config other → config.reported group = other.reported group) ∧
    (config.judge = .ok config →
      config.IsUsable ∧
      (∀ logPrefix host,
        Program.openMetrics logPrefix config.observability host ≠ .error .metricsAddress) ∧
      (∀ process host number, ((Server.ofConfig config process).listen host).1 ≠
        .error (.listener (.notAListener number .negative))) ∧
      ∀ logPrefix pipeline,
        0 < (Service.ofConfig config logPrefix pipeline).bufferCapacity ∧
        0 < (Service.ofConfig config logPrefix pipeline).limits.head ∧
        0 < (Service.ofConfig config logPrefix pipeline).limits.body) := by
  have ordered := pairwise_problems config
  refine ⟨?_, ?_, fun _ => mem_problems_iff, ordered.nodup, ordered, fun _ _ => reported_congr, ?_⟩
  · intro accepted
    rw [Options.judge_eq_ok_iff, problems_eq_nil_iff]
    exact and_congr_left fun _ => eq_comm
  · intro error
    have broken : (∃ problem, config.Breaks problem) ↔ config.problems ≠ [] := by
      rw [ne_eq, problems_eq_nil_iff, not_forall_not]
    rw [judge_eq, broken]
    by_cases valid : config.problems = []
    · simp [valid]
    · simp [valid, eq_comm]
  · intro accepted
    obtain ⟨-, valid⟩ := Options.judge_eq_ok_iff.mp accepted
    have usable := isUsable_of_unbroken (problems_eq_nil_iff.mp valid)
    refine ⟨usable, usable.openMetrics_ne, ?_, ?_⟩
    · intro process host number
      have opens := ListenerConfig.openListener_ne_negative usable.descriptor host number
      rw [Server.listen_ofConfig]
      cases opened : (config.listener.openListener host).1 with
      | error error =>
          rw [opened] at opens
          simpa [Except.map] using opens
      | ok listener =>
          simp [Except.map]
    · intro logPrefix pipeline
      have positive (setting : LimitSetting) : 0 < (config.connection.limit setting).toNat :=
        UInt64.lt_iff_toNat_lt.mp (usable.limits setting)
      exact ⟨positive .readBuffer, positive .maximumHead, positive .maximumBody⟩

/-- Five broken rules, of which one is the same where all other settings differ, and an accepted
configuration with a descriptor, metrics and no address to bind. -/
theorem judge_reports_broken_rules_of_five_problems :
    let broken : Config :=
      { listener :=
          { bindAddress := " \t", acceptTimeout := 0
            credentials := some { certificate := "", key := "key.pem" } }
        connection := { readBuffer := 0 }
        observability := { metricsEnabled := true, metricsAddress := "nowhere" } }
    let other : Config := { listener := { bindAddress := " \t" } }
    let accepted : Config :=
      { listener := { bindAddress := "", inherited := some 3 }
        observability := { metricsEnabled := true } }
    (broken.judge = .error (.invalid [.noListenerSource, .zeroAcceptTimeout,
        .emptyCredentialPath .certificate, .zeroLimit .readBuffer, .badMetricsAddress "nowhere"]) ∧
      broken.reported .source = other.reported .source ∧
      other.reported .source = [.noListenerSource]) ∧
      accepted.judge = .ok accepted ∧ accepted.IsUsable := by
  intro broken other accepted
  obtain ⟨-, rejects, -, -, -, groups, -⟩ := judge_reports_broken_rules broken
  obtain ⟨-, -, -, -, -, -, usable⟩ := judge_reports_broken_rules accepted
  have reported : broken.problems = [.noListenerSource, .zeroAcceptTimeout,
      .emptyCredentialPath .certificate, .zeroLimit .readBuffer, .badMetricsAddress "nowhere"] := by
    decide +kernel
  have rejected : broken.judge = .error (.invalid broken.problems) :=
    (rejects _).mpr ⟨rfl, .zeroAcceptTimeout, rfl⟩
  have fine : accepted.judge = .ok accepted := by
    rw [Options.judge_eq_ok_iff]
    exact ⟨rfl, by decide +kernel⟩
  refine ⟨⟨?_, groups .source other ⟨rfl, rfl⟩, ?_⟩, fine, (usable fine).1⟩
  · rw [rejected, reported]
  · decide +kernel

end Config

end HttpServer
