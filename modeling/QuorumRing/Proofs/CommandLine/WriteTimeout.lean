import QuorumRing.CommandLine.Commands
import QuorumRing.Proofs.CommandLine.Reading
import QuorumRing.Proofs.Settings.Validation
import QuorumRing.Proofs.Time.Duration

/-!
# The time to wait for a write

The last time that is given for `--write-timeout` reaches the settings, wherever it stands. It is stored
in milliseconds modulo `2 ^ 64`, so that a duration of that many milliseconds or more is cut down, and
one that is a multiple of it is taken for none at all.
-/

namespace QuorumRing.CommandLine

variable {α β γ : Type} {spec : OptionSpec α} {name text : String} {get : α → γ}
  {read : String → γ} {value : Option String} {arguments : List String} {invocation : Invocation}
  {d : Duration}

/-! ## Which options set it -/

theorem OptionSpec.Governs.of_other (hname : spec.name ≠ name)
    (hkeeps : ∀ value before after, spec.Enacts value before after → get after = get before) :
    spec.Governs name get read :=
  ⟨fun h => absurd h hname, fun _ => hkeeps, fun h => absurd h hname⟩

theorem governs_numberOption {other placeholder : String} {set : Nat → α → α} (hname : other ≠ name)
    (hkeeps : ∀ n before, get (set n before) = get before) :
    (numberOption other placeholder set).Governs name get read := by
  refine .of_other hname ?_
  rintro value before after ⟨text, -, hset⟩
  dsimp only at hset
  split at hset
  next n _ =>
    obtain rfl := Except.ok.inj hset
    exact hkeeps n before
  next => simp at hset

/-- The time to wait is what one option says, and is left alone by the others. -/
abbrev Governed (spec : OptionSpec (Given β)) : Prop :=
  spec.Governs "write-timeout" (fun given => given.overrides.writeTimeout)
    (fun text => (Duration.parse text).toOption)

theorem governed_of_mem_sharedOptions : ∀ spec ∈ sharedOptions (β := β), Governed spec := by
  intro spec hspec
  simp only [sharedOptions, List.mem_cons, List.not_mem_nil, or_false] at hspec
  rcases hspec with rfl | rfl | rfl | rfl | rfl | rfl
  · refine .of_other (by simp) ?_
    rintro value before after ⟨text, -, hset⟩
    dsimp only at hset
    split at hset
    · simp at hset
    · rw [← Except.ok.inj hset]
  · exact governs_numberOption (by simp) fun _ _ => rfl
  · exact governs_numberOption (by simp) fun _ _ => rfl
  · refine ⟨?_, fun hne => absurd rfl hne, fun _ => rfl⟩
    rintro - value before after ⟨text, rfl, hset⟩
    refine ⟨text, rfl, ?_⟩
    dsimp only at hset
    split at hset
    next duration hparse =>
      rw [← Except.ok.inj hset, hparse]
      rfl
    next => simp at hset
  · refine .of_other (by simp) ?_
    rintro value before after ⟨text, -, hset⟩
    dsimp only at hset
    split at hset
    · rw [← Except.ok.inj hset]
    · simp at hset
  · exact .of_other (by simp) fun value before after h => h.elim

theorem governed_of_mem_frontOptions : ∀ spec ∈ frontOptions, Governed spec := by
  intro spec hspec
  rcases List.mem_cons.1 hspec with rfl | hspec
  · exact .of_other (by simp) fun value before after h => h.elim
  · exact governed_of_mem_sharedOptions spec hspec

theorem governed_of_mem_serveOptions : ∀ spec ∈ serveOptions, Governed spec := by
  intro spec hspec
  rcases List.mem_cons.1 hspec with rfl | hspec
  · refine .of_other (by simp) ?_
    rintro value before after ⟨text, -, hset⟩
    dsimp only at hset
    split at hset
    · rw [← Except.ok.inj hset]
    · simp at hset
  · exact governed_of_mem_sharedOptions spec hspec

theorem governed_of_mem_simulateOptions : ∀ spec ∈ simulateOptions, Governed spec := by
  intro spec hspec
  rcases List.mem_append.1 hspec with hspec | hspec
  · simp only [List.mem_cons, List.not_mem_nil, or_false] at hspec
    rcases hspec with rfl | rfl | rfl | rfl
    · exact governs_numberOption (by simp) fun _ _ => rfl
    · exact governs_numberOption (by simp) fun _ _ => rfl
    · exact governs_numberOption (by simp) fun _ _ => rfl
    · refine .of_other (by simp) fun value before after h => ?_
      obtain rfl : after = _ := h
      rfl
  · exact governed_of_mem_sharedOptions spec hspec

/-! ## Which text counts -/

/-- What gives a duration is neither a command nor the end of the options. -/
theorem plain_of_parse (hparse : Duration.parse text = .ok d) (given : List String)
    (hgiven : Reading.Gives "write-timeout" text given) :
    ∀ argument ∈ "--" :: commandNames, argument ∉ given := by
  have hnone : ∀ argument ∈ "--" :: commandNames, (Duration.parse argument).toOption = none := by
    decide
  have hshort : ∀ argument ∈ "--" :: commandNames, argument.length ≤ 8 := by decide
  intro argument hargument hmem
  have hlength := hshort argument hargument
  rcases hgiven with rfl | rfl
  · simp only [List.mem_cons, List.not_mem_nil, or_false] at hmem
    rcases hmem with rfl | rfl
    · exact absurd hlength (by decide)
    · simpa [hparse, Except.toOption] using hnone argument hargument
  · obtain rfl := List.mem_singleton.1 hmem
    have hfront : ("--" ++ "write-timeout" ++ "=").length = 16 := by decide
    rw [String.length_append, hfront] at hlength
    omega

/-- The options of a command behind it, if they are read to the end. -/
theorem readCommand_eq_ok {specs : List (OptionSpec (Given β))} {own : β} {given : Given β}
    (h : readCommand specs own arguments = .ok given) : ∃ reading next settled,
      Reading.readAll specs [] { settings := { own } } arguments = .ok (reading, next) ∧
        reading.settle = .ok settled ∧ given = settled.settings := by
  obtain ⟨⟨reading, next⟩, hread, h⟩ := bind_eq_ok_iff.1 h
  obtain ⟨settled, hsettle, h⟩ := bind_eq_ok_iff.1 h
  exact ⟨reading, next, settled, hread, hsettle, (Except.ok.inj h).symm⟩

section

variable {specs : List (OptionSpec (Given β))} {own : β} {given : Given β}
  (hspecs : ∀ spec ∈ specs, Governed spec)
include hspecs

theorem writeTimeout_of_readCommand (hparse : Duration.parse text = .ok d)
    (hlast : Reading.LastText "write-timeout" text arguments)
    (h : readCommand specs own arguments = .ok given) : given.overrides.writeTimeout = some d := by
  obtain ⟨reading, next, settled, hread, hsettle, rfl⟩ := readCommand_eq_ok h
  have hplain : ∀ given, Reading.Gives "write-timeout" text given →
      ∀ argument ∈ "--" :: ([] : List String), argument ∉ given := fun given hgiven argument h =>
    plain_of_parse hparse given hgiven argument (by simp_all)
  obtain ⟨command, hcommand, -⟩ | ⟨hproper, hdue, -⟩ :=
    Reading.due_of_lastText hspecs (by decide) hplain (Reading.proper_of_settled rfl) hlast hread
  · simp at hcommand
  · rw [(Reading.get_of_settle hspecs hproper hsettle).2, hdue, hparse]
    rfl

theorem writeTimeout_of_readCommand_silent
    (hsilent : ∀ argument ∈ arguments, Reading.Silent "write-timeout" argument)
    (h : readCommand specs own arguments = .ok given) : given.overrides.writeTimeout = none := by
  obtain ⟨reading, next, settled, hread, hsettle, rfl⟩ := readCommand_eq_ok h
  obtain ⟨hproper, hdue⟩ := Reading.due_of_readAll_silent hspecs (Reading.proper_of_settled rfl)
    (Reading.not_awaits_of_settled rfl) hsilent hread
  rw [(Reading.get_of_settle hspecs hproper hsettle).2, hdue]
  rfl

end

/-- What is read of the arguments behind a command. -/
inductive Behind (arguments : List String) : Overrides → Prop where
  | serve {given : Given (Option SocketAddress)}
      (h : readCommand serveOptions none arguments = .ok given) : Behind arguments given.overrides
  | simulate {given : Given Simulation}
      (h : readCommand simulateOptions {} arguments = .ok given) : Behind arguments given.overrides

theorem parse_eq_ok (h : Invocation.parse arguments = .ok invocation) :
    ∃ reading command rest settled behind,
      Reading.readAll frontOptions commandNames { settings := { own := () } } arguments =
        .ok (reading, some (command, rest)) ∧ reading.settle = .ok settled ∧ Behind rest behind ∧
      invocation.overrides = settled.settings.overrides.combine behind := by
  obtain ⟨⟨reading, next⟩, hread, h⟩ := bind_eq_ok_iff.1 h
  dsimp only at h
  split at h
  next rest =>
    obtain ⟨given, hgiven, h⟩ := bind_eq_ok_iff.1 h
    obtain ⟨_, hpair, h⟩ := bind_eq_ok_iff.1 h
    obtain rfl := Except.ok.inj hpair
    obtain ⟨settled, hsettle, h⟩ := bind_eq_ok_iff.1 h
    obtain rfl := Except.ok.inj h
    exact ⟨reading, _, rest, settled, _, hread, hsettle, .serve hgiven, rfl⟩
  next rest =>
    obtain ⟨given, hgiven, h⟩ := bind_eq_ok_iff.1 h
    obtain ⟨_, hpair, h⟩ := bind_eq_ok_iff.1 h
    obtain rfl := Except.ok.inj hpair
    obtain ⟨settled, hsettle, h⟩ := bind_eq_ok_iff.1 h
    obtain rfl := Except.ok.inj h
    exact ⟨reading, _, rest, settled, _, hread, hsettle, .simulate hgiven, rfl⟩
  next => simp [bind, Except.bind] at h
  next =>
    obtain ⟨_, hpair, h⟩ := bind_eq_ok_iff.1 h
    obtain rfl := Except.ok.inj hpair
    obtain ⟨settled, hsettle, h⟩ := bind_eq_ok_iff.1 h
    simp at h

/-- The last duration that is given is the one that reaches the settings. -/
theorem writeTimeout_of_parse (hparse : Duration.parse text = .ok d)
    (hlast : Reading.LastText "write-timeout" text arguments)
    (h : Invocation.parse arguments = .ok invocation) : invocation.overrides.writeTimeout = some d := by
  obtain ⟨reading, command, rest, settled, behind, hread, hsettle, hbehind, hoverrides⟩ :=
    parse_eq_ok h
  rw [hoverrides, Overrides.combine]
  dsimp only
  obtain ⟨command', -, rest', hnext, hlast'⟩ | ⟨hproper, hdue, hsilent⟩ :=
    Reading.due_of_lastText governed_of_mem_frontOptions (by decide) (plain_of_parse hparse)
      (Reading.proper_of_settled rfl) hlast hread
  -- behind the command it goes before whatever stands in front; in front nothing behind replaces it
  · obtain ⟨rfl, rfl⟩ := Prod.mk.inj (Option.some.inj hnext)
    have hgiven : behind.writeTimeout = some d := by
      cases hbehind with
      | serve h => exact writeTimeout_of_readCommand governed_of_mem_serveOptions hparse hlast' h
      | simulate h => exact writeTimeout_of_readCommand governed_of_mem_simulateOptions hparse hlast' h
    rw [hgiven]
    rfl
  · have hnone : behind.writeTimeout = none := by
      cases hbehind with
      | serve h => exact writeTimeout_of_readCommand_silent governed_of_mem_serveOptions (hsilent _ _ rfl) h
      | simulate h =>
        exact writeTimeout_of_readCommand_silent governed_of_mem_simulateOptions (hsilent _ _ rfl) h
    have hfront := (Reading.get_of_settle governed_of_mem_frontOptions hproper hsettle).2
    rw [hnone, hfront, hdue, hparse]
    rfl

/-! ## A duration alone -/

theorem ne_dash_of_parse (hparse : Duration.parse text = .ok d) (s : List Char) :
    text.toList ≠ '-' :: s := by
  intro htext
  obtain ⟨number, unit, n, htrim, hnumber⟩ := Duration.exists_isNumeral_of_parse hparse
  obtain ⟨front, back, haround, hfront, -⟩ := (Text.trimmed_trim text.toList).around
  rw [htrim, htext] at haround
  cases front with
  | cons c front =>
    obtain ⟨rfl, -⟩ := List.cons.inj haround
    exact absurd (hfront '-' List.mem_cons_self) (by decide)
  | nil =>
    obtain ⟨digits, hdigits, hne, hdigit, -⟩ := hnumber
    obtain ⟨first, digits, rfl⟩ := List.exists_cons_of_ne_nil hne
    rcases hdigits with rfl | rfl
    · obtain ⟨rfl, -⟩ := List.cons.inj haround
      exact absurd (hdigit '-' List.mem_cons_self) (by decide)
    · exact absurd (List.cons.inj haround).1 (by decide)

/-- Every duration can be given behind `simulate`. -/
theorem parse_of_gives {given : List String} (hparse : Duration.parse text = .ok d)
    (hgiven : Reading.Gives "write-timeout" text given) :
    Invocation.parse ("simulate" :: given) =
      .ok { overrides := { writeTimeout := some d }, command := .simulate {} } := by
  obtain ⟨spec, placeholder, set, hfind, heffect, hset⟩ : ∃ spec placeholder set,
      simulateOptions.find? (·.name = "write-timeout") = some spec ∧
        spec.effect = .value placeholder set ∧
        ∀ option given, set option text given =
          .ok { given with overrides := { given.overrides with writeTimeout := some d } } := by
    refine ⟨_, _, _, rfl, rfl, fun option given => ?_⟩
    rw [hparse]
  obtain ⟨reading, settled, hread, hsettle, hsettings⟩ :=
    Reading.exists_settled_of_gives hfind heffect (hset spec.shown { own := {} }) (by decide) (by decide)
      (ne_dash_of_parse hparse) hgiven
  have hcommand : readCommand simulateOptions {} given = .ok settled.settings :=
    bind_eq_ok_iff.2 ⟨_, hread, bind_eq_ok_iff.2 ⟨_, hsettle, rfl⟩⟩
  refine bind_eq_ok_iff.2 ⟨({ settings := { own := () } }, some ("simulate", given)), rfl, ?_⟩
  refine bind_eq_ok_iff.2 ⟨_, hcommand, ?_⟩
  rw [hsettings]
  rfl

/-! ## What becomes of it -/

theorem eq_noWriteTimeout_of_message {problem : Settings.Problem}
    (h : problem.message = Settings.Problem.noWriteTimeout.message) : problem = .noWriteTimeout := by
  cases problem with
  | noWriteTimeout => rfl
  | duplicateId id =>
    have hchars : "duplicate initial node id: ".toList ++ id.toList =
        "write_timeout_ms must be positive".toList := by
      rw [← String.toList_append]
      exact congrArg String.toList h
    exact absurd (List.cons.inj hchars).1 (by decide)
  | _ => exact absurd h (by decide)

theorem validate_eq_noWriteTimeout_iff {settings : Settings}
    (hreplicas : 1 ≤ settings.coordinator.replicationFactor)
    (hvirtualNodes : 1 ≤ settings.coordinator.virtualNodes) :
    settings.validate = .error (.invalidConfig Settings.Problem.noWriteTimeout.message) ↔
      settings.coordinator.writeTimeout = 0 := by
  rw [Settings.validate_eq_error_iff]
  constructor
  · rintro ⟨problem, hproblem, hmessage⟩
    obtain rfl := eq_noWriteTimeout_of_message (Error.invalidConfig.inj hmessage).symm
    exact (Settings.has_of_problem? hproblem).1
  · intro hzero
    refine ⟨.noWriteTimeout, ?_, rfl⟩
    rw [Settings.problem?, if_neg (by omega), if_neg (by omega), if_pos hzero]

/-- A command refuses to run where the time to wait is zero, unless it refuses the number of replicas or
of positions before. -/
theorem run_eq_noWriteTimeout_iff (command : Command) {settings : Settings}
    (hreplicas : 1 ≤ settings.coordinator.replicationFactor)
    (hvirtualNodes : 1 ≤ settings.coordinator.virtualNodes) :
    command.run settings = .error (.invalidConfig Settings.Problem.noWriteTimeout.message) ↔
      settings.coordinator.writeTimeout = 0 := by
  have hrun : ∀ (settings' : Settings) (outcome : Outcome),
      (settings'.validate >>= fun _ => Except.ok outcome) =
          .error (.invalidConfig Settings.Problem.noWriteTimeout.message) ↔
        settings'.validate = .error (.invalidConfig Settings.Problem.noWriteTimeout.message) := by
    intro settings' outcome
    cases settings'.validate with
    | error e => simp [bind, Except.bind]
    | ok => simp [bind, Except.bind]
  cases command with
  | serve bindAddress => exact (hrun _ _).trans (validate_eq_noWriteTimeout_iff hreplicas hvirtualNodes)
  | simulate simulation =>
    have hsame : (simulation.populate settings).coordinator = settings.coordinator := by
      unfold Simulation.populate
      split <;> rfl
    rw [← hsame] at hreplicas hvirtualNodes ⊢
    exact (hrun _ _).trans (validate_eq_noWriteTimeout_iff hreplicas hvirtualNodes)

/-- The overrides are laid over what is loaded. -/
theorem settings_eq_ok {file : Option SettingsFile} {environment : List (String × String)}
    {settings : Settings} (h : invocation.settings file environment = .ok settings) :
    ∃ loaded, settings = invocation.overrides.apply loaded := by
  obtain ⟨loaded, -, h⟩ := bind_eq_ok_iff.1 h
  exact ⟨loaded, (Except.ok.inj h).symm⟩

/-- The last duration that is given for `--write-timeout` reaches the settings as a number of
milliseconds modulo `2 ^ 64`. So it is kept if it has fewer milliseconds than that, and the command is
refused as if there were no time to wait if the milliseconds are a multiple of it. -/
theorem writeTimeout_of_lastText (hparse : Duration.parse text = .ok d) :
    (Duration.Countable (Text.trim text.toList) → ∃ number n unit scale,
      Text.trim text.toList = number ++ unit ∧ Numeral.IsNumeral number n ∧
        (unit, scale) ∈ Duration.units ∧ d.millis * 10 ^ 6 = n * scale) ∧
    (∀ arguments invocation file environment settings,
      Reading.LastText "write-timeout" text arguments →
      Invocation.parse arguments = .ok invocation →
      invocation.settings file environment = .ok settings →
        settings.coordinator.writeTimeout = d.millis % 2 ^ 64 ∧
        (settings.coordinator.writeTimeout = d.millis ↔ d.millis < 2 ^ 64) ∧
        (1 ≤ settings.coordinator.replicationFactor → 1 ≤ settings.coordinator.virtualNodes →
          (invocation.command.run settings =
              .error (.invalidConfig Settings.Problem.noWriteTimeout.message) ↔
            2 ^ 64 ∣ d.millis))) ∧
    ∀ given, Reading.Gives "write-timeout" text given →
      Invocation.parse ("simulate" :: given) =
        .ok { overrides := { writeTimeout := some d }, command := .simulate {} } := by
  refine ⟨fun hcountable => Duration.millis_of_parse hcountable hparse, ?_,
    fun given hgiven => parse_of_gives hparse hgiven⟩
  intro arguments invocation file environment settings hlast hinvocation hsettings
  obtain ⟨loaded, rfl⟩ := settings_eq_ok hsettings
  have htimeout : (invocation.overrides.apply loaded).coordinator.writeTimeout = d.millis % 2 ^ 64 := by
    rw [Overrides.apply, writeTimeout_of_parse hparse hlast hinvocation]
    rfl
  refine ⟨htimeout, ?_, ?_⟩
  · rw [htimeout]
    exact Nat.mod_eq_iff_lt (by decide)
  · intro hreplicas hvirtualNodes
    rw [run_eq_noWriteTimeout_iff _ hreplicas hvirtualNodes, htimeout, Nat.dvd_iff_mod_eq_zero]

/-- Five seconds, in front of the command and then joined to the option behind it. -/
theorem writeTimeout_of_lastText_seconds :
    Duration.parse "5s" = .ok { seconds := 5 } ∧
      ∃ invocation settings,
        Invocation.parse ["--write-timeout", "80ms", "simulate", "--write-timeout=5s", "--grow"] =
          .ok invocation ∧
        invocation.settings none [] = .ok settings ∧ settings.coordinator.writeTimeout = 5000 := by
  have hparse : Duration.parse "5s" = .ok { seconds := 5 } := rfl
  refine ⟨hparse, _, _, rfl, rfl, ?_⟩
  have hlast : Reading.LastText "write-timeout" "5s"
      ["--write-timeout", "80ms", "simulate", "--write-timeout=5s", "--grow"] :=
    ⟨["--write-timeout", "80ms", "simulate"], ["--write-timeout=5s"], ["--grow"], rfl, .inr rfl,
      by unfold Reading.Silent; decide⟩
  exact ((writeTimeout_of_lastText hparse).2.1 _ _ none [] _ hlast rfl rfl).1

/-- So many seconds that the milliseconds are a multiple of `2 ^ 64`: they are read without overflow,
and refused as if there were none. -/
theorem not_kept_of_multiple :
    Duration.Countable (Text.trim "2305843009213693952s".toList) ∧
      Duration.parse "2305843009213693952s" = .ok { seconds := 2305843009213693952 } ∧
      0 < ({ seconds := 2305843009213693952 } : Duration).millis ∧
      (∃ invocation settings,
        Invocation.parse ["simulate", "--write-timeout", "2305843009213693952s"] = .ok invocation ∧
        invocation.settings none [] = .ok settings ∧ settings.coordinator.writeTimeout = 0) ∧
      run ["simulate", "--write-timeout", "2305843009213693952s"] none [] =
        .failed (.invalidConfig "write_timeout_ms must be positive") := by
  have hparse : Duration.parse "2305843009213693952s" = .ok { seconds := 2305843009213693952 } := by rfl
  have hinvocation : Invocation.parse ["simulate", "--write-timeout", "2305843009213693952s"] =
      .ok { overrides := { writeTimeout := some { seconds := 2305843009213693952 } },
            command := .simulate {} } :=
    parse_of_gives hparse (.inl rfl)
  refine ⟨?_, hparse, by decide, ⟨_, _, hinvocation, rfl, by rfl⟩, ?_⟩
  · have htrim : Text.trim "2305843009213693952s".toList = "2305843009213693952s".toList := by decide
    rw [htrim]
    intro number n _ _
    constructor <;> intro htext <;> have hlast := congrArg List.getLast? htext <;> simp at hlast
  · unfold run
    rw [hinvocation]
    rfl

end QuorumRing.CommandLine
