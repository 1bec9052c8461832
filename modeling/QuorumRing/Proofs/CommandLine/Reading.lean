import QuorumRing.CommandLine.Options
import QuorumRing.Proofs.Settings.UnitSpec

/-!
# Which text of an option counts

An option may be looked at some arguments after it was read, and its text may be joined to it or stand
behind it. Where reading succeeds this makes no difference: every text that is given for an option takes
effect, in the order of the arguments. So if one option alone governs a part of the settings, that part
is in the end what the last of its texts says (`Reading.due_of_lastText`).
-/

namespace QuorumRing.CommandLine

theorem bind_eq_ok_iff {ε α β : Type} {x : Except ε α} {f : α → Except ε β} {b : β} :
    (x >>= f) = .ok b ↔ ∃ a, x = .ok a ∧ f a = .ok b := by
  cases x with
  | error e => simp [bind, Except.bind]
  | ok a => simp [bind, Except.bind]

/-- What every step keeps is kept by all of them together. -/
theorem foldlM_induction {ε α β : Type} {f : β → α → Except ε β} {P : β → Prop} {l : List α} {b b' : β}
    (hstep : ∀ a ∈ l, ∀ b b', P b → f b a = .ok b' → P b') (hb : P b) (h : l.foldlM f b = .ok b') :
    P b' := by
  induction l generalizing b with
  | nil =>
    obtain rfl := Except.ok.inj h
    exact hb
  | cons a l ih =>
    rw [List.foldlM_cons] at h
    obtain ⟨b₁, hfirst, hrest⟩ := bind_eq_ok_iff.1 h
    obtain ⟨hstep₁, hsteps⟩ := List.forall_mem_cons.1 hstep
    exact ih hsteps (hstep₁ b b₁ hb hfirst) hrest

variable {α γ : Type} {specs : List (OptionSpec α)} {spec : OptionSpec α} {r r₁ r' : Reading α}
  {value attached : Option String} {argument name text : String}
  {commands arguments front given back : List String} {next : Option (String × List String)}
  {get : α → γ} {read : String → γ}

/-! ## One option -/

/-- What an option does to the settings. -/
def OptionSpec.Enacts (spec : OptionSpec α) (value : Option String) (before after : α) : Prop :=
  match spec.effect with
  | .flag set => after = set before
  | .value _ set => ∃ text, value = some text ∧ set spec.shown text before = .ok after
  | .stop _ => False

/-- The part `get` of the settings is what the option says if it has the name, and is left alone by
it otherwise. The option of this name has no letter, so that it cannot be given by one. -/
structure OptionSpec.Governs (spec : OptionSpec α) (name : String) (get : α → γ)
    (read : String → γ) : Prop where
  sets : spec.name = name → ∀ value before after, spec.Enacts value before after →
    ∃ text, value = some text ∧ get after = read text
  keeps : spec.name ≠ name → ∀ value before after, spec.Enacts value before after →
    get after = get before
  unabbreviated : spec.name = name → spec.letter = none

namespace Reading

theorem enacts_of_enact (h : r.enact spec value = .ok r') :
    spec.Enacts value r.settings r'.settings ∧ r'.pending = none := by
  obtain ⟨name, letter, repeatable, effect⟩ := spec
  unfold enact at h
  unfold OptionSpec.Enacts
  cases effect with
  | stop stop => simp at h
  | flag set =>
    dsimp only at h ⊢
    split at h
    · simp at h
    · obtain rfl := Except.ok.inj h
      exact ⟨rfl, rfl⟩
  | value placeholder set =>
    cases value with
    | none => simp at h
    | some text =>
      dsimp only at h ⊢
      split at h
      · simp at h
      · split at h
        next settings hset =>
          obtain rfl := Except.ok.inj h
          exact ⟨⟨text, rfl, hset⟩, rfl⟩
        · simp at h

theorem settle_eq_ok (h : r.settle = .ok r') : r'.pending = none ∧
    (r.pending = none ∧ r'.settings = r.settings ∨
      ∃ spec value, r.pending = some (spec, value) ∧
        spec.Enacts value r.settings r'.settings) := by
  unfold settle at h
  split at h
  next spec value hpending =>
    obtain ⟨henacts, hdone⟩ := enacts_of_enact h
    exact ⟨hdone, .inr ⟨spec, value, hpending, henacts⟩⟩
  next hpending =>
    obtain rfl := Except.ok.inj h
    exact ⟨hpending, .inl ⟨hpending, rfl⟩⟩

/-- An option is looked at when it is read, or waits for its text. -/
theorem takeOption_eq_ok (h : r.takeOption spec attached = .ok r') : ∃ r₁, r.settle = .ok r₁ ∧
    (attached = none ∧ r' = { r₁ with pending := some (spec, none) } ∨
      r₁.enact spec attached = .ok r') := by
  unfold takeOption at h
  split at h
  · obtain ⟨r₁, hsettle, hr'⟩ := bind_eq_ok_iff.1 h
    exact ⟨r₁, hsettle, .inl ⟨rfl, (Except.ok.inj hr').symm⟩⟩
  · obtain ⟨r₁, hsettle, henact⟩ := bind_eq_ok_iff.1 h
    exact ⟨r₁, hsettle, .inr henact⟩
  · obtain ⟨r₁, hsettle, henact⟩ := bind_eq_ok_iff.1 h
    exact ⟨r₁, hsettle, .inr henact⟩
  · simp at h

/-! ## One argument -/

/-- An argument begins an option, or is the text that an option waits for. -/
inductive Takes (specs : List (OptionSpec α)) (r : Reading α) (argument : String) :
    Reading α → Prop where
  | named {spec : OptionSpec α} {s : List Char} {attached : Option String} {r' : Reading α}
      (hmem : spec ∈ specs) (hargument : argument.toList = '-' :: '-' :: s)
      (hname : splitAttached s = (spec.name, attached)) (htake : r.takeOption spec attached = .ok r') :
      Takes specs r argument r'
  | short {spec : OptionSpec α} {letter : Char} {r' : Reading α} (hmem : spec ∈ specs)
      (hdashes : ∀ s, argument.toList ≠ '-' :: '-' :: s) (hletter : spec.letter = some letter)
      (htake : r.takeOption spec none = .ok r') : Takes specs r argument r'
  | text {spec : OptionSpec α} (hdashes : ∀ s, argument.toList ≠ '-' :: '-' :: s)
      (hpending : r.pending = some (spec, none)) :
      Takes specs r argument { r with pending := some (spec, some argument) }

theorem takes_of_takeArgument (h : r.takeArgument specs argument = .ok r') :
    Takes specs r argument r' := by
  unfold takeArgument at h
  dsimp only at h
  split at h
  next s hargument =>
    split at h
    next spec hfind =>
      have hname : (splitAttached s).1 = spec.name := by simpa [eq_comm] using List.find?_some hfind
      exact .named (List.mem_of_find?_eq_some hfind) hargument (Prod.ext hname rfl) h
    next => simp at h
  next letter s hdashes hargument =>
    split at h
    next spec hfind =>
      refine .short (List.mem_of_find?_eq_some hfind) ?_ (by simpa using List.find?_some hfind) h
      intro t ht
      rw [hargument] at ht
      obtain ⟨-, ht⟩ := List.cons.inj ht
      exact hdashes (List.cons.inj ht).1
    next => simp at h
  next hdashes _ =>
    split at h
    next spec hpending =>
      obtain rfl := Except.ok.inj h
      exact .text hdashes hpending
    next => simp at h

/-! ## Many arguments -/

/-- The arguments that are read end at a command, at two dashes or where there are no more. -/
theorem readAll_eq_ok (h : r.readAll specs commands arguments = .ok (r', next)) :
    ∃ taken, taken.foldlM (takeArgument specs) r = .ok r' ∧
      (next = none ∧ (arguments = taken ∨ arguments = taken ++ ["--"]) ∨
        ∃ command behind, command ∈ commands ∧ next = some (command, behind) ∧
          arguments = taken ++ command :: behind) := by
  induction arguments generalizing r with
  | nil =>
    obtain ⟨rfl, rfl⟩ := Prod.mk.inj (Except.ok.inj h)
    exact ⟨[], rfl, .inl ⟨rfl, .inl rfl⟩⟩
  | cons argument rest ih =>
    unfold readAll at h
    split at h
    next hcommand =>
      obtain ⟨rfl, rfl⟩ := Prod.mk.inj (Except.ok.inj h)
      simp only [Bool.and_eq_true, List.contains_iff_mem] at hcommand
      exact ⟨[], rfl, .inr ⟨argument, rest, hcommand.2, rfl, rfl⟩⟩
    next =>
      split at h
      next hdashes =>
        subst hdashes
        cases rest with
        | nil =>
          obtain ⟨rfl, rfl⟩ := Prod.mk.inj (Except.ok.inj h)
          exact ⟨[], rfl, .inl ⟨rfl, .inr rfl⟩⟩
        | cons => simp at h
      next =>
        obtain ⟨r₁, htake, hrest⟩ := bind_eq_ok_iff.1 h
        obtain ⟨taken, htaken, hend⟩ := ih hrest
        refine ⟨argument :: taken, ?_, ?_⟩
        · rw [List.foldlM_cons, htake]
          exact htaken
        · rcases hend with ⟨hnext, rfl | rfl⟩ | ⟨command, behind, hcommand, hnext, rfl⟩
          · exact .inl ⟨hnext, .inl rfl⟩
          · exact .inl ⟨hnext, .inr rfl⟩
          · exact .inr ⟨command, behind, hcommand, hnext, rfl⟩

/-! ## What is due -/

/-- What the option with the name comes to once the last option is looked at. -/
def due (name : String) (get : α → γ) (read : String → γ) (r : Reading α) : γ :=
  match r.pending with
  | some (spec, some text) => if spec.name = name then read text else get r.settings
  | _ => get r.settings

/-- The last option is one of `specs`. -/
def Proper (specs : List (OptionSpec α)) (r : Reading α) : Prop :=
  ∀ spec value, r.pending = some (spec, value) → spec ∈ specs

/-- The option with the name has no text yet. -/
def Awaits (name : String) (r : Reading α) : Prop :=
  ∃ spec, r.pending = some (spec, none) ∧ spec.name = name

theorem proper_of_settled (h : r.pending = none) : Proper specs r := by
  simp [Proper, h]

theorem not_awaits_of_settled (h : r.pending = none) : ¬ Awaits name r := by
  simp [Awaits, h]

theorem due_of_settled (h : r.pending = none) : r.due name get read = get r.settings := by
  rw [due, h]

theorem due_of_text (h : r.pending = some (spec, some text)) (hname : spec.name = name) :
    r.due name get read = read text := by
  simp [due, h, hname]

theorem due_of_other (h : r.pending = some (spec, value)) (hname : spec.name ≠ name) :
    r.due name get read = get r.settings := by
  rw [due, h]
  cases value <;> simp [hname]

theorem proper_of_takeOption (hmem : spec ∈ specs) (h : r.takeOption spec attached = .ok r') :
    Proper specs r' := by
  obtain ⟨r₁, -, ⟨-, rfl⟩ | henact⟩ := takeOption_eq_ok h
  · intro spec' value hpending
    obtain ⟨rfl, -⟩ := Prod.mk.inj (Option.some.inj hpending)
    exact hmem
  · exact proper_of_settled (enacts_of_enact henact).2

theorem proper_of_takeArgument (hproper : Proper specs r)
    (h : r.takeArgument specs argument = .ok r') : Proper specs r' := by
  cases takes_of_takeArgument h with
  | named hmem _ _ htake => exact proper_of_takeOption hmem htake
  | short hmem _ _ htake => exact proper_of_takeOption hmem htake
  | text _ hpending =>
    intro spec' value hpending'
    obtain ⟨rfl, -⟩ := Prod.mk.inj (Option.some.inj hpending')
    exact hproper _ _ hpending

theorem proper_of_takeArguments (hproper : Proper specs r)
    (h : arguments.foldlM (takeArgument specs) r = .ok r') : Proper specs r' :=
  foldlM_induction (fun _ _ _ _ hproper htake => proper_of_takeArgument hproper htake) hproper h

/-! ## The texts of an option -/

theorem splitAttached_of_notMem {s : List Char} (h : '=' ∉ s) :
    splitAttached s = (String.ofList s, none) := by
  rw [splitAttached, UnitSpec.span_of_notMem h]

theorem splitAttached_append {s t : List Char} (h : '=' ∉ s) :
    splitAttached (s ++ '=' :: t) = (String.ofList s, some (String.ofList t)) := by
  rw [splitAttached, UnitSpec.span_append h, List.span_eq_takeWhile_dropWhile]
  simp

theorem prefix_of_splitAttached {s : List Char} (h : splitAttached s = (name, attached)) :
    name.toList <+: s := by
  by_cases hmem : '=' ∈ s
  · obtain ⟨front, back, rfl, hfront⟩ := List.eq_append_cons_of_mem hmem
    rw [splitAttached_append hfront] at h
    obtain ⟨rfl, -⟩ := Prod.mk.inj h
    simp
  · rw [splitAttached_of_notMem hmem] at h
    obtain ⟨rfl, -⟩ := Prod.mk.inj h
    simp

/-- The argument neither is the option with the name nor begins with it. -/
def Silent (name argument : String) : Prop := ¬ ("--" ++ name).toList <+: argument.toList

/-- The arguments give a text for the option with the name. -/
def Gives (name text : String) (given : List String) : Prop :=
  given = ["--" ++ name, text] ∨ given = ["--" ++ name ++ "=" ++ text]

section

variable (hspecs : ∀ spec ∈ specs, spec.Governs name get read)
include hspecs

theorem get_of_settle (hproper : Proper specs r) (h : r.settle = .ok r') :
    ¬ Awaits name r ∧ get r'.settings = r.due name get read := by
  obtain ⟨-, ⟨hpending, hsettings⟩ | ⟨spec, value, hpending, henacts⟩⟩ := settle_eq_ok h
  · refine ⟨not_awaits_of_settled hpending, ?_⟩
    rw [due_of_settled hpending, hsettings]
  · have hgoverns := hspecs spec (hproper spec value hpending)
    by_cases hname : spec.name = name
    · obtain ⟨text, rfl, hget⟩ := hgoverns.sets hname _ _ _ henacts
      refine ⟨?_, ?_⟩
      · simp [Awaits, hpending]
      · rw [hget, due_of_text hpending hname]
    · refine ⟨?_, ?_⟩
      · rintro ⟨spec', hspec', hname'⟩
        obtain ⟨rfl, -⟩ := Prod.mk.inj (Option.some.inj (hpending.symm.trans hspec'))
        exact hname hname'
      · rw [hgoverns.keeps hname _ _ _ henacts, due_of_other hpending hname]

theorem due_of_takeOption (hproper : Proper specs r) (hmem : spec ∈ specs) (hname : spec.name ≠ name)
    (h : r.takeOption spec attached = .ok r') :
    ¬ Awaits name r' ∧ r'.due name get read = r.due name get read := by
  obtain ⟨r₁, hsettle, hr'⟩ := takeOption_eq_ok h
  obtain ⟨-, hget⟩ := get_of_settle hspecs hproper hsettle
  rw [← hget]
  rcases hr' with ⟨-, rfl⟩ | henact
  · exact ⟨by simp [Awaits, hname], due_of_other rfl hname⟩
  · obtain ⟨henacts, hpending⟩ := enacts_of_enact henact
    refine ⟨not_awaits_of_settled hpending, ?_⟩
    rw [due_of_settled hpending, (hspecs spec hmem).keeps hname _ _ _ henacts]

/-- An argument that does not begin with the name of the option leaves alone what is due. -/
theorem due_of_silent (hproper : Proper specs r) (hawaits : ¬ Awaits name r)
    (hsilent : Silent name argument) (h : r.takeArgument specs argument = .ok r') :
    ¬ Awaits name r' ∧ r'.due name get read = r.due name get read := by
  cases takes_of_takeArgument h with
  | named hmem hargument hname htake =>
    refine due_of_takeOption hspecs hproper hmem ?_ htake
    rintro rfl
    refine hsilent ?_
    have hdashes : "--".toList = ['-', '-'] := rfl
    rw [hargument, String.toList_append, hdashes]
    simpa using prefix_of_splitAttached hname
  | @short spec letter _ hmem _ hletter htake =>
    refine due_of_takeOption hspecs hproper hmem (fun hname => ?_) htake
    rw [(hspecs spec hmem).unabbreviated hname] at hletter
    simp at hletter
  | @text spec _ hpending =>
    have hname : spec.name ≠ name := fun hname => hawaits ⟨spec, hpending, hname⟩
    exact ⟨by simp [Awaits], by rw [due_of_other rfl hname, due_of_other hpending hname]⟩

/-- Where arguments are silent, what is due stays. -/
theorem due_of_silents (hproper : Proper specs r) (hawaits : ¬ Awaits name r)
    (hsilent : ∀ argument ∈ arguments, Silent name argument)
    (h : arguments.foldlM (takeArgument specs) r = .ok r') :
    Proper specs r' ∧ ¬ Awaits name r' ∧ r'.due name get read = r.due name get read := by
  refine foldlM_induction (P := fun r' => Proper specs r' ∧ ¬ Awaits name r' ∧
    r'.due name get read = r.due name get read) ?_ ⟨hproper, hawaits, rfl⟩ h
  rintro argument hargument r₁ r₂ ⟨hproper₁, hawaits₁, hdue₁⟩ htake
  obtain ⟨hawaits₂, hdue₂⟩ :=
    due_of_silent hspecs hproper₁ hawaits₁ (hsilent argument hargument) htake
  exact ⟨proper_of_takeArgument hproper₁ htake, hawaits₂, hdue₂.trans hdue₁⟩

/-- An argument that names the option and has a text makes that text due. -/
theorem due_of_joined (hequals : '=' ∉ name.toList)
    (h : r.takeArgument specs ("--" ++ name ++ "=" ++ text) = .ok r') :
    ¬ Awaits name r' ∧ r'.due name get read = read text := by
  have hargument : ("--" ++ name ++ "=" ++ text).toList =
      '-' :: '-' :: (name.toList ++ '=' :: text.toList) := by simp
  cases takes_of_takeArgument h with
  | @named spec s attached _ hmem hdashes hname htake =>
    rw [hargument] at hdashes
    obtain rfl := (List.cons.inj (List.cons.inj hdashes).2).2
    rw [splitAttached_append hequals] at hname
    obtain ⟨hname', rfl⟩ := Prod.mk.inj hname
    rw [String.ofList_toList] at hname'
    obtain ⟨r₁, -, ⟨hnone, -⟩ | henact⟩ := takeOption_eq_ok htake
    · simp at hnone
    · obtain ⟨henacts, hpending⟩ := enacts_of_enact henact
      obtain ⟨text', htext, hget⟩ := (hspecs spec hmem).sets hname'.symm _ _ _ henacts
      refine ⟨not_awaits_of_settled hpending, ?_⟩
      rw [due_of_settled hpending, hget, ← Option.some.inj htext, String.ofList_toList]
  | short _ hdashes => exact absurd hargument (hdashes _)
  | text hdashes => exact absurd hargument (hdashes _)

/-- An argument that is nothing but the name of the option makes it wait for a text. -/
theorem awaits_of_name (hequals : '=' ∉ name.toList)
    (h : r.takeArgument specs ("--" ++ name) = .ok r') : Awaits name r' := by
  have hargument : ("--" ++ name).toList = '-' :: '-' :: name.toList := by simp
  cases takes_of_takeArgument h with
  | @named spec s attached _ hmem hdashes hname htake =>
    rw [hargument] at hdashes
    obtain rfl := (List.cons.inj (List.cons.inj hdashes).2).2
    rw [splitAttached_of_notMem hequals] at hname
    obtain ⟨hname', rfl⟩ := Prod.mk.inj hname
    rw [String.ofList_toList] at hname'
    obtain ⟨r₁, -, ⟨-, rfl⟩ | henact⟩ := takeOption_eq_ok htake
    · exact ⟨spec, rfl, hname'.symm⟩
    · obtain ⟨text, htext, -⟩ :=
        (hspecs spec hmem).sets hname'.symm _ _ _ (enacts_of_enact henact).1
      simp at htext
  | short _ hdashes => exact absurd hargument (hdashes _)
  | text hdashes => exact absurd hargument (hdashes _)

/-- What follows an option that waits for a text is its text. -/
theorem due_of_awaits (hproper : Proper specs r) (hawaits : Awaits name r)
    (h : r.takeArgument specs text = .ok r') :
    ¬ Awaits name r' ∧ r'.due name get read = read text := by
  -- a new option would first look at the one without a text, and refuse it
  have hsettle : ∀ {spec attached}, r.takeOption spec attached ≠ .ok r' := by
    intro spec attached htake
    obtain ⟨r₁, hsettle, -⟩ := takeOption_eq_ok htake
    exact (get_of_settle hspecs hproper hsettle).1 hawaits
  cases takes_of_takeArgument h with
  | named _ _ _ htake => exact absurd htake hsettle
  | short _ _ _ htake => exact absurd htake hsettle
  | @text spec _ hpending =>
    obtain ⟨spec', hpending', hname⟩ := hawaits
    obtain ⟨rfl, -⟩ := Prod.mk.inj (Option.some.inj (hpending.symm.trans hpending'))
    exact ⟨by simp [Awaits], due_of_text rfl hname⟩

theorem due_of_gives (hequals : '=' ∉ name.toList) (hproper : Proper specs r)
    (hgiven : Gives name text given) (h : given.foldlM (takeArgument specs) r = .ok r') :
    ¬ Awaits name r' ∧ r'.due name get read = read text := by
  rcases hgiven with rfl | rfl
  · simp only [List.foldlM_cons, List.foldlM_nil] at h
    obtain ⟨r₁, hname, h⟩ := bind_eq_ok_iff.1 h
    obtain ⟨r₂, htext, h⟩ := bind_eq_ok_iff.1 h
    obtain rfl := Except.ok.inj h
    have hawaits := awaits_of_name hspecs hequals hname
    exact due_of_awaits hspecs (proper_of_takeArgument hproper hname) hawaits htext
  · simp only [List.foldlM_cons, List.foldlM_nil] at h
    obtain ⟨r₁, hjoined, h⟩ := bind_eq_ok_iff.1 h
    obtain rfl := Except.ok.inj h
    exact due_of_joined hspecs hequals hjoined

/-! ## The last text -/

/-- The text is the last one that the arguments give for the option with the name. -/
def LastText (name text : String) (arguments : List String) : Prop :=
  ∃ front given back, arguments = front ++ given ++ back ∧ Gives name text given ∧
    ∀ argument ∈ back, Silent name argument

theorem due_of_readAll_silent (hproper : Proper specs r) (hawaits : ¬ Awaits name r)
    (hsilent : ∀ argument ∈ arguments, Silent name argument)
    (h : r.readAll specs commands arguments = .ok (r', next)) :
    Proper specs r' ∧ r'.due name get read = r.due name get read := by
  obtain ⟨taken, htaken, hend⟩ := readAll_eq_ok h
  have hinitial : taken <+: arguments := by
    rcases hend with ⟨-, rfl | rfl⟩ | ⟨command, behind, -, -, rfl⟩ <;> simp
  obtain ⟨hproper', -, hdue⟩ :=
    due_of_silents hspecs hproper hawaits (fun a ha => hsilent a (hinitial.subset ha)) htaken
  exact ⟨hproper', hdue⟩

end

/-- What does not stand among `given` stands in front of it or behind it. -/
theorem cut_of_notMem {taken behind : List String} {command : String} (hcommand : command ∉ given)
    (h : front ++ given ++ back = taken ++ command :: behind) :
    (∃ rest, behind = rest ++ given ++ back) ∨
      ∃ rest, taken = front ++ given ++ rest ∧ back = rest ++ command :: behind := by
  rw [List.append_eq_append_iff] at h
  obtain ⟨rest, htaken, hback⟩ | ⟨rest, hfront, hrest⟩ := h
  · exact .inr ⟨rest, htaken, hback⟩
  · cases rest with
    | nil => exact .inr ⟨[], by simpa using hfront.symm, by simpa using hrest.symm⟩
    | cons first rest =>
      obtain ⟨rfl, rfl⟩ := List.cons.inj hrest
      rw [List.append_eq_append_iff] at hfront
      obtain ⟨middle, -, rfl⟩ | ⟨middle, rfl, hmiddle⟩ := hfront
      · simp at hcommand
      · cases middle with
        | nil =>
          obtain rfl : command :: rest = given := hmiddle
          simp at hcommand
        | cons first middle =>
          obtain ⟨rfl, rfl⟩ := List.cons.inj hmiddle
          exact .inl ⟨middle, rfl⟩

section

variable (hspecs : ∀ spec ∈ specs, spec.Governs name get read) (hequals : '=' ∉ name.toList)
include hspecs hequals

theorem due_of_taken {rest : List String} (hproper : Proper specs r) (hgiven : Gives name text given)
    (hsilent : ∀ argument ∈ rest, Silent name argument)
    (h : (front ++ given ++ rest).foldlM (takeArgument specs) r = .ok r') :
    Proper specs r' ∧ r'.due name get read = read text := by
  rw [List.foldlM_append, List.foldlM_append] at h
  obtain ⟨r₂, h, hrest⟩ := bind_eq_ok_iff.1 h
  obtain ⟨r₁, hfront, hmiddle⟩ := bind_eq_ok_iff.1 h
  have hproper₁ := proper_of_takeArguments hproper hfront
  have hproper₂ := proper_of_takeArguments hproper₁ hmiddle
  obtain ⟨hawaits, hdue⟩ := due_of_gives hspecs hequals hproper₁ hgiven hmiddle
  obtain ⟨hproper', -, hdue'⟩ := due_of_silents hspecs hproper₂ hawaits hsilent hrest
  exact ⟨hproper', hdue'.trans hdue⟩

/-- The last text is due where the reading of the arguments ends, unless it stands behind a command,
to whose arguments it then belongs. -/
theorem due_of_lastText
    (hplain : ∀ given, Gives name text given → ∀ argument ∈ "--" :: commands, argument ∉ given)
    (hproper : Proper specs r) (hlast : LastText name text arguments)
    (h : r.readAll specs commands arguments = .ok (r', next)) :
    (∃ command ∈ commands, ∃ behind,
        next = some (command, behind) ∧ LastText name text behind) ∨
      Proper specs r' ∧ r'.due name get read = read text ∧
        ∀ command behind, next = some (command, behind) →
          ∀ argument ∈ behind, Silent name argument := by
  obtain ⟨front, given, back, rfl, hgiven, hsilent⟩ := hlast
  obtain ⟨taken, htaken, ⟨rfl, rfl | hdashes⟩ | ⟨command, behind, hcommand, rfl, harguments⟩⟩ :=
    readAll_eq_ok h
  · obtain ⟨hproper', hdue⟩ := due_of_taken hspecs hequals hproper hgiven hsilent htaken
    exact .inr ⟨hproper', hdue, by simp⟩
  -- two dashes end the options only where nothing follows them, so they stand behind the text
  · have hnotMem := hplain given hgiven "--" List.mem_cons_self
    obtain ⟨rest, hrest⟩ | ⟨rest, rfl, rfl⟩ := cut_of_notMem hnotMem hdashes
    · rcases hgiven with rfl | rfl <;> simp at hrest
    · have hsilent' : ∀ argument ∈ rest, Silent name argument :=
        fun argument h => hsilent argument (List.mem_append_left _ h)
      obtain ⟨hproper', hdue⟩ := due_of_taken hspecs hequals hproper hgiven hsilent' htaken
      exact .inr ⟨hproper', hdue, by simp⟩
  · have hnotMem := hplain given hgiven command (List.mem_cons_of_mem _ hcommand)
    obtain ⟨rest, rfl⟩ | ⟨rest, rfl, rfl⟩ := cut_of_notMem hnotMem harguments
    · exact .inl ⟨command, hcommand, _, rfl, rest, given, back, rfl, hgiven, hsilent⟩
    · have hsilent' : ∀ argument ∈ rest, Silent name argument :=
        fun argument h => hsilent argument (List.mem_append_left _ h)
      obtain ⟨hproper', hdue⟩ := due_of_taken hspecs hequals hproper hgiven hsilent' htaken
      refine .inr ⟨hproper', hdue, ?_⟩
      intro command' behind' hnext argument hargument
      obtain ⟨rfl, rfl⟩ := Prod.mk.inj (Option.some.inj hnext)
      exact hsilent argument (by simp [hargument])

end

/-! ## A text alone -/

theorem takeArgument_of_dashes {s : List Char} (hargument : argument.toList = '-' :: '-' :: s)
    (hsplit : splitAttached s = (name, attached)) (hfind : specs.find? (·.name = name) = some spec) :
    r.takeArgument specs argument = r.takeOption spec attached := by
  unfold takeArgument
  rw [hargument]
  simp only [hsplit, hfind]

theorem takeArgument_of_text (hpending : r.pending = some (spec, none))
    (hdash : ∀ s, text.toList ≠ '-' :: s) :
    r.takeArgument specs text = .ok { r with pending := some (spec, some text) } := by
  unfold takeArgument
  dsimp only
  split
  next s hs => exact absurd hs (hdash _)
  next c s _ hs => exact absurd hs (hdash _)
  next => rw [hpending]

variable {placeholder : String} {set : String → String → α → Except Refusal α} {before after : α}

theorem enact_of_set (heffect : spec.effect = .value placeholder set)
    (hset : set spec.shown text before = .ok after) (hgiven : r.given = [])
    (hsettings : r.settings = before) :
    r.enact spec (some text) = .ok { settings := after, given := [spec.name] } := by
  unfold enact
  rw [heffect]
  dsimp only
  rw [hgiven, hsettings, hset]
  simp

theorem readAll_cons {rest : List String} (hdashes : argument ≠ "--") :
    readAll specs [] r (argument :: rest) =
      r.takeArgument specs argument >>= fun r => readAll specs [] r rest := by
  rw [readAll.eq_def]
  simp [hdashes]

section

variable (hfind : specs.find? (·.name = name) = some spec)
  (heffect : spec.effect = .value placeholder set) (hset : set spec.shown text before = .ok after)
  (hequals : '=' ∉ name.toList)
include hfind heffect hset hequals

theorem exists_settled_of_behind (hne : name ≠ "") (hdash : ∀ s, text.toList ≠ '-' :: s) :
    ∃ reading settled,
      readAll specs [] { settings := before } ["--" ++ name, text] = .ok (reading, none) ∧
        reading.settle = .ok settled ∧ settled.settings = after := by
  have hargument : ("--" ++ name).toList = '-' :: '-' :: name.toList := by simp
  have hname : "--" ++ name ≠ "--" := by
    intro h
    have hlength := congrArg String.length h
    rw [String.length_append] at hlength
    exact hne (String.length_eq_zero_iff.1 (Nat.left_eq_add.1 hlength.symm))
  have htext : text ≠ "--" := by
    rintro rfl
    exact hdash _ rfl
  have hsplit := splitAttached_of_notMem hequals
  rw [String.ofList_toList] at hsplit
  have htake : takeOption { settings := before } spec none =
      .ok { settings := before, pending := some (spec, none) } := by
    simp [takeOption, heffect, settle]
  refine ⟨{ settings := before, pending := some (spec, some text) }, _, ?_,
    enact_of_set heffect hset rfl rfl, rfl⟩
  rw [readAll_cons hname, takeArgument_of_dashes hargument hsplit hfind, htake]
  show readAll specs [] { settings := before, pending := some (spec, none) } [text] = _
  rw [readAll_cons htext, takeArgument_of_text rfl hdash]
  rfl

theorem exists_settled_of_joined : ∃ reading settled,
    readAll specs [] { settings := before } ["--" ++ name ++ "=" ++ text] = .ok (reading, none) ∧
      reading.settle = .ok settled ∧ settled.settings = after := by
  have hargument : ("--" ++ name ++ "=" ++ text).toList =
      '-' :: '-' :: (name.toList ++ '=' :: text.toList) := by simp
  have hjoined : "--" ++ name ++ "=" ++ text ≠ "--" := by
    intro h
    have hlength := congrArg String.length h
    have hdashes : "--".length = 2 := rfl
    have hone : "=".length = 1 := rfl
    rw [String.length_append, String.length_append, String.length_append] at hlength
    omega
  have hsplit := splitAttached_append (t := text.toList) hequals
  rw [String.ofList_toList, String.ofList_toList] at hsplit
  have htake : takeOption { settings := before } spec (some text) =
      .ok { settings := after, given := [spec.name] } := by
    simp only [takeOption, heffect]
    exact enact_of_set heffect hset rfl rfl
  refine ⟨{ settings := after, given := [spec.name] }, _, ?_, rfl, rfl⟩
  rw [readAll_cons hjoined, takeArgument_of_dashes hargument hsplit hfind, htake]
  rfl

/-- Arguments that do nothing but give a text are read to the end. -/
theorem exists_settled_of_gives (hne : name ≠ "") (hdash : ∀ s, text.toList ≠ '-' :: s)
    (hgiven : Gives name text given) : ∃ reading settled,
      readAll specs [] { settings := before } given = .ok (reading, none) ∧
        reading.settle = .ok settled ∧ settled.settings = after := by
  rcases hgiven with rfl | rfl
  · exact exists_settled_of_behind hfind heffect hset hequals hne hdash
  · exact exists_settled_of_joined hfind heffect hset hequals

end

end Reading

end QuorumRing.CommandLine
