import ReleaseNames.Proofs.Safety

/-!
# Channels are isolated

What reaches a channel from outside its own pipeline. A channel with an override
gives what the override returns, and its pipeline does not matter. A channel that
starts from the request sees neither the title nor the overrides of other
channels. A channel that starts from the title sees of the title's pipeline and
override only the text they make. The names are the results of the three channels,
and the first channel that fails decides the error.
-/

namespace ReleaseNames

def Names.get (n : Names) : Channel → String
  | .title => n.title
  | .filename => n.filename
  | .folder => n.folder

def Program.withPipeline (p : Program) (c : Channel) (q : Pipeline) : Program :=
  match c with
  | .title => { p with title := q }
  | .filename => { p with filename := q }
  | .folder => { p with folder := q }

theorem Program.pipeline_withPipeline (p : Program) {c c' : Channel} (q : Pipeline)
    (h : c' ≠ c) : (p.withPipeline c q).pipeline c' = p.pipeline c' := by
  cases c <;> cases c' <;> first | rfl | exact absurd rfl h

namespace Pipeline

variable {p : Pipeline} {ctx : Context}

theorem run_of_request (h : p.seed = .request) (title title' : Option String) :
    p.run ctx title = p.run ctx title' := by
  have hstart : p.start ctx title = p.start ctx title' := by
    rw [start.eq_def, start.eq_def, h]
  rw [run, run, hstart]

theorem run_backref (ctx : Context) (t : String) :
    run ⟨.title, []⟩ ctx (some t) = if t = "" then .error (.emptyName ctx.channel) else .ok t :=
  rfl

theorem finish_eq_ok {c : Channel} {v : Value} {s : String} :
    finish c v = .ok s ↔ s ≠ "" ∧ ∃ marker, v = .string s marker := by
  constructor
  · intro h
    rw [finish.eq_def] at h
    split at h
    · next text marker =>
      split at h
      · cases h
      · next hne =>
        cases h
        exact ⟨hne, marker, rfl⟩
    · cases h
  · rintro ⟨hne, marker, rfl⟩
    exact if_neg hne

/-- What a run that gives a name has done. -/
theorem run_eq_ok {title : Option String} {s : String} :
    p.run ctx title = .ok s ↔ s ≠ "" ∧ ∃ first marker, p.start ctx title = .ok first ∧
      applyAll ctx p.steps first = .ok (.string s marker) := by
  constructor
  · intro h
    rw [run] at h
    split at h
    · next first hstart =>
      split at h
      · next last hlast =>
        obtain ⟨hne, marker, rfl⟩ := finish_eq_ok.mp h
        exact ⟨hne, first, marker, hstart, hlast⟩
      · cases h
    · cases h
  · rintro ⟨hne, first, marker, hstart, hlast⟩
    simp only [run, hstart, hlast]
    exact finish_eq_ok.mpr ⟨hne, marker, rfl⟩

theorem ne_empty_of_run {title : Option String} {s : String} (h : p.run ctx title = .ok s) :
    s ≠ "" :=
  (run_eq_ok.mp h).1

end Pipeline

namespace Generator

variable {g : Generator} {r : Request} {c : Channel} {title : Option String}

/-- What a channel gives when the request is named. The title comes first, and the other channels
read what it gives. -/
def result (g : Generator) (r : Request) (c : Channel) : Except NamingError String := do
  let title ← g.name .title r none
  if c = .title then return title else g.name c r (some title)

/-- The channel fails, and none does that comes before it. -/
def FirstFails (g : Generator) (r : Request) (c : Channel) (e : NamingError) : Prop :=
  g.result r c = .error e ∧ ∀ b ∈ Channel.all.takeWhile (· ≠ c), ∃ s, g.result r b = .ok s

theorem result_title (g : Generator) (r : Request) : g.result r .title = g.name .title r none := by
  rw [result]
  cases g.name .title r none <;> rfl

theorem result_of_title {t : String} (hc : c ≠ .title) (h : g.result r .title = .ok t) :
    g.result r c = g.name c r (some t) := by
  rw [result_title] at h
  rw [result, h, Outcome.ok_bind, if_neg hc]

theorem result_of_title_error {e : NamingError} (h : g.result r .title = .error e) :
    g.result r c = .error e := by
  rw [result_title] at h
  rw [result, h, Outcome.error_bind]

/-- The names are the results of the channels, in order up to the first error. -/
theorem generate_eq_results (hr : r.Valid) :
    g.generate r = do
      let title ← g.result r .title
      let filename ← g.result r .filename
      let folder ← g.result r .folder
      return ⟨title, filename, folder⟩ := by
  rw [generate, Request.check_eq_ok hr]
  dsimp only
  rw [← result_title]
  cases h : g.result r .title with
  | ok t => rw [result_of_title (by decide) h, result_of_title (by decide) h]; rfl
  | error e => rfl

theorem generate_eq_ok_iff (hr : r.Valid) {names : Names} :
    g.generate r = .ok names ↔ ∀ c, g.result r c = .ok (names.get c) := by
  rw [generate_eq_results hr]
  constructor
  · intro h
    obtain ⟨title, htitle, h⟩ := Outcome.bind_eq_ok.mp h
    obtain ⟨filename, hfilename, h⟩ := Outcome.bind_eq_ok.mp h
    obtain ⟨folder, hfolder, h⟩ := Outcome.bind_eq_ok.mp h
    cases h
    intro c
    cases c with
    | title => exact htitle
    | filename => exact hfilename
    | folder => exact hfolder
  · intro h
    rw [h .title, h .filename, h .folder]
    rfl

theorem generate_eq_error_iff (hr : r.Valid) {e : NamingError} :
    g.generate r = .error e ↔ ∃ c, g.FirstFails r c e := by
  rw [generate_eq_results hr]
  constructor
  · intro h
    rcases Outcome.bind_eq_error.mp h with htitle | ⟨title, htitle, h⟩
    · exact ⟨.title, htitle, by simp [Channel.all]⟩
    rcases Outcome.bind_eq_error.mp h with hfilename | ⟨filename, hfilename, h⟩
    · exact ⟨.filename, hfilename, by simp [Channel.all, htitle]⟩
    rcases Outcome.bind_eq_error.mp h with hfolder | ⟨folder, -, h⟩
    · exact ⟨.folder, hfolder, by simp [Channel.all, htitle, hfilename]⟩
    · cases h
  · rintro ⟨c, hfails, hbefore⟩
    cases c with
    | title =>
      rw [hfails]
      rfl
    | filename =>
      obtain ⟨title, htitle⟩ := hbefore .title (by decide)
      rw [htitle, hfails]
      rfl
    | folder =>
      obtain ⟨title, htitle⟩ := hbefore .title (by decide)
      obtain ⟨filename, hfilename⟩ := hbefore .filename (by decide)
      rw [htitle, hfilename, hfails]
      rfl

theorem result_congr {g g' : Generator} (hoverrides : g.overrides.get? c = none)
    (hoverrides' : g'.overrides.get? c = none)
    (hpipeline : g'.program.pipeline c = g.program.pipeline c)
    (htitle : g'.result r .title = g.result r .title) : g'.result r c = g.result r c := by
  by_cases hc : c = .title
  · subst hc
    exact htitle
  · -- A title that fails is the error of every channel, so the cases are those of the title.
    cases h : g.result r .title with
    | ok t =>
      rw [result_of_title hc h, result_of_title hc (htitle.trans h),
        name_of_no_override hoverrides, name_of_no_override hoverrides', hpipeline]
    | error e => rw [result_of_title_error h, result_of_title_error (htitle.trans h)]

theorem ne_empty_of_result {s : String} (hoverrides : g.overrides.get? c = none)
    (h : g.result r c = .ok s) : s ≠ "" := by
  by_cases hc : c = .title
  · subst hc
    rw [result_title, name_of_no_override hoverrides] at h
    exact Pipeline.ne_empty_of_run h
  · obtain ⟨t, -, hname⟩ := Outcome.bind_eq_ok.mp h
    rw [if_neg hc, name_of_no_override hoverrides] at hname
    exact Pipeline.ne_empty_of_run hname

variable {p : Program} {o : Overrides} {f : Override}

theorem name_withPipeline (h : o.get? c = some f) (q : Pipeline) (c' : Channel)
    (title : Option String) :
    name ⟨p.withPipeline c q, o⟩ c' r title = name ⟨p, o⟩ c' r title := by
  cases h' : o.get? c' with
  | some f' => rw [name_of_override h', name_of_override h']
  | none =>
    have hne : c' ≠ c := by
      rintro rfl
      rw [h] at h'
      cases h'
    rw [name_of_no_override h', name_of_no_override h', p.pipeline_withPipeline q hne]

theorem result_withPipeline (h : o.get? c = some f) (q : Pipeline) (c' : Channel) :
    result ⟨p.withPipeline c q, o⟩ r c' = result ⟨p, o⟩ r c' := by
  simp only [result, name_withPipeline h]

theorem generate_withPipeline (h : o.get? c = some f) (q : Pipeline) :
    generate ⟨p.withPipeline c q, o⟩ r = generate ⟨p, o⟩ r := by
  simp only [generate, name_withPipeline h]

end Generator

/-- How the channels of a program depend on the overrides and on each other. -/
structure Program.Isolated (p : Program) (r : Request) : Prop where
  /-- A channel with an override gives what the override returns, as it is, or its failure. -/
  overridden : ∀ (o : Overrides) (c : Channel) (f : Override) (title : Option String),
    o.get? c = some f → Generator.name ⟨p, o⟩ c r title =
      (f r.series r.volumes r.parts r.marker).mapError (NamingError.overrideFailed c)
  /-- The pipeline of a channel with an override changes no result. -/
  replaced : ∀ (o : Overrides) (c : Channel) (f : Override) (q : Pipeline), o.get? c = some f →
    (∀ c', Generator.result ⟨p.withPipeline c q, o⟩ r c' = Generator.result ⟨p, o⟩ r c') ∧
      Generator.generate ⟨p.withPipeline c q, o⟩ r = Generator.generate ⟨p, o⟩ r
  /-- A channel that starts from the request depends on no title and no override. -/
  fromRequest : ∀ (o o' : Overrides) (c : Channel) (title title' : Option String),
    o.get? c = none → o'.get? c = none → (p.pipeline c).seed = .request →
    Generator.name ⟨p, o⟩ c r title = Generator.name ⟨p, o'⟩ c r title'
  /-- A channel without an override, from whichever seed, depends on the title's pipeline and
  override only through what they make. -/
  throughTitle : ∀ (p' : Program) (o o' : Overrides) (c : Channel), o.get? c = none →
    o'.get? c = none → p'.pipeline c = p.pipeline c →
    Generator.result ⟨p', o'⟩ r .title = Generator.result ⟨p, o⟩ r .title →
    Generator.result ⟨p', o'⟩ r c = Generator.result ⟨p, o⟩ r c
  /-- A channel that is nothing but the title gives the title, if it is not empty. -/
  backref : ∀ (o : Overrides) (c : Channel) (t : String), o.get? c = none →
    p.pipeline c = ⟨.title, []⟩ → Generator.result ⟨p, o⟩ r .title = .ok t →
    Generator.result ⟨p, o⟩ r c = if t = "" then .error (.emptyName c) else .ok t
  /-- The request is named exactly if no channel fails, by what the channels give. -/
  names : ∀ (o : Overrides) (names : Names), Generator.generate ⟨p, o⟩ r = .ok names ↔
    ∀ c, Generator.result ⟨p, o⟩ r c = .ok (names.get c)
  /-- The error is that of the first channel that fails. -/
  fails : ∀ (o : Overrides) (e : NamingError), Generator.generate ⟨p, o⟩ r = .error e ↔
    ∃ c, Generator.FirstFails ⟨p, o⟩ r c e
  /-- Only an override can make an empty name. -/
  nonempty : ∀ (o : Overrides) (names : Names) (c : Channel),
    Generator.generate ⟨p, o⟩ r = .ok names → o.get? c = none → names.get c ≠ ""

/-- The channels of every program that an expression compiles to are isolated. -/
theorem isolated_of_compile {expression : Option String} {p : Program} {r : Request}
    (hcompile : compile expression = .ok p) (hr : r.Valid) : p.Isolated r := by
  have htitle := (Program.wellFormed_of_compile hcompile).title
  constructor
  · intro o c f title h
    exact Generator.name_of_override h
  · intro o c f q h
    exact ⟨Generator.result_withPipeline h q, Generator.generate_withPipeline h q⟩
  · intro o o' c title title' h h' hseed
    rw [Generator.name_of_no_override h, Generator.name_of_no_override h']
    exact Pipeline.run_of_request hseed title title'
  · intro p' o o' c h h' hpipeline heffective
    exact Generator.result_congr h h' hpipeline heffective
  · intro o c t h hbare heffective
    have hc : c ≠ .title := by
      rintro rfl
      have hseed : (p.pipeline .title).seed = .request := htitle
      rw [hbare] at hseed
      cases hseed
    rw [Generator.result_of_title hc heffective, Generator.name_of_no_override h, hbare]
    exact Pipeline.run_backref ⟨r, c⟩ t
  · intro o names
    exact Generator.generate_eq_ok_iff hr
  · intro o e
    exact Generator.generate_eq_error_iff hr
  · intro o names c hnames h
    exact Generator.ne_empty_of_result h ((Generator.generate_eq_ok_iff hr).mp hnames c)

theorem isolated_of_compile_backref :
    let r : Request := ⟨⟨"S", none, none⟩, [⟨1, "S 1"⟩], [⟨1, 3, "P"⟩], ⟨true, false⟩⟩
    ∃ p, compile (some "n:_t|f:_t>str_rm_space") = .ok p ∧ r.Valid ∧ p.Isolated r := by
  intro r
  have hsome : (compile (some "n:_t|f:_t>str_rm_space")).toOption =
      some ⟨.default .title, ⟨.title, []⟩, ⟨.title, [.ofRule .strRmSpace]⟩⟩ := by
    decide +kernel
  have hcompile := Outcome.eq_ok_of_toOption hsome
  have hvalid : r.Valid := by decide
  exact ⟨_, hcompile, hvalid, isolated_of_compile hcompile hvalid⟩

end ReleaseNames
