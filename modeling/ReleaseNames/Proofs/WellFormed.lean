import ReleaseNames.Proofs.Language

/-!
# Well-formed programs

The programs that expressions can denote. The title starts from the request,
every channel starts from the title or has a step, and every step has exactly the
arguments that its rule takes. Compiling makes no other programs.
-/

namespace ReleaseNames

/-- A call with one argument for each parameter, each of which its parameter takes. -/
def Call.WellFormed (call : Call) : Prop :=
  List.Forall₂ (fun p a => p.Takes a.literal) call.rule.params call.args

/-- The steps are well-formed, and there is a step or the title to start from. -/
structure Pipeline.WellFormed (p : Pipeline) : Prop where
  nonempty : p.seed = .title ∨ p.steps ≠ []
  steps : ∀ call ∈ p.steps, call.WellFormed

/-- The pipelines are well-formed, and the title does not start from itself. -/
structure Program.WellFormed (p : Program) : Prop where
  title : p.title.seed = .request
  pipeline : ∀ c, (p.pipeline c).WellFormed

/-- Every default is an argument that its parameter takes. -/
theorem Rule.takes_default (rule : Rule) : ∀ p ∈ rule.params, p.Takes p.default.literal := by
  cases rule <;> decide +kernel

theorem Completes.takes {params : List Param} {literals : List Literal} {args : List Arg}
    (h : Completes params literals args) (hfits : Fits params literals)
    (hdefaults : ∀ p ∈ params, p.Takes p.default.literal) :
    List.Forall₂ (fun p a => p.Takes a.literal) params args := by
  obtain ⟨hlength, htakes⟩ := hfits
  induction params generalizing literals args with
  | nil =>
    obtain rfl := List.eq_nil_of_length_eq_zero (Nat.le_zero.mp hlength)
    rw [nil_iff.mp h]
    exact .nil
  | cons p params ih =>
    obtain ⟨hdefault, hdefaults⟩ := List.forall_mem_cons.mp hdefaults
    cases literals with
    | nil =>
      rw [nil_iff.mp h]
      refine .cons hdefault (ih (nil_iff.mpr rfl) hdefaults (Nat.zero_le _) .nil)
    | cons l literals =>
      obtain ⟨a, rest, rfl, rfl, hrest⟩ := cons_iff.mp h
      cases htakes with
      | cons htake hall =>
        exact .cons htake (ih hrest hdefaults (Nat.le_of_succ_le_succ hlength) hall)

theorem Call.wellFormed_of_denotes {m : Mention} {call : Call} (h : m.Denotes call)
    (hm : m.Callable) : call.WellFormed := by
  obtain ⟨-, rule, hrule, hfits⟩ := hm
  obtain rfl : call.rule = rule := Rule.name_injective (h.name.trans hrule.symm)
  exact h.args.takes hfits call.rule.takes_default

theorem Call.wellFormed_of_resolve {rule : Rule} {literals : List Literal} {position : Nat}
    {call : Call} (h : Call.resolve rule literals position = .ok call) : call.WellFormed := by
  obtain ⟨hfits, rfl, hargs⟩ := Call.resolve_eq_ok.mp h
  exact hargs.takes hfits call.rule.takes_default

theorem Call.wellFormed_ofRule (rule : Rule) : (Call.ofRule rule).WellFormed :=
  (Completes.nil_iff.mpr rfl).takes ⟨Nat.zero_le _, .nil⟩ rule.takes_default

theorem Pipeline.wellFormed_default (c : Channel) : (Pipeline.default c).WellFormed := by
  have hstep : ∃ rule, (Pipeline.default c).steps = [.ofRule rule] := by
    cases c
    · exact ⟨_, rfl⟩
    · exact ⟨_, rfl⟩
    · exact ⟨_, rfl⟩
  obtain ⟨rule, hsteps⟩ := hstep
  constructor
  · right
    simp [hsteps]
  · intro call hcall
    rw [hsteps, List.mem_singleton] at hcall
    rw [hcall]
    exact Call.wellFormed_ofRule rule

theorem exists_denotes_of_mem {ms : List Mention} {steps : List Call} {call : Call}
    (h : List.Forall₂ Mention.Denotes ms steps) (hcall : call ∈ steps) :
    ∃ m ∈ ms, m.Denotes call := by
  induction h with
  | nil => cases hcall
  | cons hdenotes _ ih =>
    rcases List.mem_cons.mp hcall with rfl | hcall
    · exact ⟨_, List.mem_cons_self, hdenotes⟩
    · obtain ⟨m, hm, hdenoted⟩ := ih hcall
      exact ⟨m, List.mem_cons_of_mem _ hm, hdenoted⟩

theorem Clause.Denotes.wellFormed {c : Clause} {p : Pipeline} (h : c.Denotes p)
    (hc : Resolvable c.channel c.mentions) (hmentions : c.mentions ≠ []) : p.WellFormed := by
  constructor
  · obtain ⟨m, ms, hms⟩ := List.exists_cons_of_ne_nil hmentions
    by_cases hname : m.name = backref
    · left
      exact h.seed.mpr ⟨m, by rw [hms]; rfl, hname⟩
    · right
      intro hsteps
      have hall := h.steps
      rw [hsteps, hms, List.filter_cons_of_pos (by simpa using hname)] at hall
      cases hall
  · intro call hcall
    obtain ⟨m, hm, hdenotes⟩ := exists_denotes_of_mem h.steps hcall
    obtain ⟨hmem, hname⟩ := List.mem_filter.mp hm
    exact Call.wellFormed_of_denotes hdenotes (hc.callable m hmem (by simpa using hname))

namespace Grammar

theorem mentions_ne_nil_of_isChain {ts : List Token} {ms : List Mention} (h : IsChain ts ms) :
    ms ≠ [] := by
  cases h with
  | one => simp
  | more => simp

theorem mentions_ne_nil_of_isSection {ts : List Token} {c : Clause} (h : IsSection ts c) :
    c.mentions ≠ [] := by
  cases h with
  | bare hchain => exact mentions_ne_nil_of_isChain hchain
  | keyed _ hchain => exact mentions_ne_nil_of_isChain hchain

theorem mentions_ne_nil_of_isExpression {ts : List Token} {cs : List Clause}
    (h : IsExpression ts cs) : ∀ c ∈ cs, c.mentions ≠ [] := by
  induction h with
  | one hsection => simpa using mentions_ne_nil_of_isSection hsection
  | more hsection _ ih =>
    exact List.forall_mem_cons.mpr ⟨mentions_ne_nil_of_isSection hsection, ih⟩

end Grammar

theorem Denotes.wellFormed {clauses : List Clause} {p : Program} (h : Denotes clauses p)
    (hlegal : Legal clauses) (hmentions : ∀ c ∈ clauses, c.mentions ≠ []) : p.WellFormed := by
  obtain ⟨-, -, hresolvable⟩ := legal_iff.mp hlegal
  constructor
  · by_contra hseed
    have htitle : (p.pipeline .title).seed = .title := by
      cases hp : p.title.seed with
      | request => exact absurd hp hseed
      | title => exact hp
    by_cases hchannel : ∃ c ∈ clauses, c.channel = .title
    · obtain ⟨c, hc, heq⟩ := hchannel
      obtain ⟨m, hm, hname⟩ := (h.given c hc).seed.mp (heq ▸ htitle)
      rw [List.head?_eq_getElem?] at hm
      exact ((hresolvable c hc).backref 0 m hm hname).2.1 heq
    · rw [h.absent .title fun c hc heq => hchannel ⟨c, hc, heq⟩] at htitle
      cases htitle
  · intro channel
    by_cases hchannel : ∃ c ∈ clauses, c.channel = channel
    · obtain ⟨c, hc, rfl⟩ := hchannel
      exact (h.given c hc).wellFormed (hresolvable c hc) (hmentions c hc)
    · rw [h.absent channel fun c hc heq => hchannel ⟨c, hc, heq⟩]
      exact Pipeline.wellFormed_default channel

theorem Program.wellFormed_default : Program.default.WellFormed := by
  refine ⟨rfl, fun c => ?_⟩
  have hdefault : Program.default.pipeline c = .default c := by cases c <;> rfl
  rw [hdefault]
  exact Pipeline.wellFormed_default c

/-- An expression compiles to the default program, or its tokens derive the program. -/
theorem denotes_of_compile {expression : Option String} {p : Program}
    (h : compile expression = .ok p) :
    p = .default ∨
      ∃ ts clauses, Grammar.IsExpression ts clauses ∧ Legal clauses ∧ Denotes clauses p := by
  cases expression with
  | none =>
    cases h
    exact .inl rfl
  | some text =>
    cases hblank : isBlankText text with
    | true =>
      rw [compile, hblank] at h
      cases h
      exact .inl rfl
    | false =>
      right
      cases htokens : Lexer.tokenize text with
      | error e =>
        rw [compile, hblank, htokens] at h
        cases h
      | ok located =>
        obtain ⟨used, position, rfl, hused⟩ := Lexer.exists_of_readTokens htokens
        exact ⟨_, (compile_eq_ok_iff hblank htokens hused).mp h⟩

/-- Compiling makes well-formed programs. -/
theorem Program.wellFormed_of_compile {expression : Option String} {p : Program}
    (h : compile expression = .ok p) : p.WellFormed := by
  rcases denotes_of_compile h with rfl | ⟨ts, clauses, hderived, hlegal, hdenotes⟩
  · exact Program.wellFormed_default
  · exact hdenotes.wellFormed hlegal (Grammar.mentions_ne_nil_of_isExpression hderived)

end ReleaseNames
