import ReleaseNames.Proofs.Arguments
import ReleaseNames.Proofs.Isolation
import ReleaseNames.Proofs.Substitution

/-!
# Nothing is left to the run

What compiling leaves out of an expression it puts into the program: a channel has a
seed that is there when it is read, and steps, and a step has all of its arguments.
So an omitted argument can as well be written, at its default. In the text of an
expression any call can be replaced by one with more arguments written, and the
expression still compiles to the same program.
-/

namespace ReleaseNames

/-- The second mention is the first one, or has some of its omitted arguments written, at their
defaults. -/
def Mention.WritesOut (m m' : Mention) : Prop :=
  m' = m ∨ ∃ (rule : Rule) (count : Nat), rule.name = m.name ∧
    m' = ⟨m.name, m.literals ++
      ((rule.params.drop m.literals.length).take count).map fun p => p.default.literal⟩

structure Clause.WritesOut (c c' : Clause) : Prop where
  key : c'.channel? = c.channel?
  mentions : List.Forall₂ Mention.WritesOut c.mentions c'.mentions

theorem Completes.defaults (params : List Param) (count : Nat) :
    Completes params ((params.take count).map fun p => p.default.literal)
      (params.map (·.default)) := by
  induction params generalizing count with
  | nil =>
    rw [List.take_nil]
    exact nil_iff.mpr rfl
  | cons p params ih =>
    cases count with
    | zero => exact nil_iff.mpr rfl
    | succ count => exact cons_iff.mpr ⟨p.default, _, rfl, rfl, ih count⟩

/-- Literals and some of the defaults that complete them are completed to the same arguments. -/
theorem Completes.writeOut {params : List Param} {literals : List Literal} {args : List Arg}
    (h : Completes params literals args) (count : Nat) :
    Completes params
      (literals ++ ((params.drop literals.length).take count).map fun p => p.default.literal)
      args := by
  induction literals generalizing params args with
  | nil =>
    rw [nil_iff.mp h]
    exact Completes.defaults params count
  | cons l literals ih =>
    cases params with
    | nil => simpa using h
    | cons p params =>
      obtain ⟨a, rest, rfl, ha, hrest⟩ := cons_iff.mp h
      exact cons_iff.mpr ⟨a, rest, rfl, ha, ih hrest⟩

namespace Mention.WritesOut

variable {m m' : Mention} {call : Call}

theorem refl (m : Mention) : m.WritesOut m :=
  .inl rfl

theorem name (h : m.WritesOut m') : m'.name = m.name := by
  rcases h with rfl | ⟨rule, count, -, rfl⟩
  · rfl
  · rfl

/-- The name `_t` has no arguments to write. -/
theorem eq_of_backref (h : m.WritesOut m') (hname : m.name = backref) : m' = m := by
  rcases h with rfl | ⟨rule, count, hrule, rfl⟩
  · rfl
  · exact absurd (hrule.trans hname) rule.name_ne_backref

theorem denotes (h : m.WritesOut m') (hm : m.Denotes call) : m'.Denotes call := by
  rcases h with rfl | ⟨rule, count, hrule, rfl⟩
  · exact hm
  · obtain rfl : call.rule = rule := Rule.name_injective (hm.name.trans hrule.symm)
    exact ⟨hm.name, hm.args.writeOut count⟩

theorem callable (h : m.WritesOut m') (hm : m.Callable) : m'.Callable := by
  obtain ⟨call, hcall⟩ := hm.exists_denotes
  exact (h.denotes hcall).callable (Call.wellFormed_of_denotes hcall hm)

end Mention.WritesOut

theorem Resolvable.writeOut {channel : Channel} {ms ms' : List Mention}
    (h : Resolvable channel ms) (hms : List.Forall₂ Mention.WritesOut ms ms') :
    Resolvable channel ms' := by
  constructor
  · intro i m' hm' hname
    obtain ⟨m, hm, (hwrites : m.WritesOut m')⟩ := exists_of_getElem?_left hms.flip hm'
    have hbackref : m.name = ReleaseNames.backref := hwrites.name.symm.trans hname
    rw [hwrites.eq_of_backref hbackref]
    exact h.backref i m hm hbackref
  · intro m' hm' hname
    obtain ⟨i, hi⟩ := List.mem_iff_getElem?.mp hm'
    obtain ⟨m, hm, (hwrites : m.WritesOut m')⟩ := exists_of_getElem?_left hms.flip hi
    refine hwrites.callable (h.callable m (List.mem_of_getElem? hm) ?_)
    rw [← hwrites.name]
    exact hname

namespace Clause.WritesOut

variable {c c' : Clause} {p : Pipeline}

theorem refl (c : Clause) : c.WritesOut c :=
  ⟨rfl, List.forall₂_same.mpr fun m _ => .refl m⟩

theorem channel (h : c.WritesOut c') : c'.channel = c.channel := by
  rw [Clause.channel, Clause.channel, h.key]

theorem head_iff {ms ms' : List Mention} (h : List.Forall₂ Mention.WritesOut ms ms') :
    (∃ m, ms'.head? = some m ∧ m.name = backref) ↔ ∃ m, ms.head? = some m ∧ m.name = backref := by
  cases h with
  | nil => exact Iff.rfl
  | cons hwrites _ => simp [hwrites.name]

theorem steps {ms ms' : List Mention} {calls : List Call}
    (h : List.Forall₂ Mention.WritesOut ms ms')
    (hcalls : List.Forall₂ Mention.Denotes (ms.filter fun m => m.name ≠ backref) calls) :
    List.Forall₂ Mention.Denotes (ms'.filter fun m => m.name ≠ backref) calls := by
  induction h generalizing calls with
  | nil => exact hcalls
  | @cons m m' ms ms' hwrites _ ih =>
    by_cases hname : m.name = backref
    · rw [List.filter_cons_of_neg (by simpa using hname)] at hcalls
      rw [List.filter_cons_of_neg (by simpa [hwrites.name] using hname)]
      exact ih hcalls
    · rw [List.filter_cons_of_pos (by simpa using hname)] at hcalls
      rw [List.filter_cons_of_pos (by simpa [hwrites.name] using hname)]
      cases hcalls with
      | cons hdenotes hrest => exact .cons (hwrites.denotes hdenotes) (ih hrest)

theorem denotes (h : c.WritesOut c') (hc : c.Denotes p) : c'.Denotes p :=
  ⟨hc.seed.trans (head_iff h.mentions).symm, steps h.mentions hc.steps⟩

end Clause.WritesOut

section Clauses

variable {cs ds : List Clause} {p : Program} (h : List.Forall₂ Clause.WritesOut cs ds)

include h

theorem exists_of_mem_writesOut {d : Clause} (hd : d ∈ ds) : ∃ c ∈ cs, c.WritesOut d := by
  obtain ⟨i, hi⟩ := List.mem_iff_getElem?.mp hd
  obtain ⟨c, hc, hwrites⟩ := exists_of_getElem?_left h.flip hi
  exact ⟨c, List.mem_of_getElem? hc, hwrites⟩

theorem map_channel_writesOut : ds.map Clause.channel = cs.map Clause.channel := by
  induction h with
  | nil => rfl
  | cons hwrites _ ih => rw [List.map_cons, List.map_cons, hwrites.channel, ih]

theorem Legal.writeOut (hlegal : Legal cs) : Legal ds := by
  obtain ⟨hkeyed, hdistinct, hresolvable⟩ := legal_iff.mp hlegal
  refine legal_iff.mpr ⟨fun hlength d hd => ?_, ?_, fun d hd => ?_⟩
  · obtain ⟨c, hc, hwrites⟩ := exists_of_mem_writesOut h hd
    rw [hwrites.key]
    exact hkeyed (h.length_eq ▸ hlength) c hc
  · rw [map_channel_writesOut h]
    exact hdistinct
  · obtain ⟨c, hc, hwrites⟩ := exists_of_mem_writesOut h hd
    rw [hwrites.channel]
    exact (hresolvable c hc).writeOut hwrites.mentions

theorem Denotes.writeOut (hdenotes : Denotes cs p) : Denotes ds p := by
  constructor
  · intro d hd
    obtain ⟨c, hc, hwrites⟩ := exists_of_mem_writesOut h hd
    rw [hwrites.channel]
    exact hwrites.denotes (hdenotes.given c hc)
  · intro channel hothers
    refine hdenotes.absent channel fun c hc heq => ?_
    have hmem : channel ∈ ds.map Clause.channel := by
      rw [map_channel_writesOut h]
      exact heq ▸ List.mem_map_of_mem hc
    obtain ⟨d, hd, hchannel⟩ := List.mem_map.mp hmem
    exact hothers d hd hchannel

end Clauses

/-- Two texts, one with omitted arguments written, compile to the same program. -/
theorem Derives.compile_writeOut {text other : String} {clauses others : List Clause} {p : Program}
    (h : Derives text clauses) (ho : Derives other others)
    (hwrites : List.Forall₂ Clause.WritesOut clauses others) (hp : compile (some text) = .ok p) :
    compile (some other) = .ok p := by
  obtain ⟨hlegal, hdenotes⟩ := h.compile_iff.mp hp
  exact ho.compile_iff.mpr ⟨hlegal.writeOut hwrites, hdenotes.writeOut hwrites⟩

/-- The mentions of a section that can be resolved are read as they are spelled. -/
theorem Resolvable.spellable {channel : Channel} {ms : List Mention} (h : Resolvable channel ms) :
    ∀ m ∈ ms, Grammar.Spellable m := by
  intro m hm
  by_cases hname : m.name = ReleaseNames.backref
  · obtain ⟨i, hi⟩ := List.mem_iff_getElem?.mp hm
    obtain ⟨-, -, hliterals⟩ := h.backref i m hi hname
    constructor
    · rw [hname]
      decide +kernel
    · simp [hliterals]
  · obtain ⟨call, hcall⟩ := (h.callable m hm hname).exists_denotes
    exact hcall.spellable

theorem exists_calls_of_spellable {m : Mention} (h : Grammar.Spellable m) :
    ∃ text, Calls text m := by
  have hrule := Grammar.isRule_tokens m
  have hplain : ∀ t ∈ m.tokens, t.isPlain = true := by
    refine Grammar.forall_of_isRule (fun t ht _ => ?_) hrule h
    cases t <;> first | rfl | cases ht
  obtain ⟨ls, hls, htokens⟩ :=
    (Spells.flatMap_spelling m.tokens).exists_scans hplain (Grammar.separated_isRule hrule)
  refine ⟨String.ofList (m.tokens.flatMap Token.spelling), calls_iff.mpr ⟨ls, ?_, ?_⟩⟩
  · rw [String.toList_ofList]
    exact hls
  · rw [htokens]
    exact hrule

theorem Request.check_ne_titleNotReady (r : Request) (c : Channel) :
    r.check ≠ .error (.titleNotReady c) := by
  intro h
  rw [check] at h
  split at h
  · cases h
  · split at h
    · cases h
    · split at h <;> cases h

/-- The error that no title is ready needs a channel that starts from the title while there is none,
and the title itself starts from the request. -/
theorem Generator.generate_ne_titleNotReady {p : Program} (htitle : p.title.seed = .request)
    (o : Overrides) (r : Request) (c : Channel) :
    generate ⟨p, o⟩ r ≠ .error (.request (.titleNotReady c)) := by
  intro h
  by_cases hr : r.Valid
  · rcases error_of_generate hr htitle h with hfails | ⟨_, _, -, heq⟩
    · exact hfails.not_request _ rfl
    · cases heq
  · obtain ⟨fault, hfault⟩ := Request.exists_of_not_valid hr
    rw [generate, hfault] at h
    cases h
    exact r.check_ne_titleNotReady c hfault

/-- Nothing is missing that the program reads when it runs. -/
structure Program.Explicit (p : Program) : Prop where
  /-- The title does not start from a title. -/
  title : p.title.seed = .request
  /-- A channel that starts from the request has a step. -/
  nonempty : ∀ c, (p.pipeline c).seed = .request → (p.pipeline c).steps ≠ []
  /-- The steps state their arguments. -/
  steps : ∀ c, ∀ call ∈ (p.pipeline c).steps, call.Explicit
  /-- No channel reads the title before it is computed, whatever the request and the overrides. -/
  ready : ∀ (o : Overrides) (r : Request) (c : Channel),
    Generator.generate ⟨p, o⟩ r ≠ .error (.request (.titleNotReady c))

theorem Program.WellFormed.explicit {p : Program} (h : p.WellFormed) : p.Explicit := by
  constructor
  · exact h.title
  · intro c hseed
    rcases (h.pipeline c).nonempty with htitle | hsteps
    · rw [hseed] at htitle
      cases htitle
    · exact hsteps
  · intro c call hcall
    exact ((h.pipeline c).steps call hcall).explicit
  · exact Generator.generate_ne_titleNotReady h.title

/-- In a text that compiles to the program omitted arguments can be written. -/
structure Program.AllowsDefaults (p : Program) (text : String) (clauses : List Clause) : Prop where
  /-- Every text that derives the clauses with omitted arguments written compiles to the program. -/
  same : ∀ (other : String) (others : List Clause), Derives other others →
    List.Forall₂ Clause.WritesOut clauses others → compile (some other) = .ok p
  /-- The text can be cut around each call, and every call with omitted arguments written, of which
  there is one, can be put there. -/
  place : ∀ (cs : List Clause) (key : Option Channel) (before : List Mention) (m : Mention)
    (after : List Mention) (ds : List Clause), clauses = cs ++ ⟨key, before ++ m :: after⟩ :: ds →
      ∃ front call back, text = front ++ call ++ back ∧ Calls call m ∧
        ∀ m', m.WritesOut m' → (∃ written, Calls written m') ∧
          ∀ written, Calls written m' →
            Derives (front ++ written ++ back) (cs ++ ⟨key, before ++ m' :: after⟩ :: ds) ∧
              compile (some (front ++ written ++ back)) = .ok p

theorem forall₂_writesOut {cs ds : List Clause} {key : Option Channel} {before after : List Mention}
    {m m' : Mention} (h : m.WritesOut m') :
    List.Forall₂ Clause.WritesOut (cs ++ ⟨key, before ++ m :: after⟩ :: ds)
      (cs ++ ⟨key, before ++ m' :: after⟩ :: ds) := by
  have hmentions : List.Forall₂ Mention.WritesOut (before ++ m :: after) (before ++ m' :: after) :=
    Grammar.forall₂_append_cons (List.forall₂_same.mpr fun m _ => .refl m) h
      (List.forall₂_same.mpr fun m _ => .refl m)
  exact Grammar.forall₂_append_cons (List.forall₂_same.mpr fun c _ => .refl c) ⟨rfl, hmentions⟩
    (List.forall₂_same.mpr fun c _ => .refl c)

theorem Derives.allowsDefaults {text : String} {clauses : List Clause} {p : Program}
    (h : Derives text clauses) (hp : compile (some text) = .ok p) :
    p.AllowsDefaults text clauses := by
  constructor
  · intro other others ho hwrites
    exact h.compile_writeOut ho hwrites hp
  · rintro cs key before m after ds rfl
    obtain ⟨front, call, back, htext, hcall, hfill⟩ := h.exists_place
    refine ⟨front, call, back, htext, hcall, fun m' hwrites => ⟨?_, fun written hwritten => ?_⟩⟩
    · have hlegal := ((h.compile_iff.mp hp).1).writeOut (forall₂_writesOut hwrites)
      obtain ⟨-, -, hresolvable⟩ := legal_iff.mp hlegal
      exact exists_calls_of_spellable
        ((hresolvable ⟨key, before ++ m' :: after⟩ (by simp)).spellable m' (by simp))
    · have hother := hfill written m' hwritten
      exact ⟨hother, h.compile_writeOut hother (forall₂_writesOut hwrites) hp⟩

/-- A program that an expression compiles to states all that it reads when it runs, and arguments
that the expression omits can be written in it, at their defaults. -/
theorem explicit_of_compile {expression : Option String} {p : Program}
    (h : compile expression = .ok p) :
    p.Explicit ∧ ∀ (text : String) (clauses : List Clause), expression = some text →
      Derives text clauses → p.AllowsDefaults text clauses := by
  refine ⟨(Program.wellFormed_of_compile h).explicit, ?_⟩
  rintro text clauses rfl hderives
  exact hderives.allowsDefaults h

theorem explicit_of_compile_filesafe :
    let text := "t:s_title>to_string | n:_t>str_filesafe(\"-\")"
    let other := "t:s_title>to_string(0) | n:_t>str_filesafe(\"-\", \"\")"
    let p : Program := ⟨⟨.request, [.ofRule .sTitle, .ofRule .toString]⟩,
      ⟨.title, [⟨.strFilesafe, [.str "-", .str ""]⟩]⟩, .default .folder⟩
    compile (some text) = .ok p ∧ p.Explicit ∧ compile (some other) = .ok p := by
  intro text other p
  have hcompile : compile (some text) = .ok p := Outcome.eq_ok_of_toOption (by decide +kernel)
  obtain ⟨hexplicit, hdefaults⟩ := explicit_of_compile hcompile
  have hread : Lexer.tokenize text = .ok [⟨.ident "t", 0⟩, ⟨.colon, 1⟩, ⟨.ident "s_title", 2⟩,
      ⟨.arrow, 9⟩, ⟨.ident "to_string", 10⟩, ⟨.pipe, 20⟩, ⟨.ident "n", 22⟩, ⟨.colon, 23⟩,
      ⟨.ident "_t", 24⟩, ⟨.arrow, 26⟩, ⟨.ident "str_filesafe", 27⟩, ⟨.openParen, 39⟩,
      ⟨.str "-", 40⟩, ⟨.closeParen, 43⟩, ⟨.stop, 44⟩] :=
    Outcome.eq_ok_of_toOption (by decide +kernel)
  have hreadOther : Lexer.tokenize other = .ok [⟨.ident "t", 0⟩, ⟨.colon, 1⟩,
      ⟨.ident "s_title", 2⟩, ⟨.arrow, 9⟩, ⟨.ident "to_string", 10⟩, ⟨.openParen, 19⟩,
      ⟨.int 0, 20⟩, ⟨.closeParen, 21⟩, ⟨.pipe, 23⟩, ⟨.ident "n", 25⟩, ⟨.colon, 26⟩,
      ⟨.ident "_t", 27⟩, ⟨.arrow, 29⟩, ⟨.ident "str_filesafe", 30⟩, ⟨.openParen, 42⟩,
      ⟨.str "-", 43⟩, ⟨.comma, 46⟩, ⟨.str "", 48⟩, ⟨.closeParen, 50⟩, ⟨.stop, 51⟩] :=
    Outcome.eq_ok_of_toOption (by decide +kernel)
  have hderives : Derives text [⟨some .title, [⟨"s_title", []⟩, ⟨"to_string", []⟩]⟩,
      ⟨some .filename, [⟨"_t", []⟩, ⟨"str_filesafe", [.str "-"]⟩]⟩] :=
    ⟨_, _, hread, rfl, .more (.keyed .title (.more (.bare "s_title") (.one (.bare "to_string"))))
      (.one (.keyed .filename (.more (.bare "_t") (.one (.call _ (.one rfl))))))⟩
  have hother : Derives other [⟨some .title, [⟨"s_title", []⟩, ⟨"to_string", [.int 0]⟩]⟩,
      ⟨some .filename, [⟨"_t", []⟩, ⟨"str_filesafe", [.str "-", .str ""]⟩]⟩] :=
    ⟨_, _, hreadOther, rfl,
      .more (.keyed .title (.more (.bare "s_title") (.one (.call _ (.one rfl)))))
        (.one (.keyed .filename (.more (.bare "_t") (.one (.call _ (.more rfl (.one rfl)))))))⟩
  have hwrites : List.Forall₂ Clause.WritesOut
      [⟨some .title, [⟨"s_title", []⟩, ⟨"to_string", []⟩]⟩,
        ⟨some .filename, [⟨"_t", []⟩, ⟨"str_filesafe", [.str "-"]⟩]⟩]
      [⟨some .title, [⟨"s_title", []⟩, ⟨"to_string", [.int 0]⟩]⟩,
        ⟨some .filename, [⟨"_t", []⟩, ⟨"str_filesafe", [.str "-", .str ""]⟩]⟩] :=
    .cons ⟨rfl, .cons (.refl _) (.cons (.inr ⟨.toString, 1, rfl, rfl⟩) .nil)⟩
      (.cons ⟨rfl, .cons (.refl _) (.cons (.inr ⟨.strFilesafe, 1, rfl, rfl⟩) .nil)⟩ .nil)
  exact ⟨hcompile, hexplicit, (hdefaults text _ rfl hderives).same other _ hother hwrites⟩

end ReleaseNames
