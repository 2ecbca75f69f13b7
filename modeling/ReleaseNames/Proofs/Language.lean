import Mathlib.Data.List.Nodup
import ReleaseNames.Proofs.Lexeme
import ReleaseNames.Proofs.Resolution

/-!
# Compiling accepts exactly the language

The sections of an expression are added to a draft one by one. All of them are
added exactly if their clauses are legal, and then the draft has the pipeline of
each. So an expression that is not blank compiles exactly if its tokens derive
legal clauses, and it compiles to the one program that they denote.
-/

namespace ReleaseNames

namespace Draft

theorem get?_set (d : Draft) (c : Channel) (p : Pipeline) (other : Channel) :
    (d.set c p).get? other = if other = c then some p else d.get? other := by
  cases c <;> cases other <;> simp [set, get?]

theorem ext_get? {d e : Draft} (h : ∀ c, d.get? c = e.get? c) : d = e := by
  obtain ⟨title, filename, folder⟩ := d
  have htitle : title = e.title := h .title
  have hfilename : filename = e.filename := h .filename
  have hfolder : folder = e.folder := h .folder
  rw [htitle, hfilename, hfolder]

theorem pipeline_program (d : Draft) (c : Channel) :
    d.program.pipeline c = (d.get? c).getD (.default c) := by
  cases c <;> rfl

theorem add_eq_ok {several : Bool} {d e : Draft} {w : WrittenSection} :
    d.add several w = .ok e ↔
      (several = true → w.clause.channel?.isSome) ∧ d.get? w.clause.channel = none ∧
        Resolvable w.clause.channel w.clause.mentions ∧
          ∃ p, w.clause.Denotes p ∧ e = d.set w.clause.channel p := by
  rw [add]
  -- The two checks come first, so a clause that fails one of them is not resolved at all.
  split
  · next hmissing =>
    constructor
    · intro h
      cases h
    · rintro ⟨hkeyed, -⟩
      rw [Bool.and_eq_true, Option.isNone_iff_eq_none] at hmissing
      have hsome := hkeyed hmissing.2
      rw [WrittenSection.clause, hmissing.1] at hsome
      cases hsome
  · next hkeyed =>
    have hkeyed : several = true → w.clause.channel?.isSome := by
      intro hseveral
      rw [hseveral, Bool.and_true] at hkeyed
      simpa [WrittenSection.clause, Option.isSome_iff_ne_none] using hkeyed
    dsimp only
    split
    · next htaken =>
      constructor
      · intro h
        cases h
      · rintro ⟨-, hnone, -⟩
        rw [Clause.channel, WrittenSection.clause] at hnone
        rw [hnone] at htaken
        cases htaken
    · next hfree =>
      rw [Outcome.bind_eq_ok]
      constructor
      · rintro ⟨p, hp, he⟩
        cases he
        obtain ⟨hresolvable, hdenotes⟩ := Pipeline.resolve_eq_ok.mp hp
        exact ⟨hkeyed, Option.not_isSome_iff_eq_none.mp hfree, hresolvable, p, hdenotes, rfl⟩
      · rintro ⟨-, -, hresolvable, p, hdenotes, rfl⟩
        exact ⟨p, Pipeline.resolve_eq_ok.mpr ⟨hresolvable, hdenotes⟩, rfl⟩

/-- Clauses can be added one by one to a draft, which they turn into another. -/
structure Adds (several : Bool) (d : Draft) (clauses : List Clause) (e : Draft) : Prop where
  keyed : several = true → ∀ c ∈ clauses, c.channel?.isSome
  fresh : ∀ c ∈ clauses, d.get? c.channel = none
  distinct : (clauses.map Clause.channel).Nodup
  resolvable : ∀ c ∈ clauses, Resolvable c.channel c.mentions
  given : ∀ c ∈ clauses, ∃ p, e.get? c.channel = some p ∧ c.Denotes p
  others : ∀ channel, (∀ c ∈ clauses, c.channel ≠ channel) → e.get? channel = d.get? channel

theorem adds_nil_iff {several : Bool} {d e : Draft} : Adds several d [] e ↔ d = e := by
  constructor
  · intro h
    exact ext_get? fun c => (h.others c (by simp)).symm
  · rintro rfl
    exact ⟨by simp, by simp, by simp, by simp, by simp, fun _ _ => rfl⟩

/-- What remains to be added after the first clause. -/
theorem Adds.tail {several : Bool} {d e : Draft} {c : Clause} {cs : List Clause} {p : Pipeline}
    (h : Adds several d (c :: cs) e) (hp : e.get? c.channel = some p) :
    Adds several (d.set c.channel p) cs e := by
  have hdistinct := List.nodup_cons.mp h.distinct
  have hne : ∀ c' ∈ cs, c'.channel ≠ c.channel := fun c' hc' heq =>
    hdistinct.1 (heq ▸ List.mem_map_of_mem hc')
  constructor
  · exact fun hs c' hc' => h.keyed hs c' (List.mem_cons_of_mem c hc')
  · intro c' hc'
    rw [get?_set, if_neg (hne c' hc')]
    exact h.fresh c' (List.mem_cons_of_mem c hc')
  · exact hdistinct.2
  · exact fun c' hc' => h.resolvable c' (List.mem_cons_of_mem c hc')
  · exact fun c' hc' => h.given c' (List.mem_cons_of_mem c hc')
  · intro channel hothers
    rw [get?_set]
    split
    · next heq => rw [heq, hp]
    · next hother =>
      exact h.others channel (List.forall_mem_cons.mpr ⟨Ne.symm hother, hothers⟩)

/-- Clauses that can be added after a channel was set are for other channels. -/
theorem Adds.free {several : Bool} {d e : Draft} {channel : Channel} {cs : List Clause}
    {p : Pipeline} (h : Adds several (d.set channel p) cs e) {c : Clause} (hc : c ∈ cs) :
    c.channel ≠ channel ∧ d.get? c.channel = none := by
  have hnone := h.fresh c hc
  rw [get?_set] at hnone
  split at hnone
  · cases hnone
  · next hne => exact ⟨hne, hnone⟩

theorem Adds.cons {several : Bool} {d e : Draft} {c : Clause} {cs : List Clause} {p : Pipeline}
    (hkeyed : several = true → c.channel?.isSome) (hfresh : d.get? c.channel = none)
    (hresolvable : Resolvable c.channel c.mentions) (hdenotes : c.Denotes p)
    (h : Adds several (d.set c.channel p) cs e) : Adds several d (c :: cs) e := by
  have hne : ∀ c' ∈ cs, c'.channel ≠ c.channel := fun c' hc' => (h.free hc').1
  constructor
  · exact fun hs => List.forall_mem_cons.mpr ⟨hkeyed hs, h.keyed hs⟩
  · exact List.forall_mem_cons.mpr ⟨hfresh, fun c' hc' => (h.free hc').2⟩
  · refine List.nodup_cons.mpr ⟨?_, h.distinct⟩
    intro hmem
    obtain ⟨c', hc', heq⟩ := List.mem_map.mp hmem
    exact hne c' hc' heq
  · exact List.forall_mem_cons.mpr ⟨hresolvable, h.resolvable⟩
  · refine List.forall_mem_cons.mpr ⟨⟨p, ?_, hdenotes⟩, h.given⟩
    rw [h.others c.channel hne, get?_set, if_pos rfl]
  · intro channel hothers
    obtain ⟨hchannel, hrest⟩ := List.forall_mem_cons.mp hothers
    rw [h.others channel hrest, get?_set, if_neg (Ne.symm hchannel)]

theorem adds_cons_iff {several : Bool} {d e : Draft} {c : Clause} {cs : List Clause} :
    Adds several d (c :: cs) e ↔
      (several = true → c.channel?.isSome) ∧ d.get? c.channel = none ∧
        Resolvable c.channel c.mentions ∧
          ∃ p, c.Denotes p ∧ Adds several (d.set c.channel p) cs e := by
  constructor
  · intro h
    obtain ⟨p, hp, hdenotes⟩ := h.given c List.mem_cons_self
    exact ⟨fun hs => h.keyed hs c List.mem_cons_self, h.fresh c List.mem_cons_self,
      h.resolvable c List.mem_cons_self, p, hdenotes, h.tail hp⟩
  · rintro ⟨hkeyed, hfresh, hresolvable, p, hdenotes, h⟩
    exact h.cons hkeyed hfresh hresolvable hdenotes

theorem foldlM_add_eq_ok {several : Bool} {d e : Draft} {sections : List WrittenSection} :
    sections.foldlM (Draft.add several) d = .ok e ↔
      Adds several d (sections.map WrittenSection.clause) e := by
  induction sections generalizing d with
  | nil =>
    rw [List.foldlM_nil, List.map_nil, adds_nil_iff]
    exact ⟨fun h => by cases h; rfl, fun h => by rw [h]; rfl⟩
  | cons w rest ih =>
    rw [List.foldlM_cons, Outcome.bind_eq_ok, List.map_cons, adds_cons_iff]
    simp only [add_eq_ok, ih]
    constructor
    · rintro ⟨_, ⟨hkeyed, hfresh, hresolvable, p, hdenotes, rfl⟩, hrest⟩
      exact ⟨hkeyed, hfresh, hresolvable, p, hdenotes, hrest⟩
    · rintro ⟨hkeyed, hfresh, hresolvable, p, hdenotes, hrest⟩
      exact ⟨_, ⟨hkeyed, hfresh, hresolvable, p, hdenotes, rfl⟩, hrest⟩

end Draft

theorem Clause.channel_of_key {c : Clause} {channel : Channel} (h : c.channel? = some channel) :
    c.channel = channel := by
  rw [Clause.channel, h]
  rfl

theorem Clause.key_of_channel {c : Clause} (h : c.channel ≠ .title) :
    c.channel? = some .filename ∨ c.channel? = some .folder := by
  obtain ⟨key, mentions⟩ := c
  cases key with
  | none => exact absurd rfl h
  | some channel =>
    cases channel with
    | title => exact absurd rfl h
    | filename => exact .inl rfl
    | folder => exact .inr rfl

/-- If every section that needs a key has one, no key is given twice exactly if no channel is. -/
theorem nodup_keys_iff {clauses : List Clause}
    (h : 2 ≤ clauses.length → ∀ c ∈ clauses, c.channel?.isSome) :
    (clauses.filterMap (·.channel?)).Nodup ↔ (clauses.map Clause.channel).Nodup := by
  by_cases hlength : 2 ≤ clauses.length
  · have hkeys : clauses.filterMap (·.channel?) = clauses.map Clause.channel := by
      rw [← List.filterMap_eq_map]
      apply List.filterMap_congr
      intro c hc
      obtain ⟨channel, hchannel⟩ := Option.isSome_iff_exists.mp (h hlength c hc)
      rw [hchannel, Function.comp_apply, Clause.channel_of_key hchannel]
    rw [hkeys]
  · match clauses, hlength with
    | [], _ => simp
    | [c], _ =>
      cases hc : c.channel? with
      | none => simp [hc]
      | some channel => simp [hc]
    | _ :: _ :: _, hlength => simp at hlength

theorem resolvable_of_legal {clauses : List Clause} (h : Legal clauses) {c : Clause}
    (hc : c ∈ clauses) : Resolvable c.channel c.mentions := by
  constructor
  · intro i m hm hname
    obtain ⟨hi, hkey, hliterals⟩ := h.backref c hc i m hm hname
    refine ⟨hi, ?_, hliterals⟩
    rcases hkey with hkey | hkey
    · rw [Clause.channel_of_key hkey]
      simp
    · rw [Clause.channel_of_key hkey]
      simp
  · intro m hm hname
    obtain ⟨rule, hrule⟩ := h.registered c hc m hm hname
    exact ⟨hname, rule, hrule, h.fitting c hc m hm rule hrule⟩

/-- The name `_t` is no rule. -/
theorem Rule.name_ne_backref (rule : Rule) : rule.name ≠ backref := by
  cases rule <;> decide

theorem legal_iff {clauses : List Clause} :
    Legal clauses ↔
      (2 ≤ clauses.length → ∀ c ∈ clauses, c.channel?.isSome) ∧
        (clauses.map Clause.channel).Nodup ∧
          ∀ c ∈ clauses, Resolvable c.channel c.mentions := by
  constructor
  · intro h
    exact ⟨h.keyed, (nodup_keys_iff h.keyed).mp h.once, fun c => resolvable_of_legal h⟩
  · rintro ⟨hkeyed, hdistinct, hresolvable⟩
    constructor
    · exact hkeyed
    · exact (nodup_keys_iff hkeyed).mpr hdistinct
    · intro c hc i m hm hname
      obtain ⟨hi, hchannel, hliterals⟩ := (hresolvable c hc).backref i m hm hname
      exact ⟨hi, Clause.key_of_channel hchannel, hliterals⟩
    · intro c hc m hm hname
      obtain ⟨-, rule, hrule, -⟩ := (hresolvable c hc).callable m hm hname
      exact ⟨rule, hrule⟩
    · intro c hc m hm rule hrule
      have hname : m.name ≠ backref := hrule ▸ rule.name_ne_backref
      obtain ⟨-, other, hother, hfits⟩ := (hresolvable c hc).callable m hm hname
      rw [Rule.name_injective (hrule.trans hother.symm)]
      exact hfits

/-- The draft that has the pipelines of a program for the channels of some clauses. -/
def Draft.ofProgram (clauses : List Clause) (p : Program) : Draft :=
  let given (channel : Channel) : Option Pipeline :=
    if channel ∈ clauses.map Clause.channel then some (p.pipeline channel) else none
  ⟨given .title, given .filename, given .folder⟩

theorem Draft.get?_ofProgram (clauses : List Clause) (p : Program) (channel : Channel) :
    (Draft.ofProgram clauses p).get? channel =
      if channel ∈ clauses.map Clause.channel then some (p.pipeline channel) else none := by
  cases channel <;> rfl

theorem Program.ext_pipeline {p q : Program} (h : ∀ c, p.pipeline c = q.pipeline c) : p = q := by
  obtain ⟨title, filename, folder⟩ := p
  have htitle : title = q.title := h .title
  have hfilename : filename = q.filename := h .filename
  have hfolder : folder = q.folder := h .folder
  rw [htitle, hfilename, hfolder]

/-- Clauses that are added to an empty draft make it one for a program that they denote. -/
theorem Draft.Adds.denotes {several : Bool} {d : Draft} {clauses : List Clause}
    (h : Draft.Adds several Draft.empty clauses d) : Denotes clauses d.program := by
  constructor
  · intro c hc
    obtain ⟨p, hp, hdenotes⟩ := h.given c hc
    rw [Draft.pipeline_program, hp]
    exact hdenotes
  · intro channel hothers
    rw [Draft.pipeline_program, h.others channel hothers]
    cases channel <;> rfl

theorem Draft.adds_ofProgram {several : Bool} {clauses : List Clause} {p : Program}
    (hkeyed : several = true → ∀ c ∈ clauses, c.channel?.isSome)
    (hdistinct : (clauses.map Clause.channel).Nodup)
    (hresolvable : ∀ c ∈ clauses, Resolvable c.channel c.mentions) (h : Denotes clauses p) :
    Draft.Adds several Draft.empty clauses (Draft.ofProgram clauses p) := by
  constructor
  · exact hkeyed
  · intro c _
    cases c.channel <;> rfl
  · exact hdistinct
  · exact hresolvable
  · intro c hc
    refine ⟨p.pipeline c.channel, ?_, h.given c hc⟩
    rw [Draft.get?_ofProgram, if_pos (List.mem_map_of_mem hc)]
  · intro channel hothers
    rw [Draft.get?_ofProgram, if_neg]
    · cases channel <;> rfl
    · intro hmem
      obtain ⟨c, hc, heq⟩ := List.mem_map.mp hmem
      exact hothers c hc heq

theorem Draft.program_ofProgram {clauses : List Clause} {p : Program} (h : Denotes clauses p) :
    (Draft.ofProgram clauses p).program = p := by
  apply Program.ext_pipeline
  intro channel
  rw [Draft.pipeline_program, Draft.get?_ofProgram]
  split
  · rfl
  · next hmem =>
    have hothers : ∀ c ∈ clauses, c.channel ≠ channel := fun c hc heq =>
      hmem (heq ▸ List.mem_map_of_mem hc)
    exact (h.absent channel hothers).symm

/-- Sections make the program that their clauses denote, if the clauses are legal. -/
theorem Program.ofSections_eq_ok {sections : List WrittenSection} {p : Program} :
    Program.ofSections sections = .ok p ↔
      Legal (sections.map WrittenSection.clause) ∧
        Denotes (sections.map WrittenSection.clause) p := by
  rw [Program.ofSections, Outcome.bind_eq_ok, legal_iff]
  simp only [Draft.foldlM_add_eq_ok, Outcome.pure_eq_ok, Except.ok.injEq]
  rw [← List.length_map (f := WrittenSection.clause)]
  generalize sections.map WrittenSection.clause = clauses
  constructor
  · rintro ⟨d, h, rfl⟩
    exact ⟨⟨fun hlength => h.keyed (decide_eq_true hlength), h.distinct, h.resolvable⟩, h.denotes⟩
  · rintro ⟨⟨hkeyed, hdistinct, hresolvable⟩, hdenotes⟩
    have hseveral : decide (2 ≤ clauses.length) = true → ∀ c ∈ clauses, c.channel?.isSome :=
      fun h => hkeyed (of_decide_eq_true h)
    exact ⟨Draft.ofProgram clauses p, Draft.adds_ofProgram hseveral hdistinct hresolvable hdenotes,
      Draft.program_ofProgram hdenotes⟩

theorem Denotes.unique {clauses : List Clause} {p q : Program} (h : Denotes clauses p)
    (ho : Denotes clauses q) : p = q := by
  apply Program.ext_pipeline
  intro channel
  by_cases hchannel : ∃ c ∈ clauses, c.channel = channel
  · obtain ⟨c, hc, rfl⟩ := hchannel
    exact (h.given c hc).unique (ho.given c hc)
  · have hothers : ∀ c ∈ clauses, c.channel ≠ channel := fun c hc heq => hchannel ⟨c, hc, heq⟩
    rw [h.absent channel hothers, ho.absent channel hothers]

theorem exists_calls {ms : List Mention} (h : ∀ m ∈ ms, m.Callable) :
    ∃ steps, List.Forall₂ Mention.Denotes ms steps := by
  induction ms with
  | nil => exact ⟨[], .nil⟩
  | cons m ms ih =>
    obtain ⟨hm, hms⟩ := List.forall_mem_cons.mp h
    obtain ⟨call, hcall⟩ := hm.exists_denotes
    obtain ⟨steps, hsteps⟩ := ih hms
    exact ⟨call :: steps, .cons hcall hsteps⟩

theorem Resolvable.exists_denotes {c : Clause} (h : Resolvable c.channel c.mentions) :
    ∃ p, c.Denotes p := by
  have hcallable : ∀ m ∈ c.mentions.filter (fun m => m.name ≠ ReleaseNames.backref),
      m.Callable := by
    intro m hm
    obtain ⟨hmem, hname⟩ := List.mem_filter.mp hm
    exact h.callable m hmem (by simpa using hname)
  obtain ⟨steps, hsteps⟩ := exists_calls hcallable
  by_cases hhead : ∃ m, c.mentions.head? = some m ∧ m.name = ReleaseNames.backref
  · exact ⟨⟨.title, steps⟩, ⟨fun _ => hhead, fun _ => rfl⟩, hsteps⟩
  · exact ⟨⟨.request, steps⟩, ⟨fun h => (nomatch h), fun h => absurd h hhead⟩, hsteps⟩

theorem Legal.exists_denotes {clauses : List Clause} (h : Legal clauses) :
    ∃ p, Denotes clauses p := by
  obtain ⟨-, hdistinct, hresolvable⟩ := legal_iff.mp h
  have hpipeline : ∀ channel, ∃ p : Pipeline,
      (∀ c ∈ clauses, c.channel = channel → c.Denotes p) ∧
        ((∀ c ∈ clauses, c.channel ≠ channel) → p = .default channel) := by
    intro channel
    by_cases hchannel : ∃ c ∈ clauses, c.channel = channel
    · obtain ⟨c, hc, rfl⟩ := hchannel
      obtain ⟨p, hp⟩ := (hresolvable c hc).exists_denotes
      refine ⟨p, ?_, fun hothers => absurd rfl (hothers c hc)⟩
      intro c' hc' heq
      rw [List.inj_on_of_nodup_map hdistinct hc' hc heq]
      exact hp
    · exact ⟨.default channel, fun c hc heq => absurd ⟨c, hc, heq⟩ hchannel, fun _ => rfl⟩
  choose pipeline hgiven habsent using hpipeline
  refine ⟨⟨pipeline .title, pipeline .filename, pipeline .folder⟩, ?_, ?_⟩
  · intro c hc
    have hdenotes := hgiven c.channel c hc rfl
    generalize c.channel = channel at hdenotes
    cases channel <;> exact hdenotes
  · intro channel hothers
    have hdefault := habsent channel hothers
    cases channel <;> exact hdefault

namespace Lexer

/-- The tokens of an expression end with the mark for the end, which is nowhere else. -/
theorem exists_of_readTokens {total : Nat} {cs : List Char} {located : List Located}
    (h : readTokens total cs = .ok located) :
    ∃ used p, located = used ++ [⟨.stop, p⟩] ∧
      Token.stop ∉ WrittenSection.tokensOf used := by
  fun_induction readTokens total cs generalizing located with
  | case1 =>
    cases h
    exact ⟨[], total, rfl, by simp⟩
  | case2 => cases h
  | case3 => cases h
  | case4 cs c rest hcs t after htoken tokens hrest ih =>
    cases h
    obtain ⟨used, p, rfl, hused⟩ := ih hrest
    refine ⟨⟨t, offset total (c :: rest)⟩ :: used, p, rfl, ?_⟩
    obtain ⟨word, -, hword, -⟩ := readToken_eq_ok_iff.mp htoken
    rw [WrittenSection.tokensOf_cons, List.mem_cons, not_or]
    exact ⟨Ne.symm (Token.ne_stop_of_source hword), hused⟩

end Lexer

open Grammar

/-- Compiling an expression whose tokens are known. -/
theorem compile_eq_ok_iff {text : String} {used : List Located} {position : Nat}
    (hblank : isBlankText text = false)
    (htokens : Lexer.tokenize text = .ok (used ++ [⟨.stop, position⟩]))
    (hused : Token.stop ∉ WrittenSection.tokensOf used) {p : Program} :
    compile (some text) = .ok p ↔
      ∃ clauses, IsExpression (WrittenSection.tokensOf used) clauses ∧ Legal clauses ∧
        Denotes clauses p := by
  rw [compile, hblank]
  simp only [Bool.false_eq_true, if_false, htokens, Outcome.ok_bind, Outcome.bind_eq_ok,
    Program.ofSections_eq_ok, ← WrittenSection.readAll_iff position hused]
  constructor
  · rintro ⟨sections, hread, hlegal, hdenotes⟩
    exact ⟨_, ⟨sections, hread, rfl⟩, hlegal, hdenotes⟩
  · rintro ⟨_, ⟨sections, hread, rfl⟩, hlegal, hdenotes⟩
    exact ⟨sections, hread, hlegal, hdenotes⟩

/-- An expression that is not blank and has tokens compiles exactly if they derive legal clauses.
It derives no others, and it compiles to the one program that they denote. -/
theorem compiles_iff_legal {text : String} {located : List Located}
    (hblank : isBlankText text = false) (htokens : Lexer.tokenize text = .ok located) :
    ∃ ts, located.map (·.token) = ts ++ [.stop] ∧
      ((∃ p, compile (some text) = .ok p) ↔
        ∃ clauses, IsExpression ts clauses ∧ Legal clauses) ∧
      ∀ p, compile (some text) = .ok p →
        ∃ clauses, IsExpression ts clauses ∧ (∀ others, IsExpression ts others → others = clauses) ∧
          ∀ q, Denotes clauses q ↔ q = p := by
  obtain ⟨used, position, rfl, hused⟩ := Lexer.exists_of_readTokens htokens
  refine ⟨WrittenSection.tokensOf used, by simp [WrittenSection.tokensOf], ?_, ?_⟩
  · constructor
    · rintro ⟨p, hp⟩
      obtain ⟨clauses, hderived, hlegal, -⟩ := (compile_eq_ok_iff hblank htokens hused).mp hp
      exact ⟨clauses, hderived, hlegal⟩
    · rintro ⟨clauses, hderived, hlegal⟩
      obtain ⟨p, hdenotes⟩ := hlegal.exists_denotes
      exact ⟨p, (compile_eq_ok_iff hblank htokens hused).mpr ⟨clauses, hderived, hlegal, hdenotes⟩⟩
  · intro p hp
    obtain ⟨clauses, hderived, -, hdenotes⟩ := (compile_eq_ok_iff hblank htokens hused).mp hp
    refine ⟨clauses, hderived, fun _ hother => WrittenSection.clauses_unique hother hderived, ?_⟩
    intro q
    constructor
    · intro hq
      exact hq.unique hdenotes
    · rintro rfl
      exact hdenotes

theorem compiles_iff_legal_backref :
    ∃ located ts, Lexer.tokenize "n:_t" = .ok located ∧ located.map (·.token) = ts ++ [.stop] ∧
      ∃ clauses, IsExpression ts clauses ∧
        ∀ q, Denotes clauses q ↔ q = ⟨.default .title, ⟨.title, []⟩, .default .folder⟩ := by
  have hblank : isBlankText "n:_t" = false := by decide +kernel
  have htokens : (Lexer.tokenize "n:_t").toOption =
      some [⟨.ident "n", 0⟩, ⟨.colon, 1⟩, ⟨.ident "_t", 2⟩, ⟨.stop, 4⟩] := by
    decide +kernel
  have hcompile : (compile (some "n:_t")).toOption =
      some ⟨.default .title, ⟨.title, []⟩, .default .folder⟩ := by
    decide +kernel
  have htokens := Outcome.eq_ok_of_toOption htokens
  obtain ⟨ts, hts, -, hdenotes⟩ := compiles_iff_legal hblank htokens
  obtain ⟨clauses, hderived, -, hprogram⟩ := hdenotes _ (Outcome.eq_ok_of_toOption hcompile)
  exact ⟨_, ts, htokens, hts, clauses, hderived, hprogram⟩

end ReleaseNames
