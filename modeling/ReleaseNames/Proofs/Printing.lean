import ReleaseNames.Proofs.Spelling
import ReleaseNames.Proofs.WellFormed

/-!
# Printing programs

A well-formed program can be written as an expression in many ways: its sections
in any order, its defaults given or left out, and white space anywhere between
tokens. Every such text compiles to the program again. One of the texts gives all
sections in channel order and all arguments.
-/

namespace ReleaseNames

/-- A pipeline as a chain of mentions: `_t` first if it starts from the title, then a mention of
each call. -/
def Pipeline.Writes (p : Pipeline) (mentions : List Mention) : Prop :=
  match p.seed with
  | .title => ∃ rest, mentions = ⟨backref, []⟩ :: rest ∧ List.Forall₂ Mention.Denotes rest p.steps
  | .request => List.Forall₂ Mention.Denotes mentions p.steps

/-- A program as one clause for each channel, in any order. -/
structure Program.Writes (p : Program) (clauses : List Clause) : Prop where
  channels : (clauses.map (·.channel?)).Perm [some .title, some .filename, some .folder]
  pipelines : ∀ c ∈ clauses, (p.pipeline c.channel).Writes c.mentions

/-- A text that writes the program: it spells tokens that derive clauses for it. -/
def Program.IsWritten (p : Program) (text : String) : Prop :=
  ∃ clauses ts, p.Writes clauses ∧ Grammar.IsExpression ts clauses ∧ Spells ts text.toList

def Mention.tokens (m : Mention) : List Token :=
  if m.literals = [] then [.ident m.name]
  else .ident m.name :: .openParen ::
    ([Token.comma].intercalate (m.literals.map fun l => [l.token]) ++ [.closeParen])

def Clause.tokens (c : Clause) : List Token :=
  .ident c.channel.keyText :: .colon :: [Token.arrow].intercalate (c.mentions.map Mention.tokens)

def Call.mention (call : Call) : Mention :=
  ⟨call.rule.name, call.args.map Arg.literal⟩

def Pipeline.mentions (p : Pipeline) : List Mention :=
  match p.seed with
  | .title => ⟨backref, []⟩ :: p.steps.map Call.mention
  | .request => p.steps.map Call.mention

def Program.clauses (p : Program) : List Clause :=
  Channel.all.map fun c => ⟨some c, (p.pipeline c).mentions⟩

def Program.print (p : Program) : String :=
  String.ofList
    (([Token.pipe].intercalate (p.clauses.map Clause.tokens)).flatMap Token.spelling)

namespace Grammar

theorem separated_of_symbol {xs ys : List Token} {s : Token} (hs : s.isSymbol = true)
    (hxs : Separated xs) (hys : Separated ys) : Separated (xs ++ s :: ys) := by
  apply List.isChain_append.mpr
  refine ⟨hxs, List.isChain_cons.mpr ⟨?_, hys⟩, ?_⟩
  · intro y _
    exact .inl hs
  · intro x _ y hy
    cases hy
    exact .inr hs

theorem separated_singleton (t : Token) : Separated [t] :=
  List.isChain_singleton t

theorem separated_arguments {ts : List Token} {ls : List Literal} (h : Arguments ts ls) :
    Separated ts := by
  induction h with
  | one => exact separated_singleton _
  | @more t _ ts _ _ _ ih => exact separated_of_symbol rfl (separated_singleton t) ih

theorem separated_isRule {ts : List Token} {m : Mention} (h : IsRule ts m) : Separated ts := by
  cases h with
  | bare name => exact separated_singleton _
  | empty name =>
    have hclose : Separated [.closeParen] := separated_singleton _
    exact separated_of_symbol rfl (separated_singleton (.ident name)) hclose
  | call name hargs =>
    have hclose := separated_of_symbol (s := .closeParen) rfl (separated_arguments hargs) .nil
    exact separated_of_symbol rfl (separated_singleton (.ident name)) hclose

theorem separated_isChain {ts : List Token} {ms : List Mention} (h : IsChain ts ms) :
    Separated ts := by
  induction h with
  | one hrule => exact separated_isRule hrule
  | more hrule _ ih => exact separated_of_symbol rfl (separated_isRule hrule) ih

theorem separated_isSection {ts : List Token} {c : Clause} (h : IsSection ts c) :
    Separated ts := by
  cases h with
  | bare hchain => exact separated_isChain hchain
  | keyed c hchain =>
    exact separated_of_symbol rfl (separated_singleton (.ident c.keyText))
      (separated_isChain hchain)

theorem separated_isExpression {ts : List Token} {cs : List Clause} (h : IsExpression ts cs) :
    Separated ts := by
  induction h with
  | one hsection => exact separated_isSection hsection
  | more hsection _ ih => exact separated_of_symbol rfl (separated_isSection hsection) ih

def Spellable (m : Mention) : Prop :=
  isName m.name = true ∧ ∀ l ∈ m.literals, l.token.isPlain = true

theorem isName_keyText (c : Channel) : isName c.keyText = true := by
  cases c <;> decide +kernel

theorem plain_isExpression {ts : List Token} {cs : List Clause} (h : IsExpression ts cs)
    (hcs : ∀ c ∈ cs, ∀ m ∈ c.mentions, Spellable m) : ∀ t ∈ ts, t.isPlain = true := by
  refine forall_of_isExpression (fun t ht => ?_) isName_keyText h hcs
  cases t <;> first | rfl | cases ht

/-! Printed mentions, clauses and programs are derived by the grammar. -/

theorem arguments_tokens {ls : List Literal} (h : ls ≠ []) :
    Arguments ([Token.comma].intercalate (ls.map fun l => [l.token])) ls := by
  induction ls with
  | nil => exact absurd rfl h
  | cons l ls ih =>
    cases ls with
    | nil =>
      rw [List.map_singleton, List.intercalate_singleton]
      exact .one (literal?_token l)
    | cons l' ls =>
      rw [List.map_cons, List.map_cons, List.intercalate_cons_cons]
      exact .more (literal?_token l) (ih (by simp))

theorem isRule_tokens (m : Mention) : IsRule m.tokens m := by
  rw [Mention.tokens]
  split
  · next hnil =>
    have hm : m = ⟨m.name, []⟩ := by rw [← hnil]
    rw [hm]
    exact .bare m.name
  · next hne => exact .call m.name (arguments_tokens hne)

theorem isChain_tokens {ms : List Mention} (h : ms ≠ []) :
    IsChain ([Token.arrow].intercalate (ms.map Mention.tokens)) ms := by
  induction ms with
  | nil => exact absurd rfl h
  | cons m ms ih =>
    cases ms with
    | nil =>
      rw [List.map_singleton, List.intercalate_singleton]
      exact .one (isRule_tokens m)
    | cons m' ms =>
      rw [List.map_cons, List.map_cons, List.intercalate_cons_cons, List.append_assoc]
      exact .more (isRule_tokens m) (ih (by simp))

theorem isSection_tokens {c : Clause} (hkey : c.channel?.isSome) (h : c.mentions ≠ []) :
    IsSection c.tokens c := by
  obtain ⟨key, mentions⟩ := c
  cases key with
  | none => cases hkey
  | some channel => exact .keyed channel (isChain_tokens h)

theorem isExpression_tokens {cs : List Clause} (hne : cs ≠ [])
    (h : ∀ c ∈ cs, c.channel?.isSome ∧ c.mentions ≠ []) :
    IsExpression ([Token.pipe].intercalate (cs.map Clause.tokens)) cs := by
  induction cs with
  | nil => exact absurd rfl hne
  | cons c cs ih =>
    obtain ⟨⟨hkey, hmentions⟩, hrest⟩ := List.forall_mem_cons.mp h
    cases cs with
    | nil =>
      rw [List.map_singleton, List.intercalate_singleton]
      exact .one (isSection_tokens hkey hmentions)
    | cons c' cs =>
      rw [List.map_cons, List.map_cons, List.intercalate_cons_cons, List.append_assoc]
      exact .more (isSection_tokens hkey hmentions) (ih (by simp) hrest)

end Grammar

theorem Completes.fits {params : List Param} {literals : List Literal} {args : List Arg}
    (h : Completes params literals args)
    (hargs : List.Forall₂ (fun p a => p.Takes a.literal) params args) : Fits params literals := by
  induction hargs generalizing literals with
  | nil =>
    cases literals with
    | nil => exact ⟨Nat.le_refl 0, .nil⟩
    | cons l literals => cases h.written
  | cons htakes _ ih =>
    cases literals with
    | nil => exact ⟨Nat.zero_le _, .nil⟩
    | cons l literals =>
      obtain ⟨a, rest, heq, rfl, hrest⟩ := cons_iff.mp h
      cases heq
      obtain ⟨hlength, hall⟩ := ih hrest
      exact ⟨Nat.succ_le_succ hlength, .cons htakes hall⟩

namespace Mention.Denotes

variable {m : Mention} {call : Call}

theorem callable (h : m.Denotes call) (hcall : call.WellFormed) : m.Callable :=
  ⟨h.name ▸ call.rule.name_ne_backref, call.rule, h.name, h.args.fits hcall⟩

theorem spellable (h : m.Denotes call) : Grammar.Spellable m := by
  constructor
  · rw [← h.name]
    cases call.rule <;> decide +kernel
  · intro l hl
    rw [← h.args.written] at hl
    obtain ⟨a, -, rfl⟩ := List.mem_map.mp hl
    cases a <;> rfl

end Mention.Denotes

theorem callable_of_forall₂ {ms : List Mention} {steps : List Call}
    (h : List.Forall₂ Mention.Denotes ms steps) (hsteps : ∀ call ∈ steps, call.WellFormed) :
    ∀ m ∈ ms, m.Callable := by
  induction h with
  | nil => simp
  | cons hdenotes _ ih =>
    obtain ⟨hcall, hrest⟩ := List.forall_mem_cons.mp hsteps
    exact List.forall_mem_cons.mpr ⟨hdenotes.callable hcall, ih hrest⟩

theorem spellable_of_forall₂ {ms : List Mention} {steps : List Call}
    (h : List.Forall₂ Mention.Denotes ms steps) : ∀ m ∈ ms, Grammar.Spellable m := by
  induction h with
  | nil => simp
  | cons hdenotes _ ih => exact List.forall_mem_cons.mpr ⟨hdenotes.spellable, ih⟩

namespace Pipeline.Writes

variable {p : Pipeline} {ms : List Mention}

theorem resolvable {channel : Channel} (h : p.Writes ms) (hp : p.WellFormed)
    (hchannel : p.seed = .title → channel ≠ .title) : Resolvable channel ms := by
  rw [Pipeline.Writes] at h
  split at h
  · next hseed =>
    obtain ⟨rest, rfl, hrest⟩ := h
    exact (Resolvable.cons_iff_of_backref rfl).mpr
      ⟨hchannel hseed, rfl, callable_of_forall₂ hrest hp.steps⟩
  · have hcallable := callable_of_forall₂ h hp.steps
    refine (Resolvable.iff_of_head_ne fun m hm => .inr ?_).mpr hcallable
    exact (hcallable m (List.mem_of_head? hm)).1

theorem denotes {c : Clause} (h : p.Writes c.mentions) (hp : p.WellFormed) : c.Denotes p := by
  obtain ⟨key, ms⟩ := c
  rw [Pipeline.Writes] at h
  split at h
  · next hseed =>
    obtain ⟨rest, hms, hrest⟩ := h
    dsimp only at hms
    subst hms
    have hcallable := callable_of_forall₂ hrest hp.steps
    exact (Clause.denotes_iff_of_backref rfl hcallable).mpr ⟨hseed, hrest⟩
  · next hseed =>
    have hcallable := callable_of_forall₂ h hp.steps
    exact (Clause.denotes_iff_of_callable hcallable).mpr ⟨hseed, h⟩

theorem spellable (h : p.Writes ms) : ∀ m ∈ ms, Grammar.Spellable m := by
  rw [Pipeline.Writes] at h
  split at h
  · obtain ⟨rest, rfl, hrest⟩ := h
    refine List.forall_mem_cons.mpr ⟨⟨?_, by simp⟩, spellable_of_forall₂ hrest⟩
    decide +kernel
  · exact spellable_of_forall₂ h

end Pipeline.Writes

namespace Program.Writes

variable {p : Program} {clauses : List Clause}

theorem keyed (h : p.Writes clauses) : ∀ c ∈ clauses, c.channel?.isSome := by
  intro c hc
  have hmem := h.channels.mem_iff.mp (List.mem_map_of_mem hc)
  simp only [List.mem_cons, List.not_mem_nil, or_false] at hmem
  rcases hmem with hkey | hkey | hkey
  · rw [hkey, Option.isSome_some]
  · rw [hkey, Option.isSome_some]
  · rw [hkey, Option.isSome_some]

theorem perm_channels (h : p.Writes clauses) : (clauses.map Clause.channel).Perm Channel.all := by
  have hperm := h.channels.map fun key => key.getD .title
  rw [List.map_map] at hperm
  exact hperm

theorem legal (h : p.Writes clauses) (hp : p.WellFormed) : Legal clauses := by
  refine legal_iff.mpr ⟨fun _ => h.keyed, ?_, ?_⟩
  · exact h.perm_channels.nodup_iff.mpr (by decide)
  · intro c hc
    refine (h.pipelines c hc).resolvable (hp.pipeline c.channel) ?_
    intro hseed htitle
    rw [htitle] at hseed
    have hrequest : (p.pipeline .title).seed = .request := hp.title
    rw [hrequest] at hseed
    cases hseed

theorem denotes (h : p.Writes clauses) (hp : p.WellFormed) : Denotes clauses p := by
  constructor
  · intro c hc
    exact (h.pipelines c hc).denotes (hp.pipeline c.channel)
  · intro channel hothers
    have hmem : channel ∈ Channel.all := by cases channel <;> decide
    obtain ⟨c, hc, heq⟩ := List.mem_map.mp (h.perm_channels.mem_iff.mpr hmem)
    exact absurd heq (hothers c hc)

end Program.Writes

/-- A text that writes a well-formed program compiles to the program. -/
theorem Program.IsWritten.compile {p : Program} {text : String} (h : p.IsWritten text)
    (hp : p.WellFormed) : compile (some text) = .ok p := by
  obtain ⟨clauses, ts, hwrites, hderived, hspells⟩ := h
  have hplain := Grammar.plain_isExpression hderived fun c hc => (hwrites.pipelines c hc).spellable
  obtain ⟨used, position, hread, rfl⟩ :=
    hspells.tokenize_eq hplain (Grammar.separated_isExpression hderived)
  have hblank := hspells.not_blank hplain (Grammar.ne_nil_of_isExpression hderived)
  have hstop := WrittenSection.stop_not_mem_isExpression hderived
  exact (compile_eq_ok_iff hblank hread hstop).mpr
    ⟨clauses, hderived, hwrites.legal hp, hwrites.denotes hp⟩

theorem Spells.flatMap_spelling (ts : List Token) : Spells ts (ts.flatMap Token.spelling) := by
  induction ts with
  | nil => exact .nil rfl
  | cons t ts ih =>
    have hgap : ([] : List Char).all Text.isBlank = true := rfl
    exact .cons hgap ih

theorem Call.denotes_mention {call : Call} (h : call.WellFormed) : call.mention.Denotes call := by
  have hlength := h.length_eq
  refine ⟨rfl, ?_, ?_⟩
  · rw [Call.mention, List.length_map, List.take_length]
  · rw [Call.mention, List.length_map, List.drop_length, ← hlength, List.drop_length]
    rfl

theorem Pipeline.writes_mentions {p : Pipeline} (hp : p.WellFormed) : p.Writes p.mentions := by
  have hsteps : List.Forall₂ Mention.Denotes (p.steps.map Call.mention) p.steps := by
    rw [List.forall₂_map_left_iff, List.forall₂_same]
    exact fun call hcall => Call.denotes_mention (hp.steps call hcall)
  rw [Pipeline.Writes, Pipeline.mentions]
  cases p.seed with
  | title => exact ⟨_, rfl, hsteps⟩
  | request => exact hsteps

theorem Pipeline.mentions_ne_nil {p : Pipeline} (hp : p.WellFormed) : p.mentions ≠ [] := by
  have hnonempty := hp.nonempty
  rw [Pipeline.mentions]
  cases hseed : p.seed with
  | title => simp
  | request => simpa [hseed] using hnonempty

/-- The printed form of a well-formed program is one of the texts that write it. -/
theorem Program.isWritten_print {p : Program} (hp : p.WellFormed) : p.IsWritten p.print := by
  have hmem : ∀ c ∈ p.clauses, ∃ channel, c = ⟨some channel, (p.pipeline channel).mentions⟩ := by
    intro c hc
    obtain ⟨channel, -, rfl⟩ := List.mem_map.mp hc
    exact ⟨channel, rfl⟩
  refine ⟨p.clauses, [Token.pipe].intercalate (p.clauses.map Clause.tokens), ⟨?_, ?_⟩, ?_, ?_⟩
  · exact .refl _
  · intro c hc
    obtain ⟨channel, rfl⟩ := hmem c hc
    exact Pipeline.writes_mentions (hp.pipeline channel)
  · refine Grammar.isExpression_tokens (by simp [Program.clauses, Channel.all]) fun c hc => ?_
    obtain ⟨channel, rfl⟩ := hmem c hc
    exact ⟨rfl, Pipeline.mentions_ne_nil (hp.pipeline channel)⟩
  · rw [Program.print, String.toList_ofList]
    exact Spells.flatMap_spelling _

/-- Writing a program and compiling is the identity: every text that writes a well-formed program
compiles to it, printing makes such a text, and every program that compiling makes can be
printed. -/
theorem compile_written :
    (∀ (p : Program) (text : String), p.WellFormed → p.IsWritten text →
      compile (some text) = .ok p) ∧
    (∀ p : Program, p.WellFormed → p.IsWritten p.print) ∧
    ∀ (expression : Option String) (p : Program), compile expression = .ok p →
      p.WellFormed ∧ compile (some p.print) = .ok p := by
  refine ⟨fun p text hp h => h.compile hp, fun p hp => Program.isWritten_print hp, ?_⟩
  intro expression p h
  have hp := Program.wellFormed_of_compile h
  exact ⟨hp, (Program.isWritten_print hp).compile hp⟩

theorem compile_written_escapes :
    let p : Program := ⟨⟨.request, [.ofRule .toSeries, ⟨.ssMaxLen, [.int Int64.minValue]⟩]⟩,
      ⟨.title, [⟨.strReplaceSpace, [.str "\"\\"]⟩]⟩, .default .folder⟩
    p.WellFormed ∧ p.IsWritten p.print ∧ compile (some p.print) = .ok p := by
  intro p
  have hp : p.WellFormed := by
    refine ⟨rfl, fun c => ?_⟩
    cases c with
    | title =>
      refine ⟨.inr (by simp [p, Program.pipeline]), ?_⟩
      exact List.forall_mem_cons.mpr ⟨Call.wellFormed_ofRule _,
        List.forall_mem_cons.mpr ⟨.cons rfl .nil, by simp⟩⟩
    | filename =>
      refine ⟨.inl rfl, ?_⟩
      exact List.forall_mem_cons.mpr ⟨.cons ⟨rfl, by simp⟩ .nil, by simp⟩
    | folder => exact Pipeline.wellFormed_default .folder
  have hwritten := compile_written.2.1 p hp
  exact ⟨hp, hwritten, compile_written.1 p p.print hp hwritten⟩

example : Program.default.print = "t:legacy_t|n:_t>str_filesafe(\"_\",\"\")|f:legacy_f" := by
  decide +kernel

end ReleaseNames
