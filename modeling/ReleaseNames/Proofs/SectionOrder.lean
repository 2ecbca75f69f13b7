import Mathlib.Data.List.Perm.Basic
import ReleaseNames.Proofs.Language
import ReleaseNames.Proofs.SectionTexts

/-!
# Order and omission of sections

The texts between the bars of an expression are expressions with one section each.
What an expression compiles to does not depend on their order, nor on whether a
section is left out that says what holds without it, nor on whether a single
section names the title.
-/

namespace ReleaseNames

namespace Grammar

variable {ts us : List Token} {cs ds : List Clause}

theorem isExpression_intercalate {pieces : List (List Token)}
    (h : List.Forall₂ IsSection pieces cs) (hne : pieces ≠ []) :
    IsExpression ([Token.pipe].intercalate pieces) cs := by
  induction h with
  | nil => exact absurd rfl hne
  | cons hsection hrest ih =>
    cases hrest with
    | nil => simpa using IsExpression.one hsection
    | cons hsecond hothers =>
      have hexpression := ih (by simp)
      rw [List.intercalate_cons_cons, List.append_assoc]
      exact .more hsection hexpression

/-- The bars of an expression cut it into sections, one for each clause. -/
theorem isExpression_iff :
    IsExpression ts cs ↔ List.Forall₂ IsSection (ts.splitOn .pipe) cs := by
  constructor
  · intro h
    induction h with
    | one hsection =>
      rw [List.splitOn_eq_singleton (pipe_not_mem_isSection hsection)]
      exact .cons hsection .nil
    | more hsection _ ih =>
      rw [List.splitOn_append_cons_self_of_not_mem (pipe_not_mem_isSection hsection)]
      exact .cons hsection ih
  · intro h
    have hjoin : [Token.pipe].intercalate (ts.splitOn .pipe) = ts := List.intercalate_splitOn _
    rw [← hjoin]
    exact isExpression_intercalate h (List.splitOn_ne_nil _ _)

theorem IsExpression.append (ht : IsExpression ts cs) (hu : IsExpression us ds) :
    IsExpression (ts ++ .pipe :: us) (cs ++ ds) := by
  rw [isExpression_iff] at ht hu ⊢
  rw [List.splitOn_append_cons_self]
  exact List.rel_append ht hu

theorem IsExpression.of_append (h : IsExpression (ts ++ .pipe :: us) cs) :
    ∃ first others, cs = first ++ others ∧ IsExpression ts first ∧ IsExpression us others := by
  rw [isExpression_iff, List.splitOn_append_cons_self] at h
  have hfirst := List.forall₂_take (ts.splitOn .pipe).length h
  have hothers := List.forall₂_drop (ts.splitOn .pipe).length h
  rw [List.take_left] at hfirst
  rw [List.drop_left] at hothers
  exact ⟨_, _, (List.take_append_drop _ _).symm, isExpression_iff.mpr hfirst,
    isExpression_iff.mpr hothers⟩

end Grammar

/-- The clauses that the tokens of a text derive. A blank text derives none. -/
def Derives (text : String) (clauses : List Clause) : Prop :=
  ∃ located ts, Lexer.tokenize text = .ok located ∧ located.map (·.token) = ts ++ [.stop] ∧
    Grammar.IsExpression ts clauses

variable {text other : String} {clauses others : List Clause} {p : Program}

/-- What the tokens of a text are like, said of the words that the text is made of. -/
theorem exists_tokens_iff {P : List Token → Prop} :
    (∃ located ts, Lexer.tokenize text = .ok located ∧ located.map (·.token) = ts ++ [.stop] ∧
      P ts) ↔ ∃ ls, Lexer.Scans text.toList ls ∧ P (ls.map (·.token)) := by
  have htokens : ∀ (ls : List Lexeme) (position : Nat),
      (Lexer.locate 0 ls ++ [Located.mk .stop position]).map (·.token) =
        ls.map (·.token) ++ [Token.stop] := by
    intro ls position
    rw [List.map_append]
    exact congrArg (· ++ [Token.stop]) (Lexer.tokensOf_locate 0 ls)
  constructor
  · rintro ⟨located, ts, hread, hts, h⟩
    obtain ⟨ls, hls, rfl⟩ := Lexer.tokenize_eq_ok_iff.mp hread
    rw [htokens, List.append_cancel_right_eq] at hts
    exact ⟨ls, hls, hts ▸ h⟩
  · rintro ⟨ls, hls, h⟩
    exact ⟨_, _, Lexer.tokenize_eq_ok_iff.mpr ⟨ls, hls, rfl⟩, htokens ls _, h⟩

theorem derives_iff :
    Derives text clauses ↔
      ∃ ls, Lexer.Scans text.toList ls ∧ Grammar.IsExpression (ls.map (·.token)) clauses :=
  exists_tokens_iff

namespace Derives

theorem not_blank (h : Derives text clauses) : isBlankText text = false := by
  obtain ⟨located, ts, hread, hts, hderived⟩ := h
  by_contra hblank
  have htokens := Lexer.readTokens_blank (eq_true_of_ne_false hblank)
    (Lexer.utf8Length text.toList)
  obtain rfl : [⟨.stop, _⟩] = located := Except.ok.inj (htokens.symm.trans hread)
  have hnil : ts = [] := by simpa using hts
  exact Grammar.ne_nil_of_isExpression hderived hnil

/-- A text that derives clauses compiles exactly if they are legal, to what they denote. -/
theorem compile_iff (h : Derives text clauses) :
    compile (some text) = .ok p ↔ Legal clauses ∧ Denotes clauses p := by
  have hblank := h.not_blank
  obtain ⟨ls, hls, hderived⟩ := derives_iff.mp h
  have hread := Lexer.tokenize_eq_ok_iff.mpr ⟨ls, hls, rfl⟩
  rw [← Lexer.tokensOf_locate 0 ls] at hderived
  rw [compile_eq_ok_iff hblank hread (WrittenSection.stop_not_mem_isExpression hderived)]
  constructor
  · rintro ⟨others, hothers, hlegal, hdenotes⟩
    rw [WrittenSection.clauses_unique hderived hothers]
    exact ⟨hlegal, hdenotes⟩
  · rintro ⟨hlegal, hdenotes⟩
    exact ⟨clauses, hderived, hlegal, hdenotes⟩

theorem exists_of_compile (hblank : isBlankText text = false) (h : compile (some text) = .ok p) :
    ∃ clauses, Derives text clauses ∧ Legal clauses := by
  have hread : ∃ located, Lexer.tokenize text = .ok located := by
    rw [compile, hblank] at h
    obtain ⟨located, hlocated, -⟩ := Outcome.bind_eq_ok.mp h
    exact ⟨located, hlocated⟩
  obtain ⟨located, hlocated⟩ := hread
  obtain ⟨used, position, rfl, hused⟩ := Lexer.exists_of_readTokens hlocated
  obtain ⟨clauses, hderived, hlegal, -⟩ := (compile_eq_ok_iff hblank hlocated hused).mp h
  exact ⟨clauses, ⟨_, _, hlocated, by simp [WrittenSection.tokensOf], hderived⟩, hlegal⟩

/-- Two texts with a bar between them derive the clauses of both. -/
theorem append (ht : Derives text clauses) (ho : Derives other others) :
    Derives (text ++ "|" ++ other) (clauses ++ others) := by
  obtain ⟨ls, hls, hclauses⟩ := derives_iff.mp ht
  obtain ⟨ms, hms, hothers⟩ := derives_iff.mp ho
  obtain ⟨all, hall, htokens⟩ := hls.append_bar hms
  refine derives_iff.mpr ⟨all, ?_, ?_⟩
  · simpa using hall
  · rw [htokens]
    exact hclauses.append hothers

/-- A text with a bar and no quote after the bar derives the clauses of what stands before the bar
and of what stands after it. -/
theorem of_append (h : Derives (text ++ "|" ++ other) clauses) (hquote : '"' ∉ other.toList) :
    ∃ first rest, clauses = first ++ rest ∧ Derives text first ∧ Derives other rest := by
  obtain ⟨all, hall, hderived⟩ := derives_iff.mp h
  have htext : (text ++ "|" ++ other).toList = text.toList ++ '|' :: other.toList := by simp
  rw [htext] at hall
  obtain ⟨ls, ms, hls, hms, htokens⟩ := hall.of_append_bar hquote
  rw [htokens] at hderived
  obtain ⟨first, rest, rfl, hfirst, hrest⟩ := hderived.of_append
  exact ⟨first, rest, rfl, derives_iff.mpr ⟨ls, hls, hfirst⟩, derives_iff.mpr ⟨ms, hms, hrest⟩⟩

theorem intercalate {texts : List String}
    (h : List.Forall₂ (fun s c => Derives s [c]) texts clauses) (hne : texts ≠ []) :
    Derives ("|".intercalate texts) clauses := by
  induction h with
  | nil => exact absurd rfl hne
  | cons hfirst hrest ih =>
    cases hrest with
    | nil => simpa using hfirst
    | cons hsecond hothers =>
      rw [String.intercalate_cons_cons]
      exact hfirst.append (ih (by simp))

/-- The texts between the bars of an expression derive one clause each. -/
theorem sections (h : Derives text clauses) :
    "|".intercalate (sectionTexts text) = text ∧
      List.Forall₂ (fun s c => Derives s [c]) (sectionTexts text) clauses := by
  obtain ⟨ls, hls, hderived⟩ := derives_iff.mp h
  obtain ⟨hjoin, pieces, hpieces, htokens⟩ := exists_of_sectionTexts hls
  refine ⟨hjoin, ?_⟩
  rw [Grammar.isExpression_iff, ← htokens, List.forall₂_map_left_iff] at hderived
  clear hls htokens hjoin h
  generalize sectionTexts text = texts at hpieces
  induction hpieces generalizing clauses with
  | nil =>
    cases hderived
    exact .nil
  | cons hpiece _ ih =>
    cases hderived with
    | cons hsection hrest =>
      exact .cons (derives_iff.mpr ⟨_, hpiece, .one hsection⟩) (ih hrest)

end Derives

theorem Derives.unique (h : Derives text clauses) (ho : Derives text others) :
    clauses = others := by
  obtain ⟨located, ts, hread, hts, hclauses⟩ := h
  obtain ⟨_, us, hother, hus, hothers⟩ := ho
  obtain rfl := Except.ok.inj (hread.symm.trans hother)
  obtain rfl : ts = us := List.append_cancel_right (hts.symm.trans hus)
  exact WrittenSection.clauses_unique hclauses hothers

def HasSection (expression : Option String) (channel : Channel) : Prop :=
  ∃ text clauses, expression = some text ∧ Derives text clauses ∧
    ∃ c ∈ clauses, c.channel? = some channel

theorem Derives.hasSection_iff {text : String} {clauses : List Clause} {channel : Channel}
    (h : Derives text clauses) :
    HasSection (some text) channel ↔ ∃ c ∈ clauses, c.channel? = some channel := by
  constructor
  · rintro ⟨other, others, htext, hothers, hsection⟩
    cases htext
    rwa [h.unique hothers]
  · exact fun hsection => ⟨text, clauses, rfl, h, hsection⟩

/-- Without a section a channel other than the title has its default pipeline. -/
theorem pipeline_of_not_hasSection {expression : Option String} {channel : Channel}
    (hcompile : compile expression = .ok p) (hchannel : channel ≠ .title)
    (h : ¬ HasSection expression channel) : p.pipeline channel = .default channel := by
  cases expression with
  | none =>
    cases hcompile
    cases channel <;> rfl
  | some text =>
    cases hblank : isBlankText text with
    | true =>
      rw [compile, hblank] at hcompile
      cases hcompile
      cases channel <;> rfl
    | false =>
      obtain ⟨clauses, hderives, -⟩ := Derives.exists_of_compile hblank hcompile
      obtain ⟨-, hdenotes⟩ := hderives.compile_iff.mp hcompile
      refine hdenotes.absent channel fun c hc heq => h ⟨text, clauses, rfl, hderives, c, hc, ?_⟩
      subst heq
      rcases Clause.key_of_channel hchannel with hkey | hkey
      · rw [hkey, Clause.channel_of_key hkey]
      · rw [hkey, Clause.channel_of_key hkey]

/-- Some of the sections of a legal expression, in any order, are legal. -/
theorem Legal.of_subperm {cs ds : List Clause} (h : Legal ds) (hsub : cs.Subperm ds) :
    Legal cs := by
  obtain ⟨hkeyed, hdistinct, hresolvable⟩ := legal_iff.mp h
  refine legal_iff.mpr ⟨fun hlength c hc => ?_, ?_, fun c hc => ?_⟩
  · exact hkeyed (Nat.le_trans hlength hsub.length_le) c (hsub.subset hc)
  · obtain ⟨others, hperm, hsub⟩ := hsub
    exact (hperm.map Clause.channel).nodup_iff.mp (hdistinct.sublist (hsub.map Clause.channel))
  · exact hresolvable c (hsub.subset hc)

theorem Denotes.perm {cs ds : List Clause} (h : Denotes cs p) (hperm : cs.Perm ds) :
    Denotes ds p := by
  constructor
  · intro c hc
    exact h.given c (hperm.mem_iff.mpr hc)
  · intro channel hothers
    exact h.absent channel fun c hc => hothers c (hperm.mem_iff.mp hc)

section Concat

variable {d : Clause} {channel : Channel} (hkeyed : ∀ c ∈ clauses, c.channel?.isSome)
  (hkey : d.channel? = some channel) (hfree : ∀ c ∈ clauses, c.channel? ≠ some channel)

include hkeyed hfree in
theorem channel_ne_of_free : ∀ c ∈ clauses, c.channel ≠ channel := by
  intro c hc heq
  obtain ⟨key, hsome⟩ := Option.isSome_iff_exists.mp (hkeyed c hc)
  rw [Clause.channel_of_key hsome] at heq
  exact hfree c hc (heq ▸ hsome)

include hkeyed hkey hfree

/-- A legal section can be added for a channel that has none, if the others name their channels. -/
theorem Legal.concat (h : Legal clauses) (hd : Legal [d]) : Legal (clauses ++ [d]) := by
  have hne := channel_ne_of_free hkeyed hfree
  obtain ⟨-, hdistinct, hresolvable⟩ := legal_iff.mp h
  obtain ⟨-, -, hlast⟩ := legal_iff.mp hd
  refine legal_iff.mpr ⟨fun _ => ?_, ?_, ?_⟩
  · exact List.forall_mem_append.mpr ⟨hkeyed, by simp [hkey]⟩
  · rw [List.map_append, List.nodup_append]
    refine ⟨hdistinct, List.nodup_singleton _, ?_⟩
    intro a ha b hb
    obtain ⟨c, hc, rfl⟩ := List.mem_map.mp ha
    obtain rfl : b = d.channel := by simpa using hb
    rw [Clause.channel_of_key hkey]
    exact hne c hc
  · exact List.forall_mem_append.mpr ⟨hresolvable, hlast⟩

/-- A section that denotes a default changes nothing for a channel that had none. -/
theorem Denotes.concat (h : Denotes clauses p) (hd : Denotes [d] .default) :
    Denotes (clauses ++ [d]) p := by
  have hne := channel_ne_of_free hkeyed hfree
  have hchannel := Clause.channel_of_key hkey
  constructor
  · refine List.forall_mem_append.mpr ⟨h.given, ?_⟩
    have hlast := hd.given d List.mem_cons_self
    rw [hchannel] at hlast
    rw [List.forall_mem_singleton, hchannel, h.absent channel hne]
    cases channel <;> exact hlast
  · intro other hothers
    exact h.absent other fun c hc => hothers c (List.mem_append_left [d] hc)

end Concat

/-- The section that gives a channel what it has without a section. -/
def Channel.defaultSection : Channel → String
  | .title => "t:legacy_t"
  | .filename => "n:_t>str_filesafe"
  | .folder => "f:legacy_f"

theorem Channel.exists_derives_default (c : Channel) :
    ∃ clause : Clause, clause.channel? = some c ∧ Derives c.defaultSection [clause] ∧
      Legal [clause] ∧ Denotes [clause] .default := by
  have hcompile : compile (some c.defaultSection) = .ok .default :=
    Outcome.eq_ok_of_toOption (by cases c <;> decide +kernel)
  have hderives : ∃ ms, Derives c.defaultSection [⟨some c, ms⟩] := by
    cases c with
    | title =>
      have hread : Lexer.tokenize "t:legacy_t" = .ok [⟨.ident "t", 0⟩, ⟨.colon, 1⟩,
          ⟨.ident "legacy_t", 2⟩, ⟨.stop, 10⟩] := Outcome.eq_ok_of_toOption (by decide +kernel)
      exact ⟨_, _, _, hread, rfl, .one (.keyed .title (.one (.bare "legacy_t")))⟩
    | filename =>
      have hread : Lexer.tokenize "n:_t>str_filesafe" = .ok [⟨.ident "n", 0⟩, ⟨.colon, 1⟩,
          ⟨.ident "_t", 2⟩, ⟨.arrow, 4⟩, ⟨.ident "str_filesafe", 5⟩, ⟨.stop, 17⟩] :=
        Outcome.eq_ok_of_toOption (by decide +kernel)
      exact ⟨_, _, _, hread, rfl,
        .one (.keyed .filename (.more (.bare "_t") (.one (.bare "str_filesafe"))))⟩
    | folder =>
      have hread : Lexer.tokenize "f:legacy_f" = .ok [⟨.ident "f", 0⟩, ⟨.colon, 1⟩,
          ⟨.ident "legacy_f", 2⟩, ⟨.stop, 10⟩] := Outcome.eq_ok_of_toOption (by decide +kernel)
      exact ⟨_, _, _, hread, rfl, .one (.keyed .folder (.one (.bare "legacy_f")))⟩
  obtain ⟨ms, hms⟩ := hderives
  obtain ⟨hlegal, hdenotes⟩ := hms.compile_iff.mp hcompile
  exact ⟨⟨some c, ms⟩, rfl, hms, hlegal, hdenotes⟩

/-- A section without a key, with the key of the title in front of it. -/
theorem Derives.keyed {ms : List Mention} (h : Derives text [⟨none, ms⟩]) :
    Derives ("t:" ++ text) [⟨some .title, ms⟩] := by
  obtain ⟨ls, hls, hderived⟩ := derives_iff.mp h
  have hends : Token.EndsBefore .colon text.toList := trivial
  have hcolon : Lexer.Scans (':' :: text.toList) (⟨[], [':'], .colon⟩ :: ls) :=
    @Lexer.Scans.next [] [':'] text.toList .colon ls rfl (.symbol rfl) hends hls
  have hstops : Token.EndsBefore (.ident "t") (':' :: text.toList) := by
    intro c hc
    cases hc
    decide
  have hname : isName "t" = true := by decide +kernel
  have hkey : Lexer.Scans ('t' :: ':' :: text.toList)
      (⟨[], ['t'], .ident "t"⟩ :: ⟨[], [':'], .colon⟩ :: ls) :=
    @Lexer.Scans.next [] ['t'] (':' :: text.toList) (.ident "t") _ rfl (.ident hname) hstops hcolon
  refine derives_iff.mpr ⟨_, by simpa using hkey, ?_⟩
  have hchain : Grammar.IsChain (ls.map (·.token)) ms := by
    generalize ls.map (·.token) = ts at hderived
    cases hderived with
    | one hsection =>
      cases hsection with
      | bare hchain => exact hchain
    | more _ hrest => cases hrest
  exact .one (.keyed .title hchain)

theorem Derives.compile_keyed {c : Clause} (h : Derives text [c]) (hkey : c.channel? = none)
    (hp : compile (some text) = .ok p) : compile (some ("t:" ++ text)) = .ok p := by
  obtain ⟨key, ms⟩ := c
  obtain rfl : key = none := hkey
  obtain ⟨hlegal, hdenotes⟩ := h.compile_iff.mp hp
  obtain ⟨-, -, hresolvable⟩ := legal_iff.mp hlegal
  refine h.keyed.compile_iff.mpr ⟨legal_iff.mpr ⟨by simp, by simp, ?_⟩, ?_⟩
  · rw [List.forall_mem_singleton] at hresolvable ⊢
    exact hresolvable
  · constructor
    · have hgiven := hdenotes.given
      rw [List.forall_mem_singleton] at hgiven ⊢
      exact ⟨hgiven.seed, hgiven.steps⟩
    · intro channel hothers
      refine hdenotes.absent channel ?_
      rw [List.forall_mem_singleton] at hothers ⊢
      exact hothers

theorem Derives.compile_perm (h : Derives text clauses) (hp : compile (some text) = .ok p)
    {texts : List String} (hperm : texts.Perm (sectionTexts text)) :
    compile (some ("|".intercalate texts)) = .ok p := by
  obtain ⟨-, hsections⟩ := h.sections
  obtain ⟨others, hothers, hclauses⟩ := List.perm_comp_forall₂ hperm hsections
  have hne : texts ≠ [] := by
    rintro rfl
    exact sectionTexts_ne_nil text hperm.nil_eq.symm
  obtain ⟨hlegal, hdenotes⟩ := h.compile_iff.mp hp
  exact (Derives.intercalate hothers hne).compile_iff.mpr
    ⟨hlegal.of_subperm hclauses.subperm, hdenotes.perm hclauses.symm⟩

/-- Sections for channels that have none are added, one by one. -/
theorem Derives.compile_append_defaults (h : Derives text clauses)
    (hp : compile (some text) = .ok p) (hkeyed : ∀ c ∈ clauses, c.channel?.isSome)
    {absent : List Channel} (hnodup : absent.Nodup)
    (hfree : ∀ channel ∈ absent, ∀ c ∈ clauses, c.channel? ≠ some channel) :
    compile (some (text ++ String.join (absent.map fun c => "|" ++ c.defaultSection))) = .ok p := by
  induction absent generalizing text clauses with
  | nil => simpa using hp
  | cons channel absent ih =>
    obtain ⟨hnew, hnodup⟩ := List.nodup_cons.mp hnodup
    obtain ⟨hfirst, hothers⟩ := List.forall_mem_cons.mp hfree
    obtain ⟨d, hkey, hderives, hlegal, hdenotes⟩ := channel.exists_derives_default
    obtain ⟨hlegals, hdenoted⟩ := h.compile_iff.mp hp
    have hall := h.append hderives
    have hcompile := hall.compile_iff.mpr
      ⟨hlegals.concat hkeyed hkey hfirst hlegal, hdenoted.concat hkeyed hkey hfirst hdenotes⟩
    rw [List.map_cons, String.join_cons, ← String.append_assoc, ← String.append_assoc]
    refine ih hall hcompile ?_ hnodup ?_
    · exact List.forall_mem_append.mpr ⟨hkeyed, by simp [hkey]⟩
    · intro other hother
      refine List.forall_mem_append.mpr ⟨hothers other hother, ?_⟩
      rw [List.forall_mem_singleton, hkey]
      rintro ⟨⟩
      exact hnew hother

/-- What does not compile does not compile either with a section after it that has no quotes. -/
theorem exists_error_append {e : ExpressionError} (h : compile (some text) = .error e)
    (hquote : '"' ∉ other.toList) : ∃ e', compile (some (text ++ "|" ++ other)) = .error e' := by
  cases hcompile : compile (some (text ++ "|" ++ other)) with
  | error e' => exact ⟨e', rfl⟩
  | ok p =>
    have hblank : isBlankText (text ++ "|" ++ other) = false := by
      simp [isBlankText, Lexer.not_isBlank_bar]
    obtain ⟨clauses, hderives, hlegal⟩ := Derives.exists_of_compile hblank hcompile
    obtain ⟨first, rest, rfl, hfirst, -⟩ := hderives.of_append hquote
    have hlegal := hlegal.of_subperm (List.sublist_append_left first rest).subperm
    obtain ⟨q, hq⟩ := hlegal.exists_denotes
    rw [hfirst.compile_iff.mpr ⟨hlegal, hq⟩] at h
    cases h

/-- If all sections of an expression name their channels, it compiles to the same program with its
sections in any order, and with sections added that say what holds without them. A single section
without a key is the title. What does not compile does not compile either with a section added. -/
theorem sections_commute :
    (∀ (text : String) (clauses : List Clause) (p : Program), Derives text clauses →
      (∀ c ∈ clauses, c.channel?.isSome) → compile (some text) = .ok p →
        ("|".intercalate (sectionTexts text) = text ∧
          List.Forall₂ (fun s c => Derives s [c]) (sectionTexts text) clauses) ∧
        (∀ texts, texts.Perm (sectionTexts text) →
          compile (some ("|".intercalate texts)) = .ok p) ∧
        ∀ absent : List Channel, absent.Nodup →
          (∀ channel ∈ absent, ∀ c ∈ clauses, c.channel? ≠ some channel) →
            compile (some (text ++ String.join (absent.map fun c => "|" ++ c.defaultSection))) =
              .ok p) ∧
    (∀ (text : String) (c : Clause) (p : Program), Derives text [c] → c.channel? = none →
      compile (some text) = .ok p → compile (some ("t:" ++ text)) = .ok p) ∧
    ∀ (text : String) (e : ExpressionError), compile (some text) = .error e →
      ∃ e', compile (some (text ++ "|n:_t>str_filesafe")) = .error e' := by
  refine ⟨?_, fun text c p h hkey hp => h.compile_keyed hkey hp, ?_⟩
  · intro text clauses p h hkeyed hp
    refine ⟨h.sections, fun texts hperm => h.compile_perm hp hperm, ?_⟩
    intro absent hnodup hfree
    exact h.compile_append_defaults hp hkeyed hnodup hfree
  · intro text e herror
    have hsplit : text ++ "|n:_t>str_filesafe" = text ++ "|" ++ "n:_t>str_filesafe" := by
      rw [String.append_assoc]
      rfl
    rw [hsplit]
    exact exists_error_append herror (by decide +kernel)

theorem sections_commute_quoted_bar :
    let p : Program := ⟨⟨.request, [.ofRule .legacyT, ⟨.strReplaceSpace, [.str "|"]⟩]⟩,
      ⟨.title, []⟩, .default .folder⟩
    let text := "n:_t | t:legacy_t>str_replace_space(\"|\")"
    sectionTexts text = ["n:_t ", " t:legacy_t>str_replace_space(\"|\")"] ∧
      compile (some " t:legacy_t>str_replace_space(\"|\")|n:_t ") = .ok p ∧
      compile (some "n:_t | t:legacy_t>str_replace_space(\"|\")|f:legacy_f") = .ok p ∧
      compile (some "t:legacy_t") = .ok .default ∧
      ∃ e, compile (some "\"|n:_t>str_filesafe") = .error e := by
  intro p text
  have hsections : sectionTexts text = ["n:_t ", " t:legacy_t>str_replace_space(\"|\")"] := by
    decide +kernel
  have hread : Lexer.tokenize text = .ok [⟨.ident "n", 0⟩, ⟨.colon, 1⟩, ⟨.ident "_t", 2⟩,
      ⟨.pipe, 5⟩, ⟨.ident "t", 7⟩, ⟨.colon, 8⟩, ⟨.ident "legacy_t", 9⟩, ⟨.arrow, 17⟩,
      ⟨.ident "str_replace_space", 18⟩, ⟨.openParen, 35⟩, ⟨.str "|", 36⟩, ⟨.closeParen, 39⟩,
      ⟨.stop, 40⟩] := Outcome.eq_ok_of_toOption (by decide +kernel)
  have hderives : Derives text [⟨some .filename, [⟨"_t", []⟩]⟩,
      ⟨some .title, [⟨"legacy_t", []⟩, ⟨"str_replace_space", [.str "|"]⟩]⟩] :=
    ⟨_, _, hread, rfl, .more (.keyed .filename (.one (.bare "_t")))
      (.one (.keyed .title (.more (.bare "legacy_t") (.one (.call _ (.one rfl))))))⟩
  have hcompile : compile (some text) = .ok p := Outcome.eq_ok_of_toOption (by decide +kernel)
  obtain ⟨-, hperm, hdefaults⟩ := sections_commute.1 text _ p hderives (by simp) hcompile
  have hreadOne : Lexer.tokenize "legacy_t" = .ok [⟨.ident "legacy_t", 0⟩, ⟨.stop, 8⟩] :=
    Outcome.eq_ok_of_toOption (by decide +kernel)
  have hone : compile (some "legacy_t") = .ok .default :=
    Outcome.eq_ok_of_toOption (by decide +kernel)
  have hbare : Derives "legacy_t" [⟨none, [⟨"legacy_t", []⟩]⟩] :=
    ⟨_, _, hreadOne, rfl, .one (.bare (.one (.bare "legacy_t")))⟩
  have hquote : compile (some "\"") = .error (.unterminatedString 0) := by decide +kernel
  refine ⟨hsections, ?_, ?_, sections_commute.2.1 _ _ _ hbare rfl hone,
    sections_commute.2.2 _ _ hquote⟩
  · refine hperm [" t:legacy_t>str_replace_space(\"|\")", "n:_t "] ?_
    rw [hsections]
    exact .swap _ _ _
  · exact hdefaults [.folder] (by decide) (by decide)

end ReleaseNames
