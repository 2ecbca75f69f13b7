import ReleaseNames.Proofs.Grammar
import ReleaseNames.Proofs.Outcome

/-!
# Resolving is denoting

A written rule resolves to a call exactly if it is callable, and then to the one
call that it denotes. The same holds of a chain and its pipeline, and of a list
of sections and their program.
-/

namespace ReleaseNames

theorem Arg.literal_injective {a b : Arg} (h : a.literal = b.literal) : a = b := by
  cases a with
  | int => cases b <;> cases h; rfl
  | str => cases b <;> cases h; rfl

theorem Arg.literal_eq_int {a : Arg} {v : Int64} : a.literal = .int v ↔ a = .int v := by
  cases a <;> simp [Arg.literal]

theorem Arg.literal_eq_str {a : Arg} {s : String} : a.literal = .str s ↔ a = .str s := by
  cases a <;> simp [Arg.literal]

namespace Param

theorem Takes.exists_arg {p : Param} {l : Literal} (h : p.Takes l) :
    ∃ a : Arg, a.literal = l := by
  cases l with
  | int value => exact ⟨.int value, rfl⟩
  | decimal value => cases h
  | str value => exact ⟨.str value, rfl⟩

theorem toArg_eq_ok {rule : Rule} {position index : Nat} {p : Param} {l : Literal} {a : Arg} :
    l.toArg rule position index p = .ok a ↔ p.Takes l ∧ a.literal = l := by
  obtain ⟨name, default, ascii⟩ := p
  cases default with
  | int v =>
    cases l with
    | int w => simp [Literal.toArg, Takes, Arg.type, Arg.literal_eq_int, eq_comm]
    | decimal d => simp [Literal.toArg, Takes]
    | str s => simp [Literal.toArg, Takes, Arg.type]
  | str t =>
    cases l with
    | int w => simp [Literal.toArg, Takes, Arg.type]
    | decimal d => simp [Literal.toArg, Takes]
    | str s =>
      have hflip : Arg.str s = a ↔ a = .str s := eq_comm
      cases ascii with
      | false => simp [Literal.toArg, Takes, Arg.type, Arg.literal_eq_str, hflip]
      | true =>
        cases hs : isAsciiText s with
        | false => simp [Literal.toArg, Takes, Arg.type, hs]
        | true => simp [Literal.toArg, Takes, Arg.type, Arg.literal_eq_str, hs, hflip]

end Param

namespace Completes

theorem nil_iff {params : List Param} {args : List Arg} :
    Completes params [] args ↔ args = params.map (·.default) := by
  constructor
  · intro h
    exact h.omitted
  · rintro rfl
    exact ⟨rfl, rfl⟩

theorem cons_iff {p : Param} {params : List Param} {l : Literal} {literals : List Literal}
    {args : List Arg} :
    Completes (p :: params) (l :: literals) args ↔
      ∃ a rest, args = a :: rest ∧ a.literal = l ∧ Completes params literals rest := by
  constructor
  · rintro ⟨hwritten, homitted⟩
    cases args with
    | nil => cases hwritten
    | cons a rest =>
      simp only [List.length_cons, List.take_succ_cons, List.map_cons, List.cons.injEq] at hwritten
      exact ⟨a, rest, rfl, hwritten.1, hwritten.2, homitted⟩
  · rintro ⟨a, rest, rfl, rfl, hwritten, homitted⟩
    exact ⟨by simp [hwritten], homitted⟩

theorem unique {params : List Param} {literals : List Literal} {args others : List Arg}
    (h : Completes params literals args) (ho : Completes params literals others) :
    args = others := by
  have htake : args.take literals.length = others.take literals.length :=
    List.map_injective_iff.mpr (fun _ _ => Arg.literal_injective)
      (h.written.trans ho.written.symm)
  rw [← List.take_append_drop literals.length args, htake, h.omitted, ← ho.omitted,
    List.take_append_drop]

theorem exists_of_fits {params : List Param} {literals : List Literal}
    (h : Fits params literals) : ∃ args, Completes params literals args := by
  obtain ⟨hlength, htakes⟩ := h
  induction params generalizing literals with
  | nil =>
    obtain rfl := List.eq_nil_of_length_eq_zero (Nat.le_zero.mp hlength)
    exact ⟨_, nil_iff.mpr rfl⟩
  | cons p params ih =>
    cases literals with
    | nil => exact ⟨_, nil_iff.mpr rfl⟩
    | cons l literals =>
      cases htakes with
      | cons htake hrest =>
        obtain ⟨a, ha⟩ := htake.exists_arg
        obtain ⟨rest, hcompletes⟩ := ih (Nat.le_of_succ_le_succ hlength) hrest
        exact ⟨a :: rest, cons_iff.mpr ⟨a, rest, rfl, ha, hcompletes⟩⟩

end Completes

theorem fillArgs_eq_ok {rule : Rule} {position index : Nat} {params : List Param}
    {literals : List Literal} {args : List Arg} (hlength : literals.length ≤ params.length) :
    fillArgs rule position index params literals = .ok args ↔
      List.Forall₂ Param.Takes (params.take literals.length) literals ∧
        Completes params literals args := by
  induction params generalizing index literals args with
  | nil =>
    obtain rfl := List.eq_nil_of_length_eq_zero (Nat.le_zero.mp hlength)
    simp [fillArgs, Completes.nil_iff, eq_comm]
  | cons p params ih =>
    cases literals with
    | nil => simp [fillArgs, Completes.nil_iff, eq_comm]
    | cons l literals =>
      have hrest : literals.length ≤ params.length := Nat.le_of_succ_le_succ hlength
      simp only [fillArgs, Outcome.bind_eq_ok, Param.toArg_eq_ok, ih hrest, Completes.cons_iff]
      constructor
      · rintro ⟨a, ⟨htakes, rfl⟩, rest, ⟨hall, hcompletes⟩, hargs⟩
        cases hargs
        exact ⟨.cons htakes hall, a, rest, rfl, rfl, hcompletes⟩
      · rintro ⟨hall, a, rest, rfl, rfl, hcompletes⟩
        cases hall with
        | cons htakes hall => exact ⟨a, ⟨htakes, rfl⟩, rest, ⟨hall, hcompletes⟩, rfl⟩

namespace Mention

def Callable (m : Mention) : Prop :=
  m.name ≠ backref ∧ ∃ rule : Rule, rule.name = m.name ∧ Fits rule.params m.literals

theorem Denotes.unique {m : Mention} {call other : Call} (h : m.Denotes call)
    (ho : m.Denotes other) : call = other := by
  obtain ⟨rule, args⟩ := call
  obtain ⟨rule', args'⟩ := other
  obtain rfl : rule = rule' := Rule.name_injective (h.name.trans ho.name.symm)
  obtain rfl : args = args' := h.args.unique ho.args
  rfl

theorem Callable.exists_denotes {m : Mention} (h : m.Callable) : ∃ call, m.Denotes call := by
  obtain ⟨-, rule, hname, hfits⟩ := h
  obtain ⟨args, hargs⟩ := Completes.exists_of_fits hfits
  exact ⟨⟨rule, args⟩, hname, hargs⟩

end Mention

theorem Call.resolve_eq_ok {rule : Rule} {literals : List Literal} {position : Nat} {call : Call} :
    Call.resolve rule literals position = .ok call ↔
      Fits rule.params literals ∧ call.rule = rule ∧ Completes rule.params literals call.args := by
  rw [Call.resolve]
  split
  · next hmany =>
    constructor
    · intro h
      cases h
    · rintro ⟨⟨hlength, -⟩, -⟩
      exact absurd hlength (Nat.not_le.mpr hmany)
  · next hfew =>
    have hlength := Nat.not_lt.mp hfew
    rw [Outcome.bind_eq_ok]
    constructor
    · rintro ⟨args, hargs, hcall⟩
      cases hcall
      obtain ⟨htakes, hcompletes⟩ := (fillArgs_eq_ok hlength).mp hargs
      exact ⟨⟨hlength, htakes⟩, rfl, hcompletes⟩
    · rintro ⟨⟨-, htakes⟩, rfl, hcompletes⟩
      exact ⟨call.args, (fillArgs_eq_ok hlength).mpr ⟨htakes, hcompletes⟩, rfl⟩

theorem WrittenRule.resolve_eq_ok {w : WrittenRule} {call : Call} :
    w.resolve = .ok call ↔ w.mention.Callable ∧ w.mention.Denotes call := by
  rw [WrittenRule.resolve]
  split
  · next hbackref =>
    constructor
    · intro h
      cases h
    · rintro ⟨⟨hname, -⟩, -⟩
      exact absurd hbackref hname
  · next hname =>
    split
    · next rule hrule =>
      have hrule := Rule.name_of_ofName? hrule
      rw [Call.resolve_eq_ok]
      constructor
      · rintro ⟨hfits, rfl, hcompletes⟩
        exact ⟨⟨hname, _, hrule, hfits⟩, hrule, hcompletes⟩
      · rintro ⟨⟨-, other, hother, hfits⟩, hdenoted, hcompletes⟩
        obtain rfl : other = rule := Rule.name_injective (hother.trans hrule.symm)
        obtain rfl : call.rule = other := Rule.name_injective (hdenoted.trans hrule.symm)
        exact ⟨hfits, rfl, hcompletes⟩
    · next hnone =>
      constructor
      · intro h
        cases h
      · rintro ⟨⟨-, rule, hrule, -⟩, -⟩
        have hfound := Rule.ofName?_name rule
        rw [hrule] at hfound
        exact absurd (hnone.symm.trans hfound) (by simp)

theorem mapM_resolve_eq_ok {rules : List WrittenRule} {steps : List Call} :
    rules.mapM WrittenRule.resolve = .ok steps ↔
      (∀ m ∈ rules.map WrittenRule.mention, m.Callable) ∧
        List.Forall₂ Mention.Denotes (rules.map WrittenRule.mention) steps := by
  rw [Outcome.mapM_eq_ok, List.forall₂_map_left_iff]
  simp only [WrittenRule.resolve_eq_ok]
  constructor
  · intro h
    refine ⟨?_, h.imp fun _ _ hstep => hstep.2⟩
    induction h with
    | nil => simp
    | cons hstep _ ih => simpa using ⟨hstep.1, by simpa using ih⟩
  · rintro ⟨hcallable, hdenotes⟩
    induction hdenotes with
    | nil => exact .nil
    | cons hstep _ ih =>
      rw [List.map_cons, List.forall_mem_cons] at hcallable
      exact .cons ⟨hcallable.1, hstep⟩ (ih hcallable.2)

/-- The mentions of a section for a channel can be resolved. -/
structure Resolvable (channel : Channel) (mentions : List Mention) : Prop where
  backref : ∀ i m, mentions[i]? = some m → m.name = backref →
    i = 0 ∧ channel ≠ .title ∧ m.literals = []
  callable : ∀ m ∈ mentions, m.name ≠ ReleaseNames.backref → m.Callable

namespace Resolvable

variable {channel : Channel} {m : Mention} {ms : List Mention}

theorem cons_iff_of_backref (hm : m.name = ReleaseNames.backref) :
    Resolvable channel (m :: ms) ↔
      channel ≠ .title ∧ m.literals = [] ∧ ∀ n ∈ ms, n.Callable := by
  constructor
  · intro h
    obtain ⟨-, hchannel, hliterals⟩ := h.backref 0 m rfl hm
    refine ⟨hchannel, hliterals, fun n hn => ?_⟩
    apply h.callable n (List.mem_cons_of_mem m hn)
    intro hname
    obtain ⟨i, hi⟩ := List.mem_iff_getElem?.mp hn
    have := (h.backref (i + 1) n hi hname).1
    omega
  · rintro ⟨hchannel, hliterals, hcallable⟩
    constructor
    · intro i n hn hname
      cases i with
      | zero =>
        cases hn
        exact ⟨rfl, hchannel, hliterals⟩
      | succ i => exact absurd hname (hcallable n (List.mem_of_getElem? hn)).1
    · intro n hn hname
      rcases List.mem_cons.mp hn with rfl | hn
      · exact absurd hm hname
      · exact hcallable n hn

theorem iff_of_head_ne
    (hm : ∀ m, ms.head? = some m → channel = .title ∨ m.name ≠ ReleaseNames.backref) :
    Resolvable channel ms ↔ ∀ n ∈ ms, n.Callable := by
  constructor
  · intro h n hn
    apply h.callable n hn
    intro hname
    obtain ⟨i, hi⟩ := List.mem_iff_getElem?.mp hn
    obtain ⟨rfl, hchannel, -⟩ := h.backref i n hi hname
    rcases hm n (by rw [List.head?_eq_getElem?, hi]) with htitle | hne
    · exact hchannel htitle
    · exact hne hname
  · intro h
    constructor
    · intro i n hn hname
      exact absurd hname (h n (List.mem_of_getElem? hn)).1
    · intro n hn _
      exact h n hn

end Resolvable

theorem filter_of_callable {ms : List Mention} (h : ∀ m ∈ ms, m.Callable) :
    (ms.filter fun m => m.name ≠ backref) = ms :=
  List.filter_eq_self.mpr fun m hm => by simpa using (h m hm).1

namespace Clause

variable {key : Option Channel} {m : Mention} {ms : List Mention} {p : Pipeline}

theorem denotes_iff_of_callable (h : ∀ m ∈ ms, m.Callable) :
    Clause.Denotes ⟨key, ms⟩ p ↔ p.seed = .request ∧ List.Forall₂ Mention.Denotes ms p.steps := by
  have hfilter := filter_of_callable h
  have hhead : ¬ ∃ m, ms.head? = some m ∧ m.name = backref := by
    rintro ⟨m, hm, hname⟩
    exact (h m (List.mem_of_head? hm)).1 hname
  constructor
  · rintro ⟨hseed, hsteps⟩
    rw [hfilter] at hsteps
    refine ⟨?_, hsteps⟩
    cases hp : p.seed with
    | request => rfl
    | title => exact absurd (hseed.mp hp) hhead
  · rintro ⟨hseed, hsteps⟩
    refine ⟨?_, by rw [hfilter]; exact hsteps⟩
    rw [hseed]
    exact ⟨(nomatch ·), fun h => absurd h hhead⟩

theorem denotes_iff_of_backref (hm : m.name = backref) (h : ∀ m ∈ ms, m.Callable) :
    Clause.Denotes ⟨key, m :: ms⟩ p ↔
      p.seed = .title ∧ List.Forall₂ Mention.Denotes ms p.steps := by
  have hfilter : ((m :: ms).filter fun m => m.name ≠ backref) = ms := by
    rw [List.filter_cons_of_neg (by simpa using hm), filter_of_callable h]
  constructor
  · rintro ⟨hseed, hsteps⟩
    rw [hfilter] at hsteps
    exact ⟨hseed.mpr ⟨m, rfl, hm⟩, hsteps⟩
  · rintro ⟨hseed, hsteps⟩
    refine ⟨⟨fun _ => ⟨m, rfl, hm⟩, fun _ => hseed⟩, ?_⟩
    rw [hfilter]
    exact hsteps

end Clause

namespace Pipeline

variable {channel : Channel} {key : Option Channel} {rules : List WrittenRule} {p : Pipeline}

theorem request_eq_ok (hhead : ∀ m, (rules.map WrittenRule.mention).head? = some m →
      channel = .title ∨ m.name ≠ backref) :
    (rules.mapM WrittenRule.resolve >>= fun steps => pure ⟨.request, steps⟩) = .ok p ↔
      Resolvable channel (rules.map WrittenRule.mention) ∧
        Clause.Denotes ⟨key, rules.map WrittenRule.mention⟩ p := by
  rw [Outcome.bind_eq_ok, Resolvable.iff_of_head_ne hhead]
  constructor
  · rintro ⟨steps, hsteps, hp⟩
    cases hp
    obtain ⟨hcallable, hdenotes⟩ := mapM_resolve_eq_ok.mp hsteps
    exact ⟨hcallable, (Clause.denotes_iff_of_callable hcallable).mpr ⟨rfl, hdenotes⟩⟩
  · rintro ⟨hcallable, hclause⟩
    obtain ⟨hseed, hdenotes⟩ := (Clause.denotes_iff_of_callable hcallable).mp hclause
    obtain ⟨seed, steps⟩ := p
    obtain rfl : seed = .request := hseed
    exact ⟨steps, mapM_resolve_eq_ok.mpr ⟨hcallable, hdenotes⟩, rfl⟩

theorem title_eq_ok {first : WrittenRule} (hname : first.name = backref)
    (hchannel : channel ≠ .title) (hliterals : first.literals = []) :
    (rules.mapM WrittenRule.resolve >>= fun steps => pure ⟨.title, steps⟩) = .ok p ↔
      Resolvable channel (first.mention :: rules.map WrittenRule.mention) ∧
        Clause.Denotes ⟨key, first.mention :: rules.map WrittenRule.mention⟩ p := by
  rw [Outcome.bind_eq_ok, Resolvable.cons_iff_of_backref hname]
  constructor
  · rintro ⟨steps, hsteps, hp⟩
    cases hp
    obtain ⟨hcallable, hdenotes⟩ := mapM_resolve_eq_ok.mp hsteps
    exact ⟨⟨hchannel, hliterals, hcallable⟩,
      (Clause.denotes_iff_of_backref hname hcallable).mpr ⟨rfl, hdenotes⟩⟩
  · rintro ⟨⟨-, -, hcallable⟩, hclause⟩
    obtain ⟨hseed, hdenotes⟩ := (Clause.denotes_iff_of_backref hname hcallable).mp hclause
    obtain ⟨seed, steps⟩ := p
    obtain rfl : seed = .title := hseed
    exact ⟨steps, mapM_resolve_eq_ok.mpr ⟨hcallable, hdenotes⟩, rfl⟩

/-- A chain resolves to the pipeline that it denotes, if it can be resolved. -/
theorem resolve_eq_ok :
    Pipeline.resolve channel rules = .ok p ↔
      Resolvable channel (rules.map WrittenRule.mention) ∧
        Clause.Denotes ⟨key, rules.map WrittenRule.mention⟩ p := by
  cases rules with
  | nil =>
    have hhead : ∀ m, (([] : List WrittenRule).map WrittenRule.mention).head? = some m →
        channel = .title ∨ m.name ≠ backref := by simp
    exact request_eq_ok hhead
  | cons first rest =>
    rw [Pipeline.resolve]
    split
    · next hfirst =>
      split
      · next hliterals =>
        constructor
        · intro h
          cases h
        · rintro ⟨hresolvable, -⟩
          have hnil := ((Resolvable.cons_iff_of_backref hfirst.1).mp hresolvable).2.1
          exact absurd hnil hliterals
      · next hliterals =>
        exact title_eq_ok hfirst.1 hfirst.2 (Decidable.not_not.mp hliterals)
    · next hfirst =>
      apply request_eq_ok
      intro m hm
      obtain rfl : first.mention = m := by simpa using hm
      by_cases hchannel : channel = .title
      · exact .inl hchannel
      · exact .inr fun hname => hfirst ⟨hname, hchannel⟩

end Pipeline

theorem Clause.Denotes.unique {c : Clause} {p q : Pipeline} (h : c.Denotes p)
    (ho : c.Denotes q) : p = q := by
  obtain ⟨seed, steps⟩ := p
  obtain ⟨seed', steps'⟩ := q
  obtain rfl : steps = steps' :=
    List.right_unique_forall₂' (fun _ _ _ hcall hother => hcall.unique hother) h.steps ho.steps
  have hseed : seed = .title ↔ seed' = .title := h.seed.trans ho.seed.symm
  cases seed <;> cases seed' <;> simp_all

end ReleaseNames
