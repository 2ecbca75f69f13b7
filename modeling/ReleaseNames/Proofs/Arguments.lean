import ReleaseNames.Proofs.WellFormed
import ReleaseNames.Transform

/-!
# Calls state their arguments

A well-formed call has one argument for each parameter of its rule, of the type of
the parameter. Rules read arguments only at the indices of their parameters, and at
the type of the parameter there. So what a well-formed call does is decided by the
arguments that it has, and no default is looked up when it is applied.
-/

namespace ReleaseNames

theorem exists_of_getElem?_left {α β : Type} {R : α → β → Prop} {xs : List α} {ys : List β}
    (h : List.Forall₂ R xs ys) {i : Nat} {x : α} (hx : xs[i]? = some x) :
    ∃ y, ys[i]? = some y ∧ R x y := by
  induction h generalizing i with
  | nil => cases hx
  | @cons a b xs ys hab _ ih =>
    cases i with
    | zero =>
      cases hx
      exact ⟨b, rfl, hab⟩
    | succ i => exact ih hx

theorem Param.Takes.type_eq {p : Param} {a : Arg} (h : p.Takes a.literal) :
    a.type = p.default.type := by
  cases a with
  | int v => exact Eq.symm h
  | str s => exact h.1.symm

theorem Param.map_type_of_takes {params : List Param} {args : List Arg}
    (h : List.Forall₂ (fun p a => p.Takes a.literal) params args) :
    args.map Arg.type = params.map (·.default.type) := by
  induction h with
  | nil => rfl
  | cons htakes _ ih => rw [List.map_cons, List.map_cons, htakes.type_eq, ih]

theorem Arg.exists_int {a : Arg} (h : a.type = .integer) : ∃ v, a = .int v := by
  cases a with
  | int v => exact ⟨v, rfl⟩
  | str s => cases h

theorem Arg.exists_str {a : Arg} (h : a.type = .text) : ∃ s, a = .str s := by
  cases a with
  | int v => cases h
  | str s => exact ⟨s, rfl⟩

namespace Call

variable {call : Call} {i : Nat} {param : Param}

theorem int_of_getElem? {v : Int64} (h : call.args[i]? = some (.int v)) : call.int i = v := by
  rw [int, h]

theorem str_of_getElem? {s : String} (h : call.args[i]? = some (.str s)) : call.str i = s := by
  rw [str, h]

/-- What a call does depends on its rule and on the arguments at the parameters of the rule. -/
theorem transform_eq_of_args {other : Call} (hrule : other.rule = call.rule)
    (hint : ∀ i param, call.rule.params[i]? = some param → param.default.type = .integer →
      other.int i = call.int i)
    (hstr : ∀ i param, call.rule.params[i]? = some param → param.default.type = .text →
      other.str i = call.str i) (ctx : Context) (v : Value) :
    other.transform ctx v = call.transform ctx v := by
  obtain ⟨rule, args⟩ := call
  obtain ⟨rule', args'⟩ := other
  obtain rfl : rule' = rule := hrule
  cases rule' with
  | ssFirst | ssMaxLen =>
    have hcount := hint 0 _ rfl rfl
    simp only [transform, count, hcount]
  | toString =>
    have hcolon := hint 0 _ rfl rfl
    simp only [transform, hcolon]
  | strReplaceSpace =>
    have hreplacement := hstr 0 _ rfl rfl
    simp only [transform, hreplacement]
  | strFilesafe =>
    have hreplacement := hstr 0 _ rfl rfl
    have hpreserve := hstr 1 _ rfl rfl
    simp only [transform, hreplacement, hpreserve]
  | _ => rfl

namespace WellFormed

theorem types (h : call.WellFormed) :
    call.args.map Arg.type = call.rule.params.map (·.default.type) :=
  Param.map_type_of_takes h

theorem getElem?_int (h : call.WellFormed) (hparam : call.rule.params[i]? = some param)
    (htype : param.default.type = .integer) : call.args[i]? = some (.int (call.int i)) := by
  obtain ⟨a, ha, htakes⟩ := exists_of_getElem?_left h hparam
  obtain ⟨v, rfl⟩ := Arg.exists_int (htakes.type_eq.trans htype)
  rw [int_of_getElem? ha, ha]

theorem getElem?_str (h : call.WellFormed) (hparam : call.rule.params[i]? = some param)
    (htype : param.default.type = .text) : call.args[i]? = some (.str (call.str i)) := by
  obtain ⟨a, ha, htakes⟩ := exists_of_getElem?_left h hparam
  obtain ⟨s, rfl⟩ := Arg.exists_str (htakes.type_eq.trans htype)
  rw [str_of_getElem? ha, ha]

theorem isAsciiText_str (h : call.WellFormed) (hparam : call.rule.params[i]? = some param)
    (htype : param.default.type = .text) (hascii : param.ascii = true) :
    isAsciiText (call.str i) = true := by
  obtain ⟨a, ha, htakes⟩ := exists_of_getElem?_left h hparam
  obtain ⟨s, rfl⟩ := Arg.exists_str (htakes.type_eq.trans htype)
  rw [str_of_getElem? ha]
  exact htakes.2 hascii

end WellFormed

/-- The call states all that its rule reads. -/
structure Explicit (call : Call) : Prop where
  /-- There is one argument for each parameter. -/
  length : call.args.length = call.rule.params.length
  /-- The arguments have the types of the parameters. -/
  types : call.args.map Arg.type = call.rule.params.map (·.default.type)
  /-- What replaces the characters that a safe file name does not keep is ASCII. -/
  ascii : call.rule = .strFilesafe → isAsciiText (call.str 0) = true
  /-- The name `_t` is not called. -/
  named : call.rule.name ≠ backref
  /-- What is read as an integer is an argument. -/
  integers : ∀ (i : Nat) (param : Param), call.rule.params[i]? = some param →
    param.default.type = .integer → call.args[i]? = some (.int (call.int i))
  /-- What is read as a text is an argument. -/
  texts : ∀ (i : Nat) (param : Param), call.rule.params[i]? = some param →
    param.default.type = .text → call.args[i]? = some (.str (call.str i))
  /-- Nothing else is read: every call of the rule that reads these arguments where they stand does
  the same, whatever it reads elsewhere. -/
  reads : ∀ other : Call, other.rule = call.rule →
    (∀ i v, call.args[i]? = some (.int v) → other.int i = v) →
    (∀ i s, call.args[i]? = some (.str s) → other.str i = s) →
      ∀ ctx v, other.transform ctx v = call.transform ctx v

theorem WellFormed.explicit (h : call.WellFormed) : call.Explicit := by
  constructor
  · exact h.length_eq.symm
  · exact h.types
  · intro hrule
    have hparam : call.rule.params[0]? = some ⟨"replacement", .str "_", true⟩ := by
      rw [hrule]
      rfl
    exact h.isAsciiText_str hparam rfl rfl
  · exact call.rule.name_ne_backref
  · exact fun i param hparam htype => h.getElem?_int hparam htype
  · exact fun i param hparam htype => h.getElem?_str hparam htype
  · intro other hrule hint hstr
    refine transform_eq_of_args hrule ?_ ?_
    · exact fun i param hparam htype => hint i _ (h.getElem?_int hparam htype)
    · exact fun i param hparam htype => hstr i _ (h.getElem?_str hparam htype)

end Call

end ReleaseNames
