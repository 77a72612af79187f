import ParLang.Proofs.Typing.Inversion
import ParLang.Proofs.Typing.Rules

/-!
# Accepted programs follow the rules

What the checker accepts in the monomorphic fragment follows the typing rules. The two go through the
program side by side: an accepted expression has, by `HasType`, the type that the checker found, and an
accepted statement leads, by `StmtTyped`, to the context that the checker ends in.
-/

namespace ParLang

/-! ## Expressions -/

/-- The literal `[]` has every array type. -/
theorem HasType.empty {names : Names} {line : Nat} {t : StaticType} (h : t.isArray) :
    HasType names (.array line []) t := by
  obtain ⟨element, helement⟩ := Option.isSome_iff_exists.mp h
  exact .array (by simp) (StaticType.arrayOf?_eq_some_iff.mpr helement)

/-- A value that may be stored at a type and fits there exactly has that type. -/
theorem HasType.of_fitsExactly {names : Names} {e : Expr} {t found : StaticType}
    (hfits : e.FitsExactly names t) (hfound : e.typeIn names = .ok found) (haccepts : t.accepts found)
    (htyped : ∀ {t}, e.typeIn names = .ok t → HasType names e t) : HasType names e t := by
  rcases hfits with ht | ⟨line, rfl⟩
  · exact htyped ht
  · obtain rfl : StaticType.arrayNumber = found := Except.ok.inj hfound
    have harray : t.isArray := by
      rcases (Bool.or_eq_true _ _).mp haccepts with heq | h
      · obtain rfl := beq_iff_eq.mp heq
        rfl
      · exact ((Bool.and_eq_true _ _).mp h).1
    exact .empty harray

/-- Each expression of a list has a type. -/
theorem typesIn_length {names : Names} {es : List Expr} {ts : List StaticType}
    (h : typesIn names es = .ok ts) : ts.length = es.length := by
  induction es generalizing ts with
  | nil => cases h; rfl
  | cons e rest ih =>
    simp only [typesIn, Checked.bind_eq_ok] at h
    obtain ⟨t, -, ts', hrest, hts⟩ := h
    obtain rfl := Except.ok.inj hts
    simp [ih hrest]

/-- The checker's types are those of the rules, expression by expression. -/
def TypesAgree (names : Names) (es : List Expr) : Prop :=
  ∀ e ∈ es, ∀ {t}, e.typeIn names = .ok t → HasType names e t

/-- All but the first agree as well. -/
theorem TypesAgree.tail {names : Names} {e : Expr} {es : List Expr}
    (h : TypesAgree names (e :: es)) : TypesAgree names es :=
  fun e' he' => h e' (by simp [he'])

/-- Where types agree, each expression has the type that is found for it. -/
theorem TypesAgree.of_typesIn {names : Names} {es : List Expr} {ts : List StaticType}
    (hagree : TypesAgree names es) (h : typesIn names es = .ok ts) :
    List.Forall₂ (HasType names) es ts := by
  induction es generalizing ts with
  | nil => cases h; exact .nil
  | cons e rest ih =>
    simp only [typesIn, Checked.bind_eq_ok] at h
    obtain ⟨t, ht, ts', hrest, hts⟩ := h
    obtain rfl := Except.ok.inj hts
    exact .cons (hagree e (by simp) ht) (ih hagree.tail hrest)

/-- Arguments that may be stored in their parameters and fit there exactly have the types of the
parameters. -/
theorem TypesAgree.of_fitExactly {names : Names} {line : Nat} {args : List Expr}
    {ts params : List StaticType} (hagree : TypesAgree names args)
    (hts : typesIn names args = .ok ts) (hlen : ts.length ≤ params.length)
    (hok : expectArguments line params ts = .ok ())
    (hfits : ∀ pair ∈ params.zip args, pair.2.FitsExactly names pair.1) :
    List.Forall₂ (HasType names) args (params.take args.length) := by
  induction args generalizing ts params with
  | nil => simp
  | cons e rest ih =>
    simp only [typesIn, Checked.bind_eq_ok] at hts
    obtain ⟨found, hfound, ts', hrest, hts⟩ := hts
    obtain rfl := Except.ok.inj hts
    cases params with
    | nil => simp at hlen
    | cons param params =>
      simp only [expectArguments, Checked.bind_eq_ok] at hok
      obtain ⟨_, haccepts, hok⟩ := hok
      have he : HasType names e param :=
        .of_fitsExactly (hfits (param, e) (by simp)) hfound (expectAssignable_eq_ok.mp haccepts)
          (hagree e (by simp))
      have hes := ih hagree.tail hrest (by simpa using hlen) hok
        (fun pair hp => hfits pair (by simp [hp]))
      exact .cons he hes

/-- Once a type of elements is known it is the one that is found. -/
theorem elementIn_some {names : Names} {line : Nat} {t : StaticType} {element? : Option StaticType}
    {es : List Expr} (h : elementIn names line (some t) es = .ok element?) : element? = some t := by
  induction es with
  | nil => cases h; rfl
  | cons e rest ih =>
    simp only [elementIn, Checked.bind_eq_ok] at h
    obtain ⟨t', -, h⟩ := h
    split at h
    · exact ih h
    · cases h

/-- The elements of an array literal have the type that the checker finds for them. -/
theorem TypesAgree.of_elementIn {names : Names} {line : Nat} {found? element? : Option StaticType}
    {es : List Expr} (hagree : TypesAgree names es)
    (h : elementIn names line found? es = .ok element?) :
    ∀ e ∈ es, ∃ t, element? = some t ∧ HasType names e t := by
  induction es generalizing found? with
  | nil => simp
  | cons e rest ih =>
    simp only [elementIn, Checked.bind_eq_ok] at h
    obtain ⟨t, ht, h⟩ := h
    -- Whether this is the first element or agrees with it, the rest is checked against `t`.
    have hrest : elementIn names line (some t) rest = .ok element? := by
      cases found? with
      | none => exact h
      | some first =>
        dsimp only at h
        split at h
        · next heq => exact heq ▸ h
        · cases h
    intro e' he'
    rcases List.mem_cons.mp he' with rfl | he'
    · exact ⟨t, elementIn_some hrest, hagree e' (by simp) ht⟩
    · exact ih hagree.tail hrest e' he'

mutual

/-- An expression has the type that the checker finds. -/
theorem HasType.of_typeIn {names : Names} : ∀ {e : Expr} {t : StaticType},
    e.typeIn names = .ok t → e.Monomorphic names → HasType names e t
  | .number .., _, h, _ => by cases h; exact .number
  | .text .., _, h, _ => by cases h; exact .text
  | .truth .., _, h, _ => by cases h; exact .truth
  | .ident line x, t, h, _ => .ident (variableType_eq_ok.mp h)
  | .binary line op left right, t, h, ⟨hmonoL, hmonoR⟩ => by
    simp only [Expr.typeIn, Checked.bind_eq_ok] at h
    obtain ⟨l, hl, r, hr, h⟩ := h
    split at h
    · next ht => cases h; exact .binary (.of_typeIn hl hmonoL) (.of_typeIn hr hmonoR) ht
    · cases h
  | .unary line op operand, t, h, hmono => by
    simp only [Expr.typeIn, Checked.bind_eq_ok] at h
    obtain ⟨t', ht', h⟩ := h
    split at h
    · next heq =>
      cases h
      have := HasType.of_typeIn ht' hmono
      rw [heq] at this ⊢
      exact .unary this
    · cases h
  | .call line callee args, t, h, ⟨hmono, hfits⟩ => by
    simp only [Expr.typeIn, Checked.bind_eq_ok] at h
    obtain ⟨ts, hts, h⟩ := h
    have hagree := TypesAgree.of_allMonomorphic hmono
    rw [callType] at h
    split at h
    · next b hb => exact .builtin hb (hagree.of_typesIn hts) h
    · next hb =>
      split at h
      · cases h
      · next s hs =>
        split at h
        · cases h
        · next hcount =>
          simp only [Checked.bind_eq_ok] at h
          obtain ⟨_, hok, h⟩ := h
          obtain rfl := Except.ok.inj h
          have hlen := typesIn_length hts
          exact .call hb hs (by omega) (hagree.of_fitExactly hts (by omega) hok (hfits hb s hs))
  | .index line base position, t, h, ⟨hmonoB, hmonoP⟩ => by
    simp only [Expr.typeIn, Checked.bind_eq_ok] at h
    obtain ⟨b, hb, p, hp, _, hnumber, ht⟩ := h
    obtain rfl := expectType_eq_ok.mp hnumber
    exact .index (.of_typeIn hb hmonoB) (.of_typeIn hp hmonoP) ht
  | .array line items, t, h, hmono => by
    simp only [Expr.typeIn, Checked.bind_eq_ok] at h
    obtain ⟨element?, helement, h⟩ := h
    rw [literalType] at h
    split at h
    · next ht =>
      cases h
      refine .array (fun e he => ?_) ht
      obtain ⟨t', rfl, he'⟩ := (TypesAgree.of_allMonomorphic hmono).of_elementIn helement e he
      exact he'
    · cases h

/-- Expressions that are monomorphic have one type each. -/
theorem TypesAgree.of_allMonomorphic {names : Names} : ∀ {es : List Expr},
    allMonomorphic names es → TypesAgree names es
  | [], _ => fun _ he => by cases he
  | e :: rest, ⟨hmono, hmonos⟩ => by
    intro e' he' t ht
    rcases List.mem_cons.mp he' with heq | he'
    · exact heq ▸ HasType.of_typeIn (heq ▸ ht) hmono
    · exact TypesAgree.of_allMonomorphic hmonos e' he' ht

end

/-- A value that may be stored is of the type that is stored, if no empty array leaves its type open. -/
theorem HasType.of_assignable {names : Names} {e : Expr} {t found : StaticType} {line : Nat}
    (hmono : e.Monomorphic names) (hfits : e.FitsExactly names t)
    (hfound : e.typeIn names = .ok found) (hok : expectAssignable t found line = .ok ()) :
    HasType names e t :=
  .of_fitsExactly hfits hfound (expectAssignable_eq_ok.mp hok) fun ht => .of_typeIn ht hmono

/-- An accepted assignment that is monomorphic stores a value of the right type. -/
theorem AssignTyped.of_assignment {c c' : Context} {a : Assignment}
    (h : Check.assignment a c = (.ok (), c')) (hmono : a.Monomorphic c) :
    AssignTyped c.names a ∧ c' = c := by
  obtain ⟨⟨t, found, htarget, hfound, hok⟩, hc⟩ := Check.assignment_eq_ok.mp h
  obtain ⟨hmonoTarget, hmonoValue, hfits⟩ := hmono
  have hv : HasType c.names a.value t :=
    .of_assignable hmonoValue (hfits t (by rw [Check.targetType_eq_ok.mpr ⟨htarget, rfl⟩])) hfound hok
  refine ⟨?_, hc⟩
  obtain ⟨line, target, value⟩ := a
  cases htarget with
  | «variable» hx => exact .variable hx hv
  | cell hb hp ht =>
    exact .cell (.of_typeIn hb hmonoTarget.1) (.of_typeIn hp hmonoTarget.2) ht hv

/-! ## Tables of a program -/

/-- The tables hold these declarations and functions. -/
structure Globals.Covers (G : Globals) (declarations : List (String × TypeExpr))
    (functions : List Function) : Prop where
  declared : ∀ x type t, (x, type) ∈ declarations → StaticType.ofTypeExpr? type = some t →
    (x, t) ∈ G.declarations
  defined : ∀ f ∈ functions, f ∈ G.functions

/-- Tables cover two lists together if they cover each. -/
theorem Globals.covers_append {G : Globals} {ds ds' : List (String × TypeExpr)}
    {fs fs' : List Function} :
    G.Covers (ds ++ ds') (fs ++ fs') ↔ G.Covers ds fs ∧ G.Covers ds' fs' := by
  constructor
  · rintro ⟨hd, hf⟩
    exact ⟨⟨fun x type t hx => hd x type t (by simp [hx]), fun f hm => hf f (by simp [hm])⟩,
      ⟨fun x type t hx => hd x type t (by simp [hx]), fun f hm => hf f (by simp [hm])⟩⟩
  · rintro ⟨⟨hd, hf⟩, hd', hf'⟩
    refine ⟨fun x type t hx => ?_, fun f hm => ?_⟩
    · rcases List.mem_append.mp hx with hx | hx
      exacts [hd x type t hx, hd' x type t hx]
    · rcases List.mem_append.mp hm with hm | hm
      exacts [hf f hm, hf' f hm]

/-- Accepted parameters are typed, with their defaults, if these are monomorphic. -/
theorem ParamsTyped.of_accepted {G : Globals} {c c' : Context} {ps : List Param}
    {ts : List StaticType} (h : AcceptsParams c ps ts c') (hmono : monomorphicParams c ps ts)
    (hcovers : G.Covers (ps.map fun p => (p.name, p.type)) []) : ParamsTyped G c ps ts c' := by
  induction h with
  | nil => exact .nil
  | @cons c p ps t ts c' ht hdefault _ ih =>
    obtain ⟨hmonoDefault, hmono⟩ := hmono
    have hcovers : G.Covers ([(p.name, p.type)] ++ ps.map fun p => (p.name, p.type)) ([] ++ []) :=
      hcovers
    obtain ⟨hp, hps⟩ := G.covers_append.mp hcovers
    refine .cons (fun e he => ?_) (hp.declared _ _ _ (by simp) ht) (ih hmono hps)
    obtain ⟨found, hfound, hok⟩ := hdefault e he
    obtain ⟨hm, hfits⟩ := hmonoDefault e he
    exact .of_assignable hm hfits hfound hok

/-! ## Statements -/

/-- The functions of the tables that give back a value surely return. -/
def Globals.SurelyReturns (G : Globals) : Prop :=
  ∀ f ∈ G.functions, StaticType.ofTypeExpr? f.definition.returns ≠ some .void →
    anyReturns f.definition.body.statements

variable {G : Globals}

/-- An accepted function whose body follows the rules. It surely gives back a value if it has one to give
back. -/
theorem FunctionTyped.of_accepted (hreturns : G.SurelyReturns) {f : FunctionDef Stmt} {s : Signature}
    {d : Nat} {c c₁ c₂ : Context} (hself : ⟨f, d⟩ ∈ G.functions)
    (hs : Check.signature f c = (.ok s, c))
    (hdeclare : Check.declareParams f.params s.params (c.inFunction f.name s) = (.ok (), c₁))
    (hmono : monomorphicParams (c.inFunction f.name s) f.params s.params)
    (hcovers : G.Covers (f.params.map fun p => (p.name, p.type)) [])
    (hbody : StmtsTyped G (d + 1) c₁ f.body.statements c₂) : FunctionTyped G d c f s := by
  obtain ⟨-, hret, hreq, htypes⟩ := signature_eq_ok hs
  obtain ⟨htypes, -, hdefaults⟩ := paramTypes_eq_ok htypes
  refine .intro hself hreq hdefaults
    (.of_accepted (.of_declareParams htypes hdeclare) hmono hcovers) hbody fun hvoid => ?_
  exact hreturns _ hself fun hr => hvoid (Option.some.inj (hret.symm.trans hr))

mutual

/-- **An accepted statement follows the rules**, and they lead to the context in which the checker
goes on. -/
theorem StmtTyped.of_statement (hreturns : G.SurelyReturns) :
    ∀ {s : Stmt} {d : Nat} {c c' : Context} {u : Unit},
    Check.statement s c = (.ok u, c') → s.Monomorphic c →
    G.Covers s.declarations (s.functions d) → StmtTyped G d c s c'
  | .declare line x type value, d, c, c', u, h, ⟨hmono, hfits⟩, hcovers => by
    cases Check.accepts_of_statement h with
    | declare ht hv hok =>
      exact .declare ht (.of_assignable hmono (hfits _ ht) hv hok)
        (hcovers.declared x type _ (by simp [Stmt.declarations]) ht)
  | .assign a, d, c, c', u, h, hmono, _ => by
    cases Check.accepts_of_statement h with
    | assign ha => exact .assign (AssignTyped.of_assignment ha hmono).1
  | .function ⟨line, name, params, returns, ⟨bline, body⟩⟩, d, c, c', u, h, hmono, hcovers => by
    have hcovers : G.Covers (params.map (fun p => (p.name, p.type)) ++ declarationsOf body)
      ([⟨⟨line, name, params, returns, ⟨bline, body⟩⟩, d⟩] ++ functionsOf (d + 1) body) := hcovers
    obtain ⟨hcoverParams, hcoverBody⟩ := G.covers_append.mp hcovers
    have hself : (⟨⟨line, name, params, returns, ⟨bline, body⟩⟩, d⟩ : Function) ∈ G.functions :=
      hcoverParams.defined _ (by simp)
    cases Check.accepts_of_statement h with
    | @function _ s _ hs hdeclare _ hbody =>
      obtain ⟨hmonoParams, hmonoBody⟩ := hmono s (by rw [hs])
      rw [hdeclare] at hmonoBody
      have hbody := StmtsTyped.of_statements hreturns hbody hmonoBody hcoverBody
      exact .function (.of_accepted hreturns hself hs hdeclare hmonoParams
        ⟨hcoverParams.declared, by simp⟩ hbody)
  | .return line value, d, c, c', u, h, hmono, _ => by
    cases Check.accepts_of_statement h with
    | «return» hf hv => exact .return hf (.of_typeIn hv hmono)
  | .branch line condition ⟨_, yes⟩ none, d, c, c', u, h, ⟨hmono, hmonoYes⟩, hcovers => by
    cases Check.accepts_of_statement h with
    | branch hc hyes =>
      exact .branch (.of_typeIn hc hmono) (StmtsTyped.of_statements hreturns hyes hmonoYes hcovers)
  | .branch line condition ⟨_, yes⟩ (some ⟨_, no⟩), d, c, c', u, h, ⟨hmono, hmonoYes, hmonoNo⟩,
      hcovers => by
    obtain ⟨hcoverYes, hcoverNo⟩ := G.covers_append.mp hcovers
    cases Check.accepts_of_statement h with
    | branchElse hc hyes hno =>
      exact .branchElse (.of_typeIn hc hmono)
        (StmtsTyped.of_statements hreturns hyes hmonoYes hcoverYes)
        (StmtsTyped.of_statements hreturns hno hmonoNo hcoverNo)
  | .while line condition ⟨_, body⟩, d, c, c', u, h, ⟨hmono, hmonoBody⟩, hcovers => by
    cases Check.accepts_of_statement h with
    | «while» hc hbody =>
      exact .while (.of_typeIn hc hmono) (StmtsTyped.of_statements hreturns hbody hmonoBody hcovers)
  | .for line init condition update ⟨_, body⟩, d, c, c', u, h,
      ⟨hmonoInit, hmonoC, hmonoU, hmonoBody⟩, hcovers => by
    obtain ⟨hcoverInit, hcoverBody⟩ := G.covers_append.mp hcovers
    cases Check.accepts_of_statement h with
    | «for» hinit hc hu hbody =>
      rw [hinit] at hmonoC hmonoU hmonoBody
      exact .for (StmtTyped.of_statement hreturns hinit hmonoInit hcoverInit)
        (.of_typeIn hc hmonoC) (AssignTyped.of_assignment hu hmonoU).1
        (StmtsTyped.of_statements hreturns hbody hmonoBody hcoverBody)
  | .break line, d, c, c', u, h, _, _ => by
    cases Check.accepts_of_statement h with
    | «break» hloop => exact .break hloop
  | .continue line, d, c, c', u, h, _, _ => by
    cases Check.accepts_of_statement h with
    | «continue» hloop => exact .continue hloop
  | .seq ⟨_, body⟩, d, c, c', u, h, hmono, hcovers => by
    cases Check.accepts_of_statement h with
    | seq hbody => exact .seq (StmtsTyped.of_statements hreturns hbody hmono hcovers)
  | .block ⟨_, body⟩, d, c, c', u, h, hmono, hcovers => by
    cases Check.accepts_of_statement h with
    | block hbody => exact .block (StmtsTyped.of_statements hreturns hbody hmono hcovers)
  | .par ⟨_, units⟩, d, c, c', u, h, hmono, hcovers => by
    cases Check.accepts_of_statement h with
    | par hunits => exact .par (UnitsTyped.of_units hreturns hunits hmono hcovers)
  | .expr line value, d, c, c', u, h, hmono, _ => by
    cases Check.accepts_of_statement h with
    | expr hv => exact .expr (.of_typeIn hv hmono)
  | .server ch, d, c, c', u, h, ⟨hmonoD, hmonoH, hmonoP⟩, _ => by
    cases Check.accepts_of_statement h with
    | server hd hh hp =>
      exact .server (.of_typeIn hd hmonoD) (.of_typeIn hh hmonoH) (.of_typeIn hp hmonoP)
  | .client ch, d, c, c', u, h, ⟨hmonoH, hmonoP⟩, hcovers => by
    cases Check.accepts_of_statement h with
    | client hh hp =>
      exact .client (.of_typeIn hh hmonoH) (.of_typeIn hp hmonoP)
        (hcovers.declared ch.name (.named "string") .string (by simp [Stmt.declarations]) rfl)

/-- Accepted statements in sequence are typed, each behind the others. -/
theorem StmtsTyped.of_statements (hreturns : G.SurelyReturns) :
    ∀ {ss : List Stmt} {d : Nat} {c c' : Context} {u : Unit},
    Check.statements ss c = (.ok u, c') → monomorphicAll c ss →
    G.Covers (declarationsOf ss) (functionsOf d ss) → StmtsTyped G d c ss c'
  | [], d, c, c', u, h, _, _ => by
    obtain ⟨-, rfl⟩ := Check.pure_eq_ok.mp h
    exact .nil
  | s :: rest, d, c, c', u, h, ⟨hmono, hmonos⟩, hcovers => by
    obtain ⟨c₁, hs, hrest⟩ := Check.statements_cons h
    rw [hs] at hmonos
    obtain ⟨hcover, hcoverRest⟩ := G.covers_append.mp hcovers
    exact .cons (StmtTyped.of_statement hreturns hs hmono hcover)
      (StmtsTyped.of_statements hreturns hrest hmonos hcoverRest)

/-- Accepted units are typed, each in a scope of its own. -/
theorem UnitsTyped.of_units (hreturns : G.SurelyReturns) :
    ∀ {ss : List Stmt} {d : Nat} {c : Context},
    (∀ s ∈ ss, ∃ c₁, Check.statement s c.inUnit = (.ok (), c₁)) → monomorphicUnits c ss →
    G.Covers (declarationsOf ss) (functionsOf d ss) → UnitsTyped G d c ss
  | [], _, _, _, _, _ => .nil
  | s :: rest, d, c, h, ⟨hmono, hmonos⟩, hcovers => by
    obtain ⟨⟨c₁, hs⟩, hrest⟩ := List.forall_mem_cons.mp h
    obtain ⟨hcover, hcoverRest⟩ := G.covers_append.mp hcovers
    exact .cons (StmtTyped.of_statement hreturns hs hmono hcover)
      (UnitsTyped.of_units hreturns hrest hmonos hcoverRest)

end

end ParLang
