import ParLang.Proofs.Grammar.Complete

/-!
# The parser and the grammar

The parser gives a program exactly if the tokens before the end derive it
(`parseResults_eq_ok_iff_derives`). It gives one answer, so the grammar is unambiguous: tokens derive
at most one program, and not only up to lines.
-/

namespace ParLang

namespace Grammar

open Reader TokenStream

/-! ## No derivation uses an end token -/

/-- None of the tokens is an end token. -/
def Endless (ts : List Token) : Prop :=
  ∀ t ∈ ts, t.kind ≠ .eof

namespace Endless

variable {t : Token} {ts us : List Token} {kind : Token.Kind}

/-- No tokens hold no end token. -/
@[simp] theorem nil : Endless [] := nofun

/-- A list holds no end token if neither its first token nor the rest is or holds one. -/
@[simp] theorem cons_iff : Endless (t :: ts) ↔ t.kind ≠ .eof ∧ Endless ts := List.forall_mem_cons

/-- Two lists together hold no end token if neither does. -/
@[simp] theorem append_iff : Endless (ts ++ us) ↔ Endless ts ∧ Endless us :=
  List.forall_mem_append

end Endless

/-- The end token is no operator. -/
theorem Operator.ne_eof {k : Nat} {kind : Token.Kind} {op : BinaryOp} (h : Operator k kind op) :
    kind ≠ .eof := by
  cases h <;> decide

mutual

/-- The grammar asks every token for a kind, and never for that of the end. So no expression holds the end
token. -/
theorem Level.endless : ∀ {k ts e}, Level k ts e → Endless ts
  | _, _, _, .tighter h => h.endless
  | _, _, _, .binary hl hop hr => by simp [hl.endless, hop.ne_eof, hr.endless]
  | _, _, _, .unary h => h.endless

/-- Nor does an operand with the operators in front of it. -/
theorem Unary.endless : ∀ {ts e}, Unary ts e → Endless ts
  | _, _, .primary h => h.endless
  | _, _, .neg hsign h | _, _, .not hsign h => by simp [hsign, h.endless]

/-- Nor does an operand, one case for each of its forms. -/
theorem Primary.endless : ∀ {ts e}, Primary ts e → Endless ts
  | _, _, .number ht _ | _, _, .text ht | _, _, .true ht | _, _, .false ht | _, _, .name ht => by
    simp [ht]
  | _, _, .fraction ht hdot hu _ => by simp [ht, hdot, hu]
  | _, _, .call ht ho h hc => by simp [ht, ho, h.endless, hc]
  | _, _, .index ht ho h hc => by simp [ht, ho, h.endless, hc]
  | _, _, .array ho h hc => by simp [ho, h.endless, hc]
  | _, _, .parens ho h hc => by simp [ho, h.endless, hc]

/-- Nor do the arguments of a call. -/
theorem Listed.endless : ∀ {ts es}, Listed ts es → Endless ts
  | _, _, .none => .nil
  | _, _, .some h => h.endless

/-- Nor do the items of a list. -/
theorem Items.endless : ∀ {ts es}, Items ts es → Endless ts
  | _, _, .one h => h.endless
  | _, _, .cons h hcomma hrest => by simp [h.endless, hcomma, hrest.endless]

end

/-- Nor does a type. -/
theorem Annotation.endless : ∀ {ts type}, Annotation ts type → Endless ts
  | _, _, .named ht => by simp [ht]
  | _, _, .array ho h hc => by simp [ho, h.endless, hc]

/-- Nor do the indexes of a target. -/
theorem Indexes.endless {line : Nat} : ∀ {target ts target'}, Indexes line target ts target' →
    Endless ts
  | _, _, _, .none => .nil
  | _, _, _, .cons ho h hc hrest => by simp [ho, h.endless, hc, hrest.endless]

/-- Nor does an assignment. -/
theorem Assign.endless : ∀ {ts a}, Assign ts a → Endless ts
  | _, _, .intro ht htarget hsign h => by simp [ht, htarget.endless, hsign, h.endless]

/-- Nor does a statement without a block of its own. -/
theorem Simple.endless : ∀ {ts s}, Simple ts s → Endless ts
  | _, _, .return hword h => by simp [hword, h.endless]
  | _, _, .break hword | _, _, .continue hword => by simp [hword]
  | _, _, .declare ht hcolon htype hsign h => by
    simp [ht, hcolon, htype.endless, hsign, h.endless]
  | _, _, .assign h => h.endless
  | _, _, .call ht ho h hc => by simp [ht, ho, h.endless, hc]

/-- Nor does a parameter. -/
theorem Parameter.endless : ∀ {ts p}, Parameter ts p → Endless ts
  | _, _, .plain ht hcolon htype => by simp [ht, hcolon, htype.endless]
  | _, _, .default ht hcolon htype hsign h => by
    simp [ht, hcolon, htype.endless, hsign, h.endless]

/-- Nor do parameters with commas between. -/
theorem Parameters.endless : ∀ {ts ps}, Parameters ts ps → Endless ts
  | _, _, .one h => h.endless
  | _, _, .cons h hcomma hrest => by simp [h.endless, hcomma, hrest.endless]

/-- Nor does the list of parameters of a function. -/
theorem ParameterList.endless : ∀ {ts ps}, ParameterList ts ps → Endless ts
  | _, _, .none => .nil
  | _, _, .some h => h.endless

mutual

/-- Nor does a statement, one case for each of its forms. -/
theorem Statement.endless : ∀ {ts s}, Statement ts s → Endless ts
  | _, _, .simple h => h.endless
  | _, _, .function hword hname ho hps hc harrow htype hbody => by
    simp [hword, hname, ho, hps.endless, hc, harrow, htype.endless, hbody.endless]
  | _, _, .branch hword ho h hc hyes => by simp [hword, ho, h.endless, hc, hyes.endless]
  | _, _, .branchElse hword ho h hc hyes hother hno => by
    simp [hword, ho, h.endless, hc, hyes.endless, hother, hno.endless]
  | _, _, .while hword ho h hc hbody => by simp [hword, ho, h.endless, hc, hbody.endless]
  | _, _, .for hword ho hinit h₁ h h₂ hupdate hc hbody => by
    simp [hword, ho, hinit.endless, h₁, h.endless, h₂, hupdate.endless, hc, hbody.endless]
  | _, _, .seq hword hbody | _, _, .par hword hbody => by simp [hword, hbody.endless]
  | _, _, .block hbody => hbody.endless
  | _, _, .server (.intro hword hname ho hhandler h₁ hdescription h₂ hhost h₃ hport hc) => by
    simp [hword, hname, ho, hhandler, h₁, hdescription.endless, h₂, hhost.endless, h₃,
      hport.endless, hc]
  | _, _, .client (.intro hword hname ho hhost hcomma hport hc) => by
    simp [hword, hname, ho, hhost.endless, hcomma, hport.endless, hc]

/-- Nor do statements in sequence. -/
theorem Statements.endless : ∀ {ts ss}, Statements ts ss → Endless ts
  | _, _, .none => .nil
  | _, _, .cons h hrest => by simp [h.endless, hrest.endless]

/-- Nor does a block. -/
theorem Braces.endless : ∀ {ts b}, Braces ts b → Endless ts
  | _, _, .intro ho h hc => by simp [ho, h.endless, hc]

end

/-- Nor does a program: its tokens are those of its statements. -/
theorem Derives.endless {ts : List Token} {p : Program} (h : Derives ts p) : Endless ts :=
  Statements.endless h

/-! ## The parser -/

variable {R : List (Except LexError Token)} {ts ends : List Token} {p q : Program}

/-- A parser that gives a program read tokens that derive it, up to the end of the results or an end
token. -/
theorem derives_of_parseResults (h : parseResults R = .ok p) :
    ∃ ts R', R = ts.map .ok ++ R' ∧ Derives ts p ∧
      (R' = [] ∨ ∃ t R'', R' = .ok t :: R'' ∧ t.kind = .eof) := by
  rw [parseResults] at h
  cases hs : ofResults R with
  | error e => rw [hs] at h; cases h
  | ok s =>
    rw [hs] at h
    dsimp only at h
    cases hprogram : Reader.program (stepBudget R.length) s with
    | error e => rw [hprogram] at h; cases h
    | ok result =>
      obtain ⟨p', s'⟩ := result
      rw [hprogram] at h
      obtain rfl : p' = p := Except.ok.inj h
      simp only [Reader.program, bind_eq_ok, pure_eq_ok] at hprogram
      obtain ⟨ss, s₁, hss, t, s₂, ht, rfl, rfl⟩ := hprogram
      obtain ⟨ts, ⟨R', rfl, hR'⟩, hderives⟩ := (statementReadsAt _).statements hs hss
      refine ⟨ts, R', rfl, hderives, ?_⟩
      have hnext : s₁.lookahead.kind = .eof := lookahead_kind_of_expect ht
      cases R' with
      | nil => exact .inl rfl
      | cons r R' =>
        cases r with
        | error e => cases hR'
        | ok u =>
          obtain rfl := Except.ok.inj hR'
          exact .inr ⟨u, R', rfl, hnext⟩

/-- In front of end tokens, or of nothing, there is an end. -/
theorem nextKind_eq_eof (hends : ∀ t ∈ ends, t.kind = .eof) : nextKind ends = .eof := by
  cases ends with
  | nil => rfl
  | cons t _ => exact hends t List.mem_cons_self

/-- The tokens before the first end token. -/
theorem takeWhile_eq_of_endless (hts : Endless ts) (hends : nextKind ends = .eof) :
    (ts ++ ends).takeWhile (·.kind != .eof) = ts := by
  rw [List.takeWhile_append_of_pos (by simpa [Endless] using hts)]
  cases ends with
  | nil => simp
  | cons t _ =>
    rw [nextKind_cons] at hends
    simp [hends]

/-- Before the end, the tokens that derive a program are read as this program. -/
theorem Derives.program {n : Nat} (h : Derives ts p) (hends : nextKind ends = .eof)
    (hn : 8 * ts.length + 2 ≤ n) : ∃ s, Reader.program n (ofTokens (ts ++ ends)) = .ok (p, s) := by
  have hbody : Reader.statements n (ofTokens (ts ++ ends)) = .ok (p.statements, ofTokens ends) :=
    Statements.read h hn (by rw [hends]; rfl)
  have hend : ∃ s, Reader.expect .eof (ofTokens ends) = .ok ((ofTokens ends).lookahead, s) := by
    cases ends with
    | nil => exact ⟨_, rfl⟩
    | cons t _ => exact ⟨_, expect_ofTokens hends⟩
  obtain ⟨s, hend⟩ := hend
  refine ⟨s, ?_⟩
  rw [Reader.program, bind_apply_ok hbody, bind_apply_ok hend]
  rfl

/-- Nothing but end tokens behind the tokens that derive a program: the parser gives the program. -/
theorem Derives.parse (h : Derives ts p) (hends : ∀ t ∈ ends, t.kind = .eof) :
    parseResults ((ts ++ ends).map .ok) = .ok p := by
  have hn : 8 * ts.length + 2 ≤ stepBudget (ts ++ ends).length := by
    simp only [stepBudget, List.length_append]
    omega
  obtain ⟨s, hs⟩ := h.program (nextKind_eq_eof hends) hn
  rw [parseResults, ofResults_map_ok, List.length_map]
  dsimp only
  rw [hs]
  rfl

/-- **The parser accepts exactly the grammar**, and tokens derive at most one program. What the parser
is given is a list of tokens with end tokens behind it; its results end by themselves, so there may
also be no end token. -/
theorem parseResults_eq_ok_iff_derives (ts ends : List Token) (p q : Program)
    (hts : ∀ t ∈ ts, t.kind ≠ .eof) (hends : ∀ t ∈ ends, t.kind = .eof) :
    (parseResults ((ts ++ ends).map .ok) = .ok p ↔ Derives ts p) ∧
      (Derives ts p → Derives ts q → p = q) := by
  refine ⟨⟨fun h => ?_, fun h => h.parse hends⟩, fun hp hq => ?_⟩
  · obtain ⟨us, R', hR, hus, hend⟩ := derives_of_parseResults h
    obtain ⟨us', vs, heq, hus', rfl⟩ := List.map_eq_append_iff.mp hR
    obtain rfl : us' = us := List.map_inj_right (fun _ _ => Except.ok.inj) |>.mp hus'
    have hnext : nextKind vs = .eof := by
      rcases hend with hnil | ⟨t, R'', hcons, ht⟩
      · rw [List.map_eq_nil_iff.mp hnil]; rfl
      · obtain ⟨v, vs, rfl, hv, -⟩ := List.map_eq_cons_iff.mp hcons
        exact Except.ok.inj hv ▸ ht
    have hts := takeWhile_eq_of_endless hts (nextKind_eq_eof hends)
    rw [heq, takeWhile_eq_of_endless hus.endless hnext] at hts
    exact hts ▸ hus
  · have hp' : parseResults ((ts ++ []).map .ok) = .ok p := hp.parse (List.forall_mem_nil _)
    rw [hq.parse (List.forall_mem_nil _)] at hp'
    exact (Except.ok.inj hp').symm

/-- The tokens of `x = y - z - x`. -/
def chainTokens : List Token :=
  [⟨.identifier, "x", 1, ⟨0, 1⟩⟩, ⟨.assign, "=", 1, ⟨2, 3⟩⟩, ⟨.identifier, "y", 1, ⟨4, 5⟩⟩,
    ⟨.minus, "-", 1, ⟨6, 7⟩⟩, ⟨.identifier, "z", 1, ⟨8, 9⟩⟩, ⟨.minus, "-", 1, ⟨10, 11⟩⟩,
    ⟨.identifier, "x", 1, ⟨12, 13⟩⟩]

/-- What they stand for: the first difference is the left operand of the second. -/
def chainProgram : Program :=
  ⟨[.assign ⟨1, .variable 1 "x",
    .binary 1 .sub (.binary 1 .sub (.ident 1 "y") (.ident 1 "z")) (.ident 1 "x")⟩]⟩

/-- The chain is derived step by step, from its operands up. -/
theorem derives_chain : Derives chainTokens chainProgram :=
  (parseResults_eq_ok_iff_derives chainTokens [endToken] chainProgram chainProgram (by decide)
    (by decide)).1.mp rfl

end Grammar

end ParLang
