import ParLang.Proofs.Grammar.Exact
import ParLang.Proofs.Program.Relined

/-!
# Where the lines of a program come from

Tokens on other lines derive the same program on other lines (`Derives.relined`): the grammar looks at
kinds and texts only. As tokens derive at most one program, every line of a program is that of one of its
tokens, which is said by relining once more: what is derived stays the same under every change of lines
that keeps those of the tokens (`Derives.relined_eq`).
-/

namespace ParLang

/-- The token on another line and with another region. -/
def Token.relined (f : Nat → Nat) (region : Span → Span) (t : Token) : Token :=
  ⟨t.kind, t.lexeme, f t.line, region t.span⟩

namespace Grammar

variable {f : Nat → Nat} {region : Span → Span} {ts : List Token}

/-! ## Expressions -/

mutual

/-- No rule of the grammar looks at a line or at a region. So tokens that are moved derive the moved
expression, at every level. -/
theorem Level.relined : ∀ {k ts e}, Level k ts e →
    Level k (ts.map (Token.relined f region)) (e.relined f)
  | _, _, _, .tighter h => .tighter h.relined
  | _, _, _, .binary hl hop hr => by
    rw [List.map_append, List.map_cons]
    exact .binary hl.relined hop hr.relined
  | _, _, _, .unary h => .unary h.relined

/-- The same for an operand with the operators in front of it. -/
theorem Unary.relined : ∀ {ts e}, Unary ts e → Unary (ts.map (Token.relined f region)) (e.relined f)
  | _, _, .primary h => .primary h.relined
  | _, _, .neg hsign h => .neg hsign h.relined
  | _, _, .not hsign h => .not hsign h.relined

/-- The same for an operand, one case for each of its forms. -/
theorem Primary.relined : ∀ {ts e}, Primary ts e →
    Primary (ts.map (Token.relined f region)) (e.relined f)
  | _, _, .number ht hx => .number ht hx
  | _, _, .fraction ht hdot hu hx => .fraction ht hdot hu hx
  | _, _, .text ht => .text ht
  | _, _, .true ht => .true ht
  | _, _, .false ht => .false ht
  | _, _, .name ht => .name ht
  | _, _, .call ht ho h hc => by
    rw [List.map_cons, List.map_cons, List.map_append]
    exact .call ht ho h.relined hc
  | _, _, .index ht ho h hc => by
    rw [List.map_cons, List.map_cons, List.map_append]
    exact .index ht ho h.relined hc
  | _, _, .array ho h hc => by
    rw [List.map_cons, List.map_append]
    exact .array ho h.relined hc
  | _, _, .parens ho h hc => by
    rw [List.map_cons, List.map_append]
    exact .parens ho h.relined hc

/-- The same for the arguments of a call. -/
theorem Listed.relined : ∀ {ts es}, Listed ts es →
    Listed (ts.map (Token.relined f region)) (relinedExprs f es)
  | _, _, .none => .none
  | _, _, .some h => .some h.relined

/-- The same for the items of a list. -/
theorem Items.relined : ∀ {ts es}, Items ts es →
    Items (ts.map (Token.relined f region)) (relinedExprs f es)
  | _, _, .one h => .one h.relined
  | _, _, .cons h hcomma hrest => by
    rw [List.map_append, List.map_cons]
    exact .cons h.relined hcomma hrest.relined

end

/-! ## Types and simple statements -/

/-- A type has no line, and moved tokens derive the same one. -/
theorem Annotation.relined {t : TypeExpr} (h : Annotation ts t) :
    Annotation (ts.map (Token.relined f region)) t := by
  induction h with
  | named ht => exact .named ht
  | array ho _ hc ih =>
    rw [List.map_cons, List.map_append]
    exact .array ho ih hc

/-- The target of an assignment, as an expression, moves with its lines. -/
theorem relined_targetExpr (line : Nat) (target : Target) :
    (Reader.targetExpr line target).relined f = Reader.targetExpr (f line) (target.relined f) := by
  cases target <;> rfl

/-- Moved indexes lead from the moved target to the moved cell. -/
theorem Indexes.relined {line : Nat} {target target' : Target} (h : Indexes line target ts target') :
    Indexes (f line) (target.relined f) (ts.map (Token.relined f region)) (target'.relined f) := by
  induction h with
  | none => exact .none
  | cons ho h hc _ ih =>
    rw [Target.relined, relined_targetExpr] at ih
    rw [List.map_cons, List.map_append, List.map_cons]
    exact .cons ho h.relined hc ih

/-- A moved assignment is one. -/
theorem Assign.relined {a : Assignment} (h : Assign ts a) :
    Assign (ts.map (Token.relined f region)) (a.relined f) := by
  cases h with
  | intro ht htarget hsign h =>
    rw [List.map_cons, List.map_append, List.map_cons]
    exact .intro ht htarget.relined hsign h.relined

/-- The same for a statement without a block of its own. -/
theorem Simple.relined {s : Stmt} (h : Simple ts s) :
    Simple (ts.map (Token.relined f region)) (s.relined f) := by
  cases h with
  | «return» hword h => exact .return hword h.relined
  | «break» hword => exact .break hword
  | «continue» hword => exact .continue hword
  | declare ht hcolon htype hsign h =>
    rw [List.map_cons, List.map_cons, List.map_append, List.map_cons]
    exact .declare ht hcolon htype.relined hsign h.relined
  | assign h => exact .assign h.relined
  | call ht ho h hc =>
    rw [List.map_cons, List.map_cons, List.map_append]
    exact .call ht ho h.relined hc

/-! ## Statements -/

/-- The same for a parameter, whose default may have lines. -/
theorem Parameter.relined {p : Param} (h : Parameter ts p) :
    Parameter (ts.map (Token.relined f region)) (p.relined f) := by
  cases h with
  | plain ht hcolon htype => exact .plain ht hcolon htype.relined
  | default ht hcolon htype hsign h =>
    rw [List.map_cons, List.map_cons, List.map_append, List.map_cons]
    exact .default ht hcolon htype.relined hsign h.relined

/-- The same for parameters with commas between. -/
theorem Parameters.relined {ps : List Param} (h : Parameters ts ps) :
    Parameters (ts.map (Token.relined f region)) (ps.map (Param.relined f)) := by
  induction h with
  | one h => exact .one h.relined
  | cons h hcomma _ ih =>
    rw [List.map_append, List.map_cons]
    exact .cons h.relined hcomma ih

/-- The same for the list of parameters of a function. -/
theorem ParameterList.relined {ps : List Param} (h : ParameterList ts ps) :
    ParameterList (ts.map (Token.relined f region)) (ps.map (Param.relined f)) := by
  cases h with
  | none => exact .none
  | some h => exact .some h.relined

/-- The same for a server channel. -/
theorem Server.relined {c : ServerChannel} (h : Server ts c) :
    Server (ts.map (Token.relined f region)) (c.relined f) := by
  cases h with
  | intro hword hname ho hhandler h₁ hdescription h₂ hhost h₃ hport hc =>
    simp only [List.map_cons, List.map_append]
    exact .intro hword hname ho hhandler h₁ hdescription.relined h₂ hhost.relined h₃ hport.relined hc

/-- The same for a client channel. -/
theorem Client.relined {c : ClientChannel} (h : Client ts c) :
    Client (ts.map (Token.relined f region)) (c.relined f) := by
  cases h with
  | intro hword hname ho hhost hcomma hport hc =>
    simp only [List.map_cons, List.map_append]
    exact .intro hword hname ho hhost.relined hcomma hport.relined hc

mutual

/-- The same for a statement, one case for each of its forms. -/
theorem Statement.relined : ∀ {ts s}, Statement ts s →
    Statement (ts.map (Token.relined f region)) (s.relined f)
  | _, _, .simple h => .simple h.relined
  | _, _, .function hword hname ho hps hc harrow htype hbody => by
    simp only [List.map_cons, List.map_append]
    exact .function hword hname ho hps.relined hc harrow htype.relined hbody.relined
  | _, _, .branch hword ho h hc hyes => by
    simp only [List.map_cons, List.map_append]
    exact .branch hword ho h.relined hc hyes.relined
  | _, _, .branchElse hword ho h hc hyes hother hno => by
    simp only [List.map_cons, List.map_append]
    exact .branchElse hword ho h.relined hc hyes.relined hother hno.relined
  | _, _, .while hword ho h hc hbody => by
    simp only [List.map_cons, List.map_append]
    exact .while hword ho h.relined hc hbody.relined
  | _, _, .for hword ho hinit h₁ h h₂ hupdate hc hbody => by
    simp only [List.map_cons, List.map_append]
    exact .for hword ho hinit.relined h₁ h.relined h₂ hupdate.relined hc hbody.relined
  | _, _, .seq hword hbody => .seq hword hbody.relined
  | _, _, .par hword hbody => .par hword hbody.relined
  | _, _, .block hbody => .block hbody.relined
  | _, _, .server h => .server h.relined
  | _, _, .client h => .client h.relined

/-- The same for statements in sequence. -/
theorem Statements.relined : ∀ {ts ss}, Statements ts ss →
    Statements (ts.map (Token.relined f region)) (relinedStmts f ss)
  | _, _, .none => .none
  | _, _, .cons h hrest => by
    rw [List.map_append]
    exact .cons h.relined hrest.relined

/-- The same for a block, which has a line of its own. -/
theorem Braces.relined : ∀ {ts b}, Braces ts b →
    Braces (ts.map (Token.relined f region)) ⟨f b.line, relinedStmts f b.statements⟩
  | _, _, .intro ho h hc => by
    rw [List.map_cons, List.map_append]
    exact .intro ho h.relined hc

end

/-! ## Programs -/

variable {p q : Program}

/-- Tokens on other lines derive the program on other lines. -/
theorem Derives.relined (h : Derives ts p) : Derives (ts.map (Token.relined f region)) (p.relined f) :=
  Statements.relined h

/-- **The grammar is unambiguous**: tokens derive one program at most. -/
theorem Derives.unique (h : Derives ts p) (h' : Derives ts q) : p = q :=
  (parseResults_eq_ok_iff_derives ts [] p q h.endless (List.forall_mem_nil _)).2 h h'

/-- A change of lines that keeps those of the tokens keeps the program. -/
theorem Derives.relined_eq (h : Derives ts p) (hts : ∀ t ∈ ts, f t.line = t.line) :
    p.relined f = p := by
  have hmap : ts.map (Token.relined f id) = ts := by
    calc ts.map (Token.relined f id) = ts.map id :=
          List.map_congr_left fun t ht => by rw [Token.relined, hts t ht]; rfl
      _ = ts := List.map_id ts
  exact Derives.unique (hmap ▸ h.relined) h

/-- Programs one behind the other. -/
theorem Derives.append {us : List Token} (h : Derives ts p) (h' : Derives us q) :
    Derives (ts ++ us) ⟨p.statements ++ q.statements⟩ := by
  have happend : ∀ {ts ss}, Statements ts ss → Statements (ts ++ us) (ss ++ q.statements) := by
    intro ts ss h
    induction ss generalizing ts with
    | nil => cases h; exact h'
    | cons s ss ih =>
      cases h with
      | cons h hrest =>
        rw [List.append_assoc]
        exact .cons h (ih hrest)
  exact happend h

end Grammar

end ParLang
