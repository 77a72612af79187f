import ParLang.Proofs.Grammar.Exact
import ParLang.Proofs.Number.Decimal
import ParLang.Proofs.Printing.Statements
import ParLang.Proofs.Program.AsWritten

/-!
# Programs read back

What the tokens of a source text derive can be written and read back. The induction is on the
derivation, which is there for every program that the parser gives. A literal beyond the range of
doubles is infinite and written as a word, so what is read back is the program as it is written.
-/

namespace ParLang

/-! ## Literals -/

namespace Number

/-- Infinity is not finite, so no literal that is asked for is infinity. -/
theorem isFinite_infinity : isFinite (infinity false) = false := by
  decide +kernel

/-- A decimal text reads as a double that is not negative, and as no more than the infinity. -/
theorem exists_ofMagnitude_of_read {text : String} {x : Float} (h : Cursor.IsDecimal text.toList)
    (hread : readDecimal? text = some x) :
    ∃ n ≤ 2047 * twoTo 52, x = ofMagnitude false n := by
  obtain ⟨D, E, hD⟩ : ∃ D E, readDecimal? text = some (ofDecimal false D E) := by
    rcases h with hds | ⟨ds, fs, hds, hfs, htext⟩
    · exact ⟨_, _, readDecimal?_digits hds⟩
    · exact ⟨_, _, readDecimal?_fraction hds hfs htext⟩
  obtain rfl := Option.some.inj (hread.symm.trans hD)
  obtain ⟨n, hn, h⟩ := ofDecimal_eq_ofMagnitude D E
  exact ⟨n, hn, h false⟩

/-- A decimal text that reads as a finite number reads as a double that is not negative. -/
theorem decode_of_read {text : String} {x : Float} (h : Cursor.IsDecimal text.toList)
    (hread : readDecimal? text = some x) (hx : isFinite x) :
    ∃ m e, decode x = .finite false m e ∧ Representable m e ∧
      x = ofMagnitude false (magnitude m e) := by
  obtain ⟨n, hn, rfl⟩ := exists_ofMagnitude_of_read h hread
  rcases hn.eq_or_lt with rfl | hlt
  · rw [show ofMagnitude false _ = infinity false from rfl, isFinite_infinity] at hx
    contradiction
  · obtain ⟨m, e, hdecode, hme, rfl⟩ := decode_ofMagnitude hlt
    exact ⟨m, e, hdecode, hme, rfl⟩

/-- The only other number that a decimal text reads as is the infinity. -/
theorem eq_infinity_of_read {text : String} {x : Float} (h : Cursor.IsDecimal text.toList)
    (hread : readDecimal? text = some x) (hx : ¬ isFinite x) : x = infinity false := by
  obtain ⟨n, hn, rfl⟩ := exists_ofMagnitude_of_read h hread
  rcases hn.eq_or_lt with rfl | hlt
  · rfl
  · obtain ⟨m, e, hdecode, -⟩ := decode_ofMagnitude hlt
    exact absurd (by rw [isFinite, hdecode]) hx

/-- The magnitude of zero is zero. -/
theorem magnitude_zero : magnitude 0 (-1074) = 0 := by
  decide

/-- The digit zero is read as zero. -/
theorem readDecimal?_toString_zero : readDecimal? (toString 0) = some (ofMagnitude false 0) := by
  decide +kernel

/-- A spelling of a number in the interval around a double is read back as this double. -/
theorem ReadsAs.printsLiteral {x : Float} {v : ℚ} {m : Nat} {e : Int}
    (h : ReadsAs (formatLiteral x) v) (hme : Representable m e) (hm : 0 < m)
    (hv : (Interval.around m e).Mem v) (hx : x = ofMagnitude false (magnitude m e)) :
    Printing.PrintsLiteral x := by
  obtain ⟨hdecimal, D, E, hread, rfl⟩ := h
  exact ⟨hdecimal, by rw [hread, ofDecimal_eq hme hm hv, hx]⟩

end Number

namespace Printing

open Cursor Grammar

/-- All numbers in the list are finite. -/
abbrev AllFinite (xs : List Float) : Prop :=
  ∀ x ∈ xs, Number.isFinite x

/-- All tokens in the list are formed. -/
abbrev AllFormed (ts : List Token) : Prop :=
  ∀ t ∈ ts, t.Formed

/-- A finite literal is written so that it reads back. A whole number is written exactly; any other is
written as a decimal in the interval around it. -/
theorem printsLiteral_of_read {text : String} {x : Float} (h : IsDecimal text.toList)
    (hread : Number.readDecimal? text = some x) (hx : Number.isFinite x) : PrintsLiteral x := by
  obtain ⟨m, e, hdecode, hme, hbits⟩ := Number.decode_of_read h hread hx
  by_cases hwhole : Number.isWhole m e = true
  · have htext : Number.formatLiteral x = toString (Number.wholePart m e) := by
      unfold Number.formatLiteral
      rw [hdecode]
      simp [hwhole]
    have hreads := htext ▸ Number.readsAs_toString (Number.wholePart m e)
    rw [Number.wholePart_eq hwhole] at hreads
    rcases Nat.eq_zero_or_pos m with rfl | hm
    · obtain rfl : e = -1074 := hme.leading.resolve_right (by norm_num)
      refine ⟨hreads.1, ?_⟩
      have hwhole : Number.wholePart 0 (-1074) = 0 := by simp [Number.wholePart]
      rw [htext, hbits, hwhole, Number.readDecimal?_toString_zero, Number.magnitude_zero]
    · exact hreads.printsLiteral hme hm (Number.mem_around_self hm) hbits
  · have hm : 0 < m := Nat.pos_of_ne_zero fun h0 => hwhole (by simp [Number.isWhole, h0])
    have htext : Number.formatLiteral x = (Number.shortest m e).plain := by
      unfold Number.formatLiteral Number.write
      rw [hdecode]
      simp [hwhole, hm.ne']
    have hreads := htext ▸ (Number.shortest m e).readsAs_plain
    exact hreads.printsLiteral hme hm (Number.shortest_mem hme hm).2 hbits

/-- The text of an identifier of a source is a name. -/
theorem isName_of_formed {t : Token} (h : t.Formed) (ht : t.kind = .identifier) : IsName t.lexeme :=
  h.identifier ht

/-- The word that stands for the infinity is a name. -/
theorem isName_infinity : IsName (Number.formatLiteral (Number.infinity false)) := by
  have htext : Number.formatLiteral (Number.infinity false) = "inf" := by decide +kernel
  rw [htext]
  exact ⟨isWord_iff.mp (by decide +kernel), by decide +kernel⟩

/-- A literal is written so that it reads back as it is written. -/
theorem prints_of_read {text : String} {x : Float} (line : Nat) (h : IsDecimal text.toList)
    (hread : Number.readDecimal? text = some x) : Prints (Expr.number line x).asWritten := by
  rw [Expr.asWritten]
  split
  · next hx => exact .number (printsLiteral_of_read h hread hx)
  · next hx =>
    rw [Number.eq_infinity_of_read h hread hx]
    exact .ident isName_infinity

/-! ## Expressions -/

mutual

/-- What is derived from tokens of a source can be written and read back, at every level. Names and texts
are those of the tokens. -/
theorem Level.prints : ∀ {k ts e}, Level k ts e → AllFormed ts → Prints e.asWritten
  | _, _, _, .tighter h, hts => Level.prints h hts
  | _, _, _, .binary hl _ hr, hts => by
    simp only [List.forall_mem_append, List.forall_mem_cons] at hts
    exact .binary (Level.prints hl hts.1) (Level.prints hr hts.2.2)
  | _, _, _, .unary h, hts => Unary.prints h hts

/-- The same for an operand with the operators in front of it. -/
theorem Unary.prints : ∀ {ts e}, Unary ts e → AllFormed ts → Prints e.asWritten
  | _, _, .primary h, hts => Primary.prints h hts
  | _, _, .neg _ h, hts => .unary (Unary.prints h (List.forall_mem_cons.mp hts).2)
  | _, _, .not _ h, hts => .unary (Unary.prints h (List.forall_mem_cons.mp hts).2)

/-- The same for an operand, one case for each of its forms. -/
theorem Primary.prints : ∀ {ts e}, Primary ts e → AllFormed ts → Prints e.asWritten
  | _, _, .number ht hread, hts => by
    simp only [List.forall_mem_singleton] at hts
    exact prints_of_read _ (.inl (hts.number ht)) hread
  | _, _, .fraction ht _ hu hread, hts => by
    simp only [List.forall_mem_cons] at hts
    refine prints_of_read _ (.inr ?_) hread
    exact ⟨_, _, hts.1.number ht, hts.2.2.1.number hu, by simp⟩
  | _, _, .text ht, hts => .text ((hts _ List.mem_cons_self).string ht)
  | _, _, .true _, _ => .truth
  | _, _, .false _, _ => .truth
  | _, _, .name ht, hts => .ident (isName_of_formed (hts _ List.mem_cons_self) ht)
  | _, _, .call ht _ h _, hts => by
    simp only [List.forall_mem_append, List.forall_mem_cons] at hts
    exact .call (isName_of_formed hts.1 ht) (Listed.prints h hts.2.2.1)
  | _, _, .index ht _ h _, hts => by
    simp only [List.forall_mem_append, List.forall_mem_cons] at hts
    exact .index (isName_of_formed hts.1 ht) (Level.prints h hts.2.2.1)
  | _, _, .array _ h _, hts => by
    simp only [List.forall_mem_append, List.forall_mem_cons] at hts
    exact .array (Listed.prints h hts.2.1)
  | _, _, .parens _ h _, hts => by
    simp only [List.forall_mem_append, List.forall_mem_cons] at hts
    exact Level.prints h hts.2.1

/-- The same for the arguments of a call. -/
theorem Listed.prints : ∀ {ts es}, Listed ts es → AllFormed ts → ∀ e ∈ asWrittenExprs es, Prints e
  | _, _, .none, _ => nofun
  | _, _, .some h, hts => Items.prints h hts

/-- The same for the items of a list. -/
theorem Items.prints : ∀ {ts es}, Items ts es → AllFormed ts → ∀ e ∈ asWrittenExprs es, Prints e
  | _, _, .one h, hts => List.forall_mem_singleton.mpr (Level.prints h hts)
  | _, _, .cons h _ hrest, hts => by
    simp only [List.forall_mem_append, List.forall_mem_cons] at hts
    exact List.forall_mem_cons.mpr ⟨Level.prints h hts.1, Items.prints hrest hts.2.2⟩

end

/-! ## Statements -/

/-- A type that is derived has a spelling. -/
theorem isType_of_formed : ∀ {ts type}, Annotation ts type → AllFormed ts → IsType type
  | _, _, .named ht, hts => (hts _ List.mem_cons_self).typeName ht
  | _, _, .array _ h _, hts => by
    simp only [List.forall_mem_append, List.forall_mem_cons] at hts
    have hinner := isType_of_formed h hts.2.1
    exact hinner

/-- The target of an assignment is written as the expression that it is. -/
theorem asWritten_targetExpr (line : Nat) (target : Target) :
    (Reader.targetExpr line target).asWritten = Reader.targetExpr line target.asWritten := by
  cases target <;> rfl

/-- Indexes that are derived can be written behind their target. -/
theorem Indexes.prints {line : Nat} : ∀ {target ts target'}, Indexes line target ts target' →
    AllFormed ts → PrintsTarget target.asWritten → PrintsTarget target'.asWritten
  | _, _, _, .none, _, htarget => htarget
  | _, _, _, @Indexes.cons _ target _ _ e _ _ _ _ h _ hrest, hts, htarget => by
    simp only [List.forall_mem_append, List.forall_mem_cons] at hts
    have hcell : PrintsTarget (.cell (Reader.targetExpr line target.asWritten) e.asWritten) :=
      .cell htarget (Level.prints h hts.2.1)
    rw [← asWritten_targetExpr] at hcell
    exact Indexes.prints hrest hts.2.2.2 hcell

/-- The target and the value of an assignment can be written. -/
theorem Assign.prints {ts : List Token} {a : Assignment} (h : Assign ts a) (hts : AllFormed ts) :
    PrintsTarget a.target.asWritten ∧ Prints a.value.asWritten := by
  cases h with
  | @intro t us target sign ts e ht htarget _ h =>
    simp only [List.forall_mem_append, List.forall_mem_cons] at hts
    have hname : PrintsTarget (.variable t.line t.lexeme) := .variable (isName_of_formed hts.1 ht)
    exact ⟨Indexes.prints htarget hts.2.1 hname, Level.prints h hts.2.2.2⟩

/-- A statement without a block of its own can be written and read back, one case for each of its forms. -/
theorem Simple.prints {ts : List Token} {s : Stmt} (h : Simple ts s) (hts : AllFormed ts) :
    PrintsSimple s.asWritten := by
  cases h with
  | «return» _ h => exact .return (Level.prints h (List.forall_mem_cons.mp hts).2)
  | «break» => exact .break
  | «continue» => exact .continue
  | declare ht _ htype _ h =>
    simp only [List.forall_mem_append, List.forall_mem_cons] at hts
    exact .declare (isName_of_formed hts.1 ht) (isType_of_formed htype hts.2.2.1)
      (Level.prints h hts.2.2.2.2)
  | assign h => exact .assign (Assign.prints h hts).1 (Assign.prints h hts).2
  | call ht _ h _ =>
    simp only [List.forall_mem_append, List.forall_mem_cons] at hts
    exact .call (isName_of_formed hts.1 ht) (Listed.prints h hts.2.2.1)

/-- So can a parameter. -/
theorem Parameter.prints {ts : List Token} {p : Param} (h : Parameter ts p) (hts : AllFormed ts) :
    PrintsParam p.asWritten := by
  cases h with
  | plain ht _ htype =>
    simp only [List.forall_mem_cons] at hts
    exact .plain (isName_of_formed hts.1 ht) (isType_of_formed htype hts.2.2)
  | default ht _ htype _ h =>
    simp only [List.forall_mem_append, List.forall_mem_cons] at hts
    exact .default (isName_of_formed hts.1 ht) (isType_of_formed htype hts.2.2.1)
      (Level.prints h hts.2.2.2.2)

/-- So can parameters with commas between. -/
theorem Parameters.prints : ∀ {ts ps}, Parameters ts ps → AllFormed ts →
    ∀ p ∈ ps.map Param.asWritten, PrintsParam p
  | _, _, .one h, hts => List.forall_mem_singleton.mpr (Parameter.prints h hts)
  | _, _, .cons h _ hrest, hts => by
    simp only [List.forall_mem_append, List.forall_mem_cons] at hts
    exact List.forall_mem_cons.mpr ⟨Parameter.prints h hts.1, Parameters.prints hrest hts.2.2⟩

/-- So can the list of parameters of a function. -/
theorem ParameterList.prints {ts : List Token} {ps : List Param} (h : ParameterList ts ps)
    (hts : AllFormed ts) : ∀ p ∈ ps.map Param.asWritten, PrintsParam p := by
  cases h with
  | none => nofun
  | some h => exact Parameters.prints h hts

mutual

/-- A statement that is derived can be written and read back, one case for each of its forms. -/
theorem Statement.prints : ∀ {ts s}, Statement ts s → AllFormed ts → PrintsStmt s.asWritten
  | _, _, .simple h, hts => (Simple.prints h hts).statement
  | _, _, .function _ hname _ hps _ _ htype hbody, hts => by
    simp only [List.forall_mem_append, List.forall_mem_cons] at hts
    exact .function (isName_of_formed hts.2.1 hname) (ParameterList.prints hps hts.2.2.2.1)
      (isType_of_formed htype hts.2.2.2.2.2.2.1) (Braces.prints hbody hts.2.2.2.2.2.2.2)
  | _, _, .branch _ _ h _ hyes, hts => by
    simp only [List.forall_mem_append, List.forall_mem_cons] at hts
    exact .branch (Level.prints h hts.2.2.1) (Braces.prints hyes hts.2.2.2.2)
  | _, _, .branchElse _ _ h _ hyes _ hno, hts => by
    simp only [List.forall_mem_append, List.forall_mem_cons] at hts
    exact .branchElse (Level.prints h hts.2.2.1) (Braces.prints hyes hts.2.2.2.2.1)
      (Braces.prints hno hts.2.2.2.2.2.2)
  | _, _, .while _ _ h _ hbody, hts => by
    simp only [List.forall_mem_append, List.forall_mem_cons] at hts
    exact .while (Level.prints h hts.2.2.1) (Braces.prints hbody hts.2.2.2.2)
  | _, _, .for _ _ hinit _ h _ hupdate _ hbody, hts => by
    simp only [List.forall_mem_append, List.forall_mem_cons] at hts
    have hassign := Assign.prints hupdate hts.2.2.2.2.2.2.1
    exact .for (Simple.prints hinit hts.2.2.1) (Level.prints h hts.2.2.2.2.1)
      hassign.1 hassign.2 (Braces.prints hbody hts.2.2.2.2.2.2.2.2)
  | _, _, .seq _ hbody, hts => .seq (Braces.prints hbody (List.forall_mem_cons.mp hts).2)
  | _, _, .par _ hbody, hts => .par (Braces.prints hbody (List.forall_mem_cons.mp hts).2)
  | _, _, .block hbody, hts => .block (Braces.prints hbody hts)
  | _, _, .server (.intro _ hname _ hhandler _ hdescription _ hhost _ hport _), hts => by
    simp only [List.forall_mem_append, List.forall_mem_cons] at hts
    exact .server (isName_of_formed hts.2.1 hname) (isName_of_formed hts.2.2.2.1 hhandler)
      (Primary.prints hdescription hts.2.2.2.2.2.1) (Primary.prints hhost hts.2.2.2.2.2.2.2.1)
      (Primary.prints hport hts.2.2.2.2.2.2.2.2.2.1)
  | _, _, .client (.intro _ hname _ hhost _ hport _), hts => by
    simp only [List.forall_mem_append, List.forall_mem_cons] at hts
    exact .client (isName_of_formed hts.2.1 hname) (Primary.prints hhost hts.2.2.2.1)
      (Primary.prints hport hts.2.2.2.2.2.1)

/-- So can statements in sequence. -/
theorem Statements.printsAsWritten : ∀ {ts ss}, Statements ts ss → AllFormed ts →
    ∀ s ∈ asWrittenStmts ss, PrintsStmt s
  | _, _, .none, _ => nofun
  | _, _, .cons h hrest, hts => by
    simp only [List.forall_mem_append] at hts
    exact List.forall_mem_cons.mpr
      ⟨Statement.prints h hts.1, Statements.printsAsWritten hrest hts.2⟩

/-- So can the statements of a block. -/
theorem Braces.prints : ∀ {ts b}, Braces ts b → AllFormed ts → PrintsStmts (asWrittenStmts b.statements)
  | _, _, .intro _ h _, hts => by
    simp only [List.forall_mem_append, List.forall_mem_cons] at hts
    exact .of_forall (Statements.printsAsWritten h hts.2.1)

end

/-- Where the literals are finite, the statements themselves can be, and not only what is written of them.
-/
theorem Statements.prints {ts : List Token} {ss : List Stmt} (h : Statements ts ss)
    (hts : AllFormed ts) (hx : AllFinite (literalsOf ss)) : ∀ s ∈ ss, PrintsStmt s := by
  have hwritten := Statements.printsAsWritten h hts
  rwa [asWrittenStmts_of_finite hx] at hwritten

/-! ## Programs -/

/-- A program whose statements read back reads back. -/
theorem parse_print_of_prints {p : Program} (h : ∀ s ∈ p.statements, PrintsStmt s) :
    ∃ q, parse p.print = .ok q ∧ q.unlined = p.unlined := by
  obtain ⟨us, c', ⟨ss, hss, hlines⟩, hrest, hscans⟩ := writes_program h 0 1
  rw [List.append_nil] at hscans
  obtain ⟨e, he, hus⟩ := Scans.scan hscans hrest
  refine ⟨⟨ss⟩, ?_, by simp only [Program.unlined, hlines]⟩
  rw [parse, hus]
  exact Derives.parse hss (List.forall_mem_singleton.mpr he)

/-- The text of a program that was read reads as the program as it is written, up to its lines. -/
theorem parse_print_asWritten {source : String} {p : Program} (h : parse source = .ok p) :
    ∃ q, parse p.print = .ok q ∧ q.unlined = p.asWritten.unlined := by
  obtain ⟨ts, R', hscan, hderives, -⟩ := derives_of_parseResults h
  have hts : AllFormed ts := fun t ht => formed_of_mem_results (c := .ofString source) (by
    rw [← scan, hscan]
    exact List.mem_append_left _ (List.mem_map_of_mem ht))
  rw [← p.print_asWritten]
  exact parse_print_of_prints (Statements.printsAsWritten hderives hts)

/-- **A program that was read, written and read again is the same up to its lines**, if its number
literals are finite. -/
theorem parse_print_of_parse (source : String) (p : Program) (h : parse source = .ok p)
    (hx : ∀ x ∈ p.literals, Number.isFinite x) :
    ∃ q, parse p.print = .ok q ∧ q.unlined = p.unlined := by
  obtain ⟨ts, R', hscan, hderives, -⟩ := derives_of_parseResults h
  have hts : AllFormed ts := fun t ht => formed_of_mem_results (c := .ofString source) (by
    rw [← scan, hscan]
    exact List.mem_append_left _ (List.mem_map_of_mem ht))
  have hwrites : Writes (StatementTokens p.statements) p.print.toList [] :=
    writes_program (Statements.prints hderives hts hx)
  obtain ⟨us, c', ⟨ss, hss, hlines⟩, hrest, hscans⟩ := hwrites 0 1
  rw [List.append_nil] at hscans
  obtain ⟨e, he, hus⟩ := Scans.scan hscans hrest
  refine ⟨⟨ss⟩, ?_, by simp only [Program.unlined, hlines]⟩
  rw [parse, hus]
  exact Derives.parse hss (List.forall_mem_singleton.mpr he)

/-- Parentheses that are needed, a fraction with a digit that is not, and statements on one line. -/
def crowdedSource : String :=
  "x: number = (1 + 2.50) * -y print(x - (1 - x))"

/-- A crowded source is laid out and read back as the same program. -/
theorem parse_print_crowdedSource :
    ∃ p q, parse crowdedSource = .ok p ∧ parse p.print = .ok q ∧ q.unlined = p.unlined := by
  have hfinite : (parse crowdedSource).toOption.any (·.literals.all Number.isFinite) = true := by
    decide +kernel
  cases hp : parse crowdedSource with
  | error e => rw [hp] at hfinite; contradiction
  | ok p =>
    rw [hp] at hfinite
    obtain ⟨q, hq⟩ := parse_print_of_parse crowdedSource p hp (List.all_eq_true.mp hfinite)
    exact ⟨p, q, rfl, hq⟩

end Printing

end ParLang
