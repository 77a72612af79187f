import ParLang.Proofs.Printing.Expressions

/-!
# Written statements

What the text of a statement is read as. A statement without a block is written on one line, and in the
head of a loop without its indent and the end of its line (`PrintsSimple`); every other statement stands
on lines of its own, so that nothing is asked of what follows (`PrintsStmt`).
-/

namespace ParLang

namespace Printing

open Cursor Grammar

variable {rest : List Char} {e : Expr} {line : Nat} {name : String} {type : TypeExpr} {s : Stmt}
  {ss : List Stmt}

/-! ## Types -/

/-- The words in the type name types. -/
def IsType : TypeExpr → Prop
  | .named word => word ∈ Token.Kind.typeWords
  | .array inner => IsType inner

/-- A type is read back, along its brackets. -/
theorem writes_type (h : IsType type) : ∀ {rest}, Apart rest →
    Writes (fun ts => Annotation ts type) type.text.toList rest := by
  induction type with
  | named word =>
    intro rest hrest
    have hwords : ∀ w ∈ Token.Kind.typeWords, isWord w.toList ∧
        (Token.Kind.keyword? w).getD .identifier = .typeName := by
      decide +kernel
    obtain ⟨hw, hkind⟩ := hwords word h
    refine (Writes.word (isWord_iff.mp hw) hkind (by decide) hrest).imp ?_
    rintro _ ⟨t, rfl, ht, rfl⟩
    exact .named ht
  | array inner ih =>
    intro rest hrest
    have htext : (TypeExpr.array inner).text.toList = ['['] ++ (inner.text.toList ++ [']']) := by
      simp [TypeExpr.text]
    rw [htext]
    refine (Writes.leftBracket.append
      ((ih h (apart_cons (isNameChar_separator (by decide)))).append .rightBracket)).imp ?_
    rintro _ ⟨_, _, rfl, ⟨opening, rfl, ho⟩, _, _, rfl, hinner, closing, rfl, hc⟩
    exact .array ho hinner hc

/-! ## Targets and assignments -/

/-- The tokens are those of a target, up to lines. -/
def TargetTokens (target : Target) (ts : List Token) : Prop :=
  ∃ t us target', ts = t :: us ∧ t.kind = .identifier ∧
    Indexes t.line (.variable t.line t.lexeme) us target' ∧ target'.unlined = target.unlined

/-- The text of the target can be read back. -/
def PrintsTarget (target : Target) : Prop :=
  ∀ rest, Apart rest → Writes (TargetTokens target) target.print.toList rest

/-- A name is a target. -/
theorem PrintsTarget.variable (h : IsName name) : PrintsTarget (.variable line name) := by
  intro rest hrest
  refine (h.writes hrest).imp ?_
  rintro _ ⟨t, rfl, ht, hlexeme⟩
  exact ⟨t, [], _, rfl, ht, .none, by simp only [Target.unlined, hlexeme]⟩

/-- The target of an assignment, as an expression, loses its lines with it. -/
theorem unlined_targetExpr (line : Nat) (target : Target) :
    (Reader.targetExpr line target).unlined = Reader.targetExpr 0 target.unlined := by
  cases target <;> rfl

/-- It is written as the target is. -/
theorem print_targetExpr (line : Nat) (target : Target) :
    (Reader.targetExpr line target).print = target.print := by
  cases target <;> simp [Reader.targetExpr, Target.print, Expr.print]

/-- An index behind the others. -/
theorem indexes_snoc {target target' : Target} {us ts : List Token} {opening closing : Token}
    (h : Indexes line target us target') (ho : opening.kind = .leftBracket) (he : Expression ts e)
    (hc : closing.kind = .rightBracket) :
    Indexes line target (us ++ opening :: (ts ++ [closing]))
      (.cell (Reader.targetExpr line target') e) := by
  induction h with
  | none => exact .cons ho he hc .none
  | cons ho' he' hc' _ ih =>
    rw [List.cons_append, List.append_assoc, List.cons_append]
    exact .cons ho' he' hc' ih

/-- A cell of a target is one: its index is written behind the others. -/
theorem PrintsTarget.cell {target : Target} (h : PrintsTarget target) (he : Prints e) :
    PrintsTarget (.cell (Reader.targetExpr line target) e) := by
  intro rest _
  have htext : (Target.cell (Reader.targetExpr line target) e).print.toList =
      target.print.toList ++ (['['] ++ (e.print.toList ++ [']'])) := by
    simp [Target.print, print_targetExpr]
  have hopen : Apart (['['] ++ (e.print.toList ++ [']']) ++ rest) :=
    apart_cons (isNameChar_separator (by decide))
  have hclose : Apart ([']'] ++ rest) := apart_cons (isNameChar_separator (by decide))
  rw [htext]
  refine ((h _ hopen).append (Writes.leftBracket.append
    ((he.expression hclose).append .rightBracket))).imp ?_
  rintro _ ⟨_, _, rfl, ⟨t, us, target', rfl, ht, hus, hlines⟩, _, _, rfl, ⟨opening, rfl, ho⟩, _, _,
    rfl, ⟨e', he', helines⟩, closing, rfl, hc⟩
  refine ⟨t, _, _, rfl, ht, indexes_snoc hus ho he' hc, ?_⟩
  show Target.cell _ e'.unlined = Target.cell _ e.unlined
  rw [unlined_targetExpr, unlined_targetExpr, hlines, helines]

/-- An assignment is written with spaces around its sign, and read back. -/
theorem writes_assignment {a : Assignment} (htarget : PrintsTarget a.target) (hvalue : Prints a.value)
    (hrest : Apart rest) :
    Writes (fun ts => ∃ a', Assign ts a' ∧ a'.unlined = a.unlined) a.print.toList rest := by
  have htext : a.print.toList =
      a.target.print.toList ++ (' ' :: (['='] ++ (' ' :: a.value.print.toList))) := by
    simp [Assignment.print]
  rw [htext]
  refine ((htarget _ apart_space).append
    (Writes.space (Writes.assign.append (hvalue.expression hrest).space))).imp ?_
  rintro _ ⟨_, _, rfl, ⟨t, us, target', rfl, ht, hus, hlines⟩, _, _, rfl, ⟨sign, rfl, hsign⟩, e', he',
    helines⟩
  refine ⟨⟨t.line, target', e'⟩, .intro ht hus hsign he', ?_⟩
  simp only [Assignment.unlined, hlines, helines]

/-! ## Simple statements -/

/-- The statement is written on one line, and its text can be read back. -/
def PrintsSimple (s : Stmt) : Prop :=
  ∃ text : String, (∀ indent, s.print indent = ParLang.blanks indent ++ text ++ "\n") ∧
    Closes text.toList ∧ ∀ {rest}, Apart rest →
      Writes (fun ts => ∃ s', Simple ts s' ∧ s'.unlined = s.unlined) text.toList rest

/-- A value that is returned can be read back. -/
theorem PrintsSimple.return (h : Prints e) : PrintsSimple (.return line e) := by
  have htext : ("return " ++ e.print).toList = "return".toList ++ (' ' :: e.print.toList) := by simp
  refine ⟨"return " ++ e.print, fun indent => by simp [Stmt.print, String.append_assoc], ?_,
    fun {rest} hrest => ?_⟩ <;> rw [htext]
  · exact h.closes.cons.append
  refine (Writes.keyword .returnWord (by decide) rfl (h.expression hrest)).imp ?_
  rintro _ ⟨_, _, rfl, ⟨word, rfl, hword⟩, e', he', hlines⟩
  exact ⟨.return word.line e', .return hword he', by simp only [Stmt.unlined, hlines]⟩

/-- The word to break can be read back. -/
theorem PrintsSimple.break : PrintsSimple (.break line) := by
  refine ⟨"break", fun indent => by simp [Stmt.print, String.append_assoc],
    ⟨"brea".toList, 'k', by decide, by decide⟩, fun hrest => ?_⟩
  have hword : Writes (Sole .breakWord) "break".toList _ := .reserved (by decide) rfl hrest
  refine hword.imp ?_
  rintro _ ⟨word, rfl, hword⟩
  exact ⟨.break word.line, .break hword, rfl⟩

/-- The word to continue can be read back. -/
theorem PrintsSimple.continue : PrintsSimple (.continue line) := by
  refine ⟨"continue", fun indent => by simp [Stmt.print, String.append_assoc],
    ⟨"continu".toList, 'e', by decide, by decide⟩, fun hrest => ?_⟩
  have hword : Writes (Sole .continueWord) "continue".toList _ := .reserved (by decide) rfl hrest
  refine hword.imp ?_
  rintro _ ⟨word, rfl, hword⟩
  exact ⟨.continue word.line, .continue hword, rfl⟩

/-- A declaration can be read back: what follows its name tells it from an assignment. -/
theorem PrintsSimple.declare (hname : IsName name) (htype : IsType type) (h : Prints e) :
    PrintsSimple (.declare line name type e) := by
  have htext : (name ++ ": " ++ type.text ++ " = " ++ e.print).toList =
      name.toList ++ ([':'] ++ (' ' :: (type.text.toList ++
        (' ' :: (['='] ++ (' ' :: e.print.toList)))))) := by
    simp
  refine ⟨name ++ ": " ++ type.text ++ " = " ++ e.print,
    fun indent => by simp [Stmt.print, String.append_assoc], ?_, fun {rest} hrest => ?_⟩ <;> rw [htext]
  · exact (((h.closes.cons).append.cons.append.cons).append).append
  refine ((hname.writes (apart_cons (isNameChar_separator (by decide)))).append
    (Writes.colon.append (Writes.space ((writes_type htype apart_space).append
      (Writes.space (Writes.assign.append (h.expression hrest).space)))))).imp ?_
  rintro _ ⟨_, _, rfl, ⟨t, rfl, ht, hlexeme⟩, _, _, rfl, ⟨colon, rfl, hcolon⟩, us, _, rfl, htype', _, _,
    rfl, ⟨sign, rfl, hsign⟩, e', he', hlines⟩
  refine ⟨.declare t.line t.lexeme type e', .declare ht hcolon htype' hsign he', ?_⟩
  simp only [Stmt.unlined, hlexeme, hlines]

/-- An assignment can be read back. -/
theorem PrintsSimple.assign {a : Assignment} (htarget : PrintsTarget a.target)
    (hvalue : Prints a.value) : PrintsSimple (.assign a) := by
  refine ⟨a.print, fun indent => by simp [Stmt.print], ?_, fun hrest => ?_⟩
  · have htext : a.print.toList = (a.target.print ++ " = ").toList ++ a.value.print.toList := by
      simp [Assignment.print]
    rw [htext]
    exact hvalue.closes.append
  refine (writes_assignment htarget hvalue hrest).imp ?_
  rintro ts ⟨a', ha', hlines⟩
  exact ⟨.assign a', .assign ha', by simp only [Stmt.unlined, hlines]⟩

/-- A call that stands as a statement can be read back. -/
theorem PrintsSimple.call {args : List Expr} {callLine : Nat} (hname : IsName name)
    (hargs : ∀ e ∈ args, Prints e) : PrintsSimple (.expr line (.call callLine name args)) := by
  have hprints : Prints (.call callLine name args) := .call hname hargs
  refine ⟨(Expr.call callLine name args).print, fun indent => by simp [Stmt.print], hprints.closes,
    fun hrest => ?_⟩
  refine (writes_call hname hargs).imp ?_
  rintro _ ⟨t, opening, us, closing, args', rfl, ht, hlexeme, ho, hargs', hc, hlines⟩
  refine ⟨.expr t.line (.call t.line t.lexeme args'), .call ht ho hargs' hc, ?_⟩
  simp only [Stmt.unlined, Expr.unlined, hlexeme, hlines]

/-! ## Layout -/

/-- Spaces in front of a statement are no tokens. -/
theorem writes_indent {D : List Token → Prop} {cs : List Char} (indent : Nat)
    (h : Writes D cs rest) : Writes D ((ParLang.blanks indent).toList ++ cs) rest := by
  refine h.blanks _ fun b hb => ?_
  rw [ParLang.blanks, Text.toList_pushn, List.mem_replicate] at hb
  rw [hb.2]
  decide

/-- What is written on one line, without its end. -/
theorem trimEnd_line {text : String} (h : Closes text.toList) : trimEnd (text ++ "\n") = text := by
  obtain ⟨cs, c, htext, hc⟩ := h
  have hnewline : Text.isBlank '\n' = true := by decide
  have htrim : dropTrailing Text.isBlank (cs ++ [c] ++ "\n".toList) = cs ++ [c] := by
    simp [dropTrailing, hc, hnewline]
  rw [trimEnd, String.toList_append, htext, htrim, ← htext, String.ofList_toList]

/-- A line at some indent. -/
theorem writes_line {D : List Token → Prop} {text : String} (indent : Nat)
    (h : Writes D text.toList ('\n' :: rest)) :
    Writes D (ParLang.blanks indent ++ text ++ "\n").toList rest := by
  have htext : (ParLang.blanks indent ++ text ++ "\n").toList =
      (ParLang.blanks indent).toList ++ (text.toList ++ ['\n']) := by
    simp
  rw [htext]
  exact writes_indent indent h.newline

/-- A line break ends every word. -/
theorem apart_newline : Apart ('\n' :: rest) :=
  apart_cons (isNameChar_separator (by decide))

/-! ## Blocks -/

/-- The lines of the statement can be read back. -/
def PrintsStmt (s : Stmt) : Prop :=
  ∀ indent rest, Writes (fun ts => ∃ s', Statement ts s' ∧ s'.unlined = s.unlined)
    (s.print indent).toList rest

/-- The tokens are those of the statements, up to lines. -/
def StatementTokens (ss : List Stmt) (ts : List Token) : Prop :=
  ∃ ss', Statements ts ss' ∧ unlinedStmts ss' = unlinedStmts ss

/-- The lines of the statements can be read back. -/
def PrintsStmts (ss : List Stmt) : Prop :=
  ∀ indent rest, Writes (StatementTokens ss) (printStmts ss indent).toList rest

/-- No statements are written as nothing. -/
theorem writes_nil : Writes (StatementTokens []) [] rest := by
  refine Writes.nil.imp ?_
  rintro _ rfl
  exact ⟨[], .none, rfl⟩

/-- A statement is read back in front of others, since a line break stands between. -/
theorem PrintsStmt.append {cs : List Char} {indent : Nat} (h : PrintsStmt s)
    (hss : Writes (StatementTokens ss) cs rest) :
    Writes (StatementTokens (s :: ss)) ((s.print indent).toList ++ cs) rest := by
  refine ((h _ _).append hss).imp ?_
  rintro _ ⟨us, vs, rfl, ⟨s', hs', hlines⟩, ss', hss', htlines⟩
  exact ⟨s' :: ss', .cons hs' hss', by simp only [unlinedStmts, hlines, htlines]⟩

/-- Statements that can each be read back can be read back in a row. -/
theorem PrintsStmts.of_forall (h : ∀ s ∈ ss, PrintsStmt s) : PrintsStmts ss := by
  intro indent rest
  induction ss with
  | nil => exact writes_nil
  | cons s ss ih =>
    rw [printStmts, String.toList_append]
    exact (h s List.mem_cons_self).append (ih fun s' hs' => h s' (List.mem_cons_of_mem _ hs'))

/-- The tokens are those of a block with the statements, up to lines. -/
def BlockTokens (ss : List Stmt) (ts : List Token) : Prop :=
  ∃ b, Braces ts b ∧ unlinedStmts b.statements = unlinedStmts ss

/-- A block is read back, with its statements on lines of their own or with none in it. -/
theorem PrintsStmts.block {indent : Nat} (h : PrintsStmts ss) :
    Writes (BlockTokens ss) (braces indent ss.isEmpty (printStmts ss (indent + indentWidth))).toList
      rest := by
  cases ss with
  | nil =>
    have htext : (braces indent true (printStmts [] (indent + indentWidth))).toList =
        ['{'] ++ (' ' :: ['}']) := by
      simp [braces]
    rw [List.isEmpty_nil, htext]
    refine (Writes.leftBrace.append Writes.rightBrace.space).imp ?_
    rintro _ ⟨_, _, rfl, ⟨opening, rfl, ho⟩, closing, rfl, hc⟩
    exact ⟨⟨opening.line, []⟩, .intro ho .none hc, rfl⟩
  | cons s ss =>
    have htext : (braces indent (s :: ss).isEmpty (printStmts (s :: ss) (indent + indentWidth))).toList =
        ['{'] ++ (['\n'] ++ ((printStmts (s :: ss) (indent + indentWidth)).toList ++
          ((ParLang.blanks indent).toList ++ ['}']))) := by
      simp [braces]
    rw [htext]
    have hblank : ∀ b ∈ ['\n'], Text.isBlank b := List.forall_mem_singleton.mpr (by decide)
    refine (Writes.leftBrace.append (Writes.blanks ['\n'] hblank
      ((h _ _).append (writes_indent indent .rightBrace)))).imp ?_
    rintro _ ⟨_, _, rfl, ⟨opening, rfl, ho⟩, us, _, rfl, ⟨ss', hss', hlines⟩, closing, rfl, hc⟩
    exact ⟨⟨opening.line, ss'⟩, .intro ho hss' hc, hlines⟩

/-! ## Statements with blocks -/

/-- A statement without a block may stand on its line as a statement. -/
theorem PrintsSimple.statement (h : PrintsSimple s) : PrintsStmt s := by
  obtain ⟨text, hprint, -, hreads⟩ := h
  intro indent rest
  rw [hprint]
  refine (writes_line indent (hreads apart_newline)).imp ?_
  rintro ts ⟨s', hs', hlines⟩
  exact ⟨s', .simple hs', hlines⟩

/-- The tokens are those of an expression in parentheses, up to lines. -/
def ConditionTokens (e : Expr) (ts : List Token) : Prop :=
  ∃ opening us closing e', ts = opening :: (us ++ [closing]) ∧ opening.kind = .leftParen ∧
    Expression us e' ∧ closing.kind = .rightParen ∧ e'.unlined = e.unlined

/-- A condition is written in parentheses. -/
theorem writes_condition (h : Prints e) :
    Writes (ConditionTokens e) (['('] ++ (e.print.toList ++ [')'])) rest := by
  have hclose : Apart ([')'] ++ rest) := apart_cons (isNameChar_separator (by decide))
  refine (Writes.leftParen.append ((h.expression hclose).append .rightParen)).imp ?_
  rintro _ ⟨_, _, rfl, ⟨opening, rfl, ho⟩, us, _, rfl, ⟨e', he', hlines⟩, closing, rfl, hc⟩
  exact ⟨opening, us, closing, e', rfl, ho, he', hc, hlines⟩

variable {body yes no : Block Stmt}

/-- The text of a block at an indent. -/
def blockText (indent : Nat) (b : Block Stmt) : String :=
  braces indent b.statements.isEmpty (printStmts b.statements (indent + indentWidth))

/-- A loop can be read back if its condition and its body can. -/
theorem PrintsStmt.while (h : Prints e) (hbody : PrintsStmts body.statements) :
    PrintsStmt (.while line e body) := by
  intro indent rest
  have hprint : (Stmt.while line e body).print indent =
      ParLang.blanks indent ++ ("while (" ++ e.print ++ ") " ++ blockText indent body) ++ "\n" := by
    simp [Stmt.print, blockText, String.append_assoc]
  have htext : ("while (" ++ e.print ++ ") " ++ blockText indent body).toList =
      "while".toList ++ (' ' :: (['('] ++ (e.print.toList ++ [')']) ++
        (' ' :: (blockText indent body).toList))) := by
    simp
  rw [hprint]
  refine writes_line indent ?_
  rw [htext]
  refine (Writes.keyword .whileLoop (by decide) rfl
    ((writes_condition h).append hbody.block.space)).imp ?_
  rintro _ ⟨_, _, rfl, ⟨word, rfl, hword⟩, _, _, rfl,
    ⟨opening, us, closing, e', rfl, ho, he', hc, helines⟩, body', hbody', hlines⟩
  refine ⟨.while word.line e' body', ?_, by simp only [Stmt.unlined, helines, hlines]⟩
  simpa using Statement.while hword ho he' hc hbody'

/-- A branch can be read back: no other word follows its block. -/
theorem PrintsStmt.branch (h : Prints e) (hyes : PrintsStmts yes.statements) :
    PrintsStmt (.branch line e yes none) := by
  intro indent rest
  have hprint : (Stmt.branch line e yes none).print indent =
      ParLang.blanks indent ++ ("if (" ++ e.print ++ ") " ++ blockText indent yes) ++ "\n" := by
    simp [Stmt.print, blockText, String.append_assoc]
  have htext : ("if (" ++ e.print ++ ") " ++ blockText indent yes).toList =
      "if".toList ++ (' ' :: (['('] ++ (e.print.toList ++ [')']) ++
        (' ' :: (blockText indent yes).toList))) := by
    simp
  rw [hprint]
  refine writes_line indent ?_
  rw [htext]
  refine (Writes.keyword .ifBranch (by decide) rfl
    ((writes_condition h).append hyes.block.space)).imp ?_
  rintro _ ⟨_, _, rfl, ⟨word, rfl, hword⟩, _, _, rfl,
    ⟨opening, us, closing, e', rfl, ho, he', hc, helines⟩, yes', hyes', hlines⟩
  refine ⟨.branch word.line e' yes' none, ?_, by simp only [Stmt.unlined, helines, hlines]⟩
  simpa using Statement.branch hword ho he' hc hyes'

/-- So can one with a second block. -/
theorem PrintsStmt.branchElse (h : Prints e) (hyes : PrintsStmts yes.statements)
    (hno : PrintsStmts no.statements) : PrintsStmt (.branch line e yes (some no)) := by
  intro indent rest
  have hprint : (Stmt.branch line e yes (some no)).print indent =
      ParLang.blanks indent ++ ("if (" ++ e.print ++ ") " ++ blockText indent yes ++ " else " ++
        blockText indent no) ++ "\n" := by
    simp [Stmt.print, blockText, String.append_assoc]
  have htext : ("if (" ++ e.print ++ ") " ++ blockText indent yes ++ " else " ++
        blockText indent no).toList =
      "if".toList ++ (' ' :: (['('] ++ (e.print.toList ++ [')']) ++
        (' ' :: ((blockText indent yes).toList ++
          (' ' :: ("else".toList ++ (' ' :: (blockText indent no).toList))))))) := by
    simp
  rw [hprint]
  refine writes_line indent ?_
  rw [htext]
  refine (Writes.keyword .ifBranch (by decide) rfl ((writes_condition h).append
    (Writes.space (hyes.block.append
      (Writes.space (.keyword .elseBranch (by decide) rfl hno.block)))))).imp ?_
  rintro _ ⟨_, _, rfl, ⟨word, rfl, hword⟩, _, _, rfl,
    ⟨opening, us, closing, e', rfl, ho, he', hc, helines⟩, _, _, rfl, ⟨yes', hyes', hlines⟩, _, _, rfl,
    ⟨other, rfl, hother⟩, no', hno', hnlines⟩
  refine ⟨.branch word.line e' yes' (some no'), ?_,
    by simp only [Stmt.unlined, helines, hlines, hnlines]⟩
  simpa using Statement.branchElse hword ho he' hc hyes' hother hno'

/-- A loop with an update can be read back. Its three parts are written on one line, with semicolons
between. -/
theorem PrintsStmt.for {init : Stmt} {update : Assignment} (hinit : PrintsSimple init)
    (h : Prints e) (htarget : PrintsTarget update.target) (hvalue : Prints update.value)
    (hbody : PrintsStmts body.statements) : PrintsStmt (.for line init e update body) := by
  obtain ⟨text, hinitPrint, hcloses, hinit⟩ := hinit
  intro indent rest
  have htrim : trimEnd (init.print 0) = text := by
    rw [hinitPrint, show ParLang.blanks 0 = "" from rfl, String.empty_append, trimEnd_line hcloses]
  have hprint : (Stmt.for line init e update body).print indent =
      ParLang.blanks indent ++ ("for (" ++ text ++ "; " ++ e.print ++ "; " ++ update.print ++ ") " ++
        blockText indent body) ++ "\n" := by
    simp [Stmt.print, blockText, htrim, String.append_assoc]
  have htext : ("for (" ++ text ++ "; " ++ e.print ++ "; " ++ update.print ++ ") " ++
        blockText indent body).toList =
      "for".toList ++ (' ' :: (['('] ++ (text.toList ++ ([';'] ++ (' ' :: (e.print.toList ++
        ([';'] ++ (' ' :: (update.print.toList ++ ([')'] ++
          (' ' :: (blockText indent body).toList))))))))))) := by
    simp
  have hsemi : ∀ {rest}, Apart (';' :: rest) := apart_cons (isNameChar_separator (by decide))
  have hclose : ∀ {rest}, Apart (')' :: rest) := apart_cons (isNameChar_separator (by decide))
  rw [hprint]
  refine writes_line indent ?_
  rw [htext]
  refine Writes.imp (.keyword .forLoop (by decide) rfl (.append .leftParen (.append (hinit hsemi)
    (.append .semicolon (.space (.append (h.expression hsemi) (.append .semicolon (.space
      (.append (writes_assignment htarget hvalue hclose)
        (.append .rightParen (.space hbody.block))))))))))) ?_
  rintro _ ⟨_, _, rfl, ⟨word, rfl, hword⟩, _, _, rfl, ⟨opening, rfl, ho⟩, us, _, rfl,
    ⟨init', hinit', hilines⟩, _, _, rfl, ⟨semi₁, rfl, h₁⟩, ts, _, rfl, ⟨e', he', helines⟩, _, _, rfl,
    ⟨semi₂, rfl, h₂⟩, vs, _, rfl, ⟨update', hupdate', hulines⟩, _, _, rfl, ⟨closing, rfl, hc⟩, body',
    hbody', hlines⟩
  refine ⟨.for word.line init' e' update' body', ?_,
    by simp only [Stmt.unlined, hilines, helines, hulines, hlines]⟩
  simpa using Statement.for hword ho hinit' h₁ he' h₂ hupdate' hc hbody'

/-- A sequential block can be read back. -/
theorem PrintsStmt.seq (hbody : PrintsStmts body.statements) : PrintsStmt (.seq body) := by
  intro indent rest
  have hprint : (Stmt.seq body).print indent =
      ParLang.blanks indent ++ ("seq " ++ blockText indent body) ++ "\n" := by
    simp [Stmt.print, blockText, String.append_assoc]
  have htext : ("seq " ++ blockText indent body).toList =
      "seq".toList ++ (' ' :: (blockText indent body).toList) := by
    simp
  rw [hprint]
  refine writes_line indent ?_
  rw [htext]
  refine (Writes.keyword .seq (by decide) rfl hbody.block).imp ?_
  rintro _ ⟨_, _, rfl, ⟨word, rfl, hword⟩, body', hbody', hlines⟩
  exact ⟨.seq body', .seq hword hbody', by simp only [Stmt.unlined, hlines]⟩

/-- A parallel block can be read back. -/
theorem PrintsStmt.par (hbody : PrintsStmts body.statements) : PrintsStmt (.par body) := by
  intro indent rest
  have hprint : (Stmt.par body).print indent =
      ParLang.blanks indent ++ ("par " ++ blockText indent body) ++ "\n" := by
    simp [Stmt.print, blockText, String.append_assoc]
  have htext : ("par " ++ blockText indent body).toList =
      "par".toList ++ (' ' :: (blockText indent body).toList) := by
    simp
  rw [hprint]
  refine writes_line indent ?_
  rw [htext]
  refine (Writes.keyword .par (by decide) rfl hbody.block).imp ?_
  rintro _ ⟨_, _, rfl, ⟨word, rfl, hword⟩, body', hbody', hlines⟩
  exact ⟨.par body', .par hword hbody', by simp only [Stmt.unlined, hlines]⟩

/-- A block without a word can be read back. -/
theorem PrintsStmt.block (hbody : PrintsStmts body.statements) : PrintsStmt (.block body) := by
  intro indent rest
  have hprint : (Stmt.block body).print indent =
      ParLang.blanks indent ++ blockText indent body ++ "\n" := by
    simp [Stmt.print, blockText, String.append_assoc]
  rw [hprint]
  refine writes_line indent (Writes.imp hbody.block ?_)
  rintro ts ⟨body', hbody', hlines⟩
  exact ⟨.block body', .block hbody', by simp only [Stmt.unlined, hlines]⟩

/-! ## Functions -/

/-- The text of the parameter can be read back. -/
def PrintsParam (p : Param) : Prop :=
  ∀ rest, Apart rest →
    Writes (fun ts => ∃ p', Parameter ts p' ∧ p'.unlined = p.unlined) p.print.toList rest

/-- A parameter is written as its name and its type. -/
theorem PrintsParam.plain (hname : IsName name) (htype : IsType type) :
    PrintsParam ⟨line, name, type, none⟩ := by
  intro rest hrest
  have htext : (Param.mk line name type none).print.toList =
      name.toList ++ ([':'] ++ (' ' :: type.text.toList)) := by
    simp [Param.print]
  rw [htext]
  refine Writes.imp (.append (hname.writes (apart_cons (isNameChar_separator (by decide))))
    (.append .colon (.space (writes_type htype hrest)))) ?_
  rintro _ ⟨_, _, rfl, ⟨t, rfl, ht, hlexeme⟩, _, _, rfl, ⟨colon, rfl, hcolon⟩, htype'⟩
  refine ⟨⟨t.line, t.lexeme, type, none⟩, .plain ht hcolon htype', ?_⟩
  simp only [Param.unlined, hlexeme]

/-- A default is written behind a sign of assignment. -/
theorem PrintsParam.default (hname : IsName name) (htype : IsType type) (h : Prints e) :
    PrintsParam ⟨line, name, type, some e⟩ := by
  intro rest hrest
  have htext : (Param.mk line name type (some e)).print.toList =
      name.toList ++ ([':'] ++ (' ' :: (type.text.toList ++
        (' ' :: (['='] ++ (' ' :: e.print.toList)))))) := by
    simp [Param.print]
  rw [htext]
  refine Writes.imp (.append (hname.writes (apart_cons (isNameChar_separator (by decide))))
    (.append .colon (.space (.append (writes_type htype apart_space)
      (.space (.append .assign (.space (h.expression hrest)))))))) ?_
  rintro _ ⟨_, _, rfl, ⟨t, rfl, ht, hlexeme⟩, _, _, rfl, ⟨colon, rfl, hcolon⟩, us, _, rfl, htype', _, _,
    rfl, ⟨sign, rfl, hsign⟩, e', he', hlines⟩
  refine ⟨⟨t.line, t.lexeme, type, some e'⟩, .default ht hcolon htype' hsign he', ?_⟩
  simp only [Param.unlined, hlexeme, Option.map_some, hlines]

/-- Parameters are written with commas between, and read back in this order. -/
theorem writes_parameters {ps : List Param} (hps : ∀ p ∈ ps, PrintsParam p) (hne : ps ≠ [])
    (hrest : Apart rest) :
    Writes (fun ts => ∃ ps', Parameters ts ps' ∧ ps'.map Param.unlined = ps.map Param.unlined)
      (String.intercalate ", " (ps.map Param.print)).toList rest := by
  induction ps with
  | nil => exact absurd rfl hne
  | cons p ps ih =>
    have hp : PrintsParam p := hps p List.mem_cons_self
    cases ps with
    | nil =>
      have htext : String.intercalate ", " ([p].map Param.print) = p.print := by simp
      rw [htext]
      refine (hp _ hrest).imp ?_
      rintro _ ⟨p', hp', hlines⟩
      exact ⟨[p'], .one hp', by simp only [List.map_singleton, hlines]⟩
    | cons q ps =>
      have htail := ih (fun p' hp' => hps p' (List.mem_cons_of_mem _ hp')) (List.cons_ne_nil _ _)
      have htext : (String.intercalate ", " ((p :: q :: ps).map Param.print)).toList =
          p.print.toList ++
            ([','] ++ (' ' :: (String.intercalate ", " ((q :: ps).map Param.print)).toList)) := by
        simp [String.intercalate_cons_cons]
      rw [htext]
      refine Writes.imp (.append (hp _ (apart_cons (isNameChar_separator (by decide))))
        (.append .comma (.space htail))) ?_
      rintro _ ⟨_, _, rfl, ⟨p', hp', hlines⟩, _, _, rfl, ⟨comma, rfl, hcomma⟩, ps', hps', htlines⟩
      refine ⟨p' :: ps', .cons hp' hcomma hps', ?_⟩
      rw [List.map_cons, List.map_cons, hlines, htlines]

/-- The list of parameters may be empty. -/
theorem writes_parameterList {ps : List Param} (hps : ∀ p ∈ ps, PrintsParam p) (hrest : Apart rest) :
    Writes (fun ts => ∃ ps', ParameterList ts ps' ∧ ps'.map Param.unlined = ps.map Param.unlined)
      (String.intercalate ", " (ps.map Param.print)).toList rest := by
  cases ps with
  | nil =>
    have htext : (String.intercalate ", " (([] : List Param).map Param.print)).toList = [] := by simp
    rw [htext]
    refine Writes.nil.imp ?_
    rintro _ rfl
    exact ⟨[], .none, rfl⟩
  | cons p ps =>
    refine (writes_parameters hps (List.cons_ne_nil _ _) hrest).imp ?_
    rintro ts ⟨ps', hps', hlines⟩
    exact ⟨ps', .some hps', hlines⟩

/-- A definition can be read back if its parameters, its type and its body can. -/
theorem PrintsStmt.function {d : FunctionDef Stmt} (hname : IsName d.name)
    (hps : ∀ p ∈ d.params, PrintsParam p) (htype : IsType d.returns)
    (hbody : PrintsStmts d.body.statements) : PrintsStmt (.function d) := by
  intro indent rest
  let params := String.intercalate ", " (d.params.map Param.print)
  have hprint : (Stmt.function d).print indent = ParLang.blanks indent ++ ("func " ++ d.name ++ "(" ++
      params ++ ") -> " ++ d.returns.text ++ " " ++ blockText indent d.body) ++ "\n" := by
    simp [Stmt.print, blockText, params, String.append_assoc]
  have htext : ("func " ++ d.name ++ "(" ++ params ++ ") -> " ++ d.returns.text ++ " " ++
        blockText indent d.body).toList =
      "func".toList ++ (' ' :: (d.name.toList ++ (['('] ++ (params.toList ++ ([')'] ++
        (' ' :: (['-', '>'] ++ (' ' :: (d.returns.text.toList ++
          (' ' :: (blockText indent d.body).toList)))))))))) := by
    simp
  rw [hprint]
  refine writes_line indent ?_
  rw [htext]
  refine Writes.imp (.keyword .func (by decide) rfl
    (.append (hname.writes (apart_cons (isNameChar_separator (by decide)))) (.append .leftParen
      (.append (writes_parameterList hps (apart_cons (isNameChar_separator (by decide)))) (.append .rightParen
        (.space (.append .arrow (.space (.append (writes_type htype apart_space)
          (.space hbody.block)))))))))) ?_
  rintro _ ⟨_, _, rfl, ⟨word, rfl, hword⟩, _, _, rfl, ⟨name, rfl, hname', hlexeme⟩, _, _, rfl,
    ⟨opening, rfl, ho⟩, us, _, rfl, ⟨ps', hps', hplines⟩, _, _, rfl, ⟨closing, rfl, hc⟩, _, _, rfl,
    ⟨arrow, rfl, harrow⟩, vs, _, rfl, htype', body', hbody', hlines⟩
  refine ⟨.function ⟨word.line, name.lexeme, ps', d.returns, body'⟩, ?_,
    by simp only [Stmt.unlined, hlexeme, hplines, hlines]⟩
  simpa using Statement.function hword hname' ho hps' hc harrow htype' hbody'

/-! ## Channels -/

/-- The argument of a channel is read back as an operand: an operation is written in parentheses. -/
theorem Prints.primary (h : Prints e) (hrest : Apart rest) :
    Writes (Derived Primary e) e.printPrimary.toList rest := by
  cases e with
  | binary => exact h.parenthesised
  | unary => exact h.parenthesised
  | _ => exact h.reads hrest

/-- A comma and an argument of a channel. -/
def argumentChars (e : Expr) : List Char :=
  ',' :: ' ' :: e.printPrimary.toList

/-- An argument is written behind a comma. -/
theorem writes_argument (h : Prints e) (hrest : Apart rest) :
    Writes (Both (Sole .comma) (Derived Primary e)) (argumentChars e) rest :=
  Writes.append .comma (h.primary hrest).space

/-- The comma of an argument ends every word. -/
theorem apart_argument {cs : List Char} : Apart (argumentChars e ++ cs ++ rest) :=
  apart_cons (isNameChar_separator (by decide))

/-- A server channel can be read back. -/
theorem PrintsStmt.server {c : ServerChannel} (hname : IsName c.name) (hhandler : IsName c.handler)
    (hdescription : Prints c.description) (hhost : Prints c.host) (hport : Prints c.port) :
    PrintsStmt (.server c) := by
  intro indent rest
  have hprint : (Stmt.server c).print indent = ParLang.blanks indent ++ c.print ++ "\n" := by
    simp [Stmt.print]
  have htext : c.print.toList = "s_channel".toList ++ (' ' :: (c.name.toList ++ (' ' :: (['{'] ++
      (' ' :: (c.handler.toList ++ (argumentChars c.description ++ (argumentChars c.host ++
        (argumentChars c.port ++ (' ' :: ['}'])))))))))) := by
    unfold ServerChannel.print
    simp [argumentChars]
  rw [hprint]
  refine writes_line indent ?_
  rw [htext]
  refine Writes.imp (.keyword .serverChannel (by decide) rfl (.append (hname.writes apart_space)
    (.space (.append .leftBrace (.space (.append (hhandler.writes apart_argument)
      (.append (writes_argument hdescription apart_argument)
        (.append (writes_argument hhost apart_argument)
          (.append (writes_argument hport apart_space) (.space .rightBrace)))))))))) ?_
  rintro _ ⟨_, _, rfl, ⟨word, rfl, hword⟩, _, _, rfl, ⟨name, rfl, hname', hlexeme⟩, _, _, rfl,
    ⟨opening, rfl, ho⟩, _, _, rfl, ⟨handler, rfl, hhandler', hhlexeme⟩, _, _, rfl,
    ⟨_, us, rfl, ⟨comma₁, rfl, h₁⟩, description', hdescription', hdlines⟩, _, _, rfl,
    ⟨_, vs, rfl, ⟨comma₂, rfl, h₂⟩, host', hhost', hhlines⟩, _, _, rfl,
    ⟨_, ws, rfl, ⟨comma₃, rfl, h₃⟩, port', hport', hplines⟩, closing, rfl, hc⟩
  refine ⟨.server ⟨word.line, name.lexeme, handler.lexeme, description', host', port'⟩, .server ?_, ?_⟩
  · simpa using Server.intro hword hname' ho hhandler' h₁ hdescription' h₂ hhost' h₃ hport' hc
  · simp only [Stmt.unlined, ServerChannel.unlined, hlexeme, hhlexeme, hdlines, hhlines, hplines]

/-- A client channel can be read back. -/
theorem PrintsStmt.client {c : ClientChannel} (hname : IsName c.name) (hhost : Prints c.host)
    (hport : Prints c.port) : PrintsStmt (.client c) := by
  intro indent rest
  have hprint : (Stmt.client c).print indent = ParLang.blanks indent ++ c.print ++ "\n" := by
    simp [Stmt.print]
  have htext : c.print.toList = "c_channel".toList ++ (' ' :: (c.name.toList ++ (' ' :: (['{'] ++
      (' ' :: (c.host.printPrimary.toList ++ (argumentChars c.port ++ (' ' :: ['}'])))))))) := by
    unfold ClientChannel.print
    simp [argumentChars]
  rw [hprint]
  refine writes_line indent ?_
  rw [htext]
  refine Writes.imp (.keyword .clientChannel (by decide) rfl (.append (hname.writes apart_space)
    (.space (.append .leftBrace (.space (.append (hhost.primary apart_argument)
      (.append (writes_argument hport apart_space) (.space .rightBrace)))))))) ?_
  rintro _ ⟨_, _, rfl, ⟨word, rfl, hword⟩, _, _, rfl, ⟨name, rfl, hname', hlexeme⟩, _, _, rfl,
    ⟨opening, rfl, ho⟩, us, _, rfl, ⟨host', hhost', hhlines⟩, _, _, rfl,
    ⟨_, vs, rfl, ⟨comma, rfl, hcomma⟩, port', hport', hplines⟩, closing, rfl, hc⟩
  refine ⟨.client ⟨word.line, name.lexeme, host', port'⟩, .client ?_, ?_⟩
  · simpa using Client.intro hword hname' ho hhost' hcomma hport' hc
  · simp only [Stmt.unlined, ClientChannel.unlined, hlexeme, hhlines, hplines]

/-! ## Programs -/

/-- Statements behind another one are read back, with an empty line in front of a definition or behind it.
-/
theorem writes_behind {previous : Stmt} (h : ∀ s ∈ ss, PrintsStmt s) :
    Writes (StatementTokens ss) (printBehind previous ss).toList rest := by
  induction ss generalizing previous with
  | nil => exact writes_nil
  | cons s ss ih =>
    have hrest : Writes (StatementTokens (s :: ss))
        ((s.print 0).toList ++ (printBehind s ss).toList) rest :=
      (h s List.mem_cons_self).append (ih fun s' hs' => h s' (List.mem_cons_of_mem _ hs'))
    rw [printBehind, String.append_assoc, String.toList_append, String.toList_append]
    split
    · exact hrest.blanks ['\n'] (List.forall_mem_singleton.mpr (by decide))
    · exact hrest

/-- A program is read back as its statements, up to lines. -/
theorem writes_program {p : Program} (h : ∀ s ∈ p.statements, PrintsStmt s) :
    Writes (StatementTokens p.statements) p.print.toList rest := by
  obtain ⟨ss⟩ := p
  cases ss with
  | nil => exact writes_nil
  | cons s ss =>
    show Writes _ (s.print 0 ++ printBehind s ss).toList rest
    rw [String.toList_append]
    exact (h s List.mem_cons_self).append
      (writes_behind fun s' hs' => h s' (List.mem_cons_of_mem _ hs'))

end Printing

end ParLang
