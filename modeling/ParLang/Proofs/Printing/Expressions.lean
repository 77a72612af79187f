import ParLang.Program.Printer
import ParLang.Proofs.Grammar.Sound
import ParLang.Proofs.Printing.Writes
import ParLang.Proofs.Program.Lines

/-!
# Written expressions

`Prints e` says that the text of the expression `e`, if no name goes on behind it, scans to tokens that
derive `e` up to lines. How they derive it depends on what stands at the top of `e` alone (`Written`):
an operator between operands derives at its own level, an operator in front as a unary expression, and
everything else as a primary. Parentheses are written just where this would not do.
-/

namespace ParLang

namespace Printing

open Cursor Grammar

variable {rest : List Char} {e l r : Expr} {es : List Expr} {line : Nat} {name : String}

/-- How the tokens of a written expression derive it. -/
def Written (e : Expr) (ts : List Token) (e' : Expr) : Prop :=
  match e with
  | .binary _ op _ _ => Level op.precedence ts e'
  | .unary _ _ _ => Unary ts e'
  | _ => Primary ts e'

/-- The tokens derive the expression up to lines. -/
def Derived (J : List Token → Expr → Prop) (e : Expr) (ts : List Token) : Prop :=
  ∃ e', J ts e' ∧ e'.unlined = e.unlined

/-- How tokens derive an expression may be described more loosely. -/
theorem Derived.imp {J K : List Token → Expr → Prop} {ts : List Token} (h : Derived J e ts)
    (himp : ∀ {e'}, J ts e' → K ts e') : Derived K e ts := by
  obtain ⟨e', he', hlines⟩ := h
  exact ⟨e', himp he', hlines⟩

/-- The characters start with one that does not make a longer symbol of an operator in front. -/
def Opens (cs : List Char) : Prop :=
  ∃ c ds, cs = c :: ds ∧ c ≠ '=' ∧ c ≠ '>'

/-- The last one of the characters is no blank. -/
def Closes (cs : List Char) : Prop :=
  ∃ ds c, cs = ds ++ [c] ∧ Text.isBlank c = false

/-- What is behind the first character does not matter. -/
theorem Opens.append {cs ds : List Char} (h : Opens cs) : Opens (cs ++ ds) := by
  obtain ⟨c, cs, rfl, hc⟩ := h
  exact ⟨c, cs ++ ds, rfl, hc⟩

/-- Nor does what is in front of the last one. -/
theorem Closes.append {cs ds : List Char} (h : Closes ds) : Closes (cs ++ ds) := by
  obtain ⟨ds, c, rfl, hc⟩ := h
  exact ⟨cs ++ ds, c, (List.append_assoc ..).symm, hc⟩

/-- One character more in front does not matter either. -/
theorem Closes.cons {c : Char} {cs : List Char} (h : Closes cs) : Closes (c :: cs) :=
  (h.append : Closes ([c] ++ cs))

/-- Characters without blanks do not end in one. -/
theorem closes_of_getLast {c : Char} {cs : List Char} (h : ∀ d ∈ c :: cs, Text.isBlank d = false) :
    Closes (c :: cs) := by
  have hne : c :: cs ≠ [] := List.cons_ne_nil _ _
  exact ⟨(c :: cs).dropLast, (c :: cs).getLast hne, (List.dropLast_concat_getLast hne).symm,
    h _ (List.getLast_mem hne)⟩

/-- The text of the expression can be read back. -/
structure Prints (e : Expr) : Prop where
  opens : Opens e.print.toList
  closes : Closes e.print.toList
  reads : ∀ {rest}, Apart rest → Writes (Derived (Written e) e) e.print.toList rest

/-! ## Operands -/

/-- Every operator binds tighter than none. -/
theorem precedence_pos (op : BinaryOp) : 1 ≤ op.precedence := by
  cases op <;> decide

/-- A written expression without an operator at the top is of every level, one with an operator of every
level up to that of the operator. -/
theorem Written.level {ts : List Token} {e' : Expr} {k : Nat} (h : Written e ts e') (hk : k ≤ 7)
    (htop : ∀ op, e.topOp? = some op → k ≤ op.precedence) : Level k ts e' := by
  cases e with
  | binary _ op _ _ => exact Level.loosen h (htop op rfl)
  | unary => exact (Level.unary h).loosen hk
  | _ => exact (Level.unary (.primary h)).loosen hk

/-- What is written of an expression that is no binary operation is an operand, perhaps with operators in
front. -/
theorem Written.unary {ts : List Token} {e' : Expr} (h : Written e ts e')
    (htop : e.topOp? = none) : Unary ts e' := by
  cases e with
  | binary => cases htop
  | unary => exact h
  | _ => exact .primary h

/-- What is written of any expression derives one. -/
theorem Written.expression {ts : List Token} {e' : Expr} (h : Written e ts e') : Expression ts e' :=
  h.level (by decide) fun op _ => precedence_pos op

/-- The text of an expression is read as one, where it ends. -/
theorem Prints.expression (h : Prints e) (hrest : Apart rest) :
    Writes (Derived Expression e) e.print.toList rest :=
  (h.reads hrest).imp fun h => h.imp Written.expression

/-- A closing parenthesis goes on with nothing. -/
theorem apart_rightParen : Apart ([')'] ++ rest) :=
  apart_cons (isNameChar_separator (by decide))

/-- A text in parentheses. -/
theorem writes_parens {D : List Token → Prop} {text : String}
    (h : Writes D text.toList ([')'] ++ rest)) :
    Writes (Both (Sole .leftParen) (Both D (Sole .rightParen))) ("(" ++ text ++ ")").toList rest := by
  have htext : ("(" ++ text ++ ")").toList = ['('] ++ (text.toList ++ [')']) := by simp
  rw [htext]
  exact Writes.leftParen.append (h.append .rightParen)

/-- An expression in parentheses is a primary, and nothing can go on with it. -/
theorem Prints.parenthesised (h : Prints e) :
    Writes (Derived Primary e) ("(" ++ e.print ++ ")").toList rest := by
  refine (writes_parens (h.expression apart_rightParen)).imp ?_
  rintro _ ⟨_, _, rfl, ⟨opening, rfl, ho⟩, _, _, rfl, ⟨e', he', hlines⟩, closing, rfl, hc⟩
  exact ⟨e', .parens ho he' hc, hlines⟩

/-- An operand is in parentheses or of the level that its place asks for. -/
theorem Prints.operand {needed : Bool} {k : Nat} (h : Prints e) (hk : k ≤ 7)
    (htop : needed = false → ∀ op, e.topOp? = some op → k ≤ op.precedence) (hrest : Apart rest) :
    Writes (Derived (Level k) e) (parenthesise needed e.print).toList rest := by
  cases needed with
  | true => exact h.parenthesised.imp fun h => h.imp fun h => (Level.unary (.primary h)).loosen hk
  | false => exact (h.reads hrest).imp fun h' => h'.imp fun h' => h'.level hk (htop rfl)

/-- An operand starts like its expression, or with a parenthesis. -/
theorem Prints.operand_opens (needed : Bool) (h : Prints e) :
    Opens (parenthesise needed e.print).toList := by
  cases needed with
  | true => exact ⟨'(', (e.print ++ ")").toList, by simp [parenthesise], by decide, by decide⟩
  | false => exact h.opens

/-- An operand ends like its expression, or with a parenthesis. -/
theorem Prints.operand_closes (needed : Bool) (h : Prints e) :
    Closes (parenthesise needed e.print).toList := by
  cases needed with
  | true => exact ⟨("(" ++ e.print).toList, ')', by simp [parenthesise], by decide⟩
  | false => exact h.closes

/-! ## Literals and names -/

/-- The text is a name. -/
def IsName (name : String) : Prop :=
  IsWord name.toList ∧ Token.Kind.keyword? name = none

/-- A name is read as one token, where it ends. -/
theorem IsName.writes (h : IsName name) (hrest : Apart rest) :
    Writes (One .identifier name) name.toList rest :=
  .word h.1 (by rw [h.2]; rfl) (by decide) hrest

/-- A word does not start with a mark. -/
theorem opens_of_isWord {w : List Char} (h : IsWord w) : Opens w := by
  obtain ⟨c, cs, rfl, hc, -⟩ := h
  have hne : ∀ b ∈ separators, c ≠ b := by
    rintro _ hb rfl
    rw [isLetter_separator hb] at hc
    cases hc
  exact ⟨c, cs, rfl, hne '=' (by decide), hne '>' (by decide)⟩

/-- Nor does it end in a blank. -/
theorem closes_of_isWord {w : List Char} (h : IsWord w) : Closes w := by
  have hchars := h.isNameChar
  obtain ⟨c, cs, rfl, -, -⟩ := h
  exact closes_of_getLast fun d hd => isBlank_of_isNameChar (hchars d hd)

/-- A name can be read back. -/
theorem Prints.ident (h : IsName name) : Prints (.ident line name) where
  opens := opens_of_isWord h.1
  closes := closes_of_isWord h.1
  reads hrest := (h.writes hrest).imp fun ⟨t, hts, ht, htext⟩ => by
    subst hts
    exact ⟨.ident t.line t.lexeme, .name ht, by simp only [Expr.unlined, htext]⟩

/-- A text is read as one token: there is no quote in it. -/
theorem writes_text {s : String} (h : '"' ∉ s.toList) :
    Writes (One .string s) (Expr.text line s).print.toList rest := by
  have htext : (Expr.text line s).print.toList = '"' :: (s.toList ++ ['"']) := by simp [Expr.print]
  have hspells : Spells ('"' :: (s.toList ++ ['"'])) .string s rest := by
    have hchars := @spells_string s.toList rest h
    rwa [String.ofList_toList] at hchars
  rw [htext]
  exact .token hspells (by decide)

/-- A text can be read back. -/
theorem Prints.text {s : String} (h : '"' ∉ s.toList) : Prints (.text line s) where
  opens := ⟨'"', s.toList ++ ['"'], by simp [Expr.print], by decide, by decide⟩
  closes := ⟨'"' :: s.toList, '"', by simp [Expr.print], by decide⟩
  reads _ := (writes_text h).imp fun ⟨t, hts, ht, htext⟩ => by
    subst hts
    exact ⟨.text t.line t.lexeme, .text ht, by simp only [Expr.unlined, htext]⟩

/-- The kind of token that a truth value is written as. -/
def truthKindOf : Bool → Token.Kind
  | true => .trueWord
  | false => .falseWord

/-- A truth value is written as a word. -/
theorem isWord_truth {b : Bool} : IsWord (Expr.truth line b).print.toList := by
  cases b with
  | true => exact isWord_iff.mp (Writes.isWord_reserved .trueWord (by decide) "true" rfl).1
  | false => exact isWord_iff.mp (Writes.isWord_reserved .falseWord (by decide) "false" rfl).1

/-- It is one of the two reserved words. -/
theorem writes_truth {b : Bool} (hrest : Apart rest) :
    Writes (Sole (truthKindOf b)) (Expr.truth line b).print.toList rest := by
  cases b <;> exact .reserved (by decide) rfl hrest

/-- A truth value can be read back. -/
theorem Prints.truth {b : Bool} : Prints (.truth line b) where
  opens := opens_of_isWord isWord_truth
  closes := closes_of_isWord isWord_truth
  reads hrest := (writes_truth hrest).imp fun ⟨t, hts, ht⟩ => by
    subst hts
    cases b with
    | true => exact ⟨.truth t.line true, .true ht, rfl⟩
    | false => exact ⟨.truth t.line false, .false ht, rfl⟩

/-- The text of a number literal is decimal, and reads back. -/
structure PrintsLiteral (x : Float) : Prop where
  digits : IsDecimal (Number.formatLiteral x).toList
  reads : Number.readDecimal? (Number.formatLiteral x) = some x

/-- Digits do not start with a mark. -/
theorem opens_of_isDigits {ds : List Char} (h : IsDigits ds) : Opens ds := by
  obtain ⟨c, cs, rfl⟩ := List.exists_cons_of_ne_nil h.1
  have hc := h.2 c List.mem_cons_self
  refine ⟨c, cs, rfl, ?_, ?_⟩
  · rintro rfl; exact absurd hc (by decide)
  · rintro rfl; exact absurd hc (by decide)

/-- Nor do they end in a blank. -/
theorem closes_of_isDigits {ds : List Char} (h : IsDigits ds) : Closes ds := by
  obtain ⟨c, cs, rfl⟩ := List.exists_cons_of_ne_nil h.1
  exact closes_of_getLast fun d hd => isBlank_of_isNameChar (isNameChar_of_isDigit (h.2 d hd))

/-- The tokens are a number without a point in it, or one with a point. -/
def NumberTokens (text : String) (ts : List Token) : Prop :=
  (∃ t, ts = [t] ∧ t.kind = .number ∧ t.lexeme = text) ∨
    ∃ t p u, ts = [t, p, u] ∧ t.kind = .number ∧ p.kind = .dot ∧ u.kind = .number ∧
      t.lexeme ++ "." ++ u.lexeme = text

/-- The text of a literal is read as one number, with a point in it or without. -/
theorem PrintsLiteral.writes {x : Float} (h : PrintsLiteral x) (hrest : Apart rest) :
    Writes (NumberTokens (Number.formatLiteral x)) (Number.formatLiteral x).toList rest := by
  rcases h.digits with hds | ⟨ds, fs, hds, hfs, htext⟩
  · refine (Writes.token (hds.spells hrest.isDigit) (by decide)).imp ?_
    rintro _ ⟨t, rfl, ht, hlexeme⟩
    exact .inl ⟨t, rfl, ht, hlexeme.trans String.ofList_toList⟩
  · have hdot : ∀ c ∈ ((['.'] ++ fs) ++ rest).head?, c.isDigit = false := by
      rintro _ ⟨⟩; decide
    have hwhole : Writes (One .number (String.ofList ds)) ds ((['.'] ++ fs) ++ rest) :=
      .token (hds.spells hdot) (by decide)
    have hfraction : Writes (One .number (String.ofList fs)) fs rest :=
      .token (hfs.spells hrest.isDigit) (by decide)
    have hprint : (Number.formatLiteral x).toList = ds ++ (['.'] ++ fs) := htext
    rw [hprint]
    refine (hwhole.append (Writes.dot.append hfraction)).imp ?_
    rintro _ ⟨_, _, rfl, ⟨t, rfl, ht, htext₁⟩, _, _, rfl, ⟨p, rfl, hp⟩, u, rfl, hu, htext₂⟩
    refine .inr ⟨t, p, u, rfl, ht, hp, hu, ?_⟩
    rw [htext₁, htext₂, ← String.toList_inj, htext]
    simp

/-- A literal can be read back. -/
theorem Prints.number {x : Float} (h : PrintsLiteral x) : Prints (.number line x) where
  opens := by
    rcases h.digits with hds | ⟨ds, fs, hds, -, htext⟩
    · exact opens_of_isDigits hds
    · rw [Expr.print, htext]
      exact (opens_of_isDigits hds).append
  closes := by
    rcases h.digits with hds | ⟨ds, fs, -, hfs, htext⟩
    · exact closes_of_isDigits hds
    · rw [Expr.print, htext]
      exact ((closes_of_isDigits hfs).cons).append
  reads hrest := (h.writes hrest).imp fun hts => by
    have hread := h.reads
    rcases hts with ⟨t, rfl, ht, htext⟩ | ⟨t, p, u, rfl, ht, hp, hu, htext⟩
    · exact ⟨.number t.line x, .number ht (htext ▸ hread), rfl⟩
    · exact ⟨.number t.line x, .fraction ht hp hu (htext ▸ hread), rfl⟩

/-! ## Operators -/

/-- The kind of token that an operator is written as. -/
def kindOf : BinaryOp → Token.Kind
  | .add => .plus
  | .sub => .minus
  | .mul => .star
  | .div => .slash
  | .rem => .percent
  | .and => .conj
  | .or => .disj
  | .eq => .equal
  | .notEq => .notEqual
  | .lt => .less
  | .ltEq => .lessEqual
  | .gt => .greater
  | .gtEq => .greaterEqual

/-- The token of an operator is read as the operator, at its level. -/
theorem operator_kindOf (op : BinaryOp) : Operator op.precedence (kindOf op) op := by
  cases op <;> constructor

/-- An operator is written as its symbol, with a space behind it so that no longer symbol is read. -/
theorem writes_operator (op : BinaryOp) :
    Writes (Sole (kindOf op)) op.symbol.toList (' ' :: rest) := by
  cases op
  case div => exact .symbol (isMark_symbolStart (by decide)) (fun _ => by simp) rfl (by decide)
  all_goals
    exact .symbol (isMark_symbolStart (by decide)) (fun h => absurd h (by decide)) rfl (by decide)

/-- The text of an operation is its left operand, the operator between spaces and its right operand. -/
theorem toList_print_binary (op : BinaryOp) : (Expr.binary line op l r).print.toList =
    (parenthesise (l.needsParens op.precedence false) l.print).toList ++
      (' ' :: (op.symbol.toList ++
        (' ' :: (parenthesise (r.needsParens op.precedence true) r.print).toList))) := by
  simp [Expr.print]

/-- So its tokens are those of the two operands with one of the operator between. -/
theorem writes_binary {D E : List Token → Prop} {op : BinaryOp}
    (hl : ∀ {rest}, Writes D (parenthesise (l.needsParens op.precedence false) l.print).toList
      (' ' :: rest))
    (hr : Writes E (parenthesise (r.needsParens op.precedence true) r.print).toList rest) :
    Writes (Both D (Both (Sole (kindOf op)) E)) (Expr.binary line op l r).print.toList rest := by
  rw [toList_print_binary]
  exact hl.append ((writes_operator op).append hr.space).space

/-- An operation can be read back: its left operand is of its level and its right operand of the next one,
or they are in parentheses. -/
theorem Prints.binary {op : BinaryOp} (hl : Prints l) (hr : Prints r) :
    Prints (.binary line op l r) := by
  have hseven := precedence_lt_seven op
  refine ⟨?_, ?_, fun {rest} hrest => ?_⟩
  · rw [toList_print_binary]
    exact (hl.operand_opens _).append
  · rw [toList_print_binary]
    exact (hr.operand_closes _).cons.append.cons.append
  have hright : Writes (Derived (Level (op.precedence + 1)) r)
      (parenthesise (r.needsParens op.precedence true) r.print).toList rest := by
    refine hr.operand (by omega) (fun hneeded op' hop' => ?_) hrest
    simp [Expr.needsParens, hop'] at hneeded
    omega
  have hleft : ∀ {rest}, Writes (Derived (Level op.precedence) l)
      (parenthesise (l.needsParens op.precedence false) l.print).toList (' ' :: rest) := by
    intro rest
    refine hl.operand (by omega) (fun hneeded op' hop' => ?_) apart_space
    simp [Expr.needsParens, hop'] at hneeded
    omega
  refine (writes_binary hleft hright).imp ?_
  rintro _ ⟨_, _, rfl, ⟨l', hl', hlines⟩, _, _, rfl, ⟨sign, rfl, hsign⟩, r', hr', hrlines⟩
  refine ⟨.binary sign.line op l' r', .binary hl' (hsign ▸ operator_kindOf op) hr', ?_⟩
  simp only [Expr.unlined, hlines, hrlines]

/-- The kind of token that an operator in front is written as. -/
def unaryKindOf : UnaryOp → Token.Kind
  | .neg => .minus
  | .not => .bang

/-- A sign is written as its symbol. What follows does not make a longer one of it. -/
theorem writes_sign {cs : List Char} (op : UnaryOp) (h : Opens cs) :
    Writes (Sole (unaryKindOf op)) op.symbol.toList (cs ++ rest) := by
  obtain ⟨c, cs, rfl, heq, hgt⟩ := h
  cases op with
  | neg =>
    have hsymbol : symbol? '-' ([] ++ (c :: cs ++ rest)) = some (.minus, ['-'], c :: cs ++ rest) := by
      simp [symbol?, hgt]
    exact .symbol (isMark_symbolStart (by decide)) (fun h => absurd h (by decide)) hsymbol (by decide)
  | not =>
    have hsymbol : symbol? '!' ([] ++ (c :: cs ++ rest)) = some (.bang, ['!'], c :: cs ++ rest) := by
      simp [symbol?, heq]
    exact .symbol (isMark_symbolStart (by decide)) (fun h => absurd h (by decide)) hsymbol (by decide)

/-- The text of a signed operand is the sign and then the operand. -/
theorem toList_print_unary (op : UnaryOp) : (Expr.unary line op e).print.toList =
    op.symbol.toList ++ (parenthesise e.topOp?.isSome e.print).toList := by
  simp [Expr.print]

/-- So its tokens are one of the sign and those of the operand. -/
theorem Prints.writes_unary {D : List Token → Prop} {op : UnaryOp} (h : Prints e)
    (hoperand : Writes D (parenthesise e.topOp?.isSome e.print).toList rest) :
    Writes (Both (Sole (unaryKindOf op)) D) (Expr.unary line op e).print.toList rest := by
  rw [toList_print_unary]
  exact (writes_sign op (h.operand_opens _)).append hoperand

/-- A signed operand can be read back, since an operation behind the sign is in parentheses. -/
theorem Prints.unary {op : UnaryOp} (h : Prints e) : Prints (.unary line op e) := by
  refine ⟨?_, ?_, fun {rest} hrest => ?_⟩
  · rw [toList_print_unary]
    cases op with
    | neg => exact ⟨'-', _, rfl, by decide, by decide⟩
    | not => exact ⟨'!', _, rfl, by decide, by decide⟩
  · rw [toList_print_unary]
    exact (h.operand_closes _).append
  have hoperand : Writes (Derived Unary e) (parenthesise e.topOp?.isSome e.print).toList rest := by
    cases htop : e.topOp? with
    | some op => exact h.parenthesised.imp fun h => h.imp .primary
    | none => exact (h.reads hrest).imp fun h' => h'.imp fun h' => h'.unary htop
  refine (h.writes_unary hoperand).imp ?_
  rintro _ ⟨_, _, rfl, ⟨sign, rfl, hsign⟩, e', he', hlines⟩
  refine ⟨.unary sign.line op e', ?_, by simp only [Expr.unlined, hlines]⟩
  cases op with
  | neg => exact .neg hsign he'
  | not => exact .not hsign he'

/-! ## Lists, calls and indexes -/

/-- The first of some expressions, with a comma behind it. -/
theorem writes_cons {D E : List Token → Prop} {d : Expr}
    (he : ∀ {rest}, Apart rest → Writes D e.print.toList rest)
    (htail : Writes E (Expr.printAll (d :: es)).toList rest) :
    Writes (Both D (Both (Sole .comma) E)) (Expr.printAll (e :: d :: es)).toList rest := by
  have htext : (Expr.printAll (e :: d :: es)).toList =
      e.print.toList ++ ([','] ++ (' ' :: (Expr.printAll (d :: es)).toList)) := by
    simp [Expr.printAll]
  rw [htext]
  refine Writes.append ?_ (Writes.comma.append htail.space)
  exact he (apart_cons (isNameChar_separator (by decide)))

/-- Items are written with commas between, and read back in this order. -/
theorem writes_items (hes : ∀ e ∈ es, Prints e) (hne : es ≠ []) (hrest : Apart rest) :
    Writes (fun ts => ∃ es', Items ts es' ∧ unlinedExprs es' = unlinedExprs es)
      (Expr.printAll es).toList rest := by
  induction es with
  | nil => exact absurd rfl hne
  | cons e es ih =>
    have he := hes e List.mem_cons_self
    cases es with
    | nil =>
      refine (he.expression hrest).imp ?_
      rintro _ ⟨e', he', hlines⟩
      exact ⟨[e'], .one he', by simp only [unlinedExprs, hlines]⟩
    | cons d es =>
      have htail := ih (fun e' he' => hes e' (List.mem_cons_of_mem _ he')) (List.cons_ne_nil _ _)
      refine (writes_cons he.expression htail).imp ?_
      rintro _ ⟨_, _, rfl, ⟨e', he', hlines⟩, _, _, rfl, ⟨comma, rfl, hcomma⟩, es', hes', htlines⟩
      exact ⟨e' :: es', .cons he' hcomma hes', by simp only [unlinedExprs, hlines, htlines]⟩

/-- So are arguments, of which there may be none. -/
theorem writes_listed (hes : ∀ e ∈ es, Prints e) (hrest : Apart rest) :
    Writes (fun ts => ∃ es', Listed ts es' ∧ unlinedExprs es' = unlinedExprs es)
      (Expr.printAll es).toList rest := by
  cases es with
  | nil =>
    refine Writes.nil.imp ?_
    rintro _ rfl
    exact ⟨[], .none, rfl⟩
  | cons e es =>
    refine (writes_items hes (List.cons_ne_nil _ _) hrest).imp ?_
    rintro ts ⟨es', hes', hlines⟩
    exact ⟨es', .some hes', hlines⟩

/-- The tokens are those of a call, up to lines. -/
def CallTokens (name : String) (args : List Expr) (ts : List Token) : Prop :=
  ∃ t opening us closing args', ts = t :: opening :: (us ++ [closing]) ∧ t.kind = .identifier ∧
    t.lexeme = name ∧ opening.kind = .leftParen ∧ Listed us args' ∧ closing.kind = .rightParen ∧
    unlinedExprs args' = unlinedExprs args

/-- A name with arguments in parentheses behind it. -/
theorem IsName.writes_call {D : List Token → Prop} (hname : IsName name)
    (hes : Writes D (Expr.printAll es).toList ([')'] ++ rest)) :
    Writes (Both (One .identifier name) (Both (Sole .leftParen) (Both D (Sole .rightParen))))
      (Expr.call line name es).print.toList rest := by
  have htext : (Expr.call line name es).print.toList =
      name.toList ++ (['('] ++ ((Expr.printAll es).toList ++ [')'])) := by
    simp [Expr.print]
  have hopen : Apart (['('] ++ ((Expr.printAll es).toList ++ [')']) ++ rest) :=
    apart_cons (isNameChar_separator (by decide))
  rw [htext]
  exact (hname.writes hopen).append (Writes.leftParen.append (hes.append .rightParen))

/-- A call is written as its name and its arguments in parentheses. -/
theorem writes_call (hname : IsName name) (hes : ∀ e ∈ es, Prints e) :
    Writes (CallTokens name es) (Expr.call line name es).print.toList rest := by
  refine (hname.writes_call (writes_listed hes apart_rightParen)).imp ?_
  rintro _ ⟨_, _, rfl, ⟨t, rfl, ht, hlexeme⟩, _, _, rfl, ⟨opening, rfl, ho⟩, us, _, rfl,
    ⟨es', hes', hlines⟩, closing, rfl, hc⟩
  exact ⟨t, opening, us, closing, es', rfl, ht, hlexeme, ho, hes', hc, hlines⟩

/-- A call can be read back. -/
theorem Prints.call (hname : IsName name) (hes : ∀ e ∈ es, Prints e) :
    Prints (.call line name es) := by
  refine ⟨?_, ?_, fun _ => (writes_call hname hes).imp ?_⟩
  · rw [Expr.print, String.append_assoc, String.append_assoc, String.toList_append]
    exact (opens_of_isWord hname.1).append
  · rw [Expr.print, String.toList_append]
    exact Closes.append ⟨[], ')', rfl, by decide⟩
  · rintro _ ⟨t, opening, us, closing, es', rfl, ht, hlexeme, ho, hes', hc, hlines⟩
    refine ⟨.call t.line t.lexeme es', .call ht ho hes' hc, ?_⟩
    simp only [Expr.unlined, hlexeme, hlines]

/-- A closing bracket goes on with nothing. -/
theorem apart_rightBracket : Apart ([']'] ++ rest) :=
  apart_cons (isNameChar_separator (by decide))

/-- The text of an index is the name and then the index in brackets. -/
theorem toList_print_index (baseLine : Nat) : (Expr.index line (.ident baseLine name) e).print.toList =
    name.toList ++ (['['] ++ (e.print.toList ++ [']'])) := by
  simp [Expr.print]

/-- So its tokens are one of the name and those in brackets. -/
theorem IsName.writes_index {D : List Token → Prop} {baseLine : Nat} (hname : IsName name)
    (he : Writes D e.print.toList ([']'] ++ rest)) :
    Writes (Both (One .identifier name) (Both (Sole .leftBracket) (Both D (Sole .rightBracket))))
      (Expr.index line (.ident baseLine name) e).print.toList rest := by
  have hopen : Apart (['['] ++ (e.print.toList ++ [']']) ++ rest) :=
    apart_cons (isNameChar_separator (by decide))
  rw [toList_print_index]
  exact (hname.writes hopen).append (Writes.leftBracket.append (he.append .rightBracket))

/-- An index into a name can be read back. -/
theorem Prints.index {baseLine : Nat} (hname : IsName name) (he : Prints e) :
    Prints (.index line (.ident baseLine name) e) := by
  refine ⟨?_, ?_, fun {rest} hrest => ?_⟩
  · rw [toList_print_index]
    exact (opens_of_isWord hname.1).append
  · rw [toList_print_index]
    exact Closes.append (Closes.append (Closes.append ⟨[], ']', rfl, by decide⟩))
  refine (hname.writes_index (he.expression apart_rightBracket)).imp ?_
  rintro _ ⟨_, _, rfl, ⟨t, rfl, ht, hlexeme⟩, _, _, rfl, ⟨opening, rfl, ho⟩, _, _, rfl,
    ⟨e', he', hlines⟩, closing, rfl, hc⟩
  refine ⟨.index t.line (.ident t.line t.lexeme) e', .index ht ho he' hc, ?_⟩
  simp only [Expr.unlined, hlexeme, hlines]

/-- The text of an array is its items in brackets. -/
theorem toList_print_array (line : Nat) (es : List Expr) : (Expr.array line es).print.toList =
    ['['] ++ ((Expr.printAll es).toList ++ [']']) := by
  simp [Expr.print]

/-- So its tokens are those of the items in brackets. -/
theorem writes_array {D : List Token → Prop}
    (hes : Writes D (Expr.printAll es).toList ([']'] ++ rest)) :
    Writes (Both (Sole .leftBracket) (Both D (Sole .rightBracket)))
      (Expr.array line es).print.toList rest := by
  rw [toList_print_array]
  exact Writes.leftBracket.append (hes.append .rightBracket)

/-- An array can be read back. -/
theorem Prints.array (hes : ∀ e ∈ es, Prints e) : Prints (.array line es) := by
  refine ⟨?_, ?_, fun {rest} hrest => ?_⟩
  · rw [toList_print_array]
    exact ⟨'[', _, rfl, by decide, by decide⟩
  · rw [toList_print_array]
    exact Closes.append (Closes.append ⟨[], ']', rfl, by decide⟩)
  refine (writes_array (writes_listed hes apart_rightBracket)).imp ?_
  rintro _ ⟨_, _, rfl, ⟨opening, rfl, ho⟩, _, _, rfl, ⟨es', hes', hlines⟩, closing, rfl, hc⟩
  exact ⟨.array opening.line es', .array ho hes' hc, by simp only [Expr.unlined, hlines]⟩

end Printing

end ParLang
