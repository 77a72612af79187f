import ParLang.Proofs.Execution.Confined

/-!
# Units that are independent by their text

Units are independent (`Machine.Independent`) when neither they nor the functions that they can come to
call assign to a cell, read input, or use a channel. Which functions these are is read off the text: a
unit calls the names that stand in it, in the functions that it defines too, and a function of the
machine calls the names that stand in it (`Machine.CanCall`).

Independent units are those of a fragment with effects of a unit's own only
(`Machine.Independent.fragment`).
-/

namespace ParLang

/-! ## What stands in a text -/

mutual

/-- The expressions anywhere inside an expression. -/
def Expr.nested : Expr → List Expr
  | .binary _ _ left right => left :: (left.nested ++ right :: right.nested)
  | .unary _ _ operand => operand :: operand.nested
  | .call _ _ args => exprsIn args
  | .index _ base position => base :: (base.nested ++ position :: position.nested)
  | .array _ items => exprsIn items
  | .number _ _ | .text _ _ | .truth _ _ | .ident _ _ => []

/-- Expressions, and those anywhere inside them. -/
def exprsIn : List Expr → List Expr
  | [] => []
  | e :: rest => e :: (e.nested ++ exprsIn rest)

end

mutual

/-- The statements anywhere inside a statement. The update of a loop is one of them. -/
def Stmt.nested : Stmt → List Stmt
  | .function d => stmtsIn d.body.statements
  | .branch _ _ yes none => stmtsIn yes.statements
  | .branch _ _ yes (some no) => stmtsIn yes.statements ++ stmtsIn no.statements
  | .while _ _ body => stmtsIn body.statements
  | .for _ init _ update body => init :: (init.nested ++ .assign update :: stmtsIn body.statements)
  | .seq body | .par body | .block body => stmtsIn body.statements
  | _ => []

/-- Statements, and those anywhere inside them. -/
def stmtsIn : List Stmt → List Stmt
  | [] => []
  | s :: rest => s :: (s.nested ++ stmtsIn rest)

end

/-- The name that an expression calls. -/
def Expr.callee? : Expr → Option String
  | .call _ callee _ => some callee
  | _ => none

/-- The names that are called anywhere in expressions. -/
def exprCallees (es : List Expr) : List String :=
  (exprsIn es).filterMap Expr.callee?

/-- The names that are called anywhere in statements. -/
def callees (ss : List Stmt) : List String :=
  (stmtsIn ss).flatMap fun s => exprCallees s.operands

/-- The statement, but for the statements inside it, touches nothing that other units see. -/
def Stmt.isOwn : Stmt → Bool
  | .assign ⟨_, .cell _ _, _⟩ | .server _ | .client _ => false
  | _ => true

/-- An expression is in a list if it is one of its items or inside one. -/
theorem mem_exprsIn {es : List Expr} {e : Expr} :
    e ∈ exprsIn es ↔ ∃ e' ∈ es, e = e' ∨ e ∈ e'.nested := by
  induction es with
  | nil => simp [exprsIn]
  | cons e' rest ih => simp [exprsIn, ih, or_assoc]

/-- The same for statements. -/
theorem mem_stmtsIn {ss : List Stmt} {s : Stmt} :
    s ∈ stmtsIn ss ↔ ∃ s' ∈ ss, s = s' ∨ s ∈ s'.nested := by
  induction ss with
  | nil => simp [stmtsIn]
  | cons s' rest ih => simp [stmtsIn, ih, or_assoc]

/-- What is inside an expression is in its operands. -/
theorem Expr.nested_eq (e : Expr) : e.nested = exprsIn e.operands := by
  cases e <;> simp [Expr.nested, Expr.operands, exprsIn]

/-- What is inside a statement is in its parts. -/
theorem Stmt.nested_eq (s : Stmt) : s.nested = stmtsIn s.parts := by
  cases s with
  | branch line condition yes no? =>
    have happend : ∀ ss ss', stmtsIn (ss ++ ss') = stmtsIn ss ++ stmtsIn ss' := fun ss ss' => by
      induction ss with
      | nil => rfl
      | cons s rest ih => simp [stmtsIn, ih]
    cases no? <;> simp [Stmt.nested, Stmt.parts, happend]
  | _ => simp [Stmt.nested, Stmt.parts, stmtsIn]

/-- An expression is in the list of it alone. -/
theorem mem_exprsIn_self (e : Expr) : e ∈ exprsIn [e] :=
  mem_exprsIn.mpr ⟨e, List.mem_singleton_self e, .inl rfl⟩

/-- A statement is in the list of it alone. -/
theorem mem_stmtsIn_self (s : Stmt) : s ∈ stmtsIn [s] :=
  mem_stmtsIn.mpr ⟨s, List.mem_singleton_self s, .inl rfl⟩

/-- What is in an item of a list is in the list. -/
theorem exprsIn_of_mem {es : List Expr} {e : Expr} (h : e ∈ es) : exprsIn [e] ⊆ exprsIn es := by
  intro e' he'
  obtain ⟨e₁, he₁, hin⟩ := mem_exprsIn.mp he'
  exact mem_exprsIn.mpr ⟨e₁, List.mem_singleton.mp he₁ ▸ h, hin⟩

/-- What stands in an operand of an expression stands in it. -/
theorem exprsIn_operand {e e' : Expr} (h : e' ∈ e.operands) : exprsIn [e'] ⊆ exprsIn [e] := by
  intro e₁ he₁
  have hnested : e₁ ∈ e.nested := e.nested_eq ▸ exprsIn_of_mem h he₁
  exact mem_exprsIn.mpr ⟨e, List.mem_singleton_self e, .inr hnested⟩

/-- What stands in a part of a statement stands in it. -/
theorem stmtsIn_part {s t : Stmt} (h : t ∈ s.parts) : stmtsIn [t] ⊆ stmtsIn [s] := by
  intro t₁ ht₁
  obtain ⟨t', ht', hin⟩ := mem_stmtsIn.mp ht₁
  have hnested : t₁ ∈ s.nested :=
    s.nested_eq ▸ mem_stmtsIn.mpr ⟨t', List.mem_singleton.mp ht' ▸ h, hin⟩
  exact mem_stmtsIn.mpr ⟨s, List.mem_singleton_self s, .inr hnested⟩

/-- More expressions call at least as much. -/
theorem exprCallees_mono {es es' : List Expr} (h : exprsIn es ⊆ exprsIn es') :
    exprCallees es ⊆ exprCallees es' :=
  List.filterMap_subset _ h

/-- More statements call at least as much. -/
theorem callees_mono {ss ss' : List Stmt} (h : stmtsIn ss ⊆ stmtsIn ss') :
    callees ss ⊆ callees ss' := by
  intro g hg
  obtain ⟨s, hs, hg⟩ := List.mem_flatMap.mp hg
  exact List.mem_flatMap.mpr ⟨s, h hs, hg⟩

/-- What is called in an expression of a statement is called in it. -/
theorem exprCallees_operand {s : Stmt} {e : Expr} (h : e ∈ s.operands) :
    exprCallees [e] ⊆ callees [s] := by
  intro g hg
  have hg' : g ∈ exprCallees s.operands := exprCallees_mono (exprsIn_of_mem h) hg
  exact List.mem_flatMap.mpr ⟨s, mem_stmtsIn_self s, hg'⟩

/-! ## Independence -/

namespace Machine

/-- The names that units of the machine can come to call: those that stand in them, and those that
stand in functions of the machine that are called. A built-in function goes before a function of the
machine. -/
inductive CanCall (m : Machine) (units : List Stmt) : String → Prop where
  | unit {g} (hg : g ∈ callees units) : CanCall m units g
  | function {g f g'} (h : CanCall m units g) (hb : Builtin.ofName? g = none)
      (hf : m.functions.find? g = some f) (hg : g' ∈ callees [.function f.definition]) :
      CanCall m units g'

/-- Neither the units nor the functions that they can come to call touch what other units see. -/
structure Independent (m : Machine) (units : List Stmt) : Prop where
  own : ∀ s ∈ stmtsIn units, s.isOwn = true
  functions : ∀ g f, m.CanCall units g → Builtin.ofName? g = none → m.functions.find? g = some f →
    ∀ s ∈ stmtsIn [.function f.definition], s.isOwn = true
  builtins : ∀ g b, m.CanCall units g → Builtin.ofName? g = some b → b.isOwn = true

variable {m : Machine} {units : List Stmt}

/-- Independence is shown by a list of names that has those of the units and is closed under calls. -/
theorem independent_of_names (names : List String) (hown : ∀ s ∈ stmtsIn units, s.isOwn = true)
    (hunits : callees units ⊆ names)
    (hbuiltins : ∀ g ∈ names, ∀ b ∈ Builtin.ofName? g, b.isOwn = true)
    (hfunctions : ∀ g ∈ names, ∀ f ∈ m.functions.find? g,
      callees [.function f.definition] ⊆ names ∧
        ∀ s ∈ stmtsIn [.function f.definition], s.isOwn = true) : m.Independent units := by
  have hmem : ∀ {g}, m.CanCall units g → g ∈ names := fun h => by
    induction h with
    | unit hg => exact hunits hg
    | function _ _ hf hg ih => exact (hfunctions _ ih _ hf).1 hg
  exact ⟨hown, fun g f hg _ hf => (hfunctions g (hmem hg) f hf).2,
    fun g b hg hb => hbuiltins g (hmem hg) b hb⟩

/-- The fragment of independent units. -/
def Independent.fragment (h : m.Independent units) : Fragment where
  stmt s := (∀ t ∈ stmtsIn [s], t.isOwn = true) ∧ ∀ g ∈ callees [s], m.CanCall units g
  expr e := ∀ g ∈ exprCallees [e], m.CanCall units g
  callee := m.CanCall units
  shares := False
  part hs ht :=
    ⟨fun t' ht' => hs.1 t' (stmtsIn_part ht ht'), fun g hg => hs.2 g (callees_mono (stmtsIn_part ht) hg)⟩
  operand hs he g hg := hs.2 g (exprCallees_operand he hg)
  suboperand he he' g hg := he g (exprCallees_mono (exprsIn_operand he') hg)
  call he := he _ (List.mem_filterMap.mpr ⟨_, mem_exprsIn_self _, rfl⟩)
  builtin hg hb := .inl (h.builtins _ _ hg hb)
  cell hs := nomatch hs.1 _ (mem_stmtsIn_self _)
  server hs := nomatch hs.1 _ (mem_stmtsIn_self _)
  client hs := nomatch hs.1 _ (mem_stmtsIn_self _)

/-- The block of the units is of the fragment. -/
theorem Independent.stmt_par (h : m.Independent units) (line : Nat) :
    h.fragment.stmt (.par ⟨line, units⟩) := by
  have hstmts : stmtsIn [.par ⟨line, units⟩] = .par ⟨line, units⟩ :: stmtsIn units := by
    simp [stmtsIn, Stmt.nested]
  have hcallees : callees [.par ⟨line, units⟩] = callees units := by
    simp [callees, hstmts, Stmt.operands, exprCallees, exprsIn]
  refine And.intro (fun t ht => ?_) fun g hg => .unit (hcallees ▸ hg)
  rw [hstmts] at ht
  rcases List.mem_cons.mp ht with rfl | ht
  · rfl
  · exact h.own t ht

/-- The machine fits the fragment, with the arrays of its variables known. -/
theorem Independent.fits (h : m.Independent units) {K : Set Handle}
    (hK : Scopes.Each (fun _ v => arrays v ⊆ K) m.scopes.toList) :
    h.fragment.Fits m.unit m.forks K m :=
  ⟨rfl, rfl, hK, fun g f hg hb hf =>
    And.intro (h.functions g f hg hb hf) fun _ hg' => .function hg hb hf hg'⟩

end Machine

end ParLang
