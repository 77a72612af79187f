import ParLang.Proofs.Parallel.Independent
import ParLang.Proofs.Soundness.Evaluation
import ParLang.Proofs.Typing.Accepted

/-!
# Checking and evaluation agree on expressions

Each operator, element and built-in function, on values of the types that checking asks for, yields a
value of the type that checking says. An expression that calls only built-in functions is made of
these, so it yields a value of its type wherever each name that the checker sees is bound to a value of
the type that the checker has for it (`Expr.yields_of_typeIn`).
-/

namespace ParLang

variable {w w' : World} {m m' : Machine} {v : Value} {t : StaticType} {line : Nat}

namespace Exec

open Value (OfType)

/-! ## Operators -/

/-- A value of the type of numbers is read as one. -/
theorem expectNumber_yields (h : v.OfType w.heap .number) :
    Yields w m (expectNumber line v) fun _ _ => True := by
  obtain ⟨x, rfl⟩ := h.eq_number
  exact .pure trivial

/-- A value of the type of truth values is an operand of the logical operators. -/
theorem expectLogical_yields {op : BinaryOp} (h : v.OfType w.heap .bool) :
    Yields w m (expectLogical op line v) fun _ _ => True := by
  obtain ⟨b, rfl⟩ := h.eq_bool
  exact .pure trivial

/-- An operator in front gives a value of its type. -/
theorem unaryValue_yields {op : UnaryOp} (h : v.OfType w.heap (unaryType op)) :
    Yields w m (unaryValue op v line) fun w' v' => v'.OfType w'.heap (unaryType op) := by
  cases op with
  | neg =>
    obtain ⟨x, rfl⟩ := h.eq_number
    exact .pure (.scalar .number)
  | not =>
    obtain ⟨b, rfl⟩ := h.eq_bool
    exact .pure (.scalar .bool)

/-- Two arrays of one type, one behind the other, in a new array. -/
theorem append_yields {g h : Handle} {xs ys : Array Value} {element : StaticType}
    (hg : w.heap.get? g = some xs) (hxs : ∀ v ∈ xs, v.HasType .empty element)
    (hh : w.heap.get? h = some ys) (hys : ∀ v ∈ ys, v.HasType .empty element)
    (ht : element.arrayOf? = some t) :
    Yields w m (do
      let xs ← inspect (.items g)
      let ys ← inspect (.items h)
      allocate (xs ++ ys)) fun w' v => v.OfType w'.heap t := by
  refine .bind (inspect_items_yields hg) ?_
  rintro w₁ m₁ _ hsteady rfl
  refine .bind (inspect_items_yields (hsteady.arrays h ys hh)) ?_
  rintro w₂ m₂ _ - rfl
  refine .allocate ht fun v hv => ?_
  rcases List.mem_append.mp hv with hv | hv
  · exact hxs v (Array.mem_toList_iff.mp hv)
  · exact hys v (Array.mem_toList_iff.mp hv)

/-- An operator between two evaluated operands. The logical operators are not among them. -/
theorem binaryValue_yields {depth : Nat} {op : BinaryOp} {l r : Value} {lt rt : StaticType}
    (ht : binaryType? op lt rt = some t) (hop : op ≠ .and ∧ op ≠ .or) (hl : l.OfType w.heap lt)
    (hr : r.OfType w.heap rt) :
    Yields w m (binaryValue (depth + 1) op l r line) fun w' v => v.OfType w'.heap t := by
  cases binaryType?_eq_some_iff.mp ht with
  | and => exact absurd rfl hop.1
  | or => exact absurd rfl hop.2
  | eq | notEq => exact .bind (equalValues_yields hl) fun _ _ _ _ _ => .pure (.scalar .bool)
  | lt | ltEq | gt | gtEq =>
    obtain ⟨x, rfl⟩ := hl.eq_number
    obtain ⟨y, rfl⟩ := hr.eq_number
    exact .pure (.scalar .bool)
  | add | sub | mul | div | rem =>
    obtain ⟨x, rfl⟩ := hl.eq_number
    obtain ⟨y, rfl⟩ := hr.eq_number
    exact .pure (.scalar .number)
  | join =>
    obtain ⟨s, rfl⟩ := hl.eq_text
    obtain ⟨s', rfl⟩ := hr.eq_text
    exact .pure (.scalar .text)
  | append harray =>
    obtain ⟨element, helement⟩ := Option.isSome_iff_exists.mp harray
    obtain ⟨g, xs, rfl, hg, hxs⟩ := hl.eq_array helement
    obtain ⟨h, ys, rfl, hh, hys⟩ := hr.eq_array helement
    exact append_yields hg hxs hh hys (StaticType.arrayOf?_eq_some_iff.mpr helement)

/-! ## Elements -/

/-- A slot is found, or the index is out of bounds, which types do not tell. -/
theorem slotOf_yields {raw : Float} {length : Nat} :
    Yields w m (slotOf raw length line) fun _ _ => True := by
  rw [slotOf]
  split
  · exact .pure trivial
  · exact .fail trivial

/-- An index gives an element, whose type is that of the elements. -/
theorem indexValue_yields {base : Value} {b : StaticType} {raw : Float} {l : Nat}
    (hb : base.OfType w.heap b) (ht : indexType b l = .ok t) :
    Yields w m (indexValue base raw line) fun w' v => v.OfType w'.heap t := by
  rcases indexType_eq_ok.mp ht with ⟨rfl, rfl⟩ | helement
  · obtain ⟨s, rfl⟩ := hb.eq_text
    refine .bind slotOf_yields fun w₁ m₁ i _ _ => ?_
    cases s.toList[i]? with
    | none => exact .fail trivial
    | some c => exact .pure (.scalar .text)
  · obtain ⟨h, cells, rfl, hcells, hscalars⟩ := hb.eq_array helement
    refine .bind (inspect_yields _) fun w₁ m₁ length hsteady₁ _ => ?_
    refine .bind slotOf_yields fun w₂ m₂ i hsteady₂ _ => ?_
    refine .bind (inspect_yields _) fun w₃ m₃ v? hsteady₃ hv? => ?_
    have hcells₃ := (hsteady₁.trans hsteady₂ |>.trans hsteady₃).arrays h cells hcells
    cases v? with
    | none => exact .fail trivial
    | some v =>
      have hv : cells[i]? = some v := by simpa [Heap.answer, Heap.cell?, hcells₃] using hv?
      exact .pure (.scalar (hscalars v (Array.mem_of_getElem? hv)))

/-! ## Built-in functions -/

/-- A print call writes out its arguments, which comes to an end at one depth more than that of a single
value. -/
theorem printValues_yields {depth : Nat} {vs : List Value} (hne : vs ≠ [])
    (h : ∀ v ∈ vs, ∃ t, v.OfType w.heap t) :
    Yields w m (printValues (depth + 1) line vs) fun w' v => v.OfType w'.heap .void := by
  have hnonempty : vs.isEmpty = false := by simpa using hne
  simp only [printValues, hnonempty]
  have hrender : ∀ v ∈ vs, ∀ {w' m'}, w.heap.Extends w'.heap →
      Yields w' m' (renderValue (depth + 1) v) fun _ _ => True := fun v hv _ _ hextends => by
    obtain ⟨t, ht⟩ := h v hv
    exact renderValue_yields (ht.mono hextends)
  refine .bind (renderEach_yields hrender) fun _ _ texts _ _ => ?_
  refine .bind (perform_yields (fun _ _ => rfl) rfl) fun _ _ reply _ _ => ?_
  exact .bind orFail_yields fun _ _ _ _ _ => .pure (.scalar .void)

/-- The truth of a value of any type is a truth value, unless it is a text that stands for none. -/
theorem truthOf_yields {depth : Nat} (hv : v.OfType w.heap t) :
    Yields w m (truthOf (depth + 1) line v) fun w' v' => v'.OfType w'.heap .bool := by
  have hrender : Yields w m (renderValue (depth + 1) v >>= fun text =>
      (mismatch line (.noTruth text) : Exec Value)) fun w' v' => v'.OfType w'.heap .bool :=
    .bind (renderValue_yields hv) fun _ _ _ _ _ => .fail trivial
  cases v with
  | bool b => exact .pure (.scalar .bool)
  | number x => exact .pure (.scalar .bool)
  | text s =>
    simp only [truthOf]
    split
    · exact .pure (.scalar .bool)
    · split
      · exact .pure (.scalar .bool)
      · exact .fail trivial
  | array h => exact hrender
  | void => exact hrender

/-- The length of a text or an array is a number. -/
theorem lengthOf_yields (hv : v.OfType w.heap t) (ht : t = .string ∨ t.isArray) :
    Yields w m (lengthOf line v) fun w' v' => v'.OfType w'.heap .number := by
  rcases ht with rfl | ht
  · obtain ⟨s, rfl⟩ := hv.eq_text
    exact .pure (.scalar .number)
  · obtain ⟨element, helement⟩ := Option.isSome_iff_exists.mp ht
    obtain ⟨h, cells, rfl, -, -⟩ := hv.eq_array helement
    exact .bind (inspect_yields _) fun _ _ _ _ _ => .pure (.scalar .number)

/-- The pieces of a text are an array of texts, unless the pattern is none. -/
theorem splitText_yields {text pattern : String} :
    Yields w m (splitText line text pattern) fun w' v => v.OfType w'.heap .arrayString := by
  refine .bind (perform_yields (fun _ _ => rfl) rfl) fun _ _ cuts? _ _ => ?_
  cases cuts? with
  | some cuts =>
    have harray : StaticType.string.arrayOf? = some .arrayString := rfl
    refine .allocate harray fun v hv => ?_
    obtain ⟨s, -, rfl⟩ := List.mem_map.mp hv
    exact .text
  | none => exact .fail trivial

/-- The answer to a message is a text, unless the surroundings fail or no answer comes. -/
theorem exchange_yields {channel message : String} {connection : ConnectionId} :
    Yields w m (exchange line channel connection message) fun w' v => v.OfType w'.heap .string := by
  refine .bind (perform_yields (fun _ _ => rfl) rfl) fun _ _ sent _ _ => ?_
  refine .bind orFail_yields fun _ _ _ _ _ => ?_
  refine .bind (perform_yields (fun _ _ => rfl) rfl) fun _ _ ended _ _ => ?_
  refine .bind orFail_yields fun _ _ _ _ _ => ?_
  refine .bind .receive fun _ _ reply _ _ => ?_
  exact .bind orFail_yields fun _ _ _ _ _ => .pure (.scalar .text)

/-- So it is with a line that is sent on a channel by its name. -/
theorem sendLine_yields {channel message : String} :
    Yields w m (sendLine line channel message) fun w' v => v.OfType w'.heap .string := by
  refine .machine_bind ?_
  cases m.channels.find? channel with
  | none => exact .fail trivial
  | some connection => exact exchange_yields

/-- Closing a channel gives no value. -/
theorem closeChannel_yields {channel : String} :
    Yields w m (closeChannel channel) fun w' v => v.OfType w'.heap .void := by
  refine .machine_bind ?_
  cases m.channels.find? channel with
  | none => exact .pure (.scalar .void)
  | some connection =>
    refine .bind (.update rfl) fun _ _ _ _ _ => ?_
    exact .bind (perform_yields (fun _ _ => rfl) rfl) fun _ _ _ _ _ =>
      .pure (.scalar .void)

/-- **A call of a built-in function** with arguments that checking accepts. -/
theorem callBuiltin_yields {depth : Nat} {callee : Builtin} {vs : List Value} {ts : List StaticType} {l : Nat}
    (ht : builtinType callee ts l = .ok t) (hvs : List.Forall₂ (OfType w.heap) vs ts) :
    Yields w m (callBuiltin (depth + 1) callee vs line) fun w' v => v.OfType w'.heap t := by
  have htext : ∀ v, OfType w.heap v .string → ∃ s, v = .text s := fun _ hv => hv.eq_text
  cases builtinType_eq_ok.mp ht with
  | print hne =>
    have htyped : ∀ v ∈ vs, ∃ t, OfType w.heap v t :=
      ((List.forall₂_and_left _ _).mp (hvs.imp fun v t h => ⟨⟨t, h⟩, h⟩)).1
    refine printValues_yields ?_ htyped
    rintro rfl
    cases hvs
    exact hne rfl
  | input =>
    cases hvs
    refine .bind (perform_yields (fun _ _ => rfl) rfl) fun _ _ reply _ _ => ?_
    exact .bind orFail_yields fun _ _ _ _ _ => .pure (.scalar .text)
  | sleep =>
    obtain ⟨v, rfl, hv⟩ := eq_sole hvs
    obtain ⟨x, rfl⟩ := hv.eq_number
    show Yields w m (perform (.sleep (Number.milliseconds x)) >>= fun _ => Pure.pure Value.void) _
    exact .bind (perform_yields (fun _ _ => rfl) rfl) fun _ _ _ _ _ =>
      .pure (.scalar .void)
  | split =>
    obtain ⟨s, s', rfl⟩ := eq_two_texts htext hvs
    exact splitText_yields
  | isNum | isAlpha =>
    obtain ⟨s, rfl⟩ := eq_one_text htext hvs
    exact .pure (.scalar .bool)
  | toNumber =>
    obtain ⟨s, rfl⟩ := eq_one_text htext hvs
    refine .bind (Q := fun _ _ => True) (.pure trivial) fun _ _ text _ _ => ?_
    cases Number.readNumber? text with
    | some x => exact .pure (.scalar .number)
    | none => exact .fail trivial
  | toString =>
    obtain ⟨v, rfl, hv⟩ := eq_sole hvs
    exact .bind (renderValue_yields hv) fun _ _ _ _ _ => .pure (.scalar .text)
  | toBool =>
    obtain ⟨v, rfl, hv⟩ := eq_sole hvs
    exact truthOf_yields hv
  | len hlen =>
    obtain ⟨v, rfl, hv⟩ := eq_sole hvs
    exact lengthOf_yields hv hlen
  | send =>
    obtain ⟨s, s', rfl⟩ := eq_two_texts htext hvs
    exact sendLine_yields
  | close =>
    obtain ⟨s, rfl⟩ := eq_one_text htext hvs
    exact closeChannel_yields

end Exec

/-! ## Expressions -/

/-- Every call in the expression is one of a built-in function. -/
def Expr.CallsOnlyBuiltins (e : Expr) : Prop :=
  ∀ g ∈ exprCallees [e], (Builtin.ofName? g).isSome

namespace Expr.CallsOnlyBuiltins

variable {names : Names}

/-- An operand of an expression calls no more than the expression. -/
theorem operand {e e' : Expr} (h : e.CallsOnlyBuiltins) (he : e' ∈ e.operands) :
    e'.CallsOnlyBuiltins :=
  fun g hg => h g (exprCallees_mono (exprsIn_operand he) hg)

/-- What is called is a built-in function. -/
theorem isSome_ofName? {callee : String} {args : List Expr}
    (h : (Expr.call line callee args).CallsOnlyBuiltins) : (Builtin.ofName? callee).isSome :=
  h callee (List.mem_filterMap.mpr ⟨_, mem_exprsIn_self _, rfl⟩)

mutual

/-- Only an argument of a function of the program can differ from what the place asks for. -/
theorem monomorphic : ∀ {e : Expr}, e.CallsOnlyBuiltins → e.Monomorphic names
  | .number .., _ => trivial
  | .text .., _ => trivial
  | .truth .., _ => trivial
  | .ident .., _ => trivial
  | .binary .., h =>
    ⟨monomorphic (h.operand (by simp [Expr.operands])), monomorphic (h.operand (by simp [Expr.operands]))⟩
  | .unary _ _ operand, h => monomorphic (e := operand) (h.operand (by simp [Expr.operands]))
  | .call line callee args, h => by
    refine ⟨allMonomorphic fun e he => h.operand he, fun hnone => ?_⟩
    have hsome := h.isSome_ofName?
    rw [hnone] at hsome
    cases hsome
  | .index .., h =>
    ⟨monomorphic (h.operand (by simp [Expr.operands])), monomorphic (h.operand (by simp [Expr.operands]))⟩
  | .array _ items, h => by
    have hitems : ∀ e ∈ items, e.CallsOnlyBuiltins := fun e he => h.operand he
    exact allMonomorphic hitems

/-- Expressions in a list that call only built-in functions are monomorphic. -/
theorem allMonomorphic : ∀ {es : List Expr}, (∀ e ∈ es, e.CallsOnlyBuiltins) →
    ParLang.allMonomorphic names es
  | [], _ => trivial
  | e :: rest, h => ⟨monomorphic (h e (by simp)), allMonomorphic fun e he => h e (by simp [he])⟩

end

end Expr.CallsOnlyBuiltins

/-- Each name that the checker sees is bound to a value of the type that the checker has for it. -/
def Environment (names : Names) (w : World) (m : Machine) : Prop :=
  ∀ x t, names.scopes.find? x = some t → ∃ v, m.scopes.find? x = some v ∧ v.OfType w.heap t

variable {names : Names} {n : Nat}

/-- Variables keep their types where nothing but new arrays has come. -/
theorem Environment.steady (h : Environment names w m) (hsteady : Steady w m w' m') :
    Environment names w' m' := by
  intro x t hx
  obtain ⟨v, hv, ht⟩ := h x t hx
  exact ⟨v, hsteady.scopes ▸ hv, ht.mono hsteady.arrays⟩

/-- An expression has a size. -/
theorem Expr.sizeOf_pos (e : Expr) : 0 < sizeOf e := by
  refine Nat.pos_of_ne_zero ?_
  cases e <;> simp

/-- Expressions in a list have one too. -/
theorem sizeOf_exprs_pos (es : List Expr) : 0 < sizeOf es := by
  cases es with
  | nil => simp
  | cons e rest => rw [List.cons.sizeOf_spec]; omega

open Value (OfType)
open Exec (Yields)

/-- Expressions that go no deeper than `n` yield values of their types with the budget `n`. -/
structure YieldsAt (n : Nat) : Prop where
  eval : ∀ {w m names e t}, HasType names e t → e.CallsOnlyBuiltins → Environment names w m →
    sizeOf e ≤ n → Yields w m (Exec.eval n e) fun w' v => v.OfType w'.heap t
  evalAll : ∀ {w m names es ts}, List.Forall₂ (HasType names) es ts →
    (∀ e ∈ es, e.CallsOnlyBuiltins) → Environment names w m → sizeOf es ≤ n →
    Yields w m (Exec.evalAll n es) fun w' vs => List.Forall₂ (OfType w'.heap) vs ts

namespace YieldsAt

/-- The logical operators evaluate their right operand only if the left one leaves the value open. -/
theorem logical {op : BinaryOp} {left right : Expr} (ih : YieldsAt n)
    (hl : HasType names left .bool) (hr : HasType names right .bool)
    (hcl : left.CallsOnlyBuiltins) (hcr : right.CallsOnlyBuiltins) (henv : Environment names w m)
    (hsl : sizeOf left ≤ n) (hsr : sizeOf right ≤ n) :
    Yields w m (do
      let l ← Exec.expectLogical op line (← Exec.eval n left)
      if l = (op == .or) then return Value.bool l
      else return .bool (← Exec.expectLogical op line (← Exec.eval n right)))
      fun w' v => v.OfType w'.heap .bool := by
  refine .bind (ih.eval hl hcl henv hsl) fun w₁ m₁ v hsteady₁ hv => ?_
  refine .bind (Exec.expectLogical_yields hv) fun w₂ m₂ l hsteady₂ _ => ?_
  split
  · exact .pure (.scalar .bool)
  · have henv₂ := henv.steady (hsteady₁.trans hsteady₂)
    refine .bind (ih.eval hr hcr henv₂ hsr) fun w₃ m₃ v' _ hv' => ?_
    exact .bind (Exec.expectLogical_yields hv') fun _ _ _ _ _ => .pure (.scalar .bool)

/-- The other operators evaluate both operands. -/
theorem strict {op : BinaryOp} {left right : Expr} {l r : StaticType} (ih : YieldsAt n)
    (hl : HasType names left l) (hr : HasType names right r) (hcl : left.CallsOnlyBuiltins)
    (hcr : right.CallsOnlyBuiltins) (henv : Environment names w m) (hsl : sizeOf left ≤ n)
    (hsr : sizeOf right ≤ n) (ht : binaryType? op l r = some t) (hop : op ≠ .and ∧ op ≠ .or) :
    Yields w m (do
      let l ← Exec.eval n left
      let r ← Exec.eval n right
      Exec.binaryValue n op l r line) fun w' v => v.OfType w'.heap t := by
  refine .bind (ih.eval hl hcl henv hsl) fun w₁ m₁ lv hsteady₁ hlv => ?_
  refine .bind (ih.eval hr hcr (henv.steady hsteady₁) hsr) fun w₂ m₂ rv hsteady₂ hrv => ?_
  obtain ⟨depth, rfl⟩ : ∃ depth, n = depth + 1 :=
    Nat.exists_eq_add_one.mpr (left.sizeOf_pos.trans_le hsl)
  exact Exec.binaryValue_yields ht hop (hlv.mono hsteady₂.arrays) hrv

/-- An expression, if its size is not above the depth. Each operand is smaller. -/
theorem eval_succ {e : Expr} (ih : YieldsAt n) (he : HasType names e t) (hcalls : e.CallsOnlyBuiltins)
    (henv : Environment names w m) (hsize : sizeOf e ≤ n + 1) :
    Yields w m (Exec.eval (n + 1) e) fun w' v => v.OfType w'.heap t := by
  cases he with
  | number => exact .pure (.scalar .number)
  | text => exact .pure (.scalar .text)
  | truth => exact .pure (.scalar .bool)
  | @ident _ x _ hx =>
    refine .machine_bind ?_
    obtain ⟨v, hv, hvt⟩ := henv x t hx
    simp only [hv]
    exact .pure hvt
  | @binary _ op left right l r _ hl hr ht =>
    have hcl : left.CallsOnlyBuiltins := hcalls.operand (by simp [Expr.operands])
    have hcr : right.CallsOnlyBuiltins := hcalls.operand (by simp [Expr.operands])
    simp only [Expr.binary.sizeOf_spec] at hsize
    have hsl : sizeOf left ≤ n := by omega
    have hsr : sizeOf right ≤ n := by omega
    rw [Exec.eval_binary]
    split
    · next hop =>
      obtain rfl | rfl := hop <;> cases binaryType?_eq_some_iff.mp ht <;>
        exact ih.logical hl hr hcl hcr henv hsl hsr
    · next hop => exact ih.strict hl hr hcl hcr henv hsl hsr ht (not_or.mp hop)
  | @unary _ _ operand he =>
    simp only [Expr.unary.sizeOf_spec] at hsize
    have hoperand := ih.eval he (hcalls.operand (by simp [Expr.operands])) henv (by omega)
    exact .bind hoperand fun _ _ _ _ hv => Exec.unaryValue_yields hv
  | @builtin _ _ args _ _ _ hb hargs ht =>
    simp only [Expr.call.sizeOf_spec] at hsize
    rw [Exec.eval_builtin hb]
    have hvs := ih.evalAll hargs (fun e he => hcalls.operand he) henv (by omega)
    have hpos := sizeOf_exprs_pos args
    obtain ⟨depth, rfl⟩ : ∃ depth, n = depth + 1 := Nat.exists_eq_add_one.mpr (by omega)
    exact .bind hvs fun _ _ _ _ hvs => Exec.callBuiltin_yields ht hvs
  | call hb =>
    have hsome := hcalls.isSome_ofName?
    rw [hb] at hsome
    cases hsome
  | @index _ base position _ _ hb hp ht =>
    have hcb : base.CallsOnlyBuiltins := hcalls.operand (by simp [Expr.operands])
    have hcp : position.CallsOnlyBuiltins := hcalls.operand (by simp [Expr.operands])
    simp only [Expr.index.sizeOf_spec] at hsize
    refine .bind (ih.eval hb hcb henv (by omega)) fun w₁ m₁ bv hsteady₁ hbv => ?_
    refine .bind (ih.eval hp hcp (henv.steady hsteady₁) (by omega)) fun w₂ m₂ pv hsteady₂ hpv => ?_
    refine .bind (Exec.expectNumber_yields hpv) fun w₃ m₃ raw hsteady₃ _ => ?_
    exact Exec.indexValue_yields (hbv.mono (hsteady₂.trans hsteady₃).arrays) ht
  | @array _ items element _ hitems ht =>
    simp only [Expr.array.sizeOf_spec] at hsize
    have hes : List.Forall₂ (HasType names) items (items.map fun _ => element) :=
      List.forall₂_map_right_iff.mpr (List.forall₂_same.mpr hitems)
    have hvs := ih.evalAll hes (fun e he => hcalls.operand he) henv (by omega)
    refine .bind hvs fun w₁ m₁ vs _ hvs => .allocate ht fun v hv => ?_
    have hscalar : element.isArray = false := by cases element <;> cases ht <;> rfl
    exact (forall_mem_of_forall₂ hvs (by simp) v hv).hasType hscalar

/-- Expressions in a list, one after the other. -/
theorem evalAll_succ {es : List Expr} {ts : List StaticType} (ih : YieldsAt n)
    (hes : List.Forall₂ (HasType names) es ts) (hcalls : ∀ e ∈ es, e.CallsOnlyBuiltins)
    (henv : Environment names w m) (hsize : sizeOf es ≤ n + 1) :
    Yields w m (Exec.evalAll (n + 1) es) fun w' vs => List.Forall₂ (OfType w'.heap) vs ts := by
  cases hes with
  | nil => exact .pure .nil
  | @cons e t rest ts he hrest =>
    obtain ⟨hcall, hcalls⟩ := List.forall_mem_cons.mp hcalls
    simp only [List.cons.sizeOf_spec] at hsize
    refine .bind (ih.eval he hcall henv (by omega)) fun w₁ m₁ v hsteady₁ hv => ?_
    have henv₁ := henv.steady hsteady₁
    refine .bind (ih.evalAll hrest hcalls henv₁ (by omega)) fun w₂ m₂ vs hsteady₂ hvs => ?_
    exact .pure (.cons (hv.mono hsteady₂.arrays) hvs)

end YieldsAt

/-- The induction on the budget: what an expression is made of goes less deep. -/
theorem yieldsAt : ∀ n, YieldsAt n
  | 0 => {
      eval := fun {_ _ _ e _} _ _ _ hsize => absurd hsize e.sizeOf_pos.not_ge
      evalAll := fun {_ _ _ es _} _ _ _ hsize => absurd hsize (sizeOf_exprs_pos es).not_ge }
  | n + 1 => ⟨(yieldsAt n).eval_succ, (yieldsAt n).evalAll_succ⟩

/-- **Checking and evaluation agree on expressions.** An expression that calls only built-in functions
and that the checker finds to have the type `t`, evaluated where each visible name is bound to a value
of its type, comes to a value of type `t`, fails for a cause that no check foresees, or waits for the
line that answers one it has sent; every binding and every array that was there is as it was. The
depth that it needs depends on the expression only. -/
theorem Expr.yields_of_typeIn {e : Expr} (ht : e.typeIn names = .ok t)
    (hcalls : e.CallsOnlyBuiltins) (henv : Environment names w m) :
    ∃ depth, ∀ n, depth ≤ n → Yields w m (Exec.eval n e) fun w' v => v.OfType w'.heap t :=
  ⟨sizeOf e, fun n hn => (yieldsAt n).eval (.of_typeIn ht hcalls.monomorphic) hcalls henv hn⟩

/-- The truth value that a cell of `words` stands for. -/
def wordTruth : Expr :=
  .call 1 "to_bool" [.index 1 (.ident 1 "words") (.ident 1 "i")]

/-- What the checker sees of `words` and `i`. -/
def wordNames : Names :=
  ⟨(Scopes.new.declare "words" .arrayString).declare "i" .number, .empty⟩

/-- A world with one array of texts. -/
def wordWorld : World :=
  ⟨.deserted, (Heap.empty.alloc [] #[.text "true", .text "maybe"]).2⟩

/-- A machine with that array as `words`. -/
def wordMachine : Machine :=
  { Machine.initial with
    scopes := (Scopes.new.declare "words" (.array ⟨[], 0⟩)).declare "i" (.number 1) }

/-- The words of the example have their types. -/
theorem environment_words : Environment wordNames wordWorld wordMachine := by
  intro x t hx
  simp only [wordNames, Scopes.find?_declare] at hx
  simp only [wordMachine, Scopes.find?_declare]
  by_cases hi : "i" = x
  · rw [if_pos hi] at hx ⊢
    cases hx
    exact ⟨_, rfl, .scalar .number⟩
  · rw [if_neg hi] at hx ⊢
    by_cases hwords : "words" = x
    · rw [if_pos hwords] at hx ⊢
      cases hx
      have hcells : wordWorld.heap.get? ⟨[], 0⟩ = some #[.text "true", .text "maybe"] := rfl
      have harray : StaticType.string.arrayOf? = some .arrayString := rfl
      refine ⟨_, rfl, .array hcells (fun v hv => ?_) harray⟩
      rcases List.mem_cons.mp (Array.mem_def.mp hv) with rfl | hv
      · exact .text
      · obtain rfl := List.mem_singleton.mp hv
        exact .text
    · rw [if_neg hwords] at hx
      cases hx

/-- The truth of a word, which is given from some depth on. -/
theorem yields_of_typeIn_wordTruth :
    wordTruth.typeIn wordNames = .ok .bool ∧ wordTruth.CallsOnlyBuiltins ∧
      Environment wordNames wordWorld wordMachine ∧
      ∃ depth, ∀ n, depth ≤ n →
        Exec.Yields wordWorld wordMachine (Exec.eval n wordTruth) fun w' v => v.OfType w'.heap .bool :=
  have ht : wordTruth.typeIn wordNames = .ok .bool := rfl
  have hcalls : wordTruth.CallsOnlyBuiltins := by unfold Expr.CallsOnlyBuiltins; decide
  ⟨ht, hcalls, environment_words, Expr.yields_of_typeIn ht hcalls environment_words⟩

end ParLang
