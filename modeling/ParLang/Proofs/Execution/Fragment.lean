import Mathlib.Data.Set.Lattice
import Mathlib.Order.CompletePartialOrder
import ParLang.Proofs.Execution.Oblivious
import ParLang.Proofs.Scope.Names

/-!
# Fragments of the language, and what their programs stay within

A `Fragment` is a part of the language that contains the parts of its programs. A run that starts in a
fragment stays in it: it calls only functions of the fragment, forks only units of the fragment, and
asks only for the effects that the fragment has. It also stays with its own unit: it counts its
parallel blocks, it shows its own machine with each request, and it names only arrays that it knows,
which are those of its variables and those that it was given in reply.

`Process.Confined` says all of this of a process, in whichever world it runs, and `Exec.Confined` of an
execution from every machine that fits. The rules here are about the operations that the interpreter is
built of.
-/

namespace ParLang

variable {α β : Type}

/-! ## Parts of programs -/

/-- The expressions directly in an expression. -/
def Expr.operands : Expr → List Expr
  | .binary _ _ left right => [left, right]
  | .unary _ _ operand => [operand]
  | .call _ _ args => args
  | .index _ base position => [base, position]
  | .array _ items => items
  | _ => []

/-- The expressions directly in a target. -/
def Target.operands : Target → List Expr
  | .variable _ _ => []
  | .cell base position => [base, position]

/-- The expressions directly in a statement. Those of a definition are its defaults. -/
def Stmt.operands : Stmt → List Expr
  | .declare _ _ _ value | .return _ value | .expr _ value => [value]
  | .assign a => a.value :: a.target.operands
  | .function d => d.params.filterMap (·.default?)
  | .branch _ condition _ _ | .while _ condition _ | .for _ _ condition _ _ => [condition]
  | .server c => [c.description, c.host, c.port]
  | .client c => [c.host, c.port]
  | _ => []

/-- The statements directly in a statement. The update of a loop is one of them. -/
def Stmt.parts : Stmt → List Stmt
  | .function d => d.body.statements
  | .branch _ _ yes no? => yes.statements ++ (no?.map Block.statements).getD []
  | .while _ _ body => body.statements
  | .for _ init _ update body => init :: .assign update :: body.statements
  | .seq body | .par body | .block body => body.statements
  | _ => []

/-! ## Effects of a unit's own -/

/-- The effect changes nothing that another unit sees, but for the output, and is answered from nothing
that another unit may change. -/
def Effect.isOwn : Effect → Bool
  | .pause _ | .inspect _ | .alloc _ | .emit _ | .sleep _ | .share _ | .search _ _ => true
  | _ => false

/-- The built-in function asks for no other effects. -/
def Builtin.isOwn : Builtin → Bool
  | .input | .send | .close => false
  | _ => true

/-! ## Arrays in data -/

/-- Data that may hold arrays. -/
class HoldsArrays (α : Type) where
  arrays : α → Set Handle

export HoldsArrays (arrays)

instance : HoldsArrays Value where
  arrays v := {h | v = .array h}

instance [HoldsArrays α] : HoldsArrays (List α) where
  arrays l := {h | ∃ a ∈ l, h ∈ arrays a}

instance : HoldsArrays Flow where
  arrays flow := {h | flow = .return (.array h)}

instance : HoldsArrays Unit := ⟨fun _ => ∅⟩
instance : HoldsArrays Bool := ⟨fun _ => ∅⟩
instance : HoldsArrays Nat := ⟨fun _ => ∅⟩
instance : HoldsArrays Float := ⟨fun _ => ∅⟩
instance : HoldsArrays String := ⟨fun _ => ∅⟩

/-- An array holds its own handle. What is in it is not looked at. -/
@[simp] theorem arrays_array (h : Handle) : arrays (Value.array h) = {h} := by
  ext h'
  simp [arrays, eq_comm]

/-- A number holds no array. -/
@[simp] theorem arrays_number (x : Float) : arrays (Value.number x) = ∅ := by
  simp [arrays]

@[simp] theorem arrays_bool (b : Bool) : arrays (Value.bool b) = ∅ := by
  simp [arrays]

@[simp] theorem arrays_text (s : String) : arrays (Value.text s) = ∅ := by
  simp [arrays]

@[simp] theorem arrays_void : arrays Value.void = ∅ := by
  simp [arrays]

/-- No values hold no array. -/
@[simp] theorem arrays_nil [HoldsArrays α] : arrays ([] : List α) = ∅ := by
  simp [arrays]

/-- Values hold what each of them holds. -/
@[simp] theorem arrays_cons [HoldsArrays α] (a : α) (l : List α) :
    arrays (a :: l) = arrays a ∪ arrays l := by
  ext h
  simp [arrays]

/-- The arrays in two lists are those in the one and those in the other. -/
@[simp] theorem arrays_append [HoldsArrays α] (l l' : List α) :
    arrays (l ++ l') = arrays l ∪ arrays l' := by
  induction l with
  | nil => simp
  | cons a l ih => rw [List.cons_append, arrays_cons, arrays_cons, ih, Set.union_assoc]

/-- A return carries the arrays of its value. -/
@[simp] theorem arrays_return (v : Value) : arrays (Flow.return v) = arrays v := by
  ext h
  simp [arrays]

/-- The other ways to go on carry none. -/
@[simp] theorem arrays_normal : arrays Flow.normal = ∅ := by
  simp [arrays]

@[simp] theorem arrays_break : arrays Flow.break = ∅ := by
  simp [arrays]

@[simp] theorem arrays_continue : arrays Flow.continue = ∅ := by
  simp [arrays]

/-- Texts hold no arrays. -/
@[simp] theorem arrays_map_text (l : List α) (f : α → String) :
    arrays (l.map fun a => Value.text (f a)) = ∅ := by
  induction l with
  | nil => simp
  | cons a l ih => simp [ih]

@[simp] theorem arrays_texts (l : List String) : arrays l = ∅ := by
  simp [arrays]

/-- The arrays that a question is about. -/
def Query.arrays : Query → Set Handle
  | .length h | .cell h _ | .items h => {h}

/-- The arrays that an effect is about. -/
def Effect.arrays : Effect → Set Handle
  | .inspect q => q.arrays
  | .alloc items => ParLang.arrays items
  | .setCell h _ v => insert h (ParLang.arrays v)
  | _ => ∅

/-- The arrays that the answer to a question gives. -/
def Query.replyArrays : (q : Query) → q.Reply → Set Handle
  | .cell _ _, v? => ParLang.arrays (Option.toList (α := Value) v?)
  | .items _, vs => ParLang.arrays (α := List Value) vs
  | _, _ => ∅

/-- The arrays that the reply to an effect gives. -/
def Effect.replyArrays : (e : Effect) → e.Reply → Set Handle
  | .inspect q, r => q.replyArrays r
  | .alloc _, h => {h}
  | _, _ => ∅

/-! ## Fragments -/

/-- A part of the language that contains the parts of its programs. -/
structure Fragment where
  stmt : Stmt → Prop
  expr : Expr → Prop
  /-- The names that it calls. -/
  callee : String → Prop
  /-- It has effects that are not a unit's own. -/
  shares : Prop
  part : ∀ {s t}, stmt s → t ∈ s.parts → stmt t
  operand : ∀ {s e}, stmt s → e ∈ s.operands → expr e
  suboperand : ∀ {e e'}, expr e → e' ∈ e.operands → expr e'
  call : ∀ {line g args}, expr (.call line g args) → callee g
  builtin : ∀ {g b}, callee g → Builtin.ofName? g = some b → b.isOwn = true ∨ shares
  cell : ∀ {line base position value}, stmt (.assign ⟨line, .cell base position, value⟩) → shares
  server : ∀ {c}, stmt (.server c) → shares
  client : ∀ {c}, stmt (.client c) → shares

namespace Fragment

variable {F : Fragment}

/-- The machine of the unit `u` behind `j` parallel blocks, when it knows the arrays `K`. Its functions
that the fragment calls are of the fragment; one with the name of a built-in function is never called. -/
structure Fits (F : Fragment) (u : UnitId) (j : Nat) (K : Set Handle) (m : Machine) : Prop where
  unit : m.unit = u
  forks : m.forks = j
  known : Scopes.Each (fun _ v => arrays v ⊆ K) m.scopes.toList
  functions : ∀ g f, F.callee g → Builtin.ofName? g = none → m.functions.find? g = some f →
    F.stmt (.function f.definition)

/-- The effect is one of the fragment, about arrays of `K`. -/
structure Allows (F : Fragment) (K : Set Handle) (e : Effect) : Prop where
  own : e.isOwn = true ∨ F.shares
  known : e.arrays ⊆ K
  call : ∀ line f, e = .pause (.call line f) → F.stmt (.function f.definition)

/-- The units are those of a parallel block of the fragment. -/
def Forks (F : Fragment) (units : List Stmt) : Prop :=
  ∃ line, F.stmt (.par ⟨line, units⟩)

/-- A unit of a parallel block of the fragment is a statement of the fragment. -/
theorem Forks.stmt {units : List Stmt} {s : Stmt} (h : F.Forks units) (hs : s ∈ units) :
    F.stmt s := by
  obtain ⟨line, hpar⟩ := h
  exact F.part hpar hs

variable {u : UnitId} {j : Nat} {K K' : Set Handle} {m : Machine}

/-- A machine that fits what is known fits when more is known. -/
theorem Fits.mono (h : F.Fits u j K m) (hK : K ⊆ K') : F.Fits u j K' m :=
  ⟨h.unit, h.forks, h.known.imp fun _ _ hv => hv.trans hK, h.functions⟩

/-- An effect that is allowed is allowed when more is known. -/
theorem Allows.mono {e : Effect} (h : F.Allows K e) (hK : K ⊆ K') : F.Allows K' e :=
  ⟨h.own, h.known.trans hK, h.call⟩

/-- The unit at place `i` of the next block knows what its parent knows. -/
theorem Fits.child (h : F.Fits u j K m) (i : Nat) : F.Fits ((j, i) :: u) 0 K (m.child i) :=
  ⟨by rw [Machine.child, h.unit, h.forks], rfl, h.known, h.functions⟩

/-- A machine still fits with other scopes that hold known arrays only. -/
theorem Fits.withScopes {s : Scopes Value} (h : F.Fits u j K m)
    (hs : Scopes.Each (fun _ v => arrays v ⊆ K) s.toList) :
    F.Fits u j K { m with scopes := s } :=
  ⟨h.unit, h.forks, hs, h.functions⟩

/-- A machine still fits with one more function of the fragment. -/
theorem Fits.define {d : FunctionDef Stmt} {depth : Nat} (h : F.Fits u j K m)
    (hd : F.stmt (.function d)) :
    F.Fits u j K { m with functions := m.functions.insert d.name ⟨d, depth⟩ } := by
  refine ⟨h.unit, h.forks, h.known, fun g f hg hb hf => ?_⟩
  simp only [NameMap.find?_insert] at hf
  split at hf
  · obtain rfl := Option.some.inj hf
    exact hd
  · exact h.functions g f hg hb hf

end Fragment

/-! ## Processes -/

namespace Process

/-- The process of the unit `u`, behind `j` parallel blocks and with the arrays `K` known, is confined to
the fragment, and ends only as in `post`. -/
def Confined (F : Fragment) (u : UnitId) (post : Nat → Set Handle → α → Prop) (j : Nat)
    (K : Set Handle) : Process α → Prop
  | .done a => post j K a
  | .perform m e c =>
    F.Fits u j K m ∧ F.Allows K e ∧
      ∀ K' r, K ⊆ K' → e.replyArrays r ⊆ K' → (c r).Confined F u post j K'
  | .fork f c =>
    F.Fits u j K f.machine ∧ F.Forks f.units ∧
      ∀ K' rs, K ⊆ K' → (c rs).Confined F u post (j + 1) K'
  | .exhausted => True

variable {F : Fragment} {u : UnitId} {j : Nat} {K K' : Set Handle} {p : Process α}
  {post post' : Nat → Set Handle → α → Prop}

/-- A weaker condition on the end is met as well. -/
theorem Confined.weaken (h : p.Confined F u post j K)
    (hpost : ∀ j' K' a, K ⊆ K' → post j' K' a → post' j' K' a) : p.Confined F u post' j K := by
  induction p generalizing j K with
  | done a => exact hpost j K a subset_rfl h
  | perform m e c ih =>
    obtain ⟨hm, he, hc⟩ := h
    refine ⟨hm, he, fun K' r hK hr => ih r (hc K' r hK hr) ?_⟩
    exact fun j' K'' a hK' => hpost j' K'' a (hK.trans hK')
  | fork f c ih =>
    obtain ⟨hm, hf, hc⟩ := h
    refine ⟨hm, hf, fun K' rs hK => ih rs (hc K' rs hK) ?_⟩
    exact fun j' K'' a hK' => hpost j' K'' a (hK.trans hK')
  | exhausted => trivial

/-- A process that goes on with `f` is confined if it ends where `f` is. -/
theorem confined_bind {post : Nat → Set Handle → β → Prop} {f : α → Process β} :
    (p.bind f).Confined F u post j K ↔
      p.Confined F u (fun j K a => (f a).Confined F u post j K) j K := by
  induction p generalizing j K with
  | done a => exact Iff.rfl
  | perform m e c ih => simp only [bind, Confined, ih]
  | fork f c ih => simp only [bind, Confined, ih]
  | exhausted => exact Iff.rfl

end Process

/-! ## Executions -/

namespace Exec

variable {F : Fragment} {K K' : Set Handle} [HoldsArrays α] [HoldsArrays β]

/-- The end of an execution: the machine fits, and the result holds known arrays. -/
def Closes (F : Fragment) (u : UnitId) (j : Nat) (K : Set Handle)
    (r : Except RuntimeError α × Machine) : Prop :=
  F.Fits u j K r.2 ∧ ∀ a, r.1 = .ok a → arrays a ⊆ K

/-- The execution is confined to the fragment, from every machine that fits, if the arrays `K` are
known. -/
def Confined (F : Fragment) (K : Set Handle) (x : Exec α) : Prop :=
  ∀ u j K' m, K ⊆ K' → F.Fits u j K' m → (x m).Confined F u (Closes F u) j K'

namespace Confined

/-- An execution that is confined to what is known is confined to more. -/
theorem mono {x : Exec α} (h : Confined F K x) (hK : K ⊆ K') : Confined F K' x :=
  fun u j K'' m hK' => h u j K'' m (hK.trans hK')

/-- A value is given back that holds known arrays only. -/
theorem pure {a : α} (ha : arrays a ⊆ K) : Confined F K (Pure.pure a : Exec α) :=
  fun _ _ _ _ hK hm => ⟨hm, fun _ h => by cases h; exact ha.trans hK⟩

/-- A failure gives back no value. -/
theorem throw (e : RuntimeError) : Confined F K (throw e : Exec α) :=
  fun _ _ _ _ _ hm => ⟨hm, fun _ h => nomatch h⟩

/-- A failure of its own, with its line and cause. -/
theorem fail (line : Nat) (cause : RuntimeError.Cause) :
    Confined F K (Exec.fail line cause : Exec α) :=
  throw ⟨cause, line⟩

/-- Nothing is asked for where the depth is spent. -/
theorem exhausted : Confined F K (Exec.exhausted : Exec α) :=
  fun _ _ _ _ _ _ => trivial

/-- One execution after another. The second one is asked for at everything that the first one may have come
to know. -/
theorem bind {x : Exec α} {f : α → Exec β} (hx : Confined F K x)
    (hf : ∀ K' a, K ⊆ K' → arrays a ⊆ K' → Confined F K' (f a)) : Confined F K (x >>= f) := by
  intro u j K₁ m hK hm
  rw [bind_apply, Process.confined_bind]
  refine (hx u j K₁ m hK hm).weaken fun j' K₂ r hK₁ hr => ?_
  obtain ⟨r, m'⟩ := r
  obtain ⟨hm', ha⟩ := hr
  cases r with
  | error e => exact ⟨hm', fun _ h => nomatch h⟩
  | ok a => exact hf K₂ a (hK.trans hK₁) (ha a rfl) u j' K₂ m' subset_rfl hm'

/-- An effect that is allowed, with its reply known from then on. -/
theorem bind_perform {e : Effect} {f : e.Reply → Exec β} (he : F.Allows K e)
    (hf : ∀ K' r, K ⊆ K' → e.replyArrays r ⊆ K' → Confined F K' (f r)) :
    Confined F K (Exec.perform e >>= f) := by
  intro u j K₁ m hK hm
  refine ⟨hm, he.mono hK, fun K₂ r hK₁ hr => ?_⟩
  exact hf K₂ r (hK.trans hK₁) hr u j K₂ m subset_rfl (hm.mono hK₁)

/-- A parallel block of the fragment. The results of its units hold no arrays. -/
theorem bind_fork {n : Nat} {units : List Stmt} {f : List UnitResult → Exec β}
    (hunits : F.Forks units) (hf : ∀ rs, Confined F K (f rs)) :
    Confined F K (Exec.fork n units >>= f) := by
  intro u j K₁ m hK hm
  refine ⟨hm, hunits, fun K₂ rs hK₁ => ?_⟩
  have hm' : F.Fits u (j + 1) K₂ { m with forks := m.forks + 1 } :=
    ⟨hm.unit, by rw [hm.forks], (hm.mono hK₁).known, hm.functions⟩
  exact hf rs u (j + 1) K₂ _ (hK.trans hK₁) hm'

/-- The machine is read off, and fits what is known. -/
theorem bind_machine {f : Machine → Exec β}
    (hf : ∀ u j K' m, K ⊆ K' → F.Fits u j K' m → Confined F K' (f m)) :
    Confined F K (Exec.machine >>= f) :=
  fun u j K' m hK hm => hf u j K' m hK hm u j K' m subset_rfl hm

/-- A change of the machine that keeps it fitting. -/
theorem update {f : Machine → Machine}
    (hf : ∀ u j K' m, K ⊆ K' → F.Fits u j K' m → F.Fits u j K' (f m)) :
    Confined F K (Exec.update f) :=
  fun u j K' m hK hm => ⟨hf u j K' m hK hm, fun _ _ => Set.empty_subset _⟩

/-! ## Variables, scopes and calls -/

/-- A declaration binds a name to known arrays. -/
theorem declare (name : String) {v : Value} (hv : arrays v ⊆ K) :
    Confined F K (Exec.declare name v) :=
  update fun _ _ _ _ hK hm => hm.withScopes (hm.known.declare (hv.trans hK))

/-- A look-up finds what the machine holds, which is known. -/
theorem variableValue (line : Nat) (name : String) :
    Confined F K (Exec.variableValue line name) := by
  refine bind_machine fun u j K' m hK hm => ?_
  cases hx : m.scopes.find? name with
  | some v => exact pure (hm.known.find? hx)
  | none => exact fail _ _

/-- An assignment puts known arrays into a scope that has the name. -/
theorem assignVariable (line : Nat) (name : String) {v : Value} (hv : arrays v ⊆ K) :
    Confined F K (Exec.assignVariable line name v) := by
  refine bind_machine fun u j K' m hK hm => ?_
  cases hassign : m.scopes.assign? name v with
  | some scopes =>
    have hknown := hm.known.assignIn (hv.trans hK) (Scopes.assign?_eq_some hassign)
    exact update fun _ _ _ _ hK' hm' => hm'.withScopes (hknown.imp fun _ _ h => h.trans hK')
  | none => exact fail _ _

/-- A function of the fragment that the fragment calls. -/
theorem functionNamed_bind {line : Nat} {callee : String} {f : Function → Exec β}
    (hcallee : F.callee callee) (hb : Builtin.ofName? callee = none)
    (hf : ∀ g : Function, F.stmt (.function g.definition) → Confined F K (f g)) :
    Confined F K (Exec.functionNamed line callee >>= f) := by
  intro u j K' m hK hm
  simp only [Exec.functionNamed, bind_apply, Exec.machine, Process.bind]
  cases hfind : m.functions.find? callee with
  | some g => exact hf g (hm.functions callee g hcallee hb hfind) u j K' m hK hm
  | none =>
    refine ⟨hm, ?_⟩
    rintro _ ⟨⟩

/-- A definition adds a function of the fragment. -/
theorem define {d : FunctionDef Stmt} (hd : F.stmt (.function d)) : Confined F K (Exec.define d) :=
  update fun _ _ _ _ _ hm => hm.define hd

/-- A scope of its own begins without a binding, and its bindings go with it. -/
theorem inScope {x : Exec α} (hx : Confined F K x) : Confined F K (Exec.inScope x) := by
  intro u j K₁ m hK hm
  have hpush : F.Fits u j K₁ { m with scopes := m.scopes.push } :=
    hm.withScopes (Scopes.each_empty_cons.mpr hm.known)
  refine Process.confined_bind.mpr ((hx u j K₁ _ hK hpush).weaken fun j' K₂ r _ hr => ?_)
  obtain ⟨hm', ha⟩ := hr
  exact ⟨hm'.withScopes (Scopes.each_pop hm'.known), ha⟩

/-- A call sees some of the scopes of its caller, which are known, and gives the others back. -/
theorem inCall {d : Nat} {x : Exec α} (hx : Confined F K x) : Confined F K (Exec.inCall d x) := by
  intro u j K₁ m hK hm
  have henter : F.Fits u j K₁ { m with scopes := (m.scopes.enter d).2 } :=
    hm.withScopes (Scopes.each_enter hm.known d)
  refine Process.confined_bind.mpr ((hx u j K₁ _ hK henter).weaken fun j' K₂ r hK₁ hr => ?_)
  obtain ⟨hm', ha⟩ := hr
  have hleave := Scopes.each_leave (d := d) (hm.mono hK₁).known hm'.known
  exact ⟨hm'.withScopes hleave, ha⟩

end Confined

end Exec

end ParLang
