import ParLang.Proofs.Execution.Fragment

/-!
# The interpreter stays within a fragment

Every run of a program of a fragment is confined to the fragment, to its own unit and to the arrays
that it knows (`Exec.confined_runUnit`, `Exec.confined_runProgram`). As in every property of the whole
interpreter, `ConfinedAt` collects what is to be shown of its functions at one budget, and each is
proved for the next budget from all of them at this one.
-/

namespace ParLang

variable {α : Type} {F : Fragment} {K : Set Handle}

/-! ## Effects of a fragment -/

namespace Fragment

/-- A question may be asked about arrays that are known. -/
theorem allows_inspect {q : Query} (h : q.arrays ⊆ K) : F.Allows K (.inspect q) :=
  ⟨.inl rfl, h, fun _ _ he => nomatch he⟩

/-- An array may be made of items whose arrays are known. -/
theorem allows_alloc {items : List Value} (h : arrays items ⊆ K) : F.Allows K (.alloc items) :=
  ⟨.inl rfl, h, fun _ _ he => nomatch he⟩

/-- An effect of a unit's own that is not about arrays. -/
theorem allows_of_isOwn {e : Effect} (hown : e.isOwn = true) (harrays : e.arrays = ∅)
    (he : e.isCall = false) : F.Allows K e := by
  refine ⟨.inl hown, harrays ▸ Set.empty_subset _, fun line f heq => ?_⟩
  subst heq
  cases he

/-- A pause shows no array, and in front of a call it shows a function of the fragment. -/
theorem allows_pause {here : Checkpoint}
    (h : ∀ line f, here = .call line f → F.stmt (.function f.definition)) :
    F.Allows K (.pause here) :=
  ⟨.inl rfl, Set.empty_subset _, fun line f he => h line f (Effect.pause.inj he)⟩

/-- Every effect but the pause in front of a call. -/
theorem allows_of_shares {e : Effect} (hF : F.shares) (hK : e.arrays ⊆ K) (he : e.isCall = false) :
    F.Allows K e := by
  refine ⟨.inr hF, hK, fun line f heq => ?_⟩
  subst heq
  cases he

end Fragment

open Fragment

namespace Exec.Confined

/-! ## Operators and elements -/

/-- The reply of the world comes with no array that was not known, and a fault with none at all. -/
theorem orFail [HoldsArrays α] (line : Nat) (action : IoAction) (reply : Except IoFault α)
    (h : ∀ a : α, arrays a ⊆ K) : Confined F K (Exec.orFail line action reply) := by
  cases reply with
  | ok a => exact pure (h a)
  | error fault => exact fail _ _

/-- A mismatch is a failure, and a failure touches no array. -/
theorem mismatch [HoldsArrays α] (line : Nat) (what : Mismatch) :
    Confined F K (Exec.mismatch line what : Exec α) :=
  fail _ _

/-- A new array is known from then on, and so is all that is in it. -/
theorem allocate {items : List Value} (h : arrays items ⊆ K) :
    Confined F K (Exec.allocate items) :=
  bind_perform (allows_alloc h) fun _ _ _ hr => pure (by rw [arrays_array]; exact hr)

/-- Reading a number off a value asks for nothing. -/
theorem expectNumber (line : Nat) (v : Value) : Confined F K (Exec.expectNumber line v) := by
  cases v with
  | number x => exact pure (Set.empty_subset _)
  | _ => exact mismatch _ _

/-- Reading a condition off a value asks for nothing. -/
theorem expectCondition (line : Nat) (v : Value) : Confined F K (Exec.expectCondition line v) := by
  cases v with
  | bool b => exact pure (Set.empty_subset _)
  | _ => exact mismatch _ _

/-- Reading an operand of a logical operator asks for nothing. -/
theorem expectLogical (op : BinaryOp) (line : Nat) (v : Value) :
    Confined F K (Exec.expectLogical op line v) := by
  cases v with
  | bool b => exact pure (Set.empty_subset _)
  | _ => exact mismatch _ _

/-- An operator in front of an operand gives a number or a truth value, and so no array. -/
theorem unaryValue (op : UnaryOp) (v : Value) (line : Nat) :
    Confined F K (Exec.unaryValue op v line) := by
  unfold Exec.unaryValue
  split
  · exact pure (by simp)
  · exact pure (by simp)
  · exact mismatch _ _

/-- What an operator makes of two numbers holds no array. -/
theorem numberValue? {op : BinaryOp} {x y : Float} {v : Value}
    (h : Exec.numberValue? op x y = some v) : arrays v ⊆ K := by
  cases op <;> cases h <;> simp

/-- A comparison of pairs looks at the arrays in them and at what it finds there. The knowledge grows from
pair to pair, so the comparison of one pair is asked for at every knowledge. -/
theorem allEqual {equal : Value → Value → Exec Bool}
    (h : ∀ {K a b}, arrays a ⊆ K → arrays b ⊆ K → Confined F K (equal a b)) {xs ys : List Value}
    (hxs : arrays xs ⊆ K) (hys : arrays ys ⊆ K) :
    Confined F K (Exec.allEqual equal (xs.zip ys)) := by
  induction xs generalizing K ys with
  | nil => exact pure (Set.empty_subset _)
  | cons x xs ih =>
    cases ys with
    | nil => exact pure (Set.empty_subset _)
    | cons y ys =>
      rw [arrays_cons, Set.union_subset_iff] at hxs hys
      refine bind (h hxs.1 hys.1) fun K₁ holds hK₁ _ => ?_
      cases holds with
      | true => exact ih (hxs.2.trans hK₁) (hys.2.trans hK₁)
      | false => exact pure (Set.empty_subset _)

/-- A comparison looks only at arrays that it comes to from the two values. -/
theorem equalValues (depth : Nat) {a b : Value} (ha : arrays a ⊆ K) (hb : arrays b ⊆ K) :
    Confined F K (Exec.equalValues depth a b) := by
  induction depth generalizing K a b with
  | zero =>
    obtain ⟨r, hr⟩ | ⟨g, h, rfl, rfl, hzero, -⟩ := Exec.equalValues_cases a b
    · exact hr 0 ▸ pure (Set.empty_subset _)
    · exact hzero ▸ exhausted
  | succ d ih =>
    obtain ⟨r, hr⟩ | ⟨g, h, rfl, rfl, -, hsucc⟩ := Exec.equalValues_cases a b
    · exact hr (d + 1) ▸ pure (Set.empty_subset _)
    · rw [arrays_array] at ha hb
      rw [hsucc]
      refine bind_perform (allows_inspect ha) fun K₁ xs hK₁ hxs => ?_
      refine bind_perform (allows_inspect (hb.trans hK₁)) fun K₂ ys hK₂ hys => ?_
      split
      · exact allEqual ih (hxs.trans hK₂) hys
      · exact pure (Set.empty_subset _)

/-- An operator looks at the arrays that are its operands; their sum is an array of what was in them. -/
theorem binaryValue (depth : Nat) (op : BinaryOp) {l r : Value} (line : Nat) (hl : arrays l ⊆ K)
    (hr : arrays r ⊆ K) : Confined F K (Exec.binaryValue depth op l r line) := by
  unfold Exec.binaryValue
  split
  · exact bind (equalValues _ hl hr) fun _ _ _ _ => pure (by simp)
  · exact bind (equalValues _ hl hr) fun _ _ _ _ => pure (by simp)
  · split
    · exact pure (by simp)
    · next g h =>
      rw [arrays_array] at hl hr
      refine bind_perform (allows_inspect hl) fun K₁ xs hK₁ hxs => ?_
      refine bind_perform (allows_inspect (hr.trans hK₁)) fun K₂ ys hK₂ hys => ?_
      refine allocate ?_
      rw [arrays_append]
      exact Set.union_subset (hxs.trans hK₂) hys
    · split
      · next hv => exact pure (numberValue? hv)
      · exact mismatch _ _
    · exact mismatch _ _

/-- A bounds check asks for nothing. -/
theorem slotOf (raw : Float) (length line : Nat) : Confined F K (Exec.slotOf raw length line) := by
  unfold Exec.slotOf
  split
  · exact pure (Set.empty_subset _)
  · exact fail _ _

/-- An index looks at one array and gives what is in it. -/
theorem indexValue {base : Value} (raw : Float) (line : Nat) (hbase : arrays base ⊆ K) :
    Confined F K (Exec.indexValue base raw line) := by
  unfold Exec.indexValue
  split
  · next h =>
    rw [arrays_array] at hbase
    refine bind_perform (allows_inspect hbase) fun K₁ length hK₁ _ => ?_
    refine bind (slotOf _ _ _) fun K₂ i hK₂ _ => ?_
    refine bind_perform (allows_inspect (hbase.trans (hK₁.trans hK₂))) fun K₃ v? _ hv => ?_
    cases v? with
    | some v =>
      have hv : arrays [v] ⊆ K₃ := hv
      exact pure (by simpa using hv)
    | none => exact fail _ _
  · refine bind (slotOf _ _ _) fun K₁ i _ _ => ?_
    split
    · exact pure (by simp)
    · exact fail _ _
  · exact mismatch _ _

/-- A cell is stored in a known array. That is seen by other units, so the fragment has to share. -/
theorem storeCell {h : Handle} {v : Value} (raw : Float) (line : Nat) (hF : F.shares) (hh : h ∈ K)
    (hv : arrays v ⊆ K) : Confined F K (Exec.storeCell h raw v line) := by
  refine bind_perform (allows_inspect (Set.singleton_subset_iff.mpr hh)) fun K₁ length hK₁ _ => ?_
  refine bind (slotOf _ _ _) fun K₂ i hK₂ _ => ?_
  have hstore : insert h (arrays v) ⊆ K₂ := (Set.insert_subset hh hv).trans (hK₁.trans hK₂)
  refine bind_perform (allows_of_shares hF hstore rfl) fun K₃ stored _ _ => ?_
  split
  · exact pure (Set.empty_subset _)
  · exact fail _ _

/-! ## Channels -/

/-- The host of a channel holds no array. -/
theorem hostOf (line : Nat) (v : Value) : Confined F K (Exec.hostOf line v) := by
  cases v with
  | text s => exact pure (Set.empty_subset _)
  | _ => exact mismatch _ _

/-- The port of a channel holds no array. -/
theorem portOf (line : Nat) (v : Value) : Confined F K (Exec.portOf line v) := by
  unfold Exec.portOf
  split
  · split
    · exact pure (Set.empty_subset _)
    · exact mismatch _ _
  · exact mismatch _ _

/-- The channels of a machine are no part of what it knows. -/
theorem setChannels (f : NameMap ConnectionId → NameMap ConnectionId) :
    Confined F K (Exec.update fun m => { m with channels := f m.channels }) :=
  update fun _ _ _ _ _ hm => ⟨hm.unit, hm.forks, hm.known, hm.functions⟩

/-- An effect that is not about arrays, from a fragment that has it. -/
theorem bind_shared [HoldsArrays α] {e : Effect} {f : e.Reply → Exec α} (hF : F.shares)
    (harrays : e.arrays = ∅) (he : e.isCall = false) (hf : ∀ r, Confined F K (f r)) :
    Confined F K (Exec.perform e >>= f) :=
  bind_perform (allows_of_shares hF (harrays ▸ Set.empty_subset _) he)
    fun _ r hK _ => (hf r).mono hK

/-- An effect of a unit's own that is not about arrays. -/
theorem bind_own [HoldsArrays α] {e : Effect} {f : e.Reply → Exec α} (hown : e.isOwn = true)
    (harrays : e.arrays = ∅) (he : e.isCall = false) (hf : ∀ r, Confined F K (f r)) :
    Confined F K (Exec.perform e >>= f) :=
  bind_perform (allows_of_isOwn hown harrays he) fun _ r hK _ => (hf r).mono hK

/-- Starting a server asks the network and the output, which the units share. -/
theorem openServer (line : Nat) (name host : String) (port : Nat) (hF : F.shares) :
    Confined F K (Exec.openServer line name host port) := by
  refine bind_shared hF rfl rfl fun reply => ?_
  refine bind (orFail _ _ _ fun _ => Set.empty_subset _) fun K₁ bound _ _ => ?_
  refine bind_own rfl rfl rfl fun said => ?_
  cases said with
  | ok _ => exact pure (Set.empty_subset _)
  | error fault => exact bind_shared hF rfl rfl fun _ => fail _ _

/-- Opening a channel asks the network, which the units share. -/
theorem attach (line : Nat) (name host : String) (port : Nat) (hF : F.shares) :
    Confined F K (Exec.attach line name host port) := by
  refine bind_shared hF rfl rfl fun reply => ?_
  refine bind (orFail _ _ _ fun _ => Set.empty_subset _) fun K₁ connection _ _ => ?_
  refine bind_machine fun u j K₂ m _ _ => ?_
  refine bind (setChannels (·.insert name connection)) fun K₃ _ _ _ => ?_
  cases m.channels.find? name with
  | some previous =>
    exact bind_shared (f := fun _ => Pure.pure ()) hF rfl rfl fun _ => pure (Set.empty_subset _)
  | none => exact pure (Set.empty_subset _)

/-- Copies of channels are asked for one after another; what is known stays as it is. -/
theorem shareChannels : ∀ channels, Confined F K (Exec.shareChannels channels)
  | [] => pure (Set.empty_subset _)
  | _ :: rest => bind_own rfl rfl rfl fun _ =>
    bind (orFail _ _ _ fun _ => Set.empty_subset _) fun _ _ hK _ => (shareChannels rest).mono hK

/-- Every unit gets its copies before any of them starts. -/
theorem shareWith (units : List Stmt) : Confined F K (Exec.shareWith units) := by
  induction units with
  | nil => exact pure (Set.empty_subset _)
  | cons s rest ih =>
    refine bind_machine fun _ _ _ _ hK _ => bind (shareChannels _) fun _ _ hK' _ => ?_
    exact ih.mono (hK.trans hK')

/-! ## Built-in functions -/

/-- A wrong number of arguments is a mismatch. -/
theorem wrongCount [HoldsArrays α] (callee : Builtin) (expected : ArgumentCount)
    (args : List Value) (line : Nat) :
    Confined F K (Exec.wrongCount callee expected args line : Exec α) :=
  mismatch _ _

/-- An argument that is a text holds no array. -/
theorem textArgument (callee : Builtin) (line : Nat) (v : Value) :
    Confined F K (Exec.textArgument callee line v) := by
  cases v with
  | text s => exact pure (Set.empty_subset _)
  | _ => exact mismatch _ _

/-- An argument that is a number holds no array. -/
theorem numberArgument (callee : Builtin) (line : Nat) (v : Value) :
    Confined F K (Exec.numberArgument callee line v) := by
  cases v with
  | number x => exact pure (Set.empty_subset _)
  | _ => exact mismatch _ _

/-- Values are written out in turn, each with what is known when its turn comes. -/
theorem renderEach {render : Value → Exec String}
    (h : ∀ {K v}, arrays v ⊆ K → Confined F K (render v)) {vs : List Value} (hvs : arrays vs ⊆ K) :
    Confined F K (Exec.renderEach render vs) := by
  induction vs generalizing K with
  | nil => exact pure (by simp)
  | cons v rest ih =>
    rw [arrays_cons, Set.union_subset_iff] at hvs
    refine bind (h hvs.1) fun K₁ text hK₁ _ => bind (ih (hvs.2.trans hK₁)) fun K₂ texts _ _ => pure ?_
    exact (arrays_texts (text :: texts)).trans_subset (Set.empty_subset _)

/-- Writing out a value looks at the arrays in it, depth by depth. -/
theorem renderValue (depth : Nat) {v : Value} (hv : arrays v ⊆ K) :
    Confined F K (Exec.renderValue depth v) := by
  induction depth generalizing K v with
  | zero =>
    obtain ⟨text, htext⟩ | ⟨h, rfl, hzero, -⟩ := Exec.renderValue_cases v
    · exact htext 0 ▸ pure (Set.empty_subset _)
    · exact hzero ▸ exhausted
  | succ d ih =>
    obtain ⟨text, htext⟩ | ⟨h, rfl, -, hsucc⟩ := Exec.renderValue_cases v
    · exact htext (d + 1) ▸ pure (Set.empty_subset _)
    · rw [arrays_array] at hv
      rw [hsucc]
      refine bind_perform (allows_inspect hv) fun K₁ items _ hitems => ?_
      exact bind (renderEach ih hitems) fun _ _ _ _ => pure (Set.empty_subset _)

/-- Printing looks at the arrays among its arguments and writes one line. -/
theorem printValues (depth line : Nat) {args : List Value} (h : arrays args ⊆ K) :
    Confined F K (Exec.printValues depth line args) := by
  have hprint : Confined F K (do
      let texts ← Exec.renderEach (Exec.renderValue depth) args
      let reply ← Exec.perform (.emit (String.intercalate " " texts))
      Exec.orFail line .writeOutput reply
      return Value.void) := by
    refine bind (renderEach (renderValue depth) h) fun K₁ texts _ _ => bind_own rfl rfl rfl fun reply => ?_
    exact bind (orFail _ _ _ fun _ => Set.empty_subset _) fun _ _ _ _ => pure (by simp)
  unfold Exec.printValues
  split
  · exact bind (wrongCount _ _ _ _) fun _ (_ : Unit) hK _ => hprint.mono hK
  · exact hprint

/-- A truth value is read off a value that holds no array, or the value is written out for the complaint. -/
theorem truthOf (depth line : Nat) {v : Value} (h : arrays v ⊆ K) :
    Confined F K (Exec.truthOf depth line v) := by
  unfold Exec.truthOf
  split
  · exact pure (by simp)
  · exact pure (by simp)
  · split
    · exact pure (by simp)
    · split
      · exact pure (by simp)
      · exact mismatch _ _
  · exact bind (renderValue _ h) fun _ _ _ _ => mismatch _ _

/-- The length is asked of a known array. -/
theorem lengthOf (line : Nat) {v : Value} (h : arrays v ⊆ K) :
    Confined F K (Exec.lengthOf line v) := by
  cases v with
  | text s => exact pure (by simp)
  | array handle =>
    rw [arrays_array] at h
    exact bind_perform (allows_inspect h) fun _ _ _ _ => pure (by simp)
  | _ => exact mismatch _ _

/-- The pieces of a text are a new array without arrays in it. -/
theorem splitText (line : Nat) (text pattern : String) :
    Confined F K (Exec.splitText line text pattern) := by
  refine bind_own rfl rfl rfl fun cuts? => ?_
  cases cuts? with
  | some cuts => exact allocate (by simp)
  | none => exact fail _ _

/-- An exchange asks the network three times and gives a text. -/
theorem exchange (line : Nat) (channel : String) (connection : ConnectionId) (message : String)
    (hF : F.shares) : Confined F K (Exec.exchange line channel connection message) := by
  have hfail : ∀ {K} {α : Type} [HoldsArrays α] (r : Except IoFault α), (∀ a : α, arrays a = ∅) →
      Confined F K (Exec.orFail line (.send channel) r) := fun r h =>
    orFail _ _ _ fun a => h a ▸ Set.empty_subset _
  refine bind_shared hF rfl rfl fun sent => bind (hfail sent fun _ => rfl) fun K₁ _ _ _ => ?_
  refine bind_shared hF rfl rfl fun ended => bind (hfail ended fun _ => rfl) fun K₂ _ _ _ => ?_
  exact bind_shared hF rfl rfl fun reply => bind (hfail reply fun _ => rfl) fun _ _ _ _ =>
    pure (by simp)

/-- Sending goes by the channels of the unit's machine. -/
theorem sendLine (line : Nat) (channel message : String) (hF : F.shares) :
    Confined F K (Exec.sendLine line channel message) := by
  refine bind_machine fun u j K₁ m _ _ => ?_
  split
  · exact fail _ _
  · exact exchange _ _ _ _ hF

/-- Closing a channel takes it out of the machine's channels. -/
theorem closeChannel (channel : String) (hF : F.shares) :
    Confined F K (Exec.closeChannel channel) := by
  refine bind_machine fun u j K₁ m _ _ => ?_
  split
  · exact pure (by simp)
  · refine bind (setChannels (·.erase channel)) fun K₂ _ _ _ => ?_
    exact bind_shared hF rfl rfl fun _ => pure (by simp)

/-- The built-in functions that a fragment calls are confined to it. -/
theorem callBuiltin (depth : Nat) {callee : Builtin} {args : List Value} (line : Nat)
    (hF : callee.isOwn = true ∨ F.shares) (h : arrays args ⊆ K) :
    Confined F K (Exec.callBuiltin depth callee args line) := by
  unfold Exec.callBuiltin
  split
  · exact printValues _ _ h
  · have hF : F.shares := hF.resolve_left (by decide)
    refine bind_shared hF rfl rfl fun reply => ?_
    exact bind (orFail _ _ _ fun _ => Set.empty_subset _) fun _ _ _ _ => pure (by simp)
  · refine bind (numberArgument _ _ _) fun K₁ x _ _ => ?_
    exact bind_own rfl rfl rfl fun _ => pure (by simp)
  · refine bind (textArgument _ _ _) fun K₁ text _ _ => bind (textArgument _ _ _) ?_
    exact fun K₂ pattern _ _ => splitText _ _ _
  · exact bind (textArgument _ _ _) fun _ _ _ _ => pure (by simp)
  · exact bind (textArgument _ _ _) fun _ _ _ _ => pure (by simp)
  · refine bind (textArgument _ _ _) fun K₁ text _ _ => ?_
    split
    · exact pure (by simp)
    · exact fail _ _
  · rw [arrays_cons] at h
    exact bind (renderValue _ (Set.union_subset_iff.mp h).1) fun _ _ _ _ => pure (by simp)
  · rw [arrays_cons] at h
    exact truthOf _ _ (Set.union_subset_iff.mp h).1
  · rw [arrays_cons] at h
    exact lengthOf _ (Set.union_subset_iff.mp h).1
  · have hF : F.shares := hF.resolve_left (by decide)
    refine bind (textArgument _ _ _) fun K₁ channel _ _ => bind (textArgument _ _ _) ?_
    exact fun K₂ message _ _ => sendLine _ _ _ hF
  · have hF : F.shares := hF.resolve_left (by decide)
    exact bind (textArgument _ _ _) fun K₁ channel _ _ => closeChannel _ hF
  all_goals exact wrongCount _ _ _ _

end Exec.Confined

/-! ## The interpreter -/

open Exec (Confined)

/-- Every function of the interpreter is confined to the fragment at the budget `n`. -/
structure ConfinedAt (F : Fragment) (n : Nat) : Prop where
  eval : ∀ {K e}, F.expr e → Confined F K (Exec.eval n e)
  evalAll : ∀ {K es}, (∀ e ∈ es, F.expr e) → Confined F K (Exec.evalAll n es)
  invoke : ∀ {K f args line}, F.stmt (.function f) → arrays args ⊆ K →
    Confined F K (Exec.invoke n f args line)
  bindParams : ∀ {K function ps args line}, (∀ p ∈ ps, ∀ e, p.default? = some e → F.expr e) →
    arrays args ⊆ K → Confined F K (Exec.bindParams n function ps args line)
  run : ∀ {K s}, F.stmt s → Confined F K (Exec.run n s)
  runAll : ∀ {K ss}, (∀ s ∈ ss, F.stmt s) → Confined F K (Exec.runAll n ss)
  test : ∀ {K e}, F.expr e → Confined F K (Exec.test n e)
  assign : ∀ {K a}, F.stmt (.assign a) → Confined F K (Exec.assign n a)
  whileLoop : ∀ {K condition body}, F.expr condition → (∀ s ∈ body, F.stmt s) →
    Confined F K (Exec.whileLoop n condition body)
  forLoop : ∀ {K condition update body}, F.expr condition → F.stmt (.assign update) →
    (∀ s ∈ body, F.stmt s) → Confined F K (Exec.forLoop n condition update body)

namespace ConfinedAt

variable {n : Nat}

/-- The function that is called is one of the fragment, so its body is confined by the induction. -/
theorem call {line : Nat} {callee : String} {args : List Expr} (ih : ConfinedAt F n)
    (hb : Builtin.ofName? callee = none) (he : F.expr (.call line callee args)) :
    Confined F K (Exec.eval (n + 1) (.call line callee args)) := by
  rw [Exec.eval_call hb]
  refine .functionNamed_bind (F.call he) hb fun f hf => ?_
  have hpause : ∀ {K : Set Handle}, F.Allows K (.pause (.call line f)) :=
    allows_pause fun _ _ heq => by cases heq; exact hf
  have hcall : ∀ {K : Set Handle} {vs : List Value}, arrays vs ⊆ K → Confined F K (do
      Exec.pause (.call line f)
      Exec.inCall f.depth (Exec.invoke n f.definition vs line)) := fun hvs =>
    .bind_perform hpause fun _ _ hK _ => .inCall (ih.invoke hf (hvs.trans hK))
  refine .bind (ih.evalAll fun e hmem => F.suboperand he hmem) fun K₂ vs _ hvs => ?_
  split
  · exact .bind (.mismatch _ _) fun _ (_ : Unit) hK _ => hcall (hvs.trans hK)
  · exact hcall hvs

/-- The logical operators evaluate their right operand only if the left one leaves the value open. -/
theorem logical {line : Nat} {op : BinaryOp} {left right : Expr} (ih : ConfinedAt F n)
    (hleft : F.expr left) (hright : F.expr right) :
    Confined F K (do
      let l ← Exec.expectLogical op line (← Exec.eval n left)
      if l = (op == .or) then return Value.bool l
      else return .bool (← Exec.expectLogical op line (← Exec.eval n right))) := by
  refine .bind (ih.eval hleft) fun K₁ v _ _ => .bind (.expectLogical _ _ _) fun K₂ l _ _ => ?_
  split
  · exact .pure (by simp)
  · refine .bind (ih.eval hright) fun K₃ v' _ _ => ?_
    exact .bind (.expectLogical _ _ _) fun _ _ _ _ => .pure (by simp)

/-- The other operators evaluate both operands. -/
theorem strict {line : Nat} {op : BinaryOp} {left right : Expr} (ih : ConfinedAt F n)
    (hleft : F.expr left) (hright : F.expr right) :
    Confined F K (do
      let l ← Exec.eval n left
      let r ← Exec.eval n right
      Exec.binaryValue n op l r line) :=
  .bind (ih.eval hleft) fun _ _ _ hl => .bind (ih.eval hright) fun _ _ hK hr =>
    .binaryValue _ _ _ (hl.trans hK) hr

/-- An expression is confined if its operands are: one case for each form. -/
theorem eval_succ {e : Expr} (ih : ConfinedAt F n) (he : F.expr e) :
    Confined F K (Exec.eval (n + 1) e) := by
  have hsub : ∀ e' ∈ e.operands, F.expr e' := fun e' h => F.suboperand he h
  cases e with
  | number line x => exact .pure (by simp)
  | text line s => exact .pure (by simp)
  | truth line b => exact .pure (by simp)
  | ident line x => exact .variableValue line x
  | binary line op left right =>
    have hleft := hsub left (by simp [Expr.operands])
    have hright := hsub right (by simp [Expr.operands])
    rw [Exec.eval_binary]
    split
    · exact ih.logical hleft hright
    · exact ih.strict hleft hright
  | unary line op operand =>
    exact .bind (ih.eval (hsub operand (by simp [Expr.operands]))) fun _ _ _ _ => .unaryValue _ _ _
  | call line callee args =>
    cases hb : Builtin.ofName? callee with
    | some builtin =>
      rw [Exec.eval_builtin hb]
      refine .bind (ih.evalAll hsub) fun _ vs _ hvs => ?_
      exact .callBuiltin _ _ (F.builtin (F.call he) hb) hvs
    | none => exact ih.call hb he
  | index line base position =>
    refine .bind (ih.eval (hsub base (by simp [Expr.operands]))) fun K₁ b _ hbase => ?_
    refine .bind (ih.eval (hsub position (by simp [Expr.operands]))) fun K₂ i hK₂ _ => ?_
    refine .bind (.expectNumber _ _) fun K₃ raw hK₃ _ => ?_
    exact .indexValue _ _ (hbase.trans (hK₂.trans hK₃))
  | array line items => exact .bind (ih.evalAll hsub) fun _ _ _ hvs => .allocate hvs

/-- Expressions in turn. What the first one gives is still known behind the others. -/
theorem evalAll_succ {es : List Expr} (ih : ConfinedAt F n) (hes : ∀ e ∈ es, F.expr e) :
    Confined F K (Exec.evalAll (n + 1) es) := by
  cases es with
  | nil => exact .pure (by simp)
  | cons e rest =>
    obtain ⟨he, hrest⟩ := List.forall_mem_cons.mp hes
    refine .bind (ih.eval he) fun K₁ v _ hv => .bind (ih.evalAll hrest) fun K₂ vs hK₂ hvs => ?_
    refine .pure ?_
    rw [arrays_cons]
    exact Set.union_subset (hv.trans hK₂) hvs

/-- The body of a function runs with its parameters bound to what is known. -/
theorem invoke_succ {f : FunctionDef Stmt} {args : List Value} {line : Nat} (ih : ConfinedAt F n)
    (hf : F.stmt (.function f)) (hargs : arrays args ⊆ K) :
    Confined F K (Exec.invoke (n + 1) f args line) := by
  have hdefaults : ∀ p ∈ f.params, ∀ e, p.default? = some e → F.expr e := fun p hp e he =>
    F.operand hf (List.mem_filterMap.mpr ⟨p, hp, he⟩)
  refine .bind (ih.bindParams hdefaults hargs) fun K₁ _ _ _ => ?_
  refine .bind (ih.runAll fun s hs => F.part hf hs) fun K₂ flow _ hflow => ?_
  cases flow with
  | «return» v => exact .pure (by simpa using hflow)
  | _ => exact .pure (by simp)

/-- Parameters are bound to arguments or to defaults of the fragment. -/
theorem bindParams_succ {function : String} {ps : List Param} {args : List Value} {line : Nat}
    (ih : ConfinedAt F n) (hps : ∀ p ∈ ps, ∀ e, p.default? = some e → F.expr e)
    (hargs : arrays args ⊆ K) :
    Confined F K (Exec.bindParams (n + 1) function ps args line) := by
  cases ps with
  | nil => exact .pure (Set.empty_subset _)
  | cons p ps =>
    obtain ⟨hp, hps⟩ := List.forall_mem_cons.mp hps
    have hrest : ∀ {K : Set Handle} {v : Value} {args : List Value}, arrays v ⊆ K →
        arrays args ⊆ K → Confined F K (do
          Exec.declare p.name v
          Exec.bindParams n function ps args line) := fun hv hargs =>
      .bind (.declare _ hv) fun _ _ hK _ => ih.bindParams hps (hargs.trans hK)
    cases args with
    | cons v vs =>
      rw [arrays_cons] at hargs
      obtain ⟨hv, hvs⟩ := Set.union_subset_iff.mp hargs
      exact hrest hv hvs
    | nil =>
      rw [Exec.bindParams_default]
      cases hdefault : p.default? with
      | some e => exact .bind (ih.eval (hp e hdefault)) fun _ _ _ hv => hrest hv (by simp)
      | none => exact .mismatch _ _

/-- Statements in turn, up to the first jump. -/
theorem runAll_succ {ss : List Stmt} (ih : ConfinedAt F n) (hss : ∀ s ∈ ss, F.stmt s) :
    Confined F K (Exec.runAll (n + 1) ss) := by
  cases ss with
  | nil => exact .pure (by simp)
  | cons s rest =>
    obtain ⟨hs, hrest⟩ := List.forall_mem_cons.mp hss
    refine .bind (ih.run hs) fun K₁ flow _ hflow => ?_
    cases flow with
    | normal => exact ih.runAll hrest
    | _ => exact .pure hflow

/-- A condition is an expression of the fragment. -/
theorem test_succ {e : Expr} (ih : ConfinedAt F n) (he : F.expr e) :
    Confined F K (Exec.test (n + 1) e) :=
  .bind (ih.eval he) fun _ _ _ _ => .expectCondition _ _

/-- An assignment binds a variable, or stores in an array if the fragment shares. -/
theorem assign_succ {a : Assignment} (ih : ConfinedAt F n) (ha : F.stmt (.assign a)) :
    Confined F K (Exec.assign (n + 1) a) := by
  obtain ⟨line, target, value⟩ := a
  have hvalue : F.expr value := F.operand ha (by simp [Stmt.operands])
  cases target with
  | «variable» l x => exact .bind (ih.eval hvalue) fun _ _ _ hv => .assignVariable _ _ hv
  | cell base position =>
    have hbase : F.expr base := F.operand ha (by simp [Stmt.operands, Target.operands])
    have hposition : F.expr position := F.operand ha (by simp [Stmt.operands, Target.operands])
    refine .bind (ih.eval hbase) fun K₁ b _ hb => ?_
    cases b with
    | array h =>
      rw [arrays_array] at hb
      refine .bind (ih.eval hposition) fun K₂ i hK₂ _ => ?_
      refine .bind (.expectNumber _ _) fun K₃ raw hK₃ _ => ?_
      refine .bind (ih.eval hvalue) fun K₄ v hK₄ hv => ?_
      exact .storeCell _ _ (F.cell ha) (hK₄ (hK₃ (hK₂ (hb rfl)))) hv
    | _ => exact .mismatch _ _

/-- Rounds of a loop, by the budget; what one round comes to know the next one knows. -/
theorem whileLoop_succ {condition : Expr} {body : List Stmt} (ih : ConfinedAt F n)
    (hc : F.expr condition) (hbody : ∀ s ∈ body, F.stmt s) :
    Confined F K (Exec.whileLoop (n + 1) condition body) := by
  refine .bind_perform (allows_pause fun _ _ h => nomatch h) fun K₁ _ _ _ => ?_
  refine .bind (ih.test hc) fun K₂ holds _ _ => ?_
  cases holds with
  | false => exact .pure (by simp)
  | true =>
    refine .bind (.inScope (ih.runAll hbody)) fun K₃ flow _ hflow => ?_
    cases flow with
    | «break» => exact .pure (by simp)
    | «return» v => exact .pure hflow
    | normal => exact ih.whileLoop hc hbody
    | «continue» => exact ih.whileLoop hc hbody

/-- Rounds of a loop with an update behind each. -/
theorem forLoop_succ {condition : Expr} {update : Assignment} {body : List Stmt}
    (ih : ConfinedAt F n) (hc : F.expr condition) (hu : F.stmt (.assign update))
    (hbody : ∀ s ∈ body, F.stmt s) :
    Confined F K (Exec.forLoop (n + 1) condition update body) := by
  have hnext : ∀ {K : Set Handle}, Confined F K (do
      Exec.assign n update
      Exec.forLoop n condition update body) :=
    .bind (ih.assign hu) fun _ _ _ _ => ih.forLoop hc hu hbody
  refine .bind_perform (allows_pause fun _ _ h => nomatch h) fun K₁ _ _ _ => ?_
  refine .bind (ih.test hc) fun K₂ holds _ _ => ?_
  cases holds with
  | false => exact .pure (by simp)
  | true =>
    refine .bind (.inScope (ih.runAll hbody)) fun K₃ flow _ hflow => ?_
    cases flow with
    | «break» => exact .pure (by simp)
    | «return» v => exact .pure hflow
    | normal => exact hnext
    | «continue» => exact hnext

/-- The host and the port of a channel, and what is done with them. -/
theorem endpoint [HoldsArrays α] {line : Nat} {host port : Expr} {f : String → Nat → Exec α}
    (ih : ConfinedAt F n) (hh : F.expr host) (hp : F.expr port)
    (hf : ∀ K s i, Confined F K (f s i)) :
    Confined F K (do
      let host ← Exec.hostOf line (← Exec.eval n host)
      let port ← Exec.portOf line (← Exec.eval n port)
      f host port) := by
  refine .bind (ih.eval hh) fun K₁ _ _ _ => .bind (.hostOf _ _) fun K₂ host _ _ => ?_
  refine .bind (ih.eval hp) fun K₃ _ _ _ => .bind (.portOf _ _) fun K₄ port _ _ => ?_
  exact hf _ _ _

/-- A statement is confined if its parts are: one case for each form. -/
theorem run_succ {s : Stmt} (ih : ConfinedAt F n) (hs : F.stmt s) :
    Confined F K (Exec.run (n + 1) s) := by
  have hparts : ∀ t ∈ s.parts, F.stmt t := fun t h => F.part hs h
  have hsub : ∀ e ∈ s.operands, F.expr e := fun e h => F.operand hs h
  have hblock : ∀ {K : Set Handle} {ss : List Stmt}, (∀ t ∈ ss, F.stmt t) →
      Confined F K (Exec.inScope (Exec.runAll n ss)) := fun hss => .inScope (ih.runAll hss)
  have hnormal : ∀ {K : Set Handle}, Confined F K (pure Flow.normal) := .pure (by simp)
  refine .bind_perform (allows_pause fun _ _ h => nomatch h) fun K₀ _ _ _ => ?_
  cases s with
  | declare line x type value =>
    refine .bind (ih.eval (hsub value (by simp [Stmt.operands]))) fun K₁ v _ hv => ?_
    exact .bind (.declare _ hv) fun _ _ _ _ => hnormal
  | assign a => exact .bind (ih.assign hs) fun _ _ _ _ => hnormal
  | function f =>
    exact .bind (.define hs) fun _ _ _ _ => hnormal
  | «return» line value =>
    refine .bind (ih.eval (hsub value (by simp [Stmt.operands]))) fun K₁ v _ hv => ?_
    exact .pure (by simpa using hv)
  | branch line condition yes no? =>
    refine .bind (ih.test (hsub condition (by simp [Stmt.operands]))) fun K₁ holds _ _ => ?_
    cases holds with
    | true => exact hblock fun t ht => hparts t (List.mem_append_left _ ht)
    | false =>
      cases no? with
      | none => exact hnormal
      | some no => exact hblock fun t ht => hparts t (List.mem_append_right _ ht)
  | «while» line condition body =>
    exact ih.whileLoop (hsub condition (by simp [Stmt.operands])) hparts
  | «for» line init condition update body =>
    obtain ⟨hinit, hupdate, hbody⟩ : F.stmt init ∧ F.stmt (.assign update) ∧
        ∀ t ∈ body.statements, F.stmt t := by simpa [Stmt.parts] using hparts
    refine .inScope (.bind (ih.run hinit) fun K₁ _ _ _ => ?_)
    exact ih.forLoop (hsub condition (by simp [Stmt.operands])) hupdate hbody
  | «break» line => exact .pure (by simp)
  | «continue» line => exact .pure (by simp)
  | seq body => exact hblock hparts
  | block body => exact hblock hparts
  | par units =>
    refine .bind (.shareWith _) fun K₁ _ _ _ => .bind_fork ⟨units.line, hs⟩ fun results => ?_
    obtain hjoin | ⟨e, -, hjoin⟩ := Exec.join_cases results
    · exact hjoin ▸ hnormal
    · exact hjoin ▸ .throw e
  | expr line value =>
    exact .bind (ih.eval (hsub value (by simp [Stmt.operands]))) fun _ _ _ _ => hnormal
  | server ch =>
    refine .bind (ih.eval (hsub ch.description (by simp [Stmt.operands]))) fun K₁ _ _ _ => ?_
    refine ih.endpoint (hsub ch.host (by simp [Stmt.operands]))
      (hsub ch.port (by simp [Stmt.operands])) fun K₂ host port => ?_
    exact .bind (.openServer _ _ _ _ (F.server hs)) fun _ _ _ _ => hnormal
  | client ch =>
    refine ih.endpoint (hsub ch.host (by simp [Stmt.operands]))
      (hsub ch.port (by simp [Stmt.operands])) fun K₂ host port => ?_
    refine .bind (.attach _ _ _ _ (F.client hs)) fun K₃ _ _ _ => ?_
    exact .bind (.declare _ (by simp)) fun _ _ _ _ => hnormal

end ConfinedAt

/-- **Every function of the interpreter is confined** at every budget, by induction on it. -/
theorem confinedAt (F : Fragment) (n : Nat) : ConfinedAt F n := by
  induction n with
  | zero =>
    exact ⟨fun _ => .exhausted, fun _ => .exhausted, fun _ _ => .exhausted, fun _ _ => .exhausted,
      fun _ => .exhausted, fun _ => .exhausted, fun _ => .exhausted, fun _ => .exhausted,
      fun _ _ => .exhausted, fun _ _ _ => .exhausted⟩
  | succ n ih =>
    exact ⟨ih.eval_succ, ih.evalAll_succ, ih.invoke_succ, ih.bindParams_succ, ih.run_succ,
      ih.runAll_succ, ih.test_succ, ih.assign_succ, ih.whileLoop_succ, ih.forLoop_succ⟩

/-- **A unit of a fragment is confined to it.** -/
theorem Exec.confined_runUnit {n : Nat} {s : Stmt} (hs : F.stmt s) :
    Confined F K (Exec.runUnit n s) :=
  .bind ((confinedAt F n).run hs) fun _ _ _ _ => .pure (Set.empty_subset _)

/-- **A program of a fragment is confined to it.** -/
theorem Exec.confined_runProgram {n : Nat} {ss : List Stmt} (hss : ∀ s ∈ ss, F.stmt s) :
    Confined F K (Exec.runProgram n ss) := by
  induction ss generalizing K with
  | nil => exact .pure (Set.empty_subset _)
  | cons s rest ih =>
    obtain ⟨hs, hrest⟩ := List.forall_mem_cons.mp hss
    exact .bind ((confinedAt F n).run hs) fun _ _ _ _ => ih hrest

end ParLang
