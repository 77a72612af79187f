import ParLang.Execution.Evaluator
import ParLang.Proofs.Soundness.Sound

/-!
# Operators, elements and built-in functions are sound

Each operation on values that are already evaluated, with arguments of the types that checking asks
for, gives a value of the type that checking says. None of them changes what a name is bound to, but
for a channel, which becomes a variable.
-/

namespace ParLang

variable {G : Globals} {H : HeapTyping} {m : Machine} {v : Value} {line : Nat}

/-! ## Values of a known type -/

namespace Value.HasType

/-- A value of the type of numbers is one. -/
theorem eq_number (h : v.HasType H .number) : ∃ x, v = .number x := by
  cases h with
  | number => exact ⟨_, rfl⟩
  | @array _ element _ _ ht => cases element <;> cases ht

/-- A value of the type of truth values is one. -/
theorem eq_bool (h : v.HasType H .bool) : ∃ b, v = .bool b := by
  cases h with
  | bool => exact ⟨_, rfl⟩
  | @array _ element _ _ ht => cases element <;> cases ht

/-- A value of the type of texts is one. -/
theorem eq_text (h : v.HasType H .string) : ∃ s, v = .text s := by
  cases h with
  | text => exact ⟨_, rfl⟩
  | @array _ element _ _ ht => cases element <;> cases ht

/-- A value of an array type, as the array over elements of some scalar type. -/
theorem eq_array {t : StaticType} (h : v.HasType H t) (ht : t.isArray) :
    ∃ h element, v = .array h ∧ H.element? h = some element ∧ element.arrayOf? = some t := by
  cases h with
  | array hh helement => exact ⟨_, _, rfl, hh, helement⟩
  | _ => cases ht

end Value.HasType

/-- The value has some type. -/
def Value.Typed (H : HeapTyping) (v : Value) : Prop :=
  ∃ t, v.HasType H t

namespace Value.Typed

/-- A typed value stays typed when more arrays are. -/
theorem mono {H' : HeapTyping} (h : v.Typed H) (hH : H ≤ H') : v.Typed H' :=
  h.imp fun _ ht => ht.mono hH

/-- The cells of an array have a type. -/
theorem element? {h : Handle} (hh : (Value.array h).Typed H) : ∃ t, H.element? h = some t := by
  obtain ⟨t, ht⟩ := hh
  cases ht with
  | array helement => exact ⟨_, helement⟩

end Value.Typed

/-- Values of one type each are values of that type. -/
theorem forall_mem_of_forall₂ {R : Value → StaticType → Prop} {vs : List Value} {ts : List StaticType}
    {t : StaticType} (h : List.Forall₂ R vs ts) (hts : ∀ u ∈ ts, u = t) : ∀ v ∈ vs, R v t := by
  induction h with
  | nil => simp
  | @cons v u vs ts hv _ ih =>
    intro v' hmem
    rcases List.mem_cons.mp hmem with rfl | hmem
    · exact hts u (by simp) ▸ hv
    · exact ih (fun u hu => hts u (by simp [hu])) v' hmem

namespace Exec

open Value (HasType)

/-! ## Variables -/

/-- A variable that the checker sees is there, with its type. -/
theorem variableValue_sound {x : String} {t : StaticType} {names : Names} {d : Nat}
    (hfits : Fits G m d names) (hx : names.scopes.find? x = some t) :
    Sound G H m (variableValue line x) fun H' v _ => v.HasType H' t := by
  refine .of_typed fun hm => .machine_bind ?_
  obtain ⟨v, hv, hvt⟩ := hfits.find? hm hx
  simp only [hv]
  exact .pure hvt

/-- A value of its type may be assigned to it. -/
theorem assignVariable_sound {x : String} {t : StaticType} {names : Names} {d : Nat}
    (hfits : Fits G m d names) (hx : names.scopes.find? x = some t) (hv : v.HasType H t) :
    Sound G H m (assignVariable line x v) fun _ _ _ => True := by
  refine .of_typed fun hm => .machine_bind ?_
  obtain ⟨before, hbefore, -⟩ := hfits.find? hm hx
  obtain ⟨scopes, hscopes⟩ : ∃ scopes, m.scopes.assign? x v = some scopes := by
    rw [← Option.isSome_iff_exists, Scopes.assign?_isSome_iff, hbefore, Option.isSome_some]
  simp only [hscopes]
  have hlist := Scopes.assign?_eq_some hscopes
  have hdeclared := (hfits.bound x t hx).2
  refine (Sound.update (fun hm => ⟨?_, hm.functions⟩) fun _ => ?_).weaken fun _ _ _ _ _ _ => trivial
  · exact hm.bindings.assignIn ⟨t, hdeclared, hv⟩ hlist
  · exact ⟨Scopes.grows_assignIn hlist, fun _ _ h => h⟩

/-- A function that is there is found. -/
theorem functionNamed_sound {x : String} {f : Function} (hf : m.functions.find? x = some f) :
    Sound G H m (functionNamed line x) fun _ g m' => g = f ∧ m' = m := by
  refine .machine_bind ?_
  simp only [hf]
  exact .pure ⟨rfl, rfl⟩

/-! ## Cells -/

/-- The cells of an array have the type of its elements. -/
theorem inspect_items_sound {h : Handle} {t : StaticType} (hh : H.element? h = some t) :
    Sound G H m (inspect (.items h)) fun H' vs _ => ∀ v ∈ vs, Value.HasType H' v t :=
  .perform t hh fun _ _ _ hvs => hvs

/-- Pairs of typed values are compared in turn. -/
theorem allEqual_sound {equal : Value → Value → Exec Bool}
    (h : ∀ {H m a b}, a.Typed H → b.Typed H → Sound G H m (equal a b) fun _ _ _ => True)
    {xs ys : List Value} (hxs : ∀ v ∈ xs, v.Typed H) (hys : ∀ v ∈ ys, v.Typed H) :
    Sound G H m (allEqual equal (xs.zip ys)) fun _ _ _ => True := by
  induction xs generalizing H m ys with
  | nil => exact .pure trivial
  | cons x xs ih =>
    cases ys with
    | nil => exact .pure trivial
    | cons y ys =>
      obtain ⟨hx, hxs⟩ := List.forall_mem_cons.mp hxs
      obtain ⟨hy, hys⟩ := List.forall_mem_cons.mp hys
      refine .bind (h hx hy) fun H₁ holds m₁ hH _ _ => ?_
      cases holds with
      | true => exact ih (fun v hv => (hxs v hv).mono hH) fun v hv => (hys v hv).mono hH
      | false => exact .pure trivial

/-- Values of any types can be compared. -/
theorem equalValues_sound {depth : Nat} {a b : Value} (ha : a.Typed H) (hb : b.Typed H) :
    Sound G H m (equalValues depth a b) fun _ _ _ => True := by
  induction depth generalizing H m a b with
  | zero =>
    obtain ⟨r, hr⟩ | ⟨g, h, rfl, rfl, hzero, -⟩ := equalValues_cases a b
    · exact hr 0 ▸ .pure trivial
    · exact hzero ▸ .exhausted
  | succ d ih =>
    obtain ⟨r, hr⟩ | ⟨g, h, rfl, rfl, -, hsucc⟩ := equalValues_cases a b
    · exact hr (d + 1) ▸ .pure trivial
    · obtain ⟨s, hg⟩ := ha.element?
      obtain ⟨t, hh⟩ := hb.element?
      rw [hsucc]
      refine .bind (inspect_items_sound hg) fun H₁ xs m₁ hH₁ _ hxs => ?_
      refine .bind (inspect_items_sound (hH₁ _ _ hh)) fun H₂ ys m₂ hH₂ _ hys => ?_
      split
      · exact allEqual_sound ih (fun v hv => ⟨s, (hxs v hv).mono hH₂⟩) fun v hv => ⟨t, hys v hv⟩
      · exact .pure trivial

/-- Typed values are written out in turn. -/
theorem renderEach_sound {render : Value → Exec String}
    (h : ∀ {H m v}, v.Typed H → Sound G H m (render v) fun _ _ _ => True) {vs : List Value}
    (hvs : ∀ v ∈ vs, v.Typed H) : Sound G H m (renderEach render vs) fun _ _ _ => True := by
  induction vs generalizing H m with
  | nil => exact .pure trivial
  | cons v rest ih =>
    obtain ⟨hv, hrest⟩ := List.forall_mem_cons.mp hvs
    exact .bind (h hv) fun _ _ _ hH _ _ => .bind (ih fun u hu => (hrest u hu).mono hH)
      fun _ _ _ _ _ _ => .pure trivial

/-- A value of any type can be written out. -/
theorem renderValue_sound {depth : Nat} (hv : v.Typed H) :
    Sound G H m (renderValue depth v) fun _ _ _ => True := by
  induction depth generalizing H m v with
  | zero =>
    obtain ⟨text, htext⟩ | ⟨h, rfl, hzero, -⟩ := renderValue_cases v
    · exact htext 0 ▸ .pure trivial
    · exact hzero ▸ .exhausted
  | succ d ih =>
    obtain ⟨text, htext⟩ | ⟨h, rfl, -, hsucc⟩ := renderValue_cases v
    · exact htext (d + 1) ▸ .pure trivial
    · obtain ⟨t, hh⟩ := hv.element?
      rw [hsucc]
      refine .bind (inspect_items_sound hh) fun _ items _ _ _ hitems => ?_
      exact .bind (renderEach_sound ih fun v hv => ⟨t, hitems v hv⟩) fun _ _ _ _ _ _ => .pure trivial

/-! ## Operators -/

/-- A value of the type of numbers is read as one. -/
theorem expectNumber_sound (h : v.HasType H .number) :
    Sound G H m (expectNumber line v) fun _ _ m' => m' = m := by
  obtain ⟨x, rfl⟩ := h.eq_number
  exact .pure rfl

/-- A value of the type of truth values is a condition. -/
theorem expectCondition_sound (h : v.HasType H .bool) :
    Sound G H m (expectCondition line v) fun _ _ m' => m' = m := by
  obtain ⟨b, rfl⟩ := h.eq_bool
  exact .pure rfl

/-- So is it an operand of the logical operators. -/
theorem expectLogical_sound {op : BinaryOp} (h : v.HasType H .bool) :
    Sound G H m (expectLogical op line v) fun _ _ m' => m' = m := by
  obtain ⟨b, rfl⟩ := h.eq_bool
  exact .pure rfl

/-- An operator in front gives a value of its type. -/
theorem unaryValue_sound {op : UnaryOp} (h : v.HasType H (unaryType op)) :
    Sound G H m (unaryValue op v line) fun H' v' _ => v'.HasType H' (unaryType op) := by
  cases op with
  | neg =>
    obtain ⟨x, rfl⟩ := h.eq_number
    exact .pure .number
  | not =>
    obtain ⟨b, rfl⟩ := h.eq_bool
    exact .pure .bool

/-- Two arrays of one type, one behind the other, in a new array. -/
theorem append_sound {g h : Handle} {element t : StaticType} (hg : H.element? g = some element)
    (hh : H.element? h = some element) (ht : element.arrayOf? = some t) :
    Sound G H m (do
      let xs ← inspect (.items g)
      let ys ← inspect (.items h)
      allocate (xs ++ ys)) fun H' v _ => v.HasType H' t := by
  refine .bind (inspect_items_sound hg) fun H₁ xs m₁ hH₁ _ hxs => ?_
  refine .bind (inspect_items_sound (hH₁ _ _ hh)) fun H₂ ys m₂ hH₂ _ hys => ?_
  refine .allocate ht fun v hv => ?_
  rcases List.mem_append.mp hv with hv | hv
  · exact (hxs v hv).mono hH₂
  · exact hys v hv

/-- An operator between two evaluated operands. The logical operators are not among them; a unit
evaluates their right operand only when it has to. -/
theorem binaryValue_sound {depth : Nat} {op : BinaryOp} {l r : Value} {lt rt t : StaticType}
    (ht : binaryType? op lt rt = some t) (hop : op ≠ .and ∧ op ≠ .or) (hl : l.HasType H lt)
    (hr : r.HasType H rt) : Sound G H m (binaryValue depth op l r line) fun H' v _ => v.HasType H' t := by
  cases binaryType?_eq_some_iff.mp ht with
  | and => exact absurd rfl hop.1
  | or => exact absurd rfl hop.2
  | eq | notEq => exact .bind (equalValues_sound ⟨_, hl⟩ ⟨_, hr⟩) fun _ _ _ _ _ _ => .pure .bool
  | lt | ltEq | gt | gtEq =>
    obtain ⟨x, rfl⟩ := hl.eq_number
    obtain ⟨y, rfl⟩ := hr.eq_number
    exact .pure .bool
  | add | sub | mul | div | rem =>
    obtain ⟨x, rfl⟩ := hl.eq_number
    obtain ⟨y, rfl⟩ := hr.eq_number
    exact .pure .number
  | join =>
    obtain ⟨s, rfl⟩ := hl.eq_text
    obtain ⟨s', rfl⟩ := hr.eq_text
    exact .pure .text
  | append harray =>
    obtain ⟨g, element, rfl, hg, helement⟩ := hl.eq_array harray
    obtain ⟨h, rfl, hh⟩ := hr.element (StaticType.arrayOf?_eq_some_iff.mp helement)
    exact append_sound hg hh helement

/-! ## Elements -/

/-- A slot is found, or the index is out of bounds, which types do not tell. -/
theorem slotOf_sound {raw : Float} {length : Nat} :
    Sound G H m (slotOf raw length line) fun _ _ m' => m' = m := by
  rw [slotOf]
  split
  · exact .pure rfl
  · exact .fail trivial

/-- An index gives an element, whose type is that of the elements. -/
theorem indexValue_sound {base : Value} {b t : StaticType} {raw : Float} {l : Nat}
    (hb : base.HasType H b) (ht : indexType b l = .ok t) :
    Sound G H m (indexValue base raw line) fun H' v _ => v.HasType H' t := by
  rcases indexType_eq_ok.mp ht with ⟨rfl, rfl⟩ | helement
  · obtain ⟨s, rfl⟩ := hb.eq_text
    refine .bind slotOf_sound fun H₁ i m₁ _ _ _ => ?_
    cases s.toList[i]? with
    | none => exact .fail trivial
    | some c => exact .pure .text
  · obtain ⟨h, rfl, hh⟩ := hb.element helement
    refine .bind (Q := fun _ _ _ => True) (.perform_any (fun _ _ => trivial) fun _ _ _ => trivial)
      fun H₁ length m₁ hH₁ _ _ => ?_
    refine .bind slotOf_sound fun H₂ i m₂ hH₂ _ _ => ?_
    refine .bind (Q := fun H' (v? : Option Value) _ => ∀ v, v? = some v → v.HasType H' t)
      (.perform t (hH₂ _ _ (hH₁ _ _ hh)) fun H' r _ hr => hr) fun H₃ v? m₃ _ _ hv => ?_
    cases v? with
    | none => exact .fail trivial
    | some v => exact .pure (hv v rfl)

/-- A value of their type is stored as an element. -/
theorem storeCell_sound {h : Handle} {raw : Float} {t : StaticType} (hh : H.element? h = some t)
    (hv : v.HasType H t) : Sound G H m (storeCell h raw v line) fun _ _ _ => True := by
  refine .bind (Q := fun _ _ _ => True) (.perform_any (fun _ _ => trivial) fun _ _ _ => trivial)
    fun H₁ length m₁ hH₁ _ _ => ?_
  refine .bind slotOf_sound fun H₂ i m₂ hH₂ _ _ => ?_
  have hH := hH₁.trans hH₂
  refine .bind (Q := fun _ _ _ => True)
    (.perform t ⟨hH _ _ hh, hv.mono hH⟩ fun _ _ _ _ => trivial) fun H₃ done m₃ _ _ _ => ?_
  cases done with
  | true => exact .pure trivial
  | false => exact .fail trivial

/-! ## Channels -/

/-- A host is a text. -/
theorem hostOf_sound (h : v.HasType H .string) :
    Sound G H m (hostOf line v) fun _ _ m' => m' = m := by
  obtain ⟨s, rfl⟩ := h.eq_text
  exact .pure rfl

/-- A port is a number, which may still be none of a port. -/
theorem portOf_sound (h : v.HasType H .number) :
    Sound G H m (portOf line v) fun _ _ m' => m' = m := by
  obtain ⟨x, rfl⟩ := h.eq_number
  rw [portOf]
  split
  · exact .pure rfl
  · exact .fail trivial

/-- A fault of the surroundings is a failure of this kind. -/
theorem orFail_sound {α : Type} {action : IoAction} {r : Except IoFault α} :
    Sound G H m (orFail line action r) fun _ _ m' => m' = m := by
  cases r with
  | ok a => exact .pure rfl
  | error fault => exact .fail trivial

/-- An effect outside the heap, of which only the reply matters. -/
theorem perform_sound {e : Effect} (hreq : ∀ H t, HeapProtocol.request H t e) :
    Sound G H m (perform e) fun _ _ m' => m' = m :=
  .perform_any hreq fun _ _ _ => rfl

/-- A client channel is opened, or the surroundings fail. -/
theorem attach_sound {x host : String} {port : Nat} :
    Sound G H m (attach line x host port) fun _ _ _ => True := by
  refine .bind (perform_sound fun _ _ => trivial) fun H₁ reply m₁ _ _ _ => ?_
  refine .bind orFail_sound fun H₂ connection m₂ _ _ _ => .machine_bind ?_
  refine .bind (.update_frame (fun _ => rfl) fun _ => rfl) fun H₃ _ m₃ _ _ _ => ?_
  cases m₂.channels.find? x with
  | none => exact .pure trivial
  | some previous => exact .perform_any (fun _ _ => trivial) fun _ _ _ => trivial

/-- Channels are shared, or the surroundings fail. -/
theorem shareChannels_sound (channels : List (String × ConnectionId)) :
    Sound G H m (shareChannels channels) fun _ _ m' => m' = m := by
  induction channels generalizing H with
  | nil => exact .pure rfl
  | cons _ rest ih =>
    refine .bind (perform_sound fun _ _ => trivial) ?_
    rintro H₁ shared _ - - rfl
    refine .bind orFail_sound ?_
    rintro H₂ _ _ - - rfl
    exact ih

/-- So it is with those of all units. -/
theorem shareWith_sound (units : List Stmt) :
    Sound G H m (shareWith units) fun _ _ m' => m' = m := by
  induction units generalizing H with
  | nil => exact .pure rfl
  | cons _ rest ih =>
    refine .machine_bind (.bind (shareChannels_sound _) ?_)
    rintro H' _ _ - - rfl
    exact ih

/-- A server channel is opened, or the surroundings fail. -/
theorem openServer_sound {x host : String} {port : Nat} :
    Sound G H m (openServer line x host port) fun _ _ _ => True := by
  refine .bind (perform_sound fun _ _ => trivial) fun H₁ reply m₁ _ _ _ => ?_
  refine .bind orFail_sound fun H₂ bound m₂ _ _ _ => ?_
  refine .bind (perform_sound fun _ _ => trivial) fun H₃ said m₃ _ _ _ => ?_
  cases said with
  | ok _ => exact .pure trivial
  | error fault =>
    exact .bind (perform_sound fun _ _ => trivial) fun H₄ _ m₄ _ _ _ => .fail trivial

/-! ## Built-in functions -/

/-! The arguments of a call are found from their types, whatever it means for them to have a type, if
only what has the type of texts is a text. -/

section Arguments

variable {R : Value → StaticType → Prop} {vs : List Value}

/-- A list with one type has one value. -/
theorem eq_sole {t : StaticType} (hvs : List.Forall₂ R vs [t]) : ∃ v, vs = [v] ∧ R v t := by
  cases hvs with
  | cons hv hrest =>
    cases hrest
    exact ⟨_, rfl, hv⟩

/-- A list with the type of texts has one text. -/
theorem eq_one_text (hR : ∀ v, R v .string → ∃ s, v = .text s) (hvs : List.Forall₂ R vs [.string]) :
    ∃ s, vs = [.text s] := by
  obtain ⟨v, rfl, hv⟩ := eq_sole hvs
  obtain ⟨s, rfl⟩ := hR v hv
  exact ⟨s, rfl⟩

/-- A list with it twice has two. -/
theorem eq_two_texts (hR : ∀ v, R v .string → ∃ s, v = .text s)
    (hvs : List.Forall₂ R vs [.string, .string]) : ∃ s s', vs = [.text s, .text s'] := by
  cases hvs with
  | cons hv hrest =>
    obtain ⟨s, rfl⟩ := hR _ hv
    obtain ⟨s', rfl⟩ := eq_one_text hR hrest
    exact ⟨s, s', rfl⟩

end Arguments

/-- A print call writes its arguments out. -/
theorem printValues_sound {depth : Nat} {vs : List Value} (hne : vs ≠ [])
    (hvs : ∀ v ∈ vs, v.Typed H) :
    Sound G H m (printValues depth line vs) fun H' v _ => v.HasType H' .void := by
  have hnonempty : vs.isEmpty = false := by simpa using hne
  simp only [printValues, hnonempty]
  refine .bind (renderEach_sound renderValue_sound hvs) fun _ texts _ _ _ _ => ?_
  refine .bind (perform_sound fun _ _ => trivial) fun _ reply _ _ _ _ => ?_
  exact .bind orFail_sound fun _ _ _ _ _ _ => .pure .void

/-- The truth of a value is a truth value. -/
theorem truthOf_sound {depth : Nat} (hv : v.Typed H) :
    Sound G H m (truthOf depth line v) fun H' v' _ => v'.HasType H' .bool := by
  have hrender : Sound G H m (renderValue depth v >>= fun text =>
      (mismatch line (.noTruth text) : Exec Value)) fun H' v' _ => v'.HasType H' .bool :=
    .bind (renderValue_sound hv) fun _ _ _ _ _ _ => .fail trivial
  cases v with
  | bool b => exact .pure .bool
  | number x => exact .pure .bool
  | text s =>
    simp only [truthOf]
    split
    · exact .pure .bool
    · split
      · exact .pure .bool
      · exact .fail trivial
  | array h => exact hrender
  | void => exact hrender

/-- The length of a text or an array is a number. -/
theorem lengthOf_sound {t : StaticType} (hv : v.HasType H t) (ht : t = .string ∨ t.isArray) :
    Sound G H m (lengthOf line v) fun H' v' _ => v'.HasType H' .number := by
  rcases ht with rfl | ht
  · obtain ⟨s, rfl⟩ := hv.eq_text
    exact .pure .number
  · obtain ⟨h, _, rfl, -, -⟩ := hv.eq_array ht
    exact .bind (perform_sound fun _ _ => trivial) fun _ _ _ _ _ _ => .pure .number

/-- The pieces of a text are an array of texts. -/
theorem splitText_sound {text pattern : String} :
    Sound G H m (splitText line text pattern) fun H' v _ => v.HasType H' .arrayString := by
  refine .bind (perform_sound fun _ _ => trivial) fun _ cuts? _ _ _ _ => ?_
  cases cuts? with
  | some cuts =>
    have harray : StaticType.string.arrayOf? = some .arrayString := rfl
    refine .allocate harray fun v hv => ?_
    obtain ⟨s, -, rfl⟩ := List.mem_map.mp hv
    exact .text
  | none => exact .fail trivial

/-- The answer to a message is a text. -/
theorem exchange_sound {channel message : String} {connection : ConnectionId} :
    Sound G H m (exchange line channel connection message) fun H' v _ => v.HasType H' .string := by
  refine .bind (perform_sound fun _ _ => trivial) fun _ sent _ _ _ _ => ?_
  refine .bind orFail_sound fun _ _ _ _ _ _ => ?_
  refine .bind (perform_sound fun _ _ => trivial) fun _ ended _ _ _ _ => ?_
  refine .bind orFail_sound fun _ _ _ _ _ _ => ?_
  refine .bind (perform_sound fun _ _ => trivial) fun _ reply _ _ _ _ => ?_
  exact .bind orFail_sound fun _ _ _ _ _ _ => .pure .text

/-- So it is with a line that is sent on a channel by its name. -/
theorem sendLine_sound {channel message : String} :
    Sound G H m (sendLine line channel message) fun H' v _ => v.HasType H' .string := by
  refine .machine_bind ?_
  cases m.channels.find? channel with
  | none => exact .fail trivial
  | some connection => exact exchange_sound

/-- Closing a channel gives no value. -/
theorem closeChannel_sound {channel : String} :
    Sound G H m (closeChannel channel) fun H' v _ => v.HasType H' .void := by
  refine .machine_bind ?_
  cases m.channels.find? channel with
  | none => exact .pure .void
  | some connection =>
    refine .bind (.update_frame (fun _ => rfl) fun _ => rfl) fun _ _ _ _ _ _ => ?_
    exact .bind (perform_sound fun _ _ => trivial) fun _ _ _ _ _ _ => .pure .void

/-- **A call of a built-in function** with arguments that checking accepts. -/
theorem callBuiltin_sound {depth : Nat} {callee : Builtin} {vs : List Value} {ts : List StaticType}
    {t : StaticType} {l : Nat} (ht : builtinType callee ts l = .ok t)
    (hvs : List.Forall₂ (Value.HasType H) vs ts) :
    Sound G H m (callBuiltin depth callee vs line) fun H' v _ => v.HasType H' t := by
  cases builtinType_eq_ok.mp ht with
  | print hne =>
    refine printValues_sound ?_ fun v hv => ?_
    · rintro rfl
      cases hvs
      exact hne rfl
    · obtain ⟨i, hi, rfl⟩ := List.mem_iff_getElem.mp hv
      exact ⟨_, hvs.get hi (hvs.length_eq ▸ hi)⟩
  | input =>
    cases hvs
    refine .bind (perform_sound fun _ _ => trivial) fun _ reply _ _ _ _ => ?_
    exact .bind orFail_sound fun _ _ _ _ _ _ => .pure .text
  | sleep =>
    obtain ⟨v, rfl, hv⟩ := eq_sole hvs
    obtain ⟨x, rfl⟩ := hv.eq_number
    show Sound G H m (perform (.sleep (Number.milliseconds x)) >>= fun _ =>
      Pure.pure Value.void) _
    exact .bind (perform_sound fun _ _ => trivial) fun _ _ _ _ _ _ => .pure .void
  | split =>
    obtain ⟨s, s', rfl⟩ := eq_two_texts (fun _ hv => hv.eq_text) hvs
    exact splitText_sound
  | isNum | isAlpha =>
    obtain ⟨s, rfl⟩ := eq_one_text (fun _ hv => hv.eq_text) hvs
    exact .pure .bool
  | toNumber =>
    obtain ⟨s, rfl⟩ := eq_one_text (fun _ hv => hv.eq_text) hvs
    refine .bind (Q := fun _ _ _ => True) (.pure trivial) fun _ text _ _ _ _ => ?_
    cases Number.readNumber? text with
    | some x => exact .pure .number
    | none => exact .fail trivial
  | toString =>
    obtain ⟨v, rfl, hv⟩ := eq_sole hvs
    exact .bind (renderValue_sound ⟨_, hv⟩) fun _ _ _ _ _ _ => .pure .text
  | toBool =>
    obtain ⟨v, rfl, hv⟩ := eq_sole hvs
    exact truthOf_sound ⟨_, hv⟩
  | len hlen =>
    obtain ⟨v, rfl, hv⟩ := eq_sole hvs
    exact lengthOf_sound hv hlen
  | send =>
    obtain ⟨s, s', rfl⟩ := eq_two_texts (fun _ hv => hv.eq_text) hvs
    exact sendLine_sound
  | close =>
    obtain ⟨s, rfl⟩ := eq_one_text (fun _ hv => hv.eq_text) hvs
    exact closeChannel_sound

end Exec

end ParLang
