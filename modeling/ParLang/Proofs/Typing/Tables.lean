import ParLang.Proofs.Typing.Check

/-!
# The rows of the type tables

The checker looks up what an operator, a built-in function and an element take and give. `BinaryOp.Takes`
and `Builtin.Takes` have one constructor for each row of these tables. A look-up succeeds exactly on the
rows (`binaryType?_eq_some_iff`, `builtinType_eq_ok`), so whoever knows that it has succeeded goes through
the rows and not through the code that looks them up.
-/

namespace ParLang

variable {t : StaticType} {ts : List StaticType} {line : Nat}

/-! ## Arrays and their elements -/

/-- An array is one of its elements. -/
theorem StaticType.arrayOf?_eq_some_iff {element : StaticType} :
    element.arrayOf? = some t ↔ t.element? = some element := by
  cases element <;> cases t <;> decide

/-- The index of a text is a text, and that of an array an element. -/
theorem indexType_eq_ok {base : StaticType} :
    indexType base line = .ok t ↔ base = .string ∧ t = .string ∨ base.element? = some t := by
  rw [indexType]
  split
  · next hbase =>
    subst hbase
    simp [StaticType.element?, eq_comm]
  · next hbase =>
    cases base.element? <;> simp [complain, hbase]

/-! ## Operators -/

/-- The operator takes operands of the first two types and gives the third. -/
inductive BinaryOp.Takes : BinaryOp → StaticType → StaticType → StaticType → Prop where
  | and : Takes .and .bool .bool .bool
  | or : Takes .or .bool .bool .bool
  | eq {t : StaticType} : Takes .eq t t .bool
  | notEq {t : StaticType} : Takes .notEq t t .bool
  | lt : Takes .lt .number .number .bool
  | ltEq : Takes .ltEq .number .number .bool
  | gt : Takes .gt .number .number .bool
  | gtEq : Takes .gtEq .number .number .bool
  | add : Takes .add .number .number .number
  | sub : Takes .sub .number .number .number
  | mul : Takes .mul .number .number .number
  | div : Takes .div .number .number .number
  | rem : Takes .rem .number .number .number
  /-- One text behind the other. -/
  | join : Takes .add .string .string .string
  /-- One array behind the other. -/
  | append {t : StaticType} (ht : t.isArray) : Takes .add t t t

/-- The table of operators, read as a relation. -/
theorem binaryType?_eq_some_iff {op : BinaryOp} {left right : StaticType} :
    binaryType? op left right = some t ↔ op.Takes left right t := by
  constructor
  · intro h
    cases op with
    | eq | notEq =>
      simp only [binaryType?, Option.ite_none_right_eq_some] at h
      obtain ⟨rfl, ⟨⟩⟩ := h
      constructor
    | add =>
      simp only [binaryType?, Option.ite_none_right_eq_some] at h
      obtain ⟨⟨rfl, rfl | rfl | harray⟩, ⟨⟩⟩ := h
      · exact .add
      · exact .join
      · exact .append harray
    | _ =>
      simp only [binaryType?, Option.ite_none_right_eq_some] at h
      obtain ⟨⟨rfl, rfl⟩, ⟨⟩⟩ := h
      constructor
  · intro h
    cases h with
    | append ht => simp [binaryType?, ht]
    | _ => simp [binaryType?]

/-! ## Built-in functions -/

/-- There are as many arguments as there have to be. -/
theorem expectArity_eq_ok {callee : Builtin} {n : Nat} {u : Unit} :
    expectArity callee n ts line = .ok u ↔ ts.length = n := by
  rw [expectArity]
  split <;> simp_all [complain]

/-- All arguments are texts. -/
theorem expectTexts_eq_ok {callee : Builtin} {u : Unit} :
    expectTexts callee line ts = .ok u ↔ ∀ t ∈ ts, t = .string := by
  induction ts with
  | nil => simp [expectTexts]
  | cons t rest ih =>
    simp only [expectTexts, Checked.bind_eq_ok, expectType_eq_ok, ih, List.forall_mem_cons, exists_const]
    exact and_congr_left' eq_comm

/-- There are as many texts as there have to be. -/
theorem textArguments_eq_ok {callee : Builtin} {n : Nat} {u : Unit} :
    textArguments callee n ts line = .ok u ↔ ts = List.replicate n .string := by
  simp only [textArguments, Checked.bind_eq_ok, expectArity_eq_ok, expectTexts_eq_ok,
    List.eq_replicate_iff]
  simp

/-- There is one argument, and its type is told. -/
theorem soleArgument_eq_ok {callee : Builtin} : soleArgument callee ts line = .ok t ↔ ts = [t] := by
  unfold soleArgument
  split
  · simp [Except.ok.injEq]
  · next hne => simpa [complain] using hne t

/-- There is one argument, and it can be printed. -/
theorem printableArgument_eq_ok {callee : Builtin} {u : Unit} :
    printableArgument callee ts line = .ok u ↔ ∃ t, ts = [t] ∧ t.isPrintable := by
  simp only [printableArgument, Checked.bind_eq_ok, soleArgument_eq_ok]
  refine exists_congr fun t => and_congr_right fun _ => ?_
  split <;> simp_all [complain]

/-- The function takes arguments of these types and gives a value of that type. -/
inductive Builtin.Takes : Builtin → List StaticType → StaticType → Prop where
  | print {ts : List StaticType} (hne : ts ≠ []) (hts : ∀ t ∈ ts, t.isPrintable) : Takes .print ts .void
  | input : Takes .input [] .string
  | sleep : Takes .sleep [.number] .void
  | split : Takes .split [.string, .string] .arrayString
  | isNum : Takes .isNum [.string] .bool
  | isAlpha : Takes .isAlpha [.string] .bool
  | toNumber : Takes .toNumber [.string] .number
  | toString {t : StaticType} (ht : t.isPrintable) : Takes .toString [t] .string
  | toBool {t : StaticType} (ht : t.isPrintable) : Takes .toBool [t] .bool
  | len {t : StaticType} (ht : t = .string ∨ t.isArray) : Takes .len [t] .number
  | send : Takes .send [.string, .string] .string
  | close : Takes .close [.string] .void

/-- The table of built-in functions, read as a relation. -/
theorem builtinType_eq_ok {callee : Builtin} :
    builtinType callee ts line = .ok t ↔ callee.Takes ts t := by
  constructor
  · intro h
    cases callee with
    | print =>
      simp only [builtinType] at h
      split at h
      · cases h
      · next hne =>
        split at h
        · cases h
        · next hall =>
          cases h
          refine .print (by simpa using hne) fun t ht => ?_
          simpa using List.find?_eq_none.mp hall t ht
    | input =>
      simp only [builtinType, Checked.bind_eq_ok, expectArity_eq_ok] at h
      obtain ⟨_, hlength, ⟨⟩⟩ := h
      obtain rfl := List.length_eq_zero_iff.mp hlength
      exact .input
    | sleep =>
      simp only [builtinType, Checked.bind_eq_ok, soleArgument_eq_ok, expectType_eq_ok] at h
      obtain ⟨_, rfl, _, rfl, ⟨⟩⟩ := h
      exact .sleep
    | len =>
      simp only [builtinType, Checked.bind_eq_ok, soleArgument_eq_ok] at h
      obtain ⟨t', rfl, h⟩ := h
      split at h
      · next ht =>
        cases h
        exact .len ht
      · cases h
    | toString | toBool =>
      simp only [builtinType, Checked.bind_eq_ok, printableArgument_eq_ok] at h
      obtain ⟨_, ⟨t', rfl, ht⟩, ⟨⟩⟩ := h
      constructor
      exact ht
    | split | isNum | isAlpha | toNumber | send | close =>
      simp only [builtinType, Checked.bind_eq_ok, textArguments_eq_ok] at h
      obtain ⟨_, rfl, ⟨⟩⟩ := h
      constructor
  · intro h
    cases h with
    | print hne hts =>
      have hall : ts.find? (fun t => !t.isPrintable) = none :=
        List.find?_eq_none.mpr fun t ht => by simp [hts t ht]
      simp [builtinType, hne, hall]
    | toString ht => exact Checked.bind_eq_ok.mpr ⟨(), printableArgument_eq_ok.mpr ⟨_, rfl, ht⟩, rfl⟩
    | toBool ht => exact Checked.bind_eq_ok.mpr ⟨(), printableArgument_eq_ok.mpr ⟨_, rfl, ht⟩, rfl⟩
    | len ht => exact Checked.bind_eq_ok.mpr ⟨_, rfl, if_pos ht⟩
    | _ => rfl

end ParLang
