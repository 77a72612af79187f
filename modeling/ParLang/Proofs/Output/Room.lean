import ParLang.Proofs.Output.Finishes

/-!
# Runs with little room

What a sink with little room makes of a run is read off the run with room without limit. `Process.Cuts` says
it of all runs of a process: with room for all that is printed the run is the same, and with less it prints
what there is room for and comes to an end of another kind. Which kind is a parameter, and the rule for `bind`
(`Process.Cuts.bind`) says how the kinds of the two parts have to go together.

An end that a process passes on when it goes on with another one is a `Process.CutOff`. There are two of them:
the write fails with a line (`Process.CutOff.failing`), and it does so in a call of `print`
(`Process.CutOff.printing`). `Exec.Cuts` says of an execution that too little room brings it to such an end,
from every machine with functions of the fragment.
-/

namespace ParLang

variable {α β : Type}

/-! ## Worlds with little room -/

/-- The effect leaves the output alone. -/
def Effect.isSilent : Effect → Bool
  | .emit _ => false
  | _ => true

namespace World

/-- The world with room for so many bytes of output in all. -/
def limited (w : World) (limit : Nat) : World :=
  { w with output := { w.output with limit? := some limit } }

/-- The world behind some bytes of output. -/
def wrote (w : World) (bytes : ByteArray) : World :=
  { w with output := { w.output with written := w.output.written ++ bytes } }

variable {w : World} {unit : UnitId} {e : Effect} {limit : Nat} {line : String}

/-- Less room does not keep the world from answering. -/
theorem canAnswer_limited : (w.limited limit).canAnswer unit e = w.canAnswer unit e := by
  cases e <;> rfl

/-- A silent effect writes nothing. -/
theorem output_answer (he : e.isSilent = true) : (w.answer unit e).2.output = w.output := by
  cases e with
  | emit => cases he
  | setCell h i v =>
    rw [answer]
    split <;> rfl
  | _ => rfl

/-- A silent effect has the same answer with less room. -/
theorem answer_limited (he : e.isSilent = true) : (w.limited limit).answer unit e =
    ((w.answer unit e).1, (w.answer unit e).2.limited limit) := by
  cases e with
  | emit => cases he
  | setCell h i v =>
    rw [answer, answer, limited]
    split <;> rfl
  | _ => rfl

/-- A line is written without a limit. -/
theorem answer_emit (h : w.output.limit? = none) :
    w.answer unit (.emit line) = (.ok (), w.wrote (line ++ "\n").toUTF8) := by
  obtain ⟨⟨⟨written, limit?⟩, input, network, matcher⟩, heap⟩ := w
  cases h
  rfl

/-- A line that fits is written all the same. -/
theorem answer_emit_fits (h : w.output.written.size + (line ++ "\n").toUTF8.size ≤ limit) :
    (w.limited limit).answer unit (.emit line) =
      (.ok (), (w.wrote (line ++ "\n").toUTF8).limited limit) := by
  have hwrite : (w.limited limit).output.writeLine line =
      (.ok (), ((w.wrote (line ++ "\n").toUTF8).limited limit).output) := if_pos h
  simp only [answer, hwrite]
  rfl

/-- A line that does not fit is cut where the room ends, and the call that wrote it gets a fault. -/
theorem answer_emit_full (h : limit < w.output.written.size + (line ++ "\n").toUTF8.size) :
    (w.limited limit).answer unit (.emit line) = (.error .sinkFull,
      (w.wrote ((line ++ "\n").toUTF8.extract 0 (limit - w.output.written.size))).limited limit) := by
  have hwrite : (w.limited limit).output.writeLine line = (.error .sinkFull,
      ((w.wrote ((line ++ "\n").toUTF8.extract 0 (limit - w.output.written.size))).limited limit).output) :=
    if_neg (Nat.not_le_of_lt h)
  simp only [answer, hwrite]
  rfl

end World

section

variable {a b : ByteArray} {limit : Nat}

/-- The first bytes reach into the second array. -/
theorem ByteArray.extract_zero_append (h : a.size ≤ limit) :
    (a ++ b).extract 0 limit = a ++ b.extract 0 (limit - a.size) := by
  have hall : a.extract 0 limit = a := by
    rw [← Nat.max_eq_left h, ByteArray.extract_zero_max_size]
  rw [ByteArray.extract_append, hall, Nat.zero_sub]

/-- The first bytes are those of the first array. -/
theorem ByteArray.extract_zero_append_of_le (h : limit ≤ a.size) :
    (a ++ b).extract 0 limit = a.extract 0 limit := by
  rw [ByteArray.extract_append, Nat.sub_eq_zero_of_le h, Nat.zero_sub, ByteArray.extract_same,
    ByteArray.append_empty]

end

/-! ## Processes -/

namespace Process

variable {D : Machine → Prop} {Φ Φ' : Nat → World → World → Prop}
  {p : Process (Except RuntimeError α × Machine)}
  {f : Except RuntimeError α × Machine → Process (Except RuntimeError β × Machine)}

/-- What a run with room without limit, from the world `w` to its end `a` in the world `w'`, says about the
same process with room for `limit` bytes. If that is too little, the process ends as in `Φ`, and it ends no
later. -/
structure Cut (D : Machine → Prop) (Φ : Nat → World → World → Prop)
    (p : Process (Except RuntimeError α × Machine)) (n : Nat) (w : World)
    (a : Except RuntimeError α × Machine) (w' : World) : Prop where
  machine : D a.2
  unlimited : w'.output.limit? = none
  grows : ∃ bytes, w'.output.written = w.output.written ++ bytes
  fits : ∀ limit, w'.output.written.size ≤ limit →
    p.Finishes n (w.limited limit) a (w'.limited limit)
  full : ∀ limit, w.output.written.size ≤ limit → limit < w'.output.written.size →
    ∃ k w₁, k ≤ n ∧ Φ k (w.limited limit) w₁ ∧
      w₁.output.written = w'.output.written.extract 0 limit

/-- All runs of the process with room without limit are like that. -/
def Cuts (D : Machine → Prop) (Φ : Nat → World → World → Prop)
    (p : Process (Except RuntimeError α × Machine)) : Prop :=
  ∀ n w a w', w.output.limit? = none → p.Finishes n w a w' → p.Cut D Φ n w a w'

/-- A run that prints nothing. -/
theorem Cut.silent {n : Nat} {w w' : World} {a : Except RuntimeError α × Machine} (hmachine : D a.2)
    (hw : w.output.limit? = none) (houtput : w'.output = w.output)
    (hfits : ∀ limit, p.Finishes n (w.limited limit) a (w'.limited limit)) : p.Cut D Φ n w a w' := by
  refine ⟨hmachine, houtput ▸ hw, ⟨.empty, ?_⟩, fun limit _ => hfits limit, fun limit hle hlt => ?_⟩
  · rw [houtput, ByteArray.append_empty]
  · rw [houtput] at hlt
    omega

/-- A process that is done writes nothing more. -/
theorem Cuts.done {a : Except RuntimeError α × Machine} (h : D a.2) : (Process.done a).Cuts D Φ := by
  intro n w a' w' hw hfinishes
  obtain ⟨rfl, rfl, rfl⟩ := finishes_done_iff.mp hfinishes
  exact .silent h hw rfl fun _ => .here

/-- Where the depth ran out nothing is written. -/
theorem Cuts.exhausted : (Process.exhausted : Process (Except RuntimeError α × Machine)).Cuts D Φ :=
  fun _ _ _ _ _ hfinishes => absurd hfinishes not_finishes_exhausted

/-- A process that goes on with `f`. With too little room it ends in its first part, or in the second one
behind the whole first part. -/
theorem Cuts.bind {Q : Except RuntimeError α × Machine → Nat → World → World → Prop}
    (hp : p.Cuts D Φ) (hf : ∀ a, D a.2 → (f a).Cuts D (Q a))
    (hfirst : ∀ {k w w'}, Φ k w w' → Φ' k w w')
    (hsecond : ∀ {a n w w₁ k w'}, p.Finishes n w a w₁ → Q a k w₁ w' → Φ' (n + k) w w') :
    (p.bind f).Cuts D Φ' := by
  intro n w b w' hw hfinishes
  obtain ⟨a, n₁, n₂, w₁, hfinishes₁, hfinishes₂, rfl⟩ := finishes_bind_iff.mp hfinishes
  have hcut₁ := hp _ _ _ _ hw hfinishes₁
  have hcut₂ := hf a hcut₁.machine _ _ _ _ hcut₁.unlimited hfinishes₂
  obtain ⟨bytes₁, hgrows₁⟩ := hcut₁.grows
  obtain ⟨bytes₂, hgrows₂⟩ := hcut₂.grows
  have hsize : w₁.output.written.size ≤ w'.output.written.size := by
    rw [hgrows₂, ByteArray.size_append]
    omega
  refine ⟨hcut₂.machine, hcut₂.unlimited, ⟨bytes₁ ++ bytes₂, ?_⟩, fun limit hle => ?_,
    fun limit hle hlt => ?_⟩
  · rw [hgrows₂, hgrows₁, ByteArray.append_assoc]
  · exact finishes_bind_iff.mpr
      ⟨a, n₁, n₂, w₁.limited limit, hcut₁.fits limit (by omega), hcut₂.fits limit hle, rfl⟩
  · by_cases hroom : w₁.output.written.size ≤ limit
    · obtain ⟨k, w₂, hk, hend, hwritten⟩ := hcut₂.full limit hroom hlt
      exact ⟨n₁ + k, w₂, by omega, hsecond (hcut₁.fits limit hroom) hend, hwritten⟩
    · obtain ⟨k, w₂, hk, hend, hwritten⟩ := hcut₁.full limit hle (by omega)
      refine ⟨k, w₂, by omega, hfirst hend, ?_⟩
      rw [hwritten, hgrows₂, ByteArray.extract_zero_append_of_le (by omega)]

end Process

/-! ## Failures for want of room -/

/-- The failure of a write for which there is no room. -/
def RuntimeError.outOfRoom (line : Nat) : RuntimeError :=
  ⟨.io .writeOutput .sinkFull, line⟩

namespace Process

variable {p : Process (Except RuntimeError α × Machine)}
  {f : Except RuntimeError α × Machine → Process (Except RuntimeError β × Machine)}
  {calls calls' : Expr → Prop} {line n k : Nat} {w w₁ w' : World} {a : Except RuntimeError α × Machine}

/-- The process hands a failure on, and asks for nothing more. -/
def HandsOn (f : Except RuntimeError α × Machine → Process (Except RuntimeError β × Machine)) : Prop :=
  ∀ e m, ∃ m', f (.error e, m) = .done (.error e, m')

/-- An end for want of room, in the world `w'` behind so many answers. A process has it if its first part has
it and the rest hands the failure on, and if the rest has it behind the first part. -/
structure CutOff where
  Ends : ∀ {α : Type}, Process (Except RuntimeError α × Machine) → Nat → World → World → Prop
  bind : ∀ {α β : Type} {p : Process (Except RuntimeError α × Machine)}
    {f : Except RuntimeError α × Machine → Process (Except RuntimeError β × Machine)} {n w w'},
    Ends p n w w' → HandsOn f → Ends (p.bind f) n w w'
  after : ∀ {α β : Type} {p : Process (Except RuntimeError α × Machine)}
    {f : Except RuntimeError α × Machine → Process (Except RuntimeError β × Machine)} {n k w a w₁ w'},
    p.Finishes n w a w₁ → Ends (f a) k w₁ w' → Ends (p.bind f) (n + k) w w'

/-- The process fails for want of room, with the line. -/
def Fails (p : Process (Except RuntimeError α × Machine)) (line n : Nat) (w w' : World) : Prop :=
  ∃ m, p.Finishes n w (.error (.outOfRoom line), m) w'

/-- A failure of the first part is one of the whole, if the rest hands it on. -/
theorem Fails.bind (h : p.Fails line n w w') (hf : HandsOn f) : (p.bind f).Fails line n w w' := by
  obtain ⟨m, hfinishes⟩ := h
  obtain ⟨m', hm'⟩ := hf (.outOfRoom line) m
  exact ⟨m', finishes_bind_iff.mpr ⟨_, n, 0, w', hfinishes, hm' ▸ .here, rfl⟩⟩

/-- A failure behind the first part is one of the whole. -/
theorem Fails.after (hp : p.Finishes n w a w₁) (h : (f a).Fails line k w₁ w') :
    (p.bind f).Fails line (n + k) w w' := by
  obtain ⟨m, hfinishes⟩ := h
  exact ⟨m, finishes_bind_iff.mpr ⟨a, n, k, w₁, hp, hfinishes, rfl⟩⟩

/-- A failure with the line. -/
def CutOff.failing (line : Nat) : CutOff where
  Ends p n w w' := p.Fails line n w w'
  bind h hf := h.bind hf
  after hp h := h.after hp

/-- The process comes to one of the calls, which is a call of `print` from the line. Its arguments are
evaluated, and what it writes finds no room. Whatever was to come behind it only hands the failure on. -/
inductive ComesToPrint (calls : Expr → Prop) (line : Nat) (p : Process (Except RuntimeError α × Machine))
    (w w' : World) : Prop where
  | intro {budget n₁ n₂ n₃ callee args m₀ w₀ vs m₁ w₁}
    {rest : Except RuntimeError Value × Machine → Process (Except RuntimeError α × Machine)}
    (hcall : calls (.call line callee args)) (hprint : Builtin.ofName? callee = some .print)
    (hcomes : p.Passes n₁ w
      ((Exec.eval (budget + 1) (.call line callee args) m₀).bind rest) w₀)
    (hargs : (Exec.evalAll budget args m₀).Finishes n₂ w₀ (.ok vs, m₁) w₁)
    (hfails : (Exec.callBuiltin budget .print vs line m₁).Fails line n₃ w₁ w') (hrest : HandsOn rest)

/-- The calls may be described more loosely. -/
theorem ComesToPrint.imp (h : p.ComesToPrint calls line w w') (hcalls : ∀ e, calls e → calls' e) :
    p.ComesToPrint calls' line w w' := by
  obtain ⟨hcall, hprint, hcomes, hargs, hfails, hrest⟩ := h
  exact ⟨hcalls _ hcall, hprint, hcomes, hargs, hfails, hrest⟩

/-- A print call in the first part is one of the whole, if the rest hands its failure on. -/
theorem ComesToPrint.bind (h : p.ComesToPrint calls line w w') (hf : HandsOn f) :
    (p.bind f).ComesToPrint calls line w w' := by
  obtain ⟨hcall, hprint, hcomes, hargs, hfails, hrest⟩ := h
  have hcomes := hcomes.bind f
  rw [bind_assoc] at hcomes
  refine ⟨hcall, hprint, hcomes, hargs, hfails, fun e m => ?_⟩
  obtain ⟨m', hm'⟩ := hrest e m
  rw [hm']
  exact hf e m'

/-- A print call behind the first part is one of the whole. -/
theorem ComesToPrint.after (hp : p.Finishes n w a w₁) (h : (f a).ComesToPrint calls line w₁ w') :
    (p.bind f).ComesToPrint calls line w w' := by
  obtain ⟨hcall, hprint, hcomes, hargs, hfails, hrest⟩ := h
  have hbegins : (p.bind f).Passes n w (f a) w₁ := Passes.bind hp f
  exact ⟨hcall, hprint, hbegins.trans hcomes, hargs, hfails, hrest⟩

/-- A failure in one of the calls, which is a call of `print`, with the line of the call. -/
def CutOff.printing (calls : Expr → Prop) : CutOff where
  Ends p n w w' := ∃ line, p.Fails line n w w' ∧ p.ComesToPrint calls line w w'
  bind := by
    rintro α β p f n w w' ⟨line, hfails, hcomes⟩ hf
    exact ⟨line, hfails.bind hf, hcomes.bind hf⟩
  after := by
    rintro α β p f n k w a w₁ w' hp ⟨line, hfails, hcomes⟩
    exact ⟨line, hfails.after hp, hcomes.after hp⟩

end Process

/-! ## Executions -/

/-- The functions that the machine knows under names that are not built in are of the fragment. -/
def Fragment.Defines (F : Fragment) (m : Machine) : Prop :=
  ∀ g f, Builtin.ofName? g = none → m.functions.find? g = some f → F.stmt (.function f.definition)

/-- A function of the fragment may be defined. -/
theorem Fragment.Defines.insert {F : Fragment} {m : Machine} {d : FunctionDef Stmt} {depth : Nat}
    (h : F.Defines m) (hd : F.stmt (.function d)) :
    F.Defines { m with functions := m.functions.insert d.name ⟨d, depth⟩ } := by
  intro g f hb hf
  simp only [NameMap.find?_insert] at hf
  split at hf
  · obtain rfl := Option.some.inj hf
    exact hd
  · exact h g f hb hf

namespace Exec

variable {F : Fragment} {E : Process.CutOff} {x : Exec α} {m : Machine}

/-- With too little room, the execution comes to such an end. -/
def Cuts (F : Fragment) (E : Process.CutOff) (x : Exec α) : Prop :=
  ∀ m, F.Defines m → (x m).Cuts F.Defines (E.Ends (x m))

/-- Behind an execution comes another one, unless it failed. -/
theorem handsOn_bind (f : α → Exec β) : Process.HandsOn fun (a : Except RuntimeError α × Machine) =>
    match a with
    | (.ok a, m') => f a m'
    | (.error e, m') => .done (.error e, m') := by
  intro e m
  exact ⟨m, rfl⟩

namespace Cuts

/-- What does nothing prints nothing. -/
theorem pure (a : α) : Cuts F E (Pure.pure a : Exec α) :=
  fun _ hm => .done hm

/-- A failure prints nothing. -/
theorem fail (line : Nat) (cause : RuntimeError.Cause) : Cuts F E (Exec.fail line cause : Exec α) :=
  fun _ hm => .done hm

/-- Nor does a mismatch. -/
theorem mismatch (line : Nat) (what : Mismatch) : Cuts F E (Exec.mismatch line what : Exec α) :=
  fail _ _

/-- Nor does a run out of depth. -/
theorem exhausted : Cuts F E (Exec.exhausted : Exec α) :=
  fun _ _ => .exhausted

/-- A sequence is cut in its first part or in its second. -/
theorem bind {f : α → Exec β} (hx : Cuts F E x) (hf : ∀ a, Cuts F E (f a)) : Cuts F E (x >>= f) := by
  intro m hm
  rw [bind_apply]
  refine (hx m hm).bind (fun (r, m') hm' => ?_) (E.bind · (handsOn_bind f)) E.after
  cases r with
  | ok a => exact hf a m' hm'
  | error e => exact .done hm'

/-- The machine that is read defines only functions of the fragment. -/
theorem machine_bind {f : Machine → Exec α} (hf : ∀ m, F.Defines m → Cuts F E (f m)) :
    Cuts F E (Exec.machine >>= f) :=
  fun m hm => hf m hm m hm

/-- A change of the machine prints nothing. -/
theorem update {f : Machine → Machine} (hf : ∀ m, F.Defines m → F.Defines (f m)) :
    Cuts F E (Exec.update f) :=
  fun m hm => .done (hf m hm)

/-- An effect that leaves the output alone. -/
theorem perform {e : Effect} (he : e.isSilent = true) : Cuts F E (Exec.perform e) := by
  intro m hm n w a w' hw hfinishes
  obtain ⟨hanswer, n, rfl, hend⟩ := Process.finishes_perform_iff.mp hfinishes
  obtain ⟨rfl, rfl, rfl⟩ := Process.finishes_done_iff.mp hend
  refine .silent hm hw (World.output_answer he) fun limit => ?_
  refine Process.finishes_perform_iff.mpr ⟨World.canAnswer_limited.trans hanswer, 0, rfl, ?_⟩
  rw [World.answer_limited he]
  exact .here

/-- Something is done to the machine in front of the execution and behind it. -/
theorem between {g h : Machine → Machine} (hx : Cuts F E x) (hg : ∀ m, F.Defines m → F.Defines (g m))
    (hh : ∀ m, F.Defines m → F.Defines (h m)) (hm : F.Defines m) :
    let p := (x (g m)).bind fun (r, m') => .done (r, h m')
    p.Cuts F.Defines (E.Ends p) := by
  refine (hx _ (hg m hm)).bind (fun (r, m') hm' => .done (hh m' hm')) (fun hend => ?_) E.after
  exact E.bind hend fun e m' => ⟨h m', rfl⟩

/-- Names of a block do not matter for what is printed. -/
theorem inScope (hx : Cuts F E x) : Cuts F E (Exec.inScope x) :=
  fun _ hm => hx.between (g := fun m => { m with scopes := m.scopes.push })
    (h := fun m' => { m' with scopes := m'.scopes.pop }) (fun _ h => h) (fun _ h => h) hm

/-- Nor do the scopes of a call. -/
theorem inCall {depth : Nat} (hx : Cuts F E x) : Cuts F E (Exec.inCall depth x) :=
  fun m hm => hx.between (g := fun m => { m with scopes := (m.scopes.enter depth).2 })
    (h := fun m' => { m' with scopes := m'.scopes.leave (m.scopes.enter depth).1 })
    (fun _ h => h) (fun _ h => h) hm

end Cuts

end Exec

end ParLang
