import ParLang.Proofs.Execution.Oblivious
import ParLang.Proofs.Resolution.Lexical

/-!
# Where names are resolved alike

`Stands` is the invariant of a watched run that comes to a piece of program: each name that the piece
takes from outside has a label that the watch accepts beside the checker's, and each function that the
checker sees there is `Ready`. A function is ready if the same holds of its free names, looked up below
the depth of its definition. Only the scopes below that depth matter to it, so a scope that is opened
and a call that hides scopes leave it ready.

While its scope is the innermost one, a declaration may still get in between. If names are watched, its
free names must then be among those that are taken, and the declaration of a taken name is a capture.
If only calls are watched, a declaration can do no harm: a name that is bound stays bound.
-/

namespace ParLang

open Scopes (lookIn)

variable {K : Survey} {labels labels' : Scopes Declaration} {taken taken' names names' : List String}
  {S : Static} {cl : Closure}

/-! ## Labels that a watch accepts -/

/-- The watch accepts what a run finds for a name where the checker finds `declared`. -/
def Watch.Agrees (w : Watch) (declared made : Option Declaration) : Prop :=
  match w with
  | .calls => declared.isSome → made.isSome
  | .names => declared = made

/-- A watch accepts what the checker finds itself. -/
theorem Watch.Agrees.refl (w : Watch) (declared : Option Declaration) : w.Agrees declared declared := by
  cases w with
  | calls => exact id
  | names => exact rfl

/-- Where the checker finds a declaration, the run finds one that the watch accepts for it. -/
theorem Watch.Agrees.accepts {w : Watch} {declared : Declaration} {made : Option Declaration}
    (h : w.Agrees (some declared) made) : ∃ d, made = some d ∧ w.accepts declared d := by
  cases w with
  | calls =>
    obtain ⟨d, hd⟩ := Option.isSome_iff_exists.mp (h rfl)
    exact ⟨d, hd, rfl⟩
  | names => exact ⟨declared, h.symm, by simp [Watch.accepts]⟩

/-! ## Functions -/

/-- A call of the function resolves names as the watch accepts. -/
structure Ready (K : Survey) (labels : Scopes Declaration) (taken : List String) (cl : Closure) :
    Prop where
  parts : cl.Scoped K
  agree : ∀ x ∈ cl.definition.free,
    K.watch.Agrees (cl.static.labels.find? x) (lookIn x (labels.below cl.static.depth))
  taken : K.watch = .names → cl.static.depth = labels.depth → ∀ x ∈ cl.definition.free, x ∈ taken

/-- A function stays ready in scopes inside of its own. -/
theorem Ready.of_below (h : Ready K labels taken cl)
    (hbelow : labels'.below cl.static.depth = labels.below cl.static.depth)
    (hdepth : cl.static.depth < labels'.depth) : Ready K labels' taken' cl :=
  ⟨h.parts, fun x hx => hbelow ▸ h.agree x hx, fun _ heq => absurd heq (Nat.ne_of_lt hdepth)⟩

/-- In a block behind it a function stays ready, and nothing that is declared there can capture a name of
it. -/
theorem Ready.push (h : Ready K labels taken cl) (hcl : cl.static.depth ≤ labels.depth) :
    Ready K labels.push [] cl :=
  h.of_below (Scopes.below_push hcl) (by rw [Scopes.depth_push]; omega)

/-- A declaration, if it captures no name. -/
theorem Ready.declare {y : String} {d : Declaration} (h : Ready K labels taken cl)
    (hcl : cl.static.depth ≤ labels.depth) (hy : K.watch = .names → y ∉ taken) :
    Ready K (labels.declare y d) taken cl := by
  refine ⟨h.parts, fun x hx => ?_, h.taken⟩
  by_cases hinner : cl.static.depth = labels.depth
  · have hbelow : (labels.declare y d).below labels.depth = (labels.declare y d).toList :=
      Scopes.below_depth (labels.declare y d)
    have hagree := h.agree x hx
    rw [hinner, Scopes.below_depth] at hagree
    rw [hinner, hbelow]
    show K.watch.Agrees _ ((labels.declare y d).find? x)
    rw [Scopes.find?_declare]
    split
    · next heq =>
      -- The declaration is of a free name, so only calls are watched.
      cases hw : K.watch with
      | calls => exact fun _ => rfl
      | names => exact absurd (heq ▸ h.taken hw hinner x hx) (hy hw)
    · exact hagree
  · rw [Scopes.below_declare (by omega)]
    exact h.agree x hx

/-! ## Pieces of program -/

/-- Where a piece of program is run that takes the names `names` from outside, the labels of the run
are as the watch accepts beside those of the checker. -/
structure Stands (K : Survey) (labels : Scopes Declaration) (taken : List String) (S : Static)
    (names : List String) : Prop where
  lexical : S.Lexical
  depth : labels.depth = S.depth
  agree : ∀ x ∈ names, K.watch.Agrees (S.labels.find? x) (labels.find? x)
  ready : ∀ g cl, S.functions.find? g = some cl → Ready K labels taken cl

namespace Stands

/-- At the start of a program nothing is declared on either side. -/
theorem initial (K : Survey) (names : List String) : Stands K .new [] .initial names :=
  ⟨.initial, rfl, fun _ _ => .refl _ _, fun _ _ h => nomatch h⟩

/-- Fewer names may be asked for. -/
theorem mono (h : Stands K labels taken S names) (hsub : ∀ x ∈ names', x ∈ names) :
    Stands K labels taken S names' :=
  ⟨h.lexical, h.depth, fun x hx => h.agree x (hsub x hx), h.ready⟩

/-- The functions that are visible are below the depth of the place. -/
theorem depth_le {g : String} (h : Stands K labels taken S names)
    (hg : S.functions.find? g = some cl) : cl.static.depth ≤ labels.depth :=
  h.depth ▸ (h.lexical.visible hg).2.2.1

/-- To be in a loop changes no names. -/
theorem inLoop (h : Stands K labels taken S names) : Stands K labels taken S.inLoop names :=
  ⟨h.lexical.inLoop, h.depth, h.agree, h.ready⟩

/-- A scope of the run and of the checker. -/
theorem opened (h : Stands K labels taken S names) : Stands K labels.push [] S.opened names := by
  refine ⟨h.lexical.opened, by rw [Scopes.depth_push, h.depth]; rfl, fun x hx => ?_,
    fun g cl hg => (h.ready g cl hg).push (h.depth_le hg)⟩
  rw [Scopes.find?_push, show S.opened.labels = S.labels.push from rfl, Scopes.find?_push]
  exact h.agree x hx

/-- A scope of the run alone. -/
theorem inRound (h : Stands K labels taken S names) : Stands K labels.push [] S.inRound names := by
  refine ⟨h.lexical.inRound, by rw [Scopes.depth_push, h.depth]; rfl, fun x hx => ?_,
    fun g cl hg => (h.ready g cl hg).push (h.depth_le hg)⟩
  rw [Scopes.find?_push]
  exact h.agree x hx

/-- A scope of the checker alone. -/
theorem inUnit (h : Stands K labels taken S names) : Stands K labels taken S.inUnit names := by
  refine ⟨h.lexical.inUnit, h.depth, fun x hx => ?_, h.ready⟩
  rw [show S.inUnit.labels = S.labels.push from rfl, Scopes.find?_push]
  exact h.agree x hx

/-- Names behind a declaration that is labelled alike on both sides. -/
theorem agree_declare {y : String} {d : Declaration}
    (h : Stands K labels taken S (unbound (some y) names)) :
    ∀ x ∈ names, K.watch.Agrees ((S.labels.declare y d).find? x) ((labels.declare y d).find? x) := by
  intro x hx
  rw [Scopes.find?_declare, Scopes.find?_declare]
  split
  · exact .refl _ _
  · next hne => exact h.agree x (by simp [unbound, hx, hne])

/-- A parameter is declared alike on both sides. -/
theorem withParam {p : Param} {q : Site}
    (h : Stands K labels [] S (unbound (some p.name) names)) :
    Stands K (labels.declare p.name (Static.declarationOf p q)) [] (S.withParam p q) names :=
  ⟨h.lexical.withParam p q, h.depth, h.agree_declare,
    fun g cl hg => (h.ready g cl hg).declare (h.depth_le hg) fun _ => List.not_mem_nil⟩

/-- **Behind a statement** the next one stands, unless the statement declares a name that is taken. -/
theorem after {s : Stmt} {q : Site} (hs : s.Scoped K S q)
    (hdeclares : K.watch = .names → ∀ x t, s.declares? = some (x, t) → x ∉ taken)
    (h : Stands K labels taken S (s.free ++ unbound (s.declares?.map Prod.fst) names)) :
    Stands K (s.mark q labels) (s.takes taken) (S.after q s) names := by
  obtain ⟨c', haccepted⟩ := hs.accepted
  have hlexical : (S.after q s).Lexical := h.lexical.after haccepted
  obtain ⟨x, t, hx, heq⟩ | ⟨f, t, rfl, -, heq⟩ | ⟨hnone, hf, heq⟩ := Static.after_eq (q := q) haccepted
  · -- A name is declared. No function of the scope takes it, so what they mean stays as it was.
    have htakes : s.takes taken = taken := by
      cases s <;> first | rfl | cases hx
    rw [Stmt.mark, hx, htakes]
    rw [hx] at h
    refine ⟨hlexical, by rw [heq]; exact h.depth, fun y hy => ?_, fun g cl hg => ?_⟩
    · rw [heq]
      exact (h.mono fun x => List.mem_append_right _).agree_declare y hy
    · rw [heq] at hg
      exact (h.ready g cl hg).declare (h.depth_le hg) fun hw => hdeclares hw x t hx
  · -- The function itself is ready, and its free names are taken from now on.
    obtain ⟨-, hscoped⟩ := hs.function
    refine ⟨hlexical, by rw [heq]; exact h.depth, fun x hx => ?_, fun g cl hg => ?_⟩
    · rw [heq]
      exact h.agree x (List.mem_append_right _ (by simpa [unbound, Stmt.declares?] using hx))
    · rw [heq, NameMap.find?_insert] at hg
      split at hg
      · obtain rfl := Option.some.inj hg
        refine ⟨hscoped, fun x hx => ?_, fun _ _ x hx => List.mem_append_left _ hx⟩
        show K.watch.Agrees _ (lookIn x (labels.below S.depth))
        rw [← h.depth, Scopes.below_depth]
        exact h.agree x (List.mem_append_left _ hx)
      · obtain ⟨hcl, hagree, htaken⟩ := h.ready g cl hg
        exact ⟨hcl, hagree, fun hw hd x hx => List.mem_append_right _ (htaken hw hd x hx)⟩
  · have htakes : s.takes taken = taken := by
      cases s <;> first | rfl | exact absurd rfl (hf _)
    rw [Stmt.mark, hnone, htakes, heq]
    exact h.mono fun x hx => List.mem_append_right _ (by simpa [unbound, hnone] using hx)

/-- **A call** starts where the parameters and the body of the function stand. -/
theorem call {g : String} (h : Stands K labels taken S names) (hg : S.functions.find? g = some cl) :
    0 < cl.static.depth ∧ cl.static.depth ≤ labels.depth ∧ cl.Scoped K ∧
      cl.inside.functions.Within S.functions ∧
      Stands K (labels.enter cl.static.depth).2 [] cl.inside cl.definition.free := by
  obtain ⟨hname, haccepted, -, hwithin⟩ := h.lexical.visible hg
  have hstatic := h.lexical.static hg
  have hpos := hstatic.pos
  have hdepth := h.depth_le hg
  obtain ⟨hscoped, hagree, -⟩ := h.ready g cl hg
  have hinside : cl.inside.functions.Within S.functions := by
    intro f cl' hf
    simp only [Closure.inside, Static.inFunction, NameMap.find?_insert] at hf
    split at hf
    · next heq =>
      obtain rfl := Option.some.inj hf
      obtain ⟨definition, place, static⟩ := cl
      exact heq ▸ hname ▸ hg
    · exact hwithin f cl' hf
  refine ⟨hpos, hdepth, hscoped, hinside, hstatic.inside haccepted,
    Scopes.depth_enter hpos hdepth, fun x hx => ?_, fun f cl' hf => ?_⟩
  · rw [Scopes.find?_enter hpos hdepth, show cl.inside.labels = cl.static.labels.push from rfl,
      Scopes.find?_push]
    exact hagree x hx
  · -- A function that the body sees is defined no deeper, so the call hides nothing that it needs.
    have hle : cl'.static.depth ≤ cl.static.depth := by
      have hf' := hf
      simp only [Closure.inside, Static.inFunction, NameMap.find?_insert] at hf'
      split at hf'
      · obtain rfl := Option.some.inj hf'
        exact le_rfl
      · exact (hstatic.visible hf').2.2.1
    refine (h.ready f cl' (hinside f cl' hf)).of_below (Scopes.below_enter hpos hdepth hle) ?_
    rw [Scopes.depth_enter hpos hdepth]
    omega

end Stands

/-! ## Traces and machines -/

/-- The trace fits the machine, and its functions are those of the survey. -/
structure Tracks (K : Survey) (tr : Trace) (m : Machine) : Prop where
  labels : Scopes.Beside (fun _ _ => True) m.scopes.toList tr.labels.toList
  functions : ∀ g, m.functions.find? g = (tr.closures.find? g).map Closure.function
  known : ∀ g cl, tr.closures.find? g = some cl → cl ∈ K.closures ∧ cl.definition.name = g

/-- At the start a trace is empty, as the machine is. -/
theorem Tracks.initial (K : Survey) : Tracks K .initial .initial :=
  ⟨Scopes.beside_new, fun _ => rfl, fun _ _ h => nomatch h⟩

/-- As many scopes are labelled as there are. -/
theorem Tracks.depth_eq {tr : Trace} {m : Machine} (h : Tracks K tr m) :
    m.scopes.depth = tr.labels.depth :=
  h.labels.depth_eq

/-- Scopes and labels may change together. -/
theorem Tracks.withScopes {tr tr' : Trace} {m m' : Machine} (h : Tracks K tr m)
    (hlabels : Scopes.Beside (fun _ _ => True) m'.scopes.toList tr'.labels.toList)
    (hfunctions : m'.functions = m.functions) (hclosures : tr'.closures = tr.closures) :
    Tracks K tr' m' :=
  ⟨hlabels, fun g => by rw [hfunctions, hclosures, h.functions],
    fun g cl hg => h.known g cl (hclosures ▸ hg)⟩

/-- A function of the survey is defined in the trace as it is in the machine. -/
theorem Tracks.define {tr : Trace} {m : Machine} (h : Tracks K tr m) (hcl : cl ∈ K.closures) :
    Tracks K { tr with closures := tr.closures.insert cl.definition.name cl }
      { m with functions := m.functions.insert cl.definition.name cl.function } := by
  refine ⟨h.labels, fun g => ?_, fun g cl' hg => ?_⟩
  · simp only [NameMap.find?_insert]
    split
    · rfl
    · exact h.functions g
  · simp only [NameMap.find?_insert] at hg
    split at hg
    · next hname =>
      obtain rfl := Option.some.inj hg
      exact ⟨hcl, hname⟩
    · exact h.known g cl' hg

/-- The run comes to the place with the labels, and has the functions that the checker sees there. -/
structure Trace.At (tr : Trace) (S : Static) (labels : Scopes Declaration) : Prop where
  labels : tr.labels = labels
  functions : S.functions.Within tr.closures

/-- The names for which a run from the place keeps the functions that it has. In the body of a function
these are all, because nothing there has the name of another function. Outside of functions they are
those that the checker sees, which may not be defined again. -/
def Static.keeps (S : Static) (g : String) : Prop :=
  S.inner ∨ S.functions.contains g

/-- The second trace has the functions of the first under the names. -/
def Trace.Keeps (kept : String → Prop) (tr tr' : Trace) : Prop :=
  ∀ g cl, kept g → tr.closures.find? g = some cl → tr'.closures.find? g = some cl

/-- A run that keeps the functions of its place is still at the place. -/
theorem Trace.At.of_keeps {tr tr' : Trace} (h : tr.At S labels) (hl : tr'.labels = labels')
    (hkeeps : Trace.Keeps S.keeps tr tr') : tr'.At S labels' :=
  ⟨hl, fun g cl hg => hkeeps g cl (.inr (NameMap.contains_iff.mpr ⟨cl, hg⟩)) (h.functions g cl hg)⟩

/-- Units that stand where they are to start. -/
def Fork.Watched (K : Survey) (f : Fork) : Prop :=
  ∃ tr S taken q, Tracks K tr f.machine ∧ tr.At S tr.labels ∧
    Stands K tr.labels taken S (freeOfUnits f.units) ∧
    ∀ (i : Nat) (s : Stmt), f.units[i]? = some s → s.Scoped K S.inUnit (i :: q)

end ParLang
