import ParLang.Proofs.Scope.Names

/-!
# Calls nest, whatever is done with the scopes

A stack of scopes can be used in any order: scopes are opened and left, calls are entered and left with
their own frames or with others, and the stack is put aside for a copy. `Scopes.Usage` is a stack in such a
use.

A stack always has a scope, by the way it is written down. `Scopes.Plain` is the same use of a mere list of
scopes, which could come to be empty, and where an operation without a result ends the use. That does not
happen: step by step it is the use of a stack (`Usage.run?_plain`), since every frame keeps a scope.

Between its start and its end a call may use the stack in any way that is balanced (`Usage.Balanced`). Such
a use settles the scopes that the call sees (`Usage.Balanced.settles`), and leaving the call brings the
others back (`Usage.Balanced.returns`).
-/

namespace ParLang

namespace Scopes

variable {α : Type}

/-! ## Uses of a stack -/

/-- What can be done with a stack. Frames and copies are told apart by when they were made: number `0` is
the first one. -/
inductive Operation (α : Type) where
  | push
  | pop
  | declare (name : String) (a : α)
  | assign (name : String) (a : α)
  | get (name : String)
  /-- Enters a call. -/
  | enter (depth : Nat)
  /-- Leaves a call with some frame. -/
  | leave (frame : Nat)
  /-- Puts a copy of the stack aside. -/
  | save
  /-- Puts the stack aside for another one. -/
  | swap (copy : Nat)

/-- A stack in use, with the frames of all calls that were entered and the stacks that were put aside. -/
structure Usage (α : Type) where
  scopes : Scopes α
  frames : List (Frame α)
  copies : List (Scopes α)

namespace Usage

/-- The use of a new stack. -/
def fresh : Usage α :=
  ⟨.new, [], []⟩

/-- The use behind an operation. -/
def step (u : Usage α) : Operation α → Usage α
  | .push => { u with scopes := u.scopes.push }
  | .pop => { u with scopes := u.scopes.pop }
  | .declare name a => { u with scopes := u.scopes.declare name a }
  | .assign name a => { u with scopes := (u.scopes.assign? name a).getD u.scopes }
  | .get _ => u
  | .enter d => { u with
      scopes := (u.scopes.enter d).2
      frames := u.frames ++ [(u.scopes.enter d).1] }
  | .leave i =>
    match u.frames[i]? with
    | some frame => { u with scopes := u.scopes.leave frame }
    | none => u
  | .save => { u with copies := u.copies ++ [u.scopes] }
  | .swap i =>
    match u.copies[i]? with
    | some s => { u with scopes := s, copies := u.copies.set i u.scopes }
    | none => u

/-- The use behind operations. -/
def run (u : Usage α) (ops : List (Operation α)) : Usage α :=
  ops.foldl step u

/-- Operations in sequence. -/
theorem run_append (u : Usage α) (ops ops' : List (Operation α)) :
    u.run (ops ++ ops') = (u.run ops).run ops' :=
  List.foldl_append

end Usage

/-! ## The same on lists -/

/-- Scopes as a list, the outermost first, in use. A frame has the number of scopes that stay and those
that are hidden. -/
structure Plain (α : Type) where
  scopes : List (NameMap α)
  frames : List (Nat × List (NameMap α))
  copies : List (List (NameMap α))

namespace Plain

/-- The use of one empty scope. -/
def fresh : Plain α :=
  ⟨[.empty], [], []⟩

/-- The number between two bounds that is closest to `n`; there is none if the bounds are out of order. -/
def clamp? (n least most : Nat) : Option Nat :=
  if least ≤ most then some (max least (min n most)) else none

/-- The two parts of a list, if it has that many elements. -/
def cut? {β : Type} (l : List β) (n : Nat) : Option (List β × List β) :=
  if n ≤ l.length then some (l.take n, l.drop n) else none

/-- The list without its last scope, or an empty scope if there is no other. -/
def dropScope (l : List (NameMap α)) : List (NameMap α) :=
  match l.dropLast with
  | [] => [.empty]
  | scope :: rest => scope :: rest

/-- Binds a name in the last scope, if there is one. -/
def declareLast (name : String) (a : α) : List (NameMap α) → List (NameMap α)
  | [] => []
  | [scope] => [scope.insert name a]
  | scope :: rest => scope :: declareLast name a rest

/-- Binds a name anew in the last scope that has it. -/
def assignLast (name : String) (a : α) : List (NameMap α) → Option (List (NameMap α))
  | [] => none
  | scope :: rest =>
    match assignLast name a rest with
    | some rest' => some (scope :: rest')
    | none => if scope.contains name then some (scope.insert name a :: rest) else none

/-- The use behind an operation, if the operation has a result. -/
def step? (p : Plain α) : Operation α → Option (Plain α)
  | .push => some { p with scopes := p.scopes ++ [.empty] }
  | .pop => some { p with scopes := dropScope p.scopes }
  | .declare name a => some { p with scopes := declareLast name a p.scopes }
  | .assign name a => some { p with scopes := (assignLast name a p.scopes).getD p.scopes }
  | .get _ => some p
  | .enter d => do
    let kept ← clamp? d 1 p.scopes.length
    let (seen, hidden) ← cut? p.scopes kept
    return { p with scopes := seen ++ [.empty], frames := p.frames ++ [(kept, hidden)] }
  | .leave i =>
    match p.frames[i]? with
    | some (kept, hidden) => some { p with scopes := p.scopes.take kept ++ hidden }
    | none => some p
  | .save => some { p with copies := p.copies ++ [p.scopes] }
  | .swap i =>
    match p.copies[i]? with
    | some l => some { p with scopes := l, copies := p.copies.set i p.scopes }
    | none => some p

/-- The use behind operations, if all of them have results. -/
def run? (p : Plain α) (ops : List (Operation α)) : Option (Plain α) :=
  ops.foldlM step? p

end Plain

/-! ## Both are the same -/

/-- The scopes from the outside in. -/
def fromOutside (s : Scopes α) : List (NameMap α) :=
  s.toList.reverse

section FromOutside

variable {name : String} {a : α}

/-- From the outside, the innermost scope is the last. -/
theorem fromOutside_eq (s : Scopes α) : s.fromOutside = s.outer.reverse ++ [s.inner] :=
  List.reverse_cons

/-- There are as many scopes from the outside as from the inside. -/
@[simp] theorem length_fromOutside (s : Scopes α) : s.fromOutside.length = s.depth := by
  simp [fromOutside]

/-- There is always one. -/
theorem fromOutside_ne_nil (s : Scopes α) : s.fromOutside ≠ [] := by
  simp [fromOutside, toList]

/-- The outermost scopes are the last of the list. -/
theorem take_fromOutside (s : Scopes α) (n : Nat) :
    s.fromOutside.take n = (s.toList.drop (s.depth - n)).reverse := by
  rw [fromOutside, List.take_reverse, length_toList]

/-- The scopes above the outermost ones. -/
theorem drop_fromOutside (s : Scopes α) (n : Nat) : s.fromOutside.drop n = (s.above n).reverse := by
  rw [fromOutside, List.drop_reverse, length_toList, above]

/-- Closing a scope drops the last one from the outside, if it is not the only one. -/
theorem fromOutside_pop (s : Scopes α) : s.pop.fromOutside = Plain.dropScope s.fromOutside := by
  rw [s.fromOutside_eq, Plain.dropScope, List.dropLast_concat, pop]
  cases s.outer with
  | nil => rfl
  | cons scope rest =>
    -- Scopes are left, so the stack does not need an empty one.
    have hne : (scope :: rest).reverse ≠ [] := by simp
    obtain ⟨first, others, hlist⟩ := List.exists_cons_of_ne_nil hne
    rw [hlist]
    exact hlist

/-- A declaration goes to the last scope. -/
theorem declareLast_concat (l : List (NameMap α)) (scope : NameMap α) :
    Plain.declareLast name a (l ++ [scope]) = l ++ [scope.insert name a] := by
  induction l with
  | nil => rfl
  | cons first rest ih =>
    -- The name is not bound in the first scope, because there is one behind it.
    have hne : rest ++ [scope] ≠ [] := by simp
    obtain ⟨second, others, hlist⟩ := List.exists_cons_of_ne_nil hne
    rw [List.cons_append, hlist, Plain.declareLast, ← hlist, ih, List.cons_append]
    simp

/-- Seen from the outside, a declaration is one in the last scope. -/
theorem fromOutside_declare (s : Scopes α) (name : String) (a : α) :
    (s.declare name a).fromOutside = Plain.declareLast name a s.fromOutside := by
  rw [s.fromOutside_eq, declareLast_concat, fromOutside_eq]
  rfl

/-- An assignment goes to the last scope that has the name. -/
theorem assignLast_concat (l : List (NameMap α)) (scope : NameMap α) :
    Plain.assignLast name a (l ++ [scope]) =
      if scope.contains name then some (l ++ [scope.insert name a])
      else (Plain.assignLast name a l).map (· ++ [scope]) := by
  induction l with
  | nil =>
    rw [List.nil_append, Plain.assignLast, Plain.assignLast]
    rfl
  | cons first rest ih =>
    rw [List.cons_append, Plain.assignLast, ih, Plain.assignLast]
    by_cases hscope : scope.contains name
    · simp [hscope]
    · cases Plain.assignLast name a rest with
      | some rest' => simp [hscope]
      | none =>
        by_cases hfirst : first.contains name
        · simp [hscope, hfirst]
        · simp [hscope, hfirst]

/-- The last scope that has the name is the innermost one. -/
theorem assignLast_reverse (l : List (NameMap α)) :
    Plain.assignLast name a l.reverse = (assignIn name a l).map List.reverse := by
  induction l with
  | nil => rfl
  | cons scope rest ih =>
    rw [List.reverse_cons, assignLast_concat, assignIn, ih]
    by_cases hscope : scope.contains name
    · simp [hscope]
    · simp [hscope, Function.comp_def]

/-- Seen from the outside, an assignment is one in the last scope that has the name. -/
theorem fromOutside_assign? (s : Scopes α) :
    ((s.assign? name a).getD s).fromOutside =
      (Plain.assignLast name a s.fromOutside).getD s.fromOutside := by
  rw [fromOutside, fromOutside, assignLast_reverse]
  cases h : s.assign? name a with
  | none => rw [Option.map_eq_none_iff.mp h]; rfl
  | some s' => rw [assign?_eq_some h]; rfl

/-- Seen from the outside, a call keeps the first scopes and starts a new one. -/
theorem fromOutside_enter (s : Scopes α) (d : Nat) :
    (s.enter d).2.fromOutside = s.fromOutside.take (s.clamp d) ++ [.empty] := by
  rw [take_fromOutside, fromOutside_eq]
  rfl

/-- A frame that keeps a scope does not leave the stack empty. -/
theorem fromOutside_leave (s : Scopes α) {frame : Frame α} (h : 0 < frame.depth) :
    (s.leave frame).fromOutside = s.fromOutside.take frame.depth ++ frame.hidden.reverse := by
  have hne : s.toList.drop (s.depth - frame.depth) ≠ [] := by
    have := s.depth_pos
    rw [ne_eq, List.drop_eq_nil_iff, length_toList]
    omega
  rw [take_fromOutside, fromOutside, leave,
    toList_ofList (List.append_ne_nil_of_right_ne_nil _ hne), List.reverse_append]

end FromOutside

/-- The frame on lists. -/
def Frame.plain (f : Frame α) : Nat × List (NameMap α) :=
  (f.depth, f.hidden.reverse)

namespace Usage

variable {u : Usage α}

/-- The use on lists. -/
def plain (u : Usage α) : Plain α :=
  ⟨u.scopes.fromOutside, u.frames.map Frame.plain, u.copies.map fromOutside⟩

/-- Every frame keeps a scope. -/
def Sound (u : Usage α) : Prop :=
  ∀ f ∈ u.frames, 0 < f.depth

/-- At first nothing is kept to be brought back. -/
theorem sound_fresh : (fresh : Usage α).Sound := nofun

/-- Every operation keeps only frames and copies that have a scope. -/
theorem Sound.step (h : u.Sound) (op : Operation α) : (u.step op).Sound := by
  cases op with
  | enter d =>
    refine List.forall_mem_append.mpr ⟨h, List.forall_mem_singleton.mpr ?_⟩
    exact u.scopes.clamp_pos d
  | leave i =>
    rw [Usage.step]
    split <;> exact h
  | swap i =>
    rw [Usage.step]
    split <;> exact h
  | _ => exact h

/-- **Each operation on a list has a result**, the one on the stack. -/
theorem step?_plain (h : u.Sound) (op : Operation α) :
    u.plain.step? op = some (u.step op).plain := by
  cases op with
  | push => simp [Plain.step?, plain, step, fromOutside]
  | pop => simp [Plain.step?, plain, step, fromOutside_pop]
  | declare name a => simp only [Plain.step?, plain, step, fromOutside_declare]
  | assign name a => simp only [Plain.step?, plain, step, fromOutside_assign?]
  | get name => rfl
  | enter d =>
    -- There is a scope, so the bounds are in order, and what is kept is a part of the list.
    have hclamp : Plain.clamp? d 1 u.scopes.fromOutside.length = some (u.scopes.clamp d) := by
      have hpos : 1 ≤ u.scopes.depth := u.scopes.depth_pos
      rw [Plain.clamp?, length_fromOutside, if_pos hpos, clamp]
    have hcut : Plain.cut? u.scopes.fromOutside (u.scopes.clamp d) =
        some (u.scopes.fromOutside.take (u.scopes.clamp d),
          u.scopes.fromOutside.drop (u.scopes.clamp d)) := by
      rw [Plain.cut?, length_fromOutside, if_pos (u.scopes.clamp_le d)]
    simp only [Plain.step?, plain, hclamp, hcut, Option.bind_eq_bind, Option.bind_some, step,
      fromOutside_enter, drop_fromOutside, List.map_append]
    rfl
  | leave i =>
    simp only [Plain.step?, plain, step, List.getElem?_map]
    cases hframe : u.frames[i]? with
    | none => rfl
    | some frame =>
      have hpos := h frame (List.mem_of_getElem? hframe)
      simp only [Option.map_some, Frame.plain, fromOutside_leave _ hpos]
  | save => simp [Plain.step?, plain, step]
  | swap i =>
    simp only [Plain.step?, plain, step, List.getElem?_map]
    cases hcopy : u.copies[i]? with
    | none => rfl
    | some s => simp only [Option.map_some, List.map_set]

/-- **No use of a list ends early**, and it is the use of a stack. -/
theorem run?_plain (h : u.Sound) (ops : List (Operation α)) :
    u.plain.run? ops = some (u.run ops).plain := by
  induction ops generalizing u with
  | nil => rfl
  | cons op ops ih =>
    rw [Plain.run?, List.foldlM_cons, step?_plain h]
    exact ih (h.step op)

/-! ## Balanced uses -/

/-- Operations between two others. -/
theorem run_around (u : Usage α) (op op' : Operation α) (body : List (Operation α)) :
    u.run (op :: body ++ [op']) = ((u.step op).run body).step op' :=
  run_append u (op :: body) [op']

/-- Frames stay what they are. -/
theorem frames_run {i : Nat} {frame : Frame α} (h : u.frames[i]? = some frame)
    (ops : List (Operation α)) : (u.run ops).frames[i]? = some frame := by
  refine List.foldlRecOn (motive := fun v => v.frames[i]? = some frame) ops step h fun v hv op _ => ?_
  cases op with
  | enter d => rwa [step, List.getElem?_append_left (List.getElem?_eq_some_iff.mp hv).1]
  | leave j =>
    rw [step]
    split <;> exact hv
  | swap j =>
    rw [step]
    split <;> exact hv
  | _ => exact hv

/-- A stack that was put aside stays as it is until it is taken up again. -/
theorem copies_run {i : Nat} {s : Scopes α} {ops : List (Operation α)} (h : u.copies[i]? = some s)
    (hops : .swap i ∉ ops) : (u.run ops).copies[i]? = some s := by
  refine List.foldlRecOn (motive := fun v => v.copies[i]? = some s) ops step h fun v hv op hop => ?_
  cases op with
  | save => rwa [step, List.getElem?_append_left (List.getElem?_eq_some_iff.mp hv).1]
  | leave j =>
    rw [step]
    split <;> exact hv
  | swap j =>
    have hij : j ≠ i := fun hji => hops (hji ▸ hop)
    rw [step]
    split
    · rwa [List.getElem?_set_ne hij]
    · exact hv
  | _ => exact hv

/-- To leave with a frame is to bring its scopes back. -/
theorem scopes_leave {i : Nat} {frame : Frame α} (h : u.frames[i]? = some frame) :
    (u.step (.leave i)).scopes = u.scopes.leave frame := by
  rw [step, h]

/-- To swap with a copy is to go on with it. -/
theorem scopes_swap {i : Nat} {s : Scopes α} (h : u.copies[i]? = some s) :
    (u.step (.swap i)).scopes = s := by
  rw [step, h]

/-- The frame of a call is there when the call is left. -/
theorem own_frame (u : Usage α) (d : Nat) (body : List (Operation α)) :
    ((u.step (.enter d)).run body).frames[u.frames.length]? = some (u.scopes.enter d).1 :=
  frames_run List.getElem?_concat_length body

/-- A use that closes the scopes that it opens, and no others. While the stack is put aside, anything may
be done with other stacks. -/
inductive Balanced : Usage α → List (Operation α) → Prop where
  | nil {u : Usage α} : Balanced u []
  | declare {u : Usage α} {name : String} {a : α} : Balanced u [.declare name a]
  | assign {u : Usage α} {name : String} {a : α} : Balanced u [.assign name a]
  | get {u : Usage α} {name : String} : Balanced u [.get name]
  | save {u : Usage α} : Balanced u [.save]
  | block {u : Usage α} {body : List (Operation α)} (hbody : Balanced (u.step .push) body) :
      Balanced u (.push :: body ++ [.pop])
  | call {u : Usage α} {d : Nat} {body : List (Operation α)}
      (hbody : Balanced (u.step (.enter d)) body) :
      Balanced u (.enter d :: body ++ [.leave u.frames.length])
  /-- The stack is put aside and taken up again. -/
  | aside {u : Usage α} {i : Nat} {body : List (Operation α)} (hi : i < u.copies.length)
      (hbody : .swap i ∉ body) : Balanced u (.swap i :: body ++ [.swap i])
  /-- A copy is taken up in place of what the stack has become. -/
  | rewind {u : Usage α} {body : List (Operation α)} (hbody : .swap u.copies.length ∉ body) :
      Balanced u (.save :: body ++ [.swap u.copies.length])
  | append {u : Usage α} {ops ops' : List (Operation α)} (h : Balanced u ops)
      (h' : Balanced (u.run ops) ops') : Balanced u (ops ++ ops')

/-- A balanced use only adds names to the innermost scope. -/
theorem Balanced.settles {ops : List (Operation α)} (h : Balanced u ops) :
    Settles u.scopes (u.run ops).scopes := by
  induction h with
  | nil => exact .refl _
  | @declare u name a => exact settles_declare u.scopes name a
  | @assign u name a =>
    change Settles u.scopes ((u.scopes.assign? name a).getD u.scopes)
    cases hassign : u.scopes.assign? name a with
    | none => exact .refl _
    | some s => exact .of_sameNames (sameNames_assign? hassign)
  | get => exact .refl _
  | save => exact .refl _
  | block _ ih =>
    rw [run_around]
    exact .of_sameNames ih.pop
  | @call u d body _ ih =>
    rw [run_around, scopes_leave (own_frame u d body)]
    exact .of_sameNames ih.leave
  -- Whatever is done meanwhile, the copy is the stack before.
  | @aside u i body hi hbody =>
    have hput : (u.step (.swap i)).copies[i]? = some u.scopes := by
      rw [step, List.getElem?_eq_getElem hi]
      exact List.getElem?_set_self hi
    rw [run_around, scopes_swap (copies_run hput hbody)]
    exact .refl _
  | @rewind u body hbody =>
    have hput : (u.step .save).copies[u.copies.length]? = some u.scopes :=
      List.getElem?_concat_length
    rw [run_around, scopes_swap (copies_run hput hbody)]
    exact .refl _
  | append _ _ ih ih' =>
    rw [run_append]
    exact ih.trans ih'

/-! ## Calls -/

/-- What the use `body` of a call that is entered at depth `d` comes to. -/
structure Returns (u : Usage α) (d : Nat) (body : List (Operation α)) : Prop where
  /-- The call ends in its own scope. -/
  own : ((u.step (.enter d)).run body).scopes.depth = u.scopes.clamp d + 1
  /-- The scopes that the call sees are as it leaves them, the hidden ones as they were. -/
  stack : (((u.step (.enter d)).run body).step (.leave u.frames.length)).scopes.fromOutside =
    ((u.step (.enter d)).run body).scopes.fromOutside.take (u.scopes.clamp d) ++
      u.scopes.fromOutside.drop (u.scopes.clamp d)
  /-- No scope has other names than before. -/
  names : SameNames u.scopes.toList
    (((u.step (.enter d)).run body).step (.leave u.frames.length)).scopes.toList

/-- A balanced body returns. -/
theorem Balanced.returns {d : Nat} {body : List (Operation α)}
    (h : Balanced (u.step (.enter d)) body) : u.Returns d body := by
  have hsettles : Settles (u.scopes.enter d).2 ((u.step (.enter d)).run body).scopes := h.settles
  constructor
  case own =>
    have hdepth := congrArg List.length (fromOutside_enter u.scopes d)
    have hle := u.scopes.clamp_le d
    rw [length_fromOutside, ← hsettles.depth_eq] at hdepth
    rw [hdepth]
    simp [hle]
  case stack =>
    rw [scopes_leave (own_frame u d body), drop_fromOutside]
    exact fromOutside_leave _ (u.scopes.clamp_pos d)
  case names =>
    rw [scopes_leave (own_frame u d body)]
    exact hsettles.leave

end Usage

/-- **Calls nest under any use.** No use of scopes has an operation without a result or comes to an empty
list of scopes, and a call with a balanced body leaves the scopes that it sees as its body left them, and
the hidden ones as they were. -/
theorem calls_nest (α : Type) :
    (∀ ops : List (Operation α), ∃ p : Plain α, Plain.fresh.run? ops = some p ∧
      p = (Usage.fresh.run ops).plain ∧ p.scopes ≠ [] ∧ ∀ l ∈ p.copies, l ≠ []) ∧
    ∀ (u : Usage α) (d : Nat) (body : List (Operation α)),
      Usage.Balanced (u.step (.enter d)) body → u.Returns d body := by
  refine ⟨fun ops => ⟨_, Usage.run?_plain Usage.sound_fresh ops, rfl, fromOutside_ne_nil _, ?_⟩,
    fun u d body => Usage.Balanced.returns⟩
  intro l hl
  obtain ⟨s, -, rfl⟩ := List.mem_map.mp hl
  exact fromOutside_ne_nil s

/-- Two scopes that bind one name, and a copy of the outer one. -/
def Usage.shadowed : Usage Nat :=
  fresh.run [.declare "g" 1, .save, .push, .declare "g" 2]

/-- Calls out of a block. -/
def Usage.callingBlock : List (Operation Nat) :=
  .push :: (.enter 1 :: [.assign "g" 5] ++ [.leave 1]) ++ [.pop]

/-- Leaves the call that it stands in, on the copy. -/
def Usage.strayLeave : List (Operation Nat) :=
  .swap 0 :: [.pop, .leave 0, .pop] ++ [.swap 0]

/-- A declaration, calls in a block and calls on a copy, one behind the other. -/
def Usage.wayward : List (Operation Nat) :=
  [.declare "x" 3] ++ callingBlock ++ strayLeave

/-- The use leaves with the value that was assigned in the call, and the name it declared is gone. -/
theorem calls_nest_wayward :
    Usage.Balanced (Usage.shadowed.step (.enter 1)) Usage.wayward ∧
      Usage.shadowed.Returns 1 Usage.wayward ∧
      ((((Usage.shadowed.step (.enter 1)).run Usage.wayward).step (.leave 0)).scopes.fromOutside =
        [⟨[("g", 5)]⟩, ⟨[("g", 2)]⟩]) := by
  have h : Usage.Balanced (Usage.shadowed.step (.enter 1)) Usage.wayward := by
    refine .append (.append .declare ?block) ?aside
    case block => exact .block (.call .assign)
    case aside => exact .aside Nat.zero_lt_one (by simp)
  exact ⟨h, (calls_nest Nat).2 Usage.shadowed 1 Usage.wayward h, rfl⟩

end Scopes

end ParLang
