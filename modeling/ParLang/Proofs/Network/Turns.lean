import ParLang.Proofs.Execution.Schedule
import ParLang.Proofs.Network.Paired
import ParLang.Proofs.Network.Spared

/-!
# Whose turn it is on a connection

`Task.traffic` is what is sent on a connection under a schedule and what is received from it, each with
the way to the unit. A unit has its turn on the connection from the message that it sends to the answer
that it gets, and units take turns (`Task.takesTurns`) if meanwhile no other one sends on the connection.
Since sends and receives come in exchanges, the traffic is then one exchange after another: what
a turn of a task is for the connection follows from whose turn it is there (`Task.Holding.advance`).
-/

namespace ParLang

variable {i : ConnectionId} {w w' : World} {way : List Nat}

/-! ## Traffic -/

/-- What happens on a connection: it takes some text or refuses it, or a unit gets the answer to a request
for a line. -/
inductive Wire where
  | sent (text : String)
  | refused (text : String)
  | got (reply : Except IoFault String)
deriving DecidableEq

/-- What happens on the connection when a unit asks for the effect. -/
def Wire.of? (i : ConnectionId) (w : World) (unit : UnitId) : Effect → Option Wire
  | .send j text =>
    if j = i then
      match (w.answer unit (.send j text)).1 with
      | .ok () => some (.sent text)
      | .error _ => some (.refused text)
    else none
  | .receive j => if j = i then some (.got (w.answer unit (.receive j)).1) else none
  | _ => none

/-- A text that was taken shows on the connection as sent. -/
theorem Wire.of?_sent {unit : UnitId} {text : String}
    (h : (w.answer unit (.send i text)).1 = .ok ()) :
    Wire.of? i w unit (.send i text) = some (.sent text) := by
  simp only [of?, if_true, h]

/-- A text that was refused shows as refused. -/
theorem Wire.of?_refused {unit : UnitId} {text : String} {fault : IoFault}
    (h : (w.answer unit (.send i text)).1 = .error fault) :
    Wire.of? i w unit (.send i text) = some (.refused text) := by
  simp only [of?, if_true, h]

/-- A reply shows as it is. -/
theorem Wire.of?_got (unit : UnitId) :
    Wire.of? i w unit (.receive i) = some (.got (w.answer unit (.receive i)).1) := by
  simp only [of?, if_true]

/-- On another connection nothing shows of it. -/
theorem Wire.of?_send_of_ne {unit : UnitId} {j : ConnectionId} {text : String} (hj : j ≠ i) :
    Wire.of? i w unit (.send j text) = none :=
  if_neg hj

/-- Nor does a reply from another connection show here. -/
theorem Wire.of?_receive_of_ne {unit : UnitId} {j : ConnectionId} (hj : j ≠ i) :
    Wire.of? i w unit (.receive j) = none :=
  if_neg hj

/-- What happens on the connection is a write or a read of a unit. -/
theorem Wire.of?_eq_some {unit : UnitId} {e : Effect} {ev : Wire} (h : Wire.of? i w unit e = some ev) :
    (∃ text, e = .send i text) ∨ e = .receive i := by
  cases e with
  | send j text =>
    by_cases hj : j = i
    · exact .inl ⟨text, by rw [hj]⟩
    · cases h.symm.trans (of?_send_of_ne hj)
  | receive j =>
    by_cases hj : j = i
    · exact .inr (by rw [hj])
    · cases h.symm.trans (of?_receive_of_ne hj)
  | _ => cases h

/-- What shows as sent was sent here, and taken. -/
theorem Wire.of?_eq_some_sent {unit : UnitId} {e : Effect} {text : String}
    (h : Wire.of? i w unit e = some (.sent text)) :
    e = .send i text ∧ (w.answer unit (.send i text)).1 = .ok () := by
  rcases of?_eq_some h with ⟨text', rfl⟩ | rfl
  · cases hreply : (w.answer unit (.send i text')).1 with
    | ok =>
      obtain rfl := Wire.sent.inj (Option.some.inj (h.symm.trans (of?_sent hreply)))
      exact ⟨rfl, hreply⟩
    | error fault => cases h.symm.trans (of?_refused hreply)
  · cases h.symm.trans (of?_got unit)

/-- What shows as refused was sent here, and refused. -/
theorem Wire.of?_eq_some_refused {unit : UnitId} {e : Effect} {text : String}
    (h : Wire.of? i w unit e = some (.refused text)) :
    ∃ fault, e = .send i text ∧ (w.answer unit (.send i text)).1 = .error fault := by
  rcases of?_eq_some h with ⟨text', rfl⟩ | rfl
  · cases hreply : (w.answer unit (.send i text')).1 with
    | ok => cases h.symm.trans (of?_sent hreply)
    | error fault =>
      obtain rfl := Wire.refused.inj (Option.some.inj (h.symm.trans (of?_refused hreply)))
      exact ⟨fault, rfl, hreply⟩
  · cases h.symm.trans (of?_got unit)

/-- What shows as a reply was received here. -/
theorem Wire.of?_eq_some_got {unit : UnitId} {e : Effect} {reply : Except IoFault String}
    (h : Wire.of? i w unit e = some (.got reply)) :
    e = .receive i ∧ (w.answer unit (.receive i)).1 = reply := by
  rcases of?_eq_some h with ⟨text, rfl⟩ | rfl
  · cases hreply : (w.answer unit (.send i text)).1 with
    | ok => cases h.symm.trans (of?_sent hreply)
    | error fault => cases h.symm.trans (of?_refused hreply)
  · exact ⟨rfl, Wire.got.inj (Option.some.inj ((of?_got unit).symm.trans h))⟩

/-- Where nothing shows, nothing was sent or received here. -/
theorem Wire.of?_eq_none {unit : UnitId} {e : Effect} (h : Wire.of? i w unit e = none) :
    (∀ text, e ≠ .send i text) ∧ e ≠ .receive i := by
  refine ⟨?_, ?_⟩
  · rintro text rfl
    cases hreply : (w.answer unit (.send i text)).1 with
    | ok => cases h.symm.trans (of?_sent hreply)
    | error fault => cases h.symm.trans (of?_refused hreply)
  · rintro rfl
    cases h.symm.trans (of?_got unit)

/-- The unit is in an exchange on the connection, and has sent the end of its line or not. -/
def Stage.on? (i : ConnectionId) : Stage → Option Bool
  | .idle => none
  | .begun j => if j = i then some false else none
  | .ended j => if j = i then some true else none

namespace Task

variable {t t' : Task}

/-- The machine and the effect that the unit at the end of the way asks with next. -/
def requestAt? : List Nat → Task → Option (Machine × Effect)
  | [], .running _ (.perform m e _) => some (m, e)
  | j :: way, .waiting _ units _ => units[j]?.bind (requestAt? way)
  | _, _ => none

/-- What the turn does on the connection, with the way to the unit. -/
def wireIn? (i : ConnectionId) (turn : Turn) (t : Task) (w : World) : Option (List Nat × Wire) :=
  match turn with
  | .unit way => (requestAt? way t).bind fun (m, e) => (Wire.of? i w m.unit e).map (way, ·)
  | _ => none

/-- What happens on the connection under a schedule, with the ways to the units. -/
def traffic (i : ConnectionId) : List Turn → Task → World → List (List Nat × Wire)
  | [], _, _ => []
  | turn :: turns, t, w =>
    match take turn t w with
    | some (t', w') => (wireIn? i turn t w).toList ++ traffic i turns t' w'
    | none => []

/-! ## Taking turns -/

/-- The unit at the end of the way sends on the connection next. -/
def sendsAt (i : ConnectionId) (way : List Nat) (t : Task) : Bool :=
  match requestAt? way t with
  | some (_, .send j _) => j == i
  | _ => false

/-- The unit at the end of the way receives from the connection next. -/
def receivesAt (i : ConnectionId) (way : List Nat) (t : Task) : Bool :=
  match requestAt? way t with
  | some (_, .receive j) => j == i
  | _ => false

/-- The turn respects that the unit at the end of `holder?` has its turn on the connection: no other one
sends on it, and this one is not torn down. On the connection the world answers, as its other side does. -/
def respects (i : ConnectionId) (holder? : Option (List Nat)) (t : Task) : Turn → Bool
  | .unit way => !sendsAt i way t || holder?.all (· == way)
  | .answered way _ => !(sendsAt i way t || receivesAt i way t)
  | .outside _ => true
  | .panic j way _ => holder? != some (j :: way)

/-- Whose turn it is on the connection behind what has happened there. -/
def holderBehind (holder? : Option (List Nat)) : Option (List Nat × Wire) → Option (List Nat)
  | none => holder?
  | some (way, .sent _) => some way
  | some (_, .refused _) | some (_, .got _) => none

/-- Under the schedule units take turns on the connection, the first of which is that of the unit at the
end of `holder?`. -/
def takesTurns (i : ConnectionId) (holder? : Option (List Nat)) : List Turn → Task → World → Bool
  | [], _, _ => true
  | turn :: turns, t, w =>
    respects i holder? t turn &&
      match take turn t w with
      | some (t', w') => takesTurns i (holderBehind holder? (wireIn? i turn t w)) turns t' w'
      | none => true

/-- What a unit in a block asks for, seen from the block. -/
theorem requestAt?_cons {j : Nat} {f : Fork} {units : List Task}
    {k : List UnitResult → Process (UnitResult × Machine)} {u : Task} (hu : units[j]? = some u) :
    requestAt? (j :: way) (.waiting f units k) = requestAt? way u := by
  rw [requestAt?, hu]
  rfl

/-- The traffic of a schedule is that of its first turn and then of the others. -/
theorem traffic_cons {turn : Turn} {turns : List Turn} (h : take turn t w = some (t', w')) :
    traffic i (turn :: turns) t w = (wireIn? i turn t w).toList ++ traffic i turns t' w' := by
  rw [traffic, h]

/-- Turns are taken in a schedule if the first turn respects the holder and the others do what is left to
them. -/
theorem takesTurns_cons {holder? : Option (List Nat)} {turn : Turn} {turns : List Turn}
    (h : take turn t w = some (t', w')) :
    takesTurns i holder? (turn :: turns) t w = true ↔
      respects i holder? t turn = true ∧
        takesTurns i (holderBehind holder? (wireIn? i turn t w)) turns t' w' = true := by
  rw [takesTurns, h, Bool.and_eq_true]

/-! ## The unit whose turn it is -/

/-- All units send and receive in exchanges, and if a way is given, the unit at its end is the one that is
in an exchange on the connection, and has sent the end of its line or not. -/
inductive Holding (i : ConnectionId) : Option (List Nat × Bool) → Task → Prop where
  | running {clock p stage a} (h : p.Paired stage) (ha : a = (stage.on? i).map ([], ·)) :
      Holding i a (.running clock p)
  | idle {f units k} (hk : ∀ rs, (k rs).Paired .idle)
      (h : ∀ (j : Nat) u, units[j]? = some u → Holding i none u) : Holding i none (.waiting f units k)
  | inside {f units k j way ended u} (hk : ∀ rs, (k rs).Paired .idle) (hu : units[j]? = some u)
      (h : Holding i (some (way, ended)) u)
      (hothers : ∀ (j' : Nat) u', j' ≠ j → units[j']? = some u' → Holding i none u') :
      Holding i (some (j :: way, ended)) (.waiting f units k)
  | finished {clock r m} : Holding i none (.finished clock r m)

/-- The unit, seen from further up. -/
def under (way : List Nat) (holder? : Option (List Nat × Bool)) : Option (List Nat × Bool) :=
  holder?.map fun (way', ended) => (way ++ way', ended)

/-- Seen from where it is, the unit is where it is. -/
@[simp] theorem under_nil (holder? : Option (List Nat × Bool)) : under [] holder? = holder? := by
  cases holder? <;> rfl

/-- The way to a unit further down leads through the units above it. -/
theorem under_cons (j : Nat) (way : List Nat) (holder? : Option (List Nat × Bool)) :
    under (j :: way) holder? = under [j] (under way holder?) := by
  cases holder? <;> rfl

section Units

variable {f : Fork} {units : List Task} {k : List UnitResult → Process (UnitResult × Machine)} {j : Nat}
  {u' : Task} {a : Option (List Nat × Bool)}

/-- A unit of those that a task waits for is another one than the others, none of which has the turn. -/
theorem Holding.set (hk : ∀ rs, (k rs).Paired .idle) (hj : j < units.length)
    (hothers : ∀ (j' : Nat) u, j' ≠ j → units[j']? = some u → Holding i none u) (hu' : u'.Holding i a) :
    Holding i (under [j] a) (.waiting f (units.set j u') k) := by
  cases a with
  | none =>
    refine .idle hk fun j' u hu => ?_
    rcases eq_or_of_getElem?_set hu with ⟨-, rfl⟩ | ⟨hne, hu⟩
    · exact hu'
    · exact hothers j' u hne.symm hu
  | some holder =>
    refine .inside hk (List.getElem?_set_self hj) hu' fun j' u hne hu => ?_
    rw [List.getElem?_set_ne hne.symm] at hu
    exact hothers j' u hne hu

/-- What happens to a unit that has not the turn is nothing to the one that has it. -/
theorem Holding.inside_set_of_ne {j' : Nat} {v : Task} {ended : Bool} (hk : ∀ rs, (k rs).Paired .idle)
    (hv : units[j']? = some v) (hinside : v.Holding i (some (way, ended)))
    (hothers : ∀ (l : Nat) u, l ≠ j' → units[l]? = some u → Holding i none u) (hne : j ≠ j')
    (hu' : u'.Holding i none) : Holding i (some (j' :: way, ended)) (.waiting f (units.set j u') k) := by
  refine .inside hk ((List.getElem?_set_ne hne).trans hv) hinside fun l u hl hu => ?_
  rcases eq_or_of_getElem?_set hu with ⟨-, rfl⟩ | ⟨-, hu⟩
  · exact hu'
  · exact hothers l u hl hu

end Units

/-- What is known of a unit that acts: it or one below it has the turn, or nobody has, or a unit elsewhere
has it. Behind the act the same is known of the task, from what is known of the unit. -/
theorem Holding.exists_unit {α : Type} {act : Task → Option (Task × α)} {x : α}
    {a : Option (List Nat × Bool)} (h : t.Holding i a) (hact : actAt act way t = some (t', x)) :
    ∃ u u', act u = some (u', x) ∧ requestAt? way t = requestAt? [] u ∧
      ((∃ b, u.Holding i b ∧ a = under way b ∧ ∀ b', u'.Holding i b' → t'.Holding i (under way b')) ∨
        (∃ holder, a = some holder ∧ ¬way <+: holder.1) ∧ u.Holding i none ∧
          (u'.Holding i none → t'.Holding i a)) := by
  induction way generalizing t t' a with
  | nil =>
    refine ⟨t, t', hact, rfl, .inl ⟨a, h, (under_nil a).symm, fun b' h' => ?_⟩⟩
    rwa [under_nil]
  | cons j way ih =>
    obtain ⟨f, units, k, u₁, u₁', rfl, hu₁, hact₁, rfl⟩ := exists_of_actAt_cons hact
    have hj : j < units.length := (List.getElem?_eq_some_iff.mp hu₁).1
    have hrequest : requestAt? (j :: way) (.waiting f units k) = requestAt? way u₁ := requestAt?_cons hu₁
    cases h with
    | idle hk hunits =>
      have hothers : ∀ (j' : Nat) u, j' ≠ j → units[j']? = some u → Holding i none u :=
        fun j' u _ => hunits j' u
      obtain ⟨u, u', hu, hrequest₁, hcases⟩ := ih (hunits j u₁ hu₁) hact₁
      refine ⟨u, u', hu, hrequest.trans hrequest₁, ?_⟩
      rcases hcases with ⟨b, hb, hnone, hset⟩ | ⟨⟨holder, hsome, -⟩, -, -⟩
      · refine .inl ⟨b, hb, by rw [under_cons, ← hnone]; rfl, fun b' hb' => ?_⟩
        rw [under_cons]
        exact .set hk hj hothers (hset b' hb')
      · cases hsome
    | @inside _ _ _ l way' ended v hk hv hinside hothers =>
      by_cases hl : l = j
      · subst hl
        obtain rfl := Option.some.inj (hu₁.symm.trans hv)
        obtain ⟨u, u', hu, hrequest₁, hcases⟩ := ih hinside hact₁
        refine ⟨u, u', hu, hrequest.trans hrequest₁, ?_⟩
        rcases hcases with ⟨b, hb, hsome, hset⟩ | ⟨⟨holder, hsome, hprefix⟩, hb, hset⟩
        · refine .inl ⟨b, hb, by rw [under_cons, ← hsome]; rfl, fun b' hb' => ?_⟩
          rw [under_cons]
          exact .set hk hj hothers (hset b' hb')
        · obtain rfl := Option.some.inj hsome
          refine .inr ⟨⟨_, rfl, fun h => hprefix (List.cons_prefix_cons.mp h).2⟩, hb, fun hb' => ?_⟩
          exact .set hk hj hothers (hset hb')
      · have hne : j ≠ l := Ne.symm hl
        obtain ⟨u, u', hu, hrequest₁, hcases⟩ := ih (hothers j u₁ hne hu₁) hact₁
        refine ⟨u, u', hu, hrequest.trans hrequest₁, .inr ?_⟩
        refine ⟨⟨_, rfl, fun h => hne (List.cons_prefix_cons.mp h).1⟩, ?_⟩
        rcases hcases with ⟨b, hb, hnone, hset⟩ | ⟨⟨holder, hsome, -⟩, -, -⟩
        · obtain rfl : b = none := Option.map_eq_none_iff.mp hnone.symm
          exact ⟨hb, fun hb' => .inside_set_of_ne hk hv hinside hothers hne (hset none hb')⟩
        · cases hsome

/-! ## One turn -/

/-- How what happens on the connection moves the exchange of a unit on. -/
inductive Advances : Option Bool → Option Wire → Option Bool → Prop where
  | silent {ended?} : Advances ended? none ended?
  | refused {message} : Advances none (some (.refused message)) none
  | begun {message} : Advances none (some (.sent message)) (some false)
  | cut : Advances (some false) (some (.refused "\n")) none
  | ended : Advances (some false) (some (.sent "\n")) (some true)
  | answered {reply} : Advances (some true) (some (.got reply)) none

/-- A unit that is in an exchange, or in none, holds the turn or does not. -/
theorem Holding.of_paired {clock : Nat} {p : Process (UnitResult × Machine)} {stage : Stage}
    (h : p.Paired stage) {ended? : Option Bool} (hstage : stage.on? i = ended?) :
    Holding i (ended?.map ([], ·)) (.running clock p) :=
  .running h (by rw [hstage])

/-- A unit sends a text. On the connection its exchange goes on if the text is taken and is over if it is
refused; on every other connection nothing happens. -/
theorem Holding.advance_send {clock : Nat} {unit : UnitId} {j : ConnectionId} {text : String}
    {stage behind : Stage} {ended : Bool} {k : Except IoFault Unit → Process (UnitResult × Machine)}
    (hrefused : ∀ fault, (k (.error fault)).Paired .idle) (htaken : (k (.ok ())).Paired behind)
    (hother : j ≠ i → stage.on? i = none) (hbehind : behind.on? i = if j = i then some ended else none)
    (hsent : j = i → Advances (stage.on? i) (some (.sent text)) (some ended))
    (hrefuses : j = i → Advances (stage.on? i) (some (.refused text)) none) :
    ∃ ended?, Holding i (ended?.map ([], ·)) (.running clock (k (w.answer unit (.send j text)).1)) ∧
      Advances (stage.on? i) (Wire.of? i w unit (.send j text)) ended? := by
  by_cases hj : j = i
  · cases hreply : (w.answer unit (.send j text)).1 with
    | ok =>
      refine ⟨some ended, .of_paired htaken (hbehind.trans (if_pos hj)), ?_⟩
      subst hj
      exact Wire.of?_sent hreply ▸ hsent rfl
    | error fault =>
      refine ⟨none, .of_paired (hrefused fault) rfl, ?_⟩
      subst hj
      exact Wire.of?_refused hreply ▸ hrefuses rfl
  · refine ⟨none, ?_, ?_⟩
    · cases (w.answer unit (.send j text)).1 with
      | ok => exact .of_paired htaken (hbehind.trans (if_neg hj))
      | error fault => exact .of_paired (hrefused fault) rfl
    · rw [Wire.of?_send_of_ne hj, hother hj]
      exact .silent

/-- A step of a running unit. -/
theorem Holding.advance_running {clock : Nat} {p : Process (UnitResult × Machine)} {stage : Stage}
    (h : p.Paired stage) (hstep : stepProcess w clock p = some (t', w')) :
    ∃ ended?, t'.Holding i (ended?.map ([], ·)) ∧
      Advances (stage.on? i)
        ((requestAt? [] (.running clock p)).bind fun (m, e) => Wire.of? i w m.unit e) ended? := by
  cases h with
  | done =>
    obtain ⟨rfl, rfl⟩ := Prod.mk.inj (Option.some.inj hstep)
    exact ⟨none, .finished, .silent⟩
  | exhausted => cases hstep
  | @fork f k hk =>
    obtain ⟨rfl, rfl⟩ := Prod.mk.inj (Option.some.inj hstep)
    refine ⟨none, .idle hk fun j u hu => ?_, .silent⟩
    rw [getElem?_unitsFrom] at hu
    obtain ⟨s, -, rfl⟩ := Option.map_eq_some_iff.mp hu
    exact .running (Exec.paired_runUnit _ _ _) rfl
  | @perform m e k he hk =>
    obtain ⟨-, rfl, -⟩ := of_stepProcess_perform hstep
    have hsilent : Wire.of? i w m.unit e = none := by
      cases e with
      | send | receive => cases he
      | _ => rfl
    refine ⟨none, .of_paired (hk _) rfl, ?_⟩
    simp only [requestAt?, Option.bind_some, hsilent]
    exact .silent
  | @message m j message k hrefused htaken =>
    obtain ⟨-, rfl, -⟩ := of_stepProcess_perform hstep
    exact advance_send hrefused htaken (fun _ => rfl) rfl (fun _ => .begun) fun _ => .refused
  | @lineEnd m j k hrefused htaken =>
    obtain ⟨-, rfl, -⟩ := of_stepProcess_perform hstep
    have hstage : j = i → (Stage.begun j).on? i = some false := fun hj => if_pos hj
    refine advance_send hrefused htaken (fun hj => if_neg hj) rfl (fun hj => ?_) fun hj => ?_
    · rw [hstage hj]
      exact .ended
    · rw [hstage hj]
      exact .cut
  | @answer m j k h =>
    obtain ⟨-, rfl, -⟩ := of_stepProcess_perform hstep
    simp only [requestAt?, Option.bind_some, Stage.on?]
    refine ⟨none, .of_paired (h _) rfl, ?_⟩
    by_cases hj : j = i
    · subst hj
      rw [if_pos rfl, Wire.of?_got]
      exact .answered
    · rw [if_neg hj, Wire.of?_receive_of_ne hj]
      exact .silent

/-- A step of the task's own unit. -/
theorem Holding.advance_own {a : Option (List Nat × Bool)} (h : t.Holding i a)
    (hstep : step w t = some (t', w')) :
    ∃ b b', a = b.map ([], ·) ∧ t'.Holding i (b'.map ([], ·)) ∧
      Advances b ((requestAt? [] t).bind fun (m, e) => Wire.of? i w m.unit e) b' := by
  cases h with
  | running hp ha =>
    obtain ⟨b', hb', hadvances⟩ := advance_running hp hstep
    exact ⟨_, b', ha, hb', hadvances⟩
  | idle hk hunits =>
    obtain ⟨⟨clock, rs⟩, -, heq⟩ := Option.map_eq_some_iff.mp hstep
    obtain ⟨rfl, rfl⟩ := Prod.mk.inj heq
    exact ⟨none, none, rfl, .running (hk rs) rfl, .silent⟩
  | @inside f units k j way ended u hk hu hinside hothers =>
    -- A unit that is in an exchange has not finished, so there is nothing to join yet.
    obtain ⟨⟨clock, rs⟩, hrs, -⟩ := Option.map_eq_some_iff.mp hstep
    obtain ⟨_, _, _, rfl, -⟩ := (results?_eq_some hrs).2 j u hu
    cases hinside
  | finished => cases hstep

/-- A unit that is about to send is one that the turns are about. -/
theorem sendsAt_of_request {m : Machine} {text : String}
    (h : requestAt? way t = some (m, .send i text)) : sendsAt i way t = true := by
  simp [sendsAt, h]

/-- **One step of one unit** that respects the turns. It moves the exchange of the unit on, if what
happens on the connection is its doing, and leaves all others as they are. -/
theorem Holding.advance {a : Option (List Nat × Bool)} (h : t.Holding i a)
    (hstep : stepAt w way t = some (t', w'))
    (hturn : sendsAt i way t = true → ∀ holder, a = some holder → holder.1 = way) :
    (∃ b b', a = b.map (way, ·) ∧ t'.Holding i (b'.map (way, ·)) ∧
      Advances b ((requestAt? way t).bind fun (m, e) => Wire.of? i w m.unit e) b') ∨
    (requestAt? way t).bind (fun (m, e) => Wire.of? i w m.unit e) = none ∧ t'.Holding i a := by
  have hunder : ∀ b : Option Bool, under way (b.map ([], ·)) = b.map (way, ·) := fun b => by
    cases b <;> simp [under]
  obtain ⟨u, u', hu, hrequest, hcases⟩ := h.exists_unit hstep
  rw [hrequest]
  rcases hcases with ⟨b, hb, rfl, hset⟩ | ⟨⟨holder, rfl, hway⟩, hb, hset⟩
  · obtain ⟨b, b', rfl, hb', hadvances⟩ := hb.advance_own hu
    exact .inl ⟨b, b', hunder b, hunder b' ▸ hset _ hb', hadvances⟩
  · obtain ⟨b, b', hnone, hb', hadvances⟩ := hb.advance_own hu
    obtain rfl : b = none := Option.map_eq_none_iff.mp hnone.symm
    generalize hwire : (requestAt? [] u).bind (fun (m, e) => Wire.of? i w m.unit e) = wire at hadvances
    have hsend : ∀ ev, wire = some ev → (∀ reply, ev ≠ .got reply) → False := by
      rintro ev rfl hgot
      obtain ⟨⟨m, e⟩, hrequest', hev⟩ := Option.bind_eq_some_iff.mp hwire
      obtain ⟨text, rfl⟩ := (Wire.of?_eq_some hev).resolve_right fun hreceive => by
        subst hreceive
        exact hgot _ (Option.some.inj (hev.symm.trans (Wire.of?_got m.unit)))
      exact hway (hturn (sendsAt_of_request (hrequest.trans hrequest')) holder rfl ▸ List.prefix_rfl)
    cases hadvances with
    | silent => exact .inr ⟨rfl, hset hb'⟩
    | refused => exact (hsend _ rfl fun _ => nofun).elim
    | begun => exact (hsend _ rfl fun _ => nofun).elim

/-- A unit that the surroundings answer elsewhere. -/
theorem Holding.heed {a : Option (List Nat × Bool)} {reply : (e : Effect) → e.Reply} (h : t.Holding i a)
    (hact : actAt (Task.heed reply w) way t = some (t', w'))
    (huses : (sendsAt i way t || receivesAt i way t) = false) : t'.Holding i a ∧ w' = w := by
  obtain ⟨u, u', hu, hrequest, hcases⟩ := h.exists_unit hact
  obtain ⟨clock, m, e, k, rfl, -, rfl, rfl⟩ := heed_eq_some.mp hu
  -- The unit is in no exchange on the connection, nor behind the answer.
  have hown : ∀ b, Holding i b (.running clock (.perform m e k)) →
      b = none ∧ Holding i none (.running (clock + e.duration) (k (reply e))) := fun b hb => by
    simp only [sendsAt, receivesAt, hrequest, requestAt?] at huses
    cases hb with
    | running hp ha =>
      subst ha
      cases hp with
      | perform he hk => exact ⟨rfl, .running (hk _) rfl⟩
      | @message _ j message _ hrefused htaken =>
        have hj : j ≠ i := by simpa using huses
        refine ⟨rfl, ?_⟩
        cases reply (.send j message) with
        | ok => exact .of_paired htaken (if_neg hj)
        | error fault => exact .running (hrefused fault) rfl
      | @lineEnd _ j _ hrefused htaken =>
        have hj : j ≠ i := by simpa using huses
        refine ⟨by simp [Stage.on?, hj], ?_⟩
        cases reply (.send j "\n") with
        | ok => exact .of_paired htaken (if_neg hj)
        | error fault => exact .running (hrefused fault) rfl
      | @answer _ j _ hk =>
        have hj : j ≠ i := by simpa using huses
        exact ⟨by simp [Stage.on?, hj], .running (hk _) rfl⟩
  rcases hcases with ⟨b, hb, rfl, hset⟩ | ⟨-, hb, hset⟩
  · obtain ⟨rfl, hb'⟩ := hown b hb
    exact ⟨hset none hb', rfl⟩
  · exact ⟨hset (hown none hb).2, rfl⟩

/-- A unit that is torn down, but not in the middle of an exchange. -/
theorem Holding.tearDown {a : Option (List Nat × Bool)} {message : String} (h : t.Holding i a)
    (hact : actAt (Task.tearDown message w) way t = some (t', w'))
    (hholder : ∀ ended, a ≠ some (way, ended)) : t'.Holding i a ∧ w' = w := by
  obtain ⟨u, u', hu, -, hcases⟩ := h.exists_unit hact
  obtain ⟨clock, m, -, rfl, rfl⟩ := exists_of_tearDown hu
  rcases hcases with ⟨b, hb, rfl, hset⟩ | ⟨-, hb, hset⟩
  · have hnone : b = none := by
      cases hb with
      | @running _ p stage _ hp ha =>
        cases hstage : stage.on? i with
        | none => rw [ha, hstage]; rfl
        | some ended => exact absurd (by simp [ha, hstage, under]) (hholder ended)
      | idle => rfl
      | @inside f units k j way ended v hk hv hinside hothers =>
        obtain ⟨⟨clock, rs⟩, hrs, -⟩ := Option.map_eq_some_iff.mp hu
        obtain ⟨_, _, _, rfl, -⟩ := (results?_eq_some hrs).2 j v hv
        cases hinside
      | finished => rfl
    subst hnone
    exact ⟨hset none .finished, rfl⟩
  · exact ⟨hset .finished, rfl⟩

/-- A step answers the request of its unit, or leaves the world as it is. -/
theorem world_of_stepAt (h : stepAt w way t = some (t', w')) :
    (requestAt? way t = none ∧ w' = w) ∨
      ∃ m e, requestAt? way t = some (m, e) ∧ w' = (w.answer m.unit e).2 := by
  induction way generalizing t t' with
  | nil =>
    cases t with
    | running clock p =>
      cases p with
      | done r =>
        obtain ⟨rfl, rfl⟩ := Prod.mk.inj (Option.some.inj h)
        exact .inl ⟨rfl, rfl⟩
      | perform m e k => exact .inr ⟨m, e, rfl, (of_stepProcess_perform h).2.2⟩
      | fork f k =>
        obtain ⟨rfl, rfl⟩ := Prod.mk.inj (Option.some.inj h)
        exact .inl ⟨rfl, rfl⟩
      | exhausted => cases h
    | waiting f units k =>
      obtain ⟨_, -, heq⟩ := Option.map_eq_some_iff.mp h
      exact .inl ⟨rfl, (Prod.mk.inj heq).2.symm⟩
    | finished => cases h
  | cons j way ih =>
    obtain ⟨f, units, k, u, u', rfl, hu, hstep, -⟩ := exists_of_actAt_cons h
    rw [requestAt?_cons hu]
    exact ih hstep

end Task

end ParLang
