import Mathlib.Order.Defs.PartialOrder
import ParLang.Proofs.Execution.Confined
import ParLang.Proofs.Value.Heap

/-!
# Runs of a fragment

What is true of a confined process is true of every run under every schedule: at every step the calls,
the forks and the effects are those of the fragment, and every array that a unit holds is in the heap,
with all arrays in its cells (`Heap.Closed`). So no run comes to an array that is not there.
-/

namespace ParLang

variable {F : Fragment} {K : Set Handle}

/-! ## Known arrays in the heap -/

namespace Heap

/-- The arrays of `K` are there, and their cells hold only arrays of `K`. -/
def Closed (heap : Heap) (K : Set Handle) : Prop :=
  ∀ h ∈ K, ∃ cells, heap.get? h = some cells ∧ arrays cells.toList ⊆ K

variable {heap : Heap}

/-- If no array is known then nothing that is known leads out. -/
theorem closed_empty (heap : Heap) : heap.Closed ∅ :=
  fun _ h => h.elim

/-- What is in a known array is known. -/
theorem Closed.items (h : heap.Closed K) {handle : Handle} (hh : handle ∈ K) :
    arrays (heap.items handle) ⊆ K := by
  obtain ⟨cells, hcells, hK⟩ := h handle hh
  rw [Heap.items, hcells]
  exact hK

/-- The arrays of a list include those of each value in it. -/
theorem arrays_subset_of_mem {l : List Value} {v : Value} (h : v ∈ l) : arrays v ⊆ arrays l :=
  fun _ hh => ⟨v, h, hh⟩

/-- The same for one cell, if it is there. -/
theorem Closed.cell? (h : heap.Closed K) {handle : Handle} (hh : handle ∈ K) (i : Nat) :
    arrays (heap.cell? handle i).toList ⊆ K := by
  obtain ⟨cells, hcells, hK⟩ := h handle hh
  rw [Heap.cell?, hcells, Option.bind_some]
  cases hi : cells[i]? with
  | none => simp
  | some v =>
    have hv : arrays v ⊆ arrays cells.toList :=
      arrays_subset_of_mem (Array.mem_toList_iff.mpr (Array.mem_of_getElem? hi))
    simpa using hv.trans hK

/-- What is asked about known arrays is answered with known arrays. -/
theorem Closed.answer (h : heap.Closed K) {q : Query} (hq : q.arrays ⊆ K) :
    q.replyArrays (heap.answer q) ⊆ K := by
  cases q with
  | cell handle i => exact h.cell? (hq rfl) i
  | items handle => exact h.items (hq rfl)
  | _ => exact Set.empty_subset _

/-- An array made of known things can be made known. -/
theorem Closed.alloc (h : heap.Closed K) (unit : UnitId) {items : Array Value}
    (hitems : arrays items.toList ⊆ K) :
    (heap.alloc unit items).2.Closed (insert (heap.alloc unit items).1 K) := by
  intro handle hh
  rw [heap.get?_alloc]
  split
  · exact ⟨items, rfl, hitems.trans (Set.subset_insert _ _)⟩
  · next hne =>
    obtain ⟨cells, hcells, hK⟩ := h handle (hh.resolve_left hne)
    exact ⟨cells, hcells, hK.trans (Set.subset_insert _ _)⟩

/-- Storing a known thing leads nowhere new. -/
theorem Closed.setCell (h : heap.Closed K) (handle : Handle) (i : Nat) {v : Value}
    (hv : arrays v ⊆ K) : (heap.setCell handle i v).Closed K := by
  intro handle' hh
  obtain ⟨cells, hcells, hK⟩ := h handle' hh
  rw [heap.get?_setCell]
  split
  · next heq =>
    subst heq
    refine ⟨cells.setIfInBounds i v, by rw [hcells, Option.map_some], ?_⟩
    rintro h' ⟨v', hv', hh'⟩
    rcases Array.mem_or_eq_of_mem_setIfInBounds (Array.mem_toList_iff.mp hv') with hmem | rfl
    · exact hK ⟨v', Array.mem_toList_iff.mpr hmem, hh'⟩
    · exact hv hh'
  · exact ⟨cells, hcells, hK⟩

end Heap

/-! ## The protocol -/

/-- What is around the program knows no arrays. -/
theorem Effect.replyArrays_outside {e : Effect} (he : e.isOutside = true) (r : e.Reply) :
    e.replyArrays r = ∅ := by
  cases e <;> first | rfl | cases he

/-- The arrays that are known behind an effect. -/
theorem World.answer_closed {w : World} {e : Effect} (unit : UnitId) (hw : w.heap.Closed K)
    (he : e.arrays ⊆ K) :
    ∃ K', K ⊆ K' ∧ (w.answer unit e).2.heap.Closed K' ∧
      e.replyArrays (w.answer unit e).1 ⊆ K' := by
  cases e with
  | inspect q => exact ⟨K, subset_rfl, hw, hw.answer he⟩
  | alloc items =>
    refine ⟨_, Set.subset_insert _ K, hw.alloc unit he, ?_⟩
    exact Set.singleton_subset_iff.mpr (Set.mem_insert _ _)
  | setCell h i v =>
    have hstored := hw.setCell h i ((Set.subset_insert _ _).trans he)
    refine ⟨K, subset_rfl, ?_, Set.empty_subset _⟩
    simp only [World.answer]
    split
    · exact hstored
    · exact hw
  | _ => exact ⟨K, subset_rfl, hw, Set.empty_subset _⟩

/-- Units of a fragment that know only arrays of the heap. -/
def fragmentProtocol (F : Fragment) : Protocol (Set Handle) Unit where
  machine K m := F.Fits m.unit m.forks K m
  request K _ _ e := F.Allows K e
  reply K _ e r := e.replyArrays r ⊆ K
  fork K f := F.Fits f.machine.unit f.machine.forks K f.machine ∧ F.Forks f.units
  result _ := True
  world K w := w.heap.Closed K
  machine_mono hK h := h.mono hK
  request_mono hK h := h.mono hK
  fork_mono hK h := ⟨h.1.mono hK, h.2⟩
  fork_machine h := h.1
  answer m hw he := World.answer_closed m.unit hw he.known
  outside r _ he := Effect.replyArrays_outside he r ▸ Set.empty_subset _
  around _ hw := hw
  panic _ := trivial

/-- A confined process keeps the protocol. -/
theorem Process.Confined.keeps {α : Type} {u : UnitId} {j : Nat} {p : Process α}
    {post : Nat → Set Handle → α → Prop} (h : p.Confined F u post j K) :
    p.Keeps (fragmentProtocol F) (fun K a => ∃ j, post j K a) K := by
  induction p generalizing j K with
  | done a => exact ⟨j, h⟩
  | perform m e c ih =>
    obtain ⟨hm, he, hc⟩ := h
    have hm' : F.Fits m.unit m.forks K m := ⟨rfl, rfl, hm.known, hm.functions⟩
    exact ⟨hm', (), he, fun K' r hK hr => ih r (hc K' r hK hr)⟩
  | fork f c ih =>
    obtain ⟨hm, hf, hc⟩ := h
    have hm' : F.Fits f.machine.unit f.machine.forks K f.machine :=
      ⟨rfl, rfl, hm.known, hm.functions⟩
    exact ⟨⟨hm', hf⟩, fun K' rs hK _ => ih rs (hc K' rs hK)⟩
  | exhausted => trivial

/-- What stays within a fragment keeps the protocol of that fragment, as the whole of a unit. -/
theorem Exec.Confined.keeps {x : Exec Unit} {m : Machine} (hx : Exec.Confined F K x)
    (hm : F.Fits m.unit m.forks K m) :
    (x m).Keeps (fragmentProtocol F) (Task.EndsAs (fragmentProtocol F)) K := by
  refine (hx _ _ K m subset_rfl hm).keeps.weaken ?_
  rintro K' ⟨r, m'⟩ - ⟨j, hm', -⟩
  exact ⟨⟨rfl, rfl, hm'.known, hm'.functions⟩, trivial⟩

/-- The units of a block start with what is known at the fork. -/
theorem forksKeep_fragment (F : Fragment) : Task.ForksKeep (fragmentProtocol F) := by
  rintro K f ⟨hm, hf⟩ s hs i
  have hchild := hm.child i
  exact (Exec.confined_runUnit (hf.stmt hs)).keeps ⟨rfl, rfl, hchild.known, hchild.functions⟩

/-! ## Runs -/

/-- Units that one of the units starts next. -/
inductive Task.Starts : Task → Fork → Prop where
  | forking {clock f c} : Starts (.running clock (.fork f c)) f
  | unit {f units c u g} (hu : u ∈ units) (h : Starts u g) : Starts (.waiting f units c) g

/-- Where a task that keeps the protocol forks, the protocol has permitted the fork. -/
theorem Task.Keeps.starts {κ γ : Type} [Preorder κ] {P : Protocol κ γ} {k : κ} {t : Task} {f : Fork}
    (h : t.Keeps P k) (hf : t.Starts f) : P.fork k f := by
  induction hf with
  | forking => exact h.1
  | unit hu _ ih => exact ih (Task.keepAll_iff.mp h.2.1 _ hu)

/-- The first machine of a session knows no array, and there is none. -/
theorem Fragment.fits_initial (F : Fragment) : F.Fits [] 0 ∅ .initial :=
  ⟨rfl, rfl, Scopes.each_empty_cons.mpr fun _ hs => (nomatch hs), fun _ _ _ _ hf => (nomatch hf)⟩

/-- **Every run of a program of a fragment** keeps the protocol at every step. -/
theorem Task.keeps_of_reaches {ss : List Stmt} (hss : ∀ s ∈ ss, F.stmt s) {budget clock : Nat}
    {t : Task} {w w' : World}
    (hrun : Reaches (.start clock (Exec.runProgram budget ss) .initial) w t w') :
    ∃ K, t.Keeps (fragmentProtocol F) K ∧ w'.heap.Closed K := by
  have hstart : (Task.start clock (Exec.runProgram budget ss) .initial).Keeps
      (fragmentProtocol F) ∅ := (Exec.confined_runProgram hss).keeps F.fits_initial
  obtain ⟨K, -, hkeeps, hworld⟩ :=
    hstart.run (forksKeep_fragment F) w.heap.closed_empty hrun
  exact ⟨K, hkeeps, hworld⟩

/-! ## Machines of runs -/

/-- Every array that the variables of the machine lead to is in the heap. -/
def Machine.Rooted (m : Machine) (heap : Heap) : Prop :=
  ∃ K, heap.Closed K ∧ Scopes.Each (fun _ v => arrays v ⊆ K) m.scopes.toList

/-- The whole language. -/
def Fragment.whole : Fragment where
  stmt _ := True
  expr _ := True
  callee _ := True
  shares := True
  part _ _ := trivial
  operand _ _ := trivial
  suboperand _ _ := trivial
  call _ := trivial
  builtin _ _ := .inr trivial
  cell _ := trivial
  server _ := trivial
  client _ := trivial

/-- **No array is ever missing**: every machine in every run of every program is rooted. -/
theorem Task.rooted_of_reaches {ss : List Stmt} {budget clock : Nat} {t : Task} {w w' : World}
    {m : Machine}
    (hrun : Reaches (.start clock (Exec.runProgram budget ss) .initial) w t w') (hm : t.Shows m) :
    m.Rooted w'.heap := by
  obtain ⟨K, hkeeps, hclosed⟩ := Task.keeps_of_reaches (F := .whole) (fun _ _ => trivial) hrun
  exact ⟨K, hclosed, Fragment.Fits.known (hkeeps.machine hm)⟩

end ParLang
