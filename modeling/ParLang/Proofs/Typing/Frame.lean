import ParLang.Proofs.Resolution.Traced

/-!
# What a statement leaves behind

However the check of a statement ends, the context behind it is the one before it, but for the one
variable that the statement declares and the one function that it defines (`Check.Extends`). Everything
else it does goes on in contexts of its own: most of its parts only look at the context (`Check.Leaves`),
and blocks are checked in nested scopes. The units of a parallel block therefore see the same context, one
like the other, and the block is accepted if each of them is, in whatever order they stand.
-/

namespace ParLang

namespace Check

variable {c : Context} {s : Stmt}

/-! ## Parts that leave the context -/

namespace Leaves

/-- A unit is checked in a scope that goes with it. -/
theorem unit (s : Stmt) : Leaves (Check.within none (Check.nested (statement s))) :=
  (Leaves.nested (statement_restores s)).within none

/-- So are the units of a block. -/
theorem units (ss : List Stmt) : Leaves (Check.units ss) := by
  induction ss with
  | nil => exact .pure ()
  | cons s rest ih =>
    rw [Check.units]
    cases jumpOf? s with
    | none => exact .bind (.unit s) fun _ => ih
    | some j => exact .bind (.reject _ _) fun _ => ih

end Leaves

/-! ## Statements -/

/-- Behind the statement the context is what it was, or has the variable that the statement declares, or
has the function that it defines. -/
inductive Extends (s : Stmt) (c : Context) : Context → Prop where
  | same : Extends s c c
  | «variable» {x t} (hs : s.declares? = some (x, t))
      (hfree : c.names.scopes.inner.contains x = false) : Extends s c (c.declared x t)
  | function {d σ} (hs : s = .function d) (hfree : c.names.functions.contains d.name = false) :
      Extends s c (c.defined d.name σ)

/-- What leaves the context adds nothing to it. -/
theorem Leaves.extends {x : Check Unit} (hx : Leaves x) : Extends s c (x c).2 := by
  rw [hx c]
  exact .same

end Check

end ParLang
