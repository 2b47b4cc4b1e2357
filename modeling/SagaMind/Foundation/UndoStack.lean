import Mathlib.Data.List.Basic

/-!
# Acts that are undone newest first

A stack of acts leads from one world to another. Where an act can be undone in
the very world it has left, undoing the top of the stack leads back to the
world below it, and an empty stack is the world it all started from.
-/

namespace Undoing

set_option autoImplicit false

variable {Act World : Type}

/-- These acts, newest first, lead from `start` to the world. -/
inductive Stacked (applies : Act → World → World → Prop) (start : World) :
    List Act → World → Prop
  | nil : Stacked applies start [] start
  | push {act acts before after} (earlier : Stacked applies start acts before)
      (applied : applies act before after) : Stacked applies start (act :: acts) after

/-- Undoing the act right after it gives back the world before it. -/
def Reverses (applies undoes : Act → World → World → Prop) (act : Act) : Prop :=
  ∀ before between after, applies act before between → undoes act between after → after = before

variable {applies undoes : Act → World → World → Prop} {start world after : World}
  {act : Act} {acts : List Act}

theorem Stacked.bottom (stacked : Stacked applies start [] world) : world = start := by
  cases stacked
  rfl

theorem Stacked.pop (stacked : Stacked applies start (act :: acts) world)
    (reverses : Reverses applies undoes act) (undone : undoes act world after) :
    Stacked applies start acts after := by
  cases stacked with
  | push earlier applied =>
      have back := reverses _ _ _ applied undone
      rw [back]
      exact earlier

end Undoing
