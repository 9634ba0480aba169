import Mathlib.Data.List.Basic
import Mathlib.Data.Nat.Notation

/-!
# Working off a stack

What is on top of a stack is taken off, and what it leads to is put on it. `popped` is what is taken
off in so many steps. When everything that an item leads to is a finite list, as many steps as there are
items take off all of them and nothing else (`popped_perm`).
-/

set_option autoImplicit false
set_option relaxedAutoImplicit false

namespace N0te.Library

section

variable {α : Type} (next : α → List α)

/-- What is taken off a stack in so many steps. The items that one leads to are put on in turn. -/
def popped : ℕ → List α → List α
  | 0, _ => []
  | _ + 1, [] => []
  | n + 1, item :: rest => item :: popped n ((next item).reverse ++ rest)

/-- All that an item leads to, beginning with itself. -/
def IsWhole (whole : α → List α) : Prop := ∀ item, whole item = item :: (next item).flatMap whole

variable {next} {whole : α → List α} (hwhole : IsWhole next whole)

include hwhole

theorem flatMap_push (item : α) (rest : List α) :
    (((next item).reverse ++ rest).flatMap whole).length + 1 =
      ((item :: rest).flatMap whole).length := by
  have hreverse : ((next item).reverse.flatMap whole).length =
      ((next item).flatMap whole).length :=
    ((List.reverse_perm (next item)).flatMap_right whole).length_eq
  rw [List.flatMap_append, List.length_append, hreverse, List.flatMap_cons, hwhole item,
    List.length_append, List.length_cons]
  omega

/-- Enough steps take off all that is on a stack and all that it leads to. -/
theorem popped_perm {n : ℕ} {stack : List α} (h : (stack.flatMap whole).length ≤ n) :
    (popped next n stack).Perm (stack.flatMap whole) := by
  induction n generalizing stack with
  | zero =>
    rw [List.length_eq_zero_iff.mp (Nat.le_zero.mp h), popped]
  | succ n ih =>
    cases stack with
    | nil => exact .nil
    | cons item rest =>
      have hpush := flatMap_push hwhole item rest
      have henough : (((next item).reverse ++ rest).flatMap whole).length ≤ n := by omega
      have hrest := ih henough
      rw [popped, List.flatMap_cons, hwhole item, List.cons_append]
      refine .cons item (hrest.trans ?_)
      rw [List.flatMap_append]
      exact ((List.reverse_perm (next item)).flatMap_right whole).append_right _

end

end N0te.Library
