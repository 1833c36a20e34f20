import Mathlib.Data.List.Induction

/-! # The latest element that says anything

Much is built here by steps of which each may set something: a catalog, a table of handlers, a request
type.  What a step says about one thing is an option, and of the steps that say anything the **latest**
counts (`latest?`).

It is told from the steps alone, and what the steps leave behind is told from it (`read_foldl`). -/

namespace UsbPeripheral

section latest

variable {α β : Type} {say : α → Option β} {xs : List α} {x : α}

/-- What the latest element says that says anything. -/
def latest? (say : α → Option β) (xs : List α) : Option β := xs.reverse.findSome? say

theorem latest?_concat (say : α → Option β) (xs : List α) (x : α) :
    latest? say (xs ++ [x]) = (say x).or (latest? say xs) := by
  unfold latest?
  rw [List.reverse_append, List.reverse_singleton, List.singleton_append, List.findSome?_cons]
  cases say x <;> rfl

theorem latest?_cons (say : α → Option β) (x : α) (xs : List α) :
    latest? say (x :: xs) = (latest? say xs).or (say x) := by
  unfold latest?
  rw [List.reverse_cons, List.findSome?_append, List.findSome?_singleton]

theorem latest?_eq_none_iff : latest? say xs = none ↔ ∀ x ∈ xs, say x = none := by
  unfold latest?
  rw [List.findSome?_eq_none_iff]
  simp only [List.mem_reverse]

theorem latest?_isSome_of_mem (hx : x ∈ xs) (hsay : (say x).isSome = true) :
    (latest? say xs).isSome = true := by
  rw [Option.isSome_iff_ne_none]
  intro hnone
  rw [latest?_eq_none_iff.mp hnone x hx] at hsay
  cases hsay

/-- It is said by one of the elements. -/
theorem exists_mem_of_latest? {b : β} (h : latest? say xs = some b) : ∃ x ∈ xs, say x = some b := by
  obtain ⟨x, hx, hsay⟩ := List.exists_of_findSome?_eq_some h
  exact ⟨x, List.mem_reverse.mp hx, hsay⟩

/-- Elements that say nothing can be left out. -/
theorem latest?_filter {keep : α → Bool} (h : ∀ x, keep x = false → say x = none) (xs : List α) :
    latest? say (xs.filter keep) = latest? say xs := by
  induction xs using List.reverseRecOn with
  | nil => rfl
  | append_singleton xs x ih =>
      rw [List.filter_append, latest?_concat]
      cases hkeep : keep x with
      | true => rw [List.filter_cons_of_pos hkeep, List.filter_nil, latest?_concat, ih]
      | false =>
          rw [List.filter_cons_of_neg (ne_true_of_eq_false hkeep), List.filter_nil,
            List.append_nil, ih, h x hkeep]
          rfl

/-- **What steps leave behind is what the latest one says that says anything**, if the others leave it
alone. -/
theorem read_foldl {σ γ : Type} {step : σ → α → σ} {init : σ} (read : σ → γ) (say : α → Option β)
    (got : Option β → γ) (hinit : read init = got none)
    (hsilent : ∀ s, ∀ x ∈ xs, say x = none → read (step s x) = read s)
    (htold : ∀ s, ∀ x ∈ xs, ∀ b, say x = some b → read (step s x) = got (some b)) :
    read (xs.foldl step init) = got (latest? say xs) := by
  induction xs using List.reverseRecOn with
  | nil => exact hinit
  | append_singleton xs x ih =>
      have hx : x ∈ xs ++ [x] := List.mem_append_right _ (List.mem_singleton_self x)
      have ih := ih (fun s y hy => hsilent s y (List.mem_append_left _ hy))
        fun s y hy => htold s y (List.mem_append_left _ hy)
      rw [List.foldl_append, latest?_concat]
      cases hsay : say x with
      | none => exact (hsilent _ x hx hsay).trans ih
      | some b => exact htold _ x hx b hsay

end latest

end UsbPeripheral
