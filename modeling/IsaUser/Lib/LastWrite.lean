import Mathlib.Data.List.Induction
import Mathlib.Data.Option.Basic

/-!
# Registers That Are Overwritten

A register that events write over: an event writes a value, or nothing, and what is there is what
was written last. What the register has in the end does not depend on the order of the events,
nor on their number, if those that write agree.

## Main results

* `lastWrite_cases`: it is what was there, or what an event writes.
* `lastWrite_congr`: after events that agree, the order does not matter.
-/

namespace IsaUser

variable {ε σ : Type*} {write : ε → Option σ} {a b : σ} {l l' : List ε}

def lastWrite (write : ε → Option σ) (a : σ) (l : List ε) : σ :=
  l.foldl (fun a e => (write e).getD a) a

def Agree (write : ε → Option σ) (l : List ε) : Prop :=
  ∀ e ∈ l, ∀ e' ∈ l, ∀ a ∈ write e, ∀ b ∈ write e', a = b

@[simp] theorem lastWrite_concat (e : ε) :
    lastWrite write a (l ++ [e]) = (write e).getD (lastWrite write a l) := by
  simp [lastWrite]

theorem Agree.subset (h : Agree write l) (hl : l' ⊆ l) : Agree write l' :=
  fun e he e' he' => h e (hl he) e' (hl he')

theorem lastWrite_cases (write : ε → Option σ) (a : σ) (l : List ε) :
    (∀ e ∈ l, write e = none) ∧ lastWrite write a l = a ∨
      ∃ e ∈ l, write e = some (lastWrite write a l) := by
  induction l using List.reverseRecOn with
  | nil => exact .inl ⟨fun e he => absurd he List.not_mem_nil, rfl⟩
  | append_singleton l e ih =>
    rw [lastWrite_concat]
    cases hwrite : write e with
    | some b => exact .inr ⟨e, by simp, hwrite⟩
    | none =>
      rcases ih with ⟨hsilent, hsame⟩ | ⟨e', he', hlast⟩
      · refine .inl ⟨fun e' he' => ?_, hsame⟩
        rcases List.mem_append.mp he' with he' | he'
        · exact hsilent e' he'
        · rwa [List.mem_singleton.mp he']
      · exact .inr ⟨e', List.mem_append_left _ he', hlast⟩

theorem lastWrite_eq_of_agree {e : ε} (h : Agree write l) (he : e ∈ l) (hb : write e = some b) :
    lastWrite write a l = b := by
  rcases lastWrite_cases write a l with ⟨hsilent, -⟩ | ⟨e', he', hlast⟩
  · rw [hsilent e he] at hb
    cases hb
  · exact h e' he' e he _ hlast b hb

theorem lastWrite_congr (h : Agree write l) (hl : l' ⊆ l) (hl' : l ⊆ l') :
    lastWrite write a l' = lastWrite write a l := by
  rcases lastWrite_cases write a l with ⟨hsilent, hsame⟩ | ⟨e, he, hlast⟩
  · rcases lastWrite_cases write a l' with ⟨-, hsame'⟩ | ⟨e, he, hlast⟩
    · exact hsame'.trans hsame.symm
    · rw [hsilent e (hl he)] at hlast
      cases hlast
  · exact lastWrite_eq_of_agree (h.subset hl) (hl' he) hlast

end IsaUser
