import Mathlib.Data.List.Basic

/-!
# Parsers that take cells off the front

A step parser gets a list of cells, takes some off the front and returns what it made of them
together with the rest, or a fault.  Two notions are enough to reason about a parser that is put
together from others:

- `Reads p block a`: the parser makes `a` of this block, whatever stands behind the block;
- `Local p`: that is the only way in which the parser succeeds.

Both go through sequences, choices and repetitions, so a parser built from local ones is local.
-/

namespace OpenDnp3.Lib

universe u

/-- A parser that returns what it has read and what it has left. -/
abbrev StepParser (ε β α : Type u) : Type u := List β → Except ε (α × List β)

section

variable {ε β α γ : Type u}

/-- The parser reads `a` off the block, whatever stands behind it. -/
def Reads (p : StepParser ε β α) (block : List β) (a : α) : Prop :=
  ∀ rest, p (block ++ rest) = .ok (a, rest)

/-- What the parser takes off the front is all that it looks at. -/
def Local (p : StepParser ε β α) : Prop :=
  ∀ buffer a rest, p buffer = .ok (a, rest) → ∃ block, buffer = block ++ rest ∧ Reads p block a

/-! ## Reading a block -/

namespace Reads

variable {p : StepParser ε β α} {f : α × List β → Except ε (γ × List β)}
  {block first second : List β} {a : α} {c : γ}

theorem pure (a : α) : Reads (fun rest => (.ok (a, rest) : Except ε (α × List β))) [] a :=
  fun _ => rfl

/-- One parser after the other. -/
theorem bind (hp : Reads p first a) (hf : Reads (fun rest => f (a, rest)) second c) :
    Reads (fun buffer => p buffer >>= f) (first ++ second) c := by
  intro rest
  rw [List.append_assoc]
  change (p (first ++ (second ++ rest)) >>= f) = _
  rw [hp (second ++ rest)]
  exact hf rest

/-- Nothing behind the block. -/
theorem alone (h : Reads p block a) : p block = .ok (a, []) := by
  have hnil := h []
  rwa [List.append_nil] at hnil

end Reads

/-! ## Local parsers -/

namespace Local

variable {p q : StepParser ε β α}

theorem pure (a : α) : Local (fun rest => (.ok (a, rest) : Except ε (α × List β))) := by
  intro buffer b rest h
  cases h
  exact ⟨[], rfl, Reads.pure a⟩

theorem error (e : ε) : Local (fun _ => (.error e : Except ε (α × List β))) := by
  intro buffer a rest h
  cases h

theorem bind {f : α × List β → Except ε (γ × List β)} (hp : Local p)
    (hf : ∀ a, Local (fun rest => f (a, rest))) : Local (fun buffer => p buffer >>= f) := by
  intro buffer c rest h
  change (p buffer >>= f) = _ at h
  cases hfirst : p buffer with
  | error e =>
    rw [hfirst] at h
    cases h
  | ok read =>
    rw [hfirst] at h
    obtain ⟨first, hbuffer, hreads⟩ := hp buffer read.1 read.2 hfirst
    obtain ⟨second, hrest, hreads'⟩ := hf read.1 read.2 c rest h
    refine ⟨first ++ second, ?_, hreads.bind hreads'⟩
    rw [hbuffer, hrest, List.append_assoc]

theorem ite {P : Prop} [Decidable P] (hp : Local p) (hq : Local q) :
    Local (fun buffer => if P then p buffer else q buffer) := by
  by_cases h : P
  · simp only [if_pos h]
    exact hp
  · simp only [if_neg h]
    exact hq

/-- A value that is there does not depend on the buffer. -/
theorem bindExcept {x : Except ε α} {f : α → StepParser ε β γ} (hf : ∀ a, Local (f a)) :
    Local (fun buffer => x >>= fun a => f a buffer) := by
  cases x with
  | error e => exact .error e
  | ok a => exact hf a

/-- What a local parser reads off the front, it reads off a block. -/
theorem reads (hp : Local p) {buffer rest : List β} {a : α} (h : p buffer = .ok (a, rest)) :
    ∃ block, buffer = block ++ rest ∧ Reads p block a := hp buffer a rest h

/-- A block that is read alone is read in front of anything. -/
theorem reads_alone (hp : Local p) {block : List β} {a : α} (h : p block = .ok (a, [])) :
    Reads p block a := by
  obtain ⟨block', hblock, hreads⟩ := hp block a [] h
  rw [List.append_nil] at hblock
  rwa [hblock]

end Local

end

end OpenDnp3.Lib
