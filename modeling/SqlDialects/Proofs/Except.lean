import SqlDialects.Error
import SqlDialects.Proofs.List

/-!
# Computations that succeed

Functions that may fail are written as sequences of steps, and the first error ends them.  So when
the whole succeeds, every step has succeeded; `exists_of_bind_eq_ok` takes one step off the front,
and `forall₂_of_mapM_eq_ok` does so for a step taken with each member of a list.  Its results stand
where their members do (`exists_getElem?_of_forall₂`).

When the whole fails, it fails as one of its steps does; `FailsOnlyWith` says which errors there may
be.
-/

set_option autoImplicit false

namespace SqlDialects

variable {ε α β : Type}

/-- Both steps of a sequence that succeeds have succeeded. -/
theorem exists_of_bind_eq_ok {x : Except ε α} {f : α → Except ε β} {b : β}
    (h : (x >>= f) = .ok b) : ∃ a, x = .ok a ∧ f a = .ok b := by
  cases x with
  | error e => contradiction
  | ok a => exact ⟨a, rfl, h⟩

theorem bind_eq_ok_iff {x : Except ε α} {f : α → Except ε β} {b : β} :
    (x >>= f) = .ok b ↔ ∃ a, x = .ok a ∧ f a = .ok b := by
  refine ⟨exists_of_bind_eq_ok, ?_⟩
  rintro ⟨a, rfl, h⟩
  exact h

theorem eq_ok_of_toOption {x : Except ε α} {a : α} (h : x.toOption = some a) : x = .ok a := by
  cases x with
  | error e => contradiction
  | ok b => exact congrArg Except.ok (Option.some.inj h)

/-- Where a step succeeds with every member of a list, each result is that of its member. -/
theorem forall₂_of_mapM_eq_ok {f : α → Except ε β} {l : List α} {results : List β}
    (h : l.mapM f = .ok results) : List.Forall₂ (fun a b => f a = .ok b) l results := by
  induction l generalizing results with
  | nil =>
    rw [List.mapM_nil] at h
    obtain rfl := Except.ok.inj h
    exact .nil
  | cons a l ih =>
    rw [List.mapM_cons] at h
    obtain ⟨b, hb, h⟩ := exists_of_bind_eq_ok h
    obtain ⟨rest, hrest, h⟩ := exists_of_bind_eq_ok h
    obtain rfl := Except.ok.inj h
    exact .cons hb (ih hrest)

/-- A step that succeeds with every member of a list succeeds with the list. -/
theorem exists_mapM_eq_ok {f : α → Except ε β} {l : List α} (h : ∀ a ∈ l, ∃ b, f a = .ok b) :
    ∃ results, l.mapM f = .ok results := by
  induction l with
  | nil => exact ⟨[], rfl⟩
  | cons a l ih =>
    rw [List.forall_mem_cons] at h
    obtain ⟨⟨b, hb⟩, hl⟩ := h
    obtain ⟨rest, hrest⟩ := ih hl
    refine ⟨b :: rest, ?_⟩
    rw [List.mapM_cons, hb, hrest]
    rfl

/-! ## Computations that fail -/

/-- The computation has a value, or fails with an error that is allowed. -/
def FailsOnlyWith (allowed : ε → Prop) (x : Except ε α) : Prop := ∀ e, x = .error e → allowed e

namespace FailsOnlyWith

variable {allowed : ε → Prop}

theorem ok (a : α) : FailsOnlyWith allowed (.ok a) :=
  fun _ h => by contradiction

theorem error {e : ε} (h : allowed e) : FailsOnlyWith (α := α) allowed (.error e) :=
  fun _ he => Except.error.inj he ▸ h

theorem mono {weaker : ε → Prop} {x : Except ε α} (h : FailsOnlyWith allowed x)
    (hle : ∀ e, allowed e → weaker e) : FailsOnlyWith weaker x :=
  fun e he => hle e (h e he)

/-- Either step of a sequence may fail. -/
theorem bind {x : Except ε α} {f : α → Except ε β} (hx : FailsOnlyWith allowed x)
    (hf : ∀ a, FailsOnlyWith allowed (f a)) : FailsOnlyWith allowed (x >>= f) := by
  cases x with
  | error e => exact .error (hx e rfl)
  | ok a => exact hf a

theorem map {x : Except ε α} (hx : FailsOnlyWith allowed x) (f : α → β) :
    FailsOnlyWith allowed (x.map f) := by
  cases x with
  | error e => exact .error (hx e rfl)
  | ok a => exact .ok (f a)

theorem forM {f : α → Except ε Unit} (hf : ∀ a, FailsOnlyWith allowed (f a)) (l : List α) :
    FailsOnlyWith allowed (l.forM f) := by
  induction l with
  | nil => exact .ok ()
  | cons a l ih => exact (hf a).bind fun _ => ih

theorem mapM {f : α → Except ε β} (hf : ∀ a, FailsOnlyWith allowed (f a)) (l : List α) :
    FailsOnlyWith allowed (l.mapM f) := by
  induction l with
  | nil => exact .ok []
  | cons a l ih =>
    rw [List.mapM_cons]
    exact (hf a).bind fun b => ih.bind fun rest => .ok (b :: rest)

end FailsOnlyWith

end SqlDialects
