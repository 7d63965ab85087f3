import Mathlib.Data.List.Forall2
import Mathlib.Data.List.Induction
import Mathlib.Data.List.Nodup

/-!
# Lists

What the theory needs of lists and has not found in the library.

* **Places.**  What stands at some places of a list, picked by number (`filterMap_range_filter`,
  `filterMap_range_eq_drop`) or taken out by number (`map_some_filterMap_zipIdx`,
  `filterMap_zipIdx_eq_filter`).
* **Related lists**, whose members are related one by one (`exists_getElem?_of_forall₂`,
  `exists_related_of_mem`, `exists_mem_iff_of_forall₂`, `forall₂_mapIdx`).
* **Searches** that find something for each member (`forall₂_filterMap`, `map_some_filterMap`,
  `mapM_eq_some_map`) or for one member only (`findSome?_eq_of_mem`).
* **Folds** that never fail (`foldlM_eq_some_foldl`).
* **Parts** of a list: phrases of two members (`pair_infix_append_iff`), members counted by a
  stronger condition (`countP_lt_countP_of_mem`) or dealt out by number (`perm_flatMap_filter`).
* **Duplicates**, where of members that are alike only the first stays
  (`eraseDupsBy_append_eraseDupsBy`).
-/

set_option autoImplicit false

namespace SqlDialects

/-! ## Places -/

/-- What stands at some of the places of a list. -/
theorem filterMap_range_filter {α : Type} (l : List α) (p : Nat → Bool) :
    ((List.range l.length).filter p).filterMap (fun i => l[i]?) =
      (l.zipIdx.filter fun entry => p entry.2).map Prod.fst := by
  have hentry : ∀ entry ∈ l.zipIdx.filter fun entry => p entry.2, l[entry.2]? = some entry.1 :=
    fun entry hmem => List.mem_zipIdx_iff_getElem?.mp (List.mem_filter.mp hmem).1
  have hplaces : List.range l.length = l.zipIdx.map Prod.snd := by
    rw [List.zipIdx_map_snd, List.range_eq_range']
  rw [hplaces, List.filter_map, List.filterMap_map, ← List.filterMap_eq_map]
  exact List.filterMap_congr hentry

/-- What stands behind the first `n` places. -/
theorem filterMap_range_eq_drop {α : Type} (l : List α) (n : Nat) :
    ((List.range l.length).filter fun i => !decide (i < n)).filterMap (fun i => l[i]?) =
      l.drop n := by
  induction l using List.reverseRecOn with
  | nil => simp
  | append_singleton l a ih =>
    have hl : ∀ i ∈ (List.range l.length).filter fun i => !decide (i < n),
        (l ++ [a])[i]? = l[i]? := by
      intro i hi
      exact List.getElem?_append_left (List.mem_range.mp (List.mem_filter.mp hi).1)
    rw [List.length_append, List.length_singleton, List.range_succ, List.filter_append,
      List.filterMap_append, List.filterMap_congr hl, ih]
    by_cases hn : l.length < n
    · rw [List.drop_eq_nil_of_le (Nat.le_of_lt hn),
        List.drop_eq_nil_of_le (by rw [List.length_append]; exact hn)]
      simp [hn]
    · simp [hn, List.drop_append_of_le_length (Nat.not_lt.mp hn)]

/-- Entries are taken out of a list by their places. -/
theorem map_some_filterMap_zipIdx {α : Type} (l : List α) (p : Nat → Bool) :
    (l.zipIdx.filterMap fun entry => if p entry.2 then none else some entry.1).map some =
      ((List.range l.length).filter fun i => !p i).map fun i => l[i]? := by
  induction l using List.reverseRecOn with
  | nil => rfl
  | append_singleton l a ih =>
    have hl : ∀ i ∈ (List.range l.length).filter fun i => !p i, (l ++ [a])[i]? = l[i]? := by
      intro i hi
      exact List.getElem?_append_left (List.mem_range.mp (List.mem_filter.mp hi).1)
    rw [List.zipIdx_append, List.filterMap_append, List.map_append, ih, List.length_append,
      List.length_singleton, List.range_succ, List.filter_append, List.map_append,
      List.map_congr_left hl]
    cases hp : p l.length <;> simp [hp]

/-- Entries are taken out of a list by what they are, if their places tell as much. -/
theorem filterMap_zipIdx_eq_filter {α : Type} {l : List α} {p : Nat → Prop} [DecidablePred p]
    {q : α → Bool} (h : ∀ (i : Nat) (a : α), l[i]? = some a → (p i ↔ q a = false)) :
    (l.zipIdx.filterMap fun entry => if p entry.2 then none else some entry.1) = l.filter q := by
  have hentry : ∀ entry ∈ l.zipIdx, (if p entry.2 then none else some entry.1) =
      (if q entry.1 then some entry.1 else none : Option α) := by
    intro entry hmem
    have hp := h entry.2 entry.1 (List.mem_zipIdx_iff_getElem?.mp hmem)
    cases hq : q entry.1 <;> simp [hp, hq]
  rw [List.filterMap_congr hentry, ← List.filterMap_eq_filter]
  conv_rhs => rw [← List.zipIdx_map_fst 0 l, List.filterMap_map]
  rfl

/-! ## Related lists -/

section Related

variable {α β : Type} {R : α → β → Prop} {l : List α} {m : List β}

/-- What stands in related lists at one place is related. -/
theorem exists_getElem?_of_forall₂ (h : List.Forall₂ R l m) {i : Nat} {a : α}
    (ha : l[i]? = some a) : ∃ b, m[i]? = some b ∧ R a b := by
  induction h generalizing i with
  | nil => simp at ha
  | @cons x y l m hxy _ ih =>
    cases i with
    | zero =>
      obtain rfl := Option.some.inj ha
      exact ⟨y, rfl, hxy⟩
    | succ i => exact ih ha

theorem exists_related_of_mem (h : List.Forall₂ R l m) {b : β} (hb : b ∈ m) :
    ∃ a ∈ l, R a b := by
  obtain ⟨i, hi⟩ := List.getElem?_of_mem hb
  obtain ⟨a, ha, hab⟩ := exists_getElem?_of_forall₂ h.flip hi
  exact ⟨a, List.mem_of_getElem? ha, hab⟩

/-- What is true of a member of one list is true of the related member of the other. -/
theorem exists_mem_iff_of_forall₂ (h : List.Forall₂ R l m) {P : α → Prop} {Q : β → Prop}
    (hPQ : ∀ a b, R a b → (P a ↔ Q b)) : (∃ a ∈ l, P a) ↔ ∃ b ∈ m, Q b := by
  induction h with
  | nil => simp
  | @cons a b l m hab _ ih =>
    simp only [List.exists_mem_cons_iff]
    exact or_congr (hPQ a b hab) ih

/-- A list is related to what its members become at their places. -/
theorem forall₂_mapIdx {f : Nat → α → β} (h : ∀ i, ∀ a ∈ l, R a (f i a)) :
    List.Forall₂ R l (l.mapIdx f) := by
  induction l generalizing f with
  | nil => exact .nil
  | cons a l ih =>
    rw [List.mapIdx_cons]
    exact .cons (h 0 a List.mem_cons_self)
      (ih fun i b hb => h (i + 1) b (List.mem_cons_of_mem _ hb))

end Related

/-! ## Searches -/

theorem forall₂_filterMap {α β : Type} {f : α → Option β} {l : List α}
    (h : ∀ a ∈ l, ∃ b, f a = some b) :
    List.Forall₂ (fun a b => f a = some b) l (l.filterMap f) := by
  induction l with
  | nil => exact .nil
  | cons a l ih =>
    rw [List.forall_mem_cons] at h
    obtain ⟨⟨b, hb⟩, hl⟩ := h
    rw [List.filterMap_cons_some hb]
    exact .cons hb (ih hl)

/-- What a search finds for each entry, if it never fails. -/
theorem map_some_filterMap {α β : Type} {f : α → Option β} {l : List α}
    (h : ∀ a ∈ l, ∃ b, f a = some b) : (l.filterMap f).map some = l.map f := by
  have hfound := forall₂_filterMap h
  have hsame : List.Forall₂ Eq (l.map f) ((l.filterMap f).map some) :=
    List.forall₂_map_left_iff.mpr (List.forall₂_map_right_iff.mpr hfound)
  exact (List.forall₂_eq_eq_eq ▸ hsame).symm

theorem mapM_eq_some_map {α β : Type} {f : α → Option β} {g : α → β} {l : List α}
    (h : ∀ a ∈ l, f a = some (g a)) : l.mapM f = some (l.map g) := by
  induction l with
  | nil => rfl
  | cons a l ih =>
    rw [List.forall_mem_cons] at h
    rw [List.mapM_cons, h.1, ih h.2]
    rfl

/-- What is found in a list is what one member gives, if no other gives anything else. -/
theorem findSome?_eq_of_mem {α β : Type} {f : α → Option β} {l : List α} {a : α} {b : β}
    (ha : a ∈ l) (hb : f a = some b) (hall : ∀ a' ∈ l, ∀ b', f a' = some b' → a' = a) :
    l.findSome? f = some b := by
  have hsome : (l.findSome? f).isSome = true :=
    List.findSome?_isSome_iff.mpr ⟨a, ha, Option.isSome_of_eq_some hb⟩
  obtain ⟨b', hb'⟩ := Option.isSome_iff_exists.mp hsome
  obtain ⟨a', ha', hfound⟩ := List.exists_of_findSome?_eq_some hb'
  rw [hall a' ha' b' hfound, hb] at hfound
  rw [hb', hfound]

/-! ## Folds -/

/-- A fold goes on to the end if each step goes on from what the steps before it keep true. -/
theorem foldlM_eq_some_foldl {α β : Type} {step? : β → α → Option β} {step : β → α → β}
    {P : β → Prop} {l : List α}
    (h : ∀ b, P b → ∀ a ∈ l, step? b a = some (step b a) ∧ P (step b a)) {b : β} (hb : P b) :
    l.foldlM step? b = some (l.foldl step b) := by
  induction l generalizing b with
  | nil => rfl
  | cons a l ih =>
    obtain ⟨hstep, hnext⟩ := h b hb a List.mem_cons_self
    rw [List.foldlM_cons, hstep, Option.bind_eq_bind, Option.bind_some, List.foldl_cons]
    exact ih (fun b hb a ha => h b hb a (List.mem_cons_of_mem _ ha)) hnext

/-! ## Parts -/

/-- Two members that stand together in two parts do so in one of them, unless the second part begins
with the second of the two. -/
theorem pair_infix_append_iff {α : Type} {a b : α} {s t : List α} (ht : t.head? ≠ some b) :
    [a, b] <:+: s ++ t ↔ [a, b] <:+: s ∨ [a, b] <:+: t := by
  induction s with
  | nil => simp
  | cons c s ih =>
    have hstart : [a, b] <+: c :: (s ++ t) ↔ [a, b] <+: c :: s := by
      cases s with
      | nil =>
        cases t with
        | nil => rfl
        | cons d t =>
          have hd : d ≠ b := fun h => ht (congrArg some h)
          simp [List.cons_prefix_cons, hd.symm]
      | cons => simp [List.cons_prefix_cons]
    rw [List.cons_append, List.infix_cons_iff, List.infix_cons_iff, ih, hstart, or_assoc]

theorem countP_lt_countP_of_mem {α : Type} {p q : α → Bool} {l : List α}
    (hle : ∀ a ∈ l, p a = true → q a = true) {a : α} (ha : a ∈ l) (hp : p a = false)
    (hq : q a = true) : l.countP p < l.countP q := by
  obtain ⟨front, back, rfl⟩ := List.append_of_mem ha
  have hfront : front.countP p ≤ front.countP q :=
    List.countP_mono_left fun x hx => hle x (List.mem_append_left _ hx)
  have hback : back.countP p ≤ back.countP q :=
    List.countP_mono_left fun x hx => hle x (List.mem_append_right _ (List.mem_cons_of_mem _ hx))
  simp only [List.countP_append, List.countP_cons, hp, hq]
  simp only [Bool.false_eq_true, if_false, if_true]
  omega

/-- Members that are dealt out by their numbers are all there, where no number comes twice. -/
theorem perm_flatMap_filter {α : Type} {number : α → Int} {ids : List Int} (hnodup : ids.Nodup)
    {l : List α} (hids : ∀ a ∈ l, number a ∈ ids) :
    (ids.flatMap fun id => l.filter fun a => number a = id).Perm l := by
  induction ids generalizing l with
  | nil =>
    obtain rfl : l = [] := List.eq_nil_iff_forall_not_mem.mpr fun a ha => by simpa using hids a ha
    exact .nil
  | cons id ids ih =>
    obtain ⟨hid, hnodup⟩ := List.nodup_cons.mp hnodup
    have hothers : ∀ other ∈ ids, (l.filter fun a => number a = other) =
        (l.filter fun a => ¬number a = id).filter fun a => number a = other := by
      intro other hother
      rw [List.filter_filter]
      refine List.filter_congr fun a _ => ?_
      have hne : other ≠ id := fun h => hid (h ▸ hother)
      by_cases h : number a = other <;> simp [h, hne]
    rw [List.flatMap_cons, List.flatMap_congr hothers]
    refine ((ih hnodup fun a ha => ?_).append_left _).trans ?_
    · obtain ⟨hmem, hne⟩ := List.mem_filter.mp ha
      exact (List.mem_cons.mp (hids a hmem)).resolve_left (of_decide_eq_true hne)
    · simpa using List.filter_append_perm (fun a => decide (number a = id)) l

/-! ## Duplicates -/

section Duplicates

variable {α : Type} {r : α → α → Bool}

theorem eraseDupsBy_concat (l : List α) (a : α) :
    (l ++ [a]).eraseDupsBy r =
      if (l.eraseDupsBy r).any (r a) then l.eraseDupsBy r else l.eraseDupsBy r ++ [a] := by
  suffices h : ∀ kept, List.eraseDupsBy.loop r (l ++ [a]) kept =
      if (List.eraseDupsBy.loop r l kept).any (r a) then List.eraseDupsBy.loop r l kept
      else List.eraseDupsBy.loop r l kept ++ [a] from h []
  induction l with
  | nil =>
    intro kept
    simp only [List.nil_append, List.eraseDupsBy.loop, List.any_reverse]
    cases kept.any (r a) <;> simp
  | cons b l ih =>
    intro kept
    cases h : kept.any (r b) with
    | true => simp only [List.cons_append, List.eraseDupsBy.loop, h, ih]
    | false => simp only [List.cons_append, List.eraseDupsBy.loop, h, ih]

theorem mem_of_mem_eraseDupsBy {l : List α} {a : α} (h : a ∈ l.eraseDupsBy r) : a ∈ l := by
  induction l using List.reverseRecOn with
  | nil => exact h
  | append_singleton l b ih =>
    rw [eraseDupsBy_concat] at h
    split at h
    · exact List.mem_append_left _ (ih h)
    · rcases List.mem_append.mp h with h | h
      · exact List.mem_append_left _ (ih h)
      · exact List.mem_append_right _ h

theorem pairwise_eraseDupsBy (l : List α) :
    (l.eraseDupsBy r).Pairwise fun a b => r b a = false := by
  induction l using List.reverseRecOn with
  | nil => exact .nil
  | append_singleton l b ih =>
    rw [eraseDupsBy_concat]
    split
    · exact ih
    · next h =>
      rw [Bool.not_eq_true, List.any_eq_false] at h
      refine List.pairwise_append.mpr ⟨ih, List.pairwise_singleton _ _, fun a ha c hc => ?_⟩
      rw [List.mem_singleton.mp hc]
      exact Bool.not_eq_true _ ▸ h a ha

theorem exists_mem_eraseDupsBy (hrefl : ∀ a, r a a = true) {l : List α} {a : α} (h : a ∈ l) :
    ∃ b ∈ l.eraseDupsBy r, r a b = true := by
  induction l using List.reverseRecOn with
  | nil => contradiction
  | append_singleton l b ih =>
    rw [eraseDupsBy_concat]
    rcases List.mem_append.mp h with h | h
    · obtain ⟨c, hc, hac⟩ := ih h
      refine ⟨c, ?_, hac⟩
      split
      · exact hc
      · exact List.mem_append_left _ hc
    · rw [List.mem_singleton.mp h]
      split
      · next hany => exact List.any_eq_true.mp hany
      · exact ⟨b, List.mem_append_right _ List.mem_cons_self, hrefl b⟩

theorem eraseDupsBy_append_eraseDupsBy (hrefl : ∀ a, r a a = true)
    (htrans : ∀ a b c, r a b = true → r b c = true → r a c = true) (l m : List α) :
    (l ++ m.eraseDupsBy r).eraseDupsBy r = (l ++ m).eraseDupsBy r := by
  induction m using List.reverseRecOn with
  | nil => rfl
  | append_singleton m a ih =>
    rw [eraseDupsBy_concat, ← List.append_assoc, eraseDupsBy_concat (l ++ m)]
    split
    · next hany =>
      -- whatever is like `a` in `m` has something like it in front of `a` on the right too
      obtain ⟨b, hb, hab⟩ := List.any_eq_true.mp hany
      obtain ⟨c, hc, hbc⟩ := exists_mem_eraseDupsBy hrefl
        (List.mem_append_right l (mem_of_mem_eraseDupsBy hb))
      rw [if_pos (List.any_eq_true.mpr ⟨c, hc, htrans a b c hab hbc⟩), ih]
    · rw [← List.append_assoc, eraseDupsBy_concat, ih]

end Duplicates

end SqlDialects
