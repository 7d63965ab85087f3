import SqlDialects.Proofs.Calendar.OrderVote

/-!
# What the settled order can read

The order of day and month is settled by the votes of the samples, and the culture decides a tie.
The votes are those of the samples as a collection, so the place of a sample does not count
(`ofSamples_perm`).

A sample does not vote unless it says in numbers which of the two comes first.  A day with the name
of its month is read in one order only and votes for none.  So samples that some order can read are
not always read by the order that they settle:

* **One vote is enough** for the order that reads them all, since no other sample votes against it
  (`ofSamples_of_vote`).  This leaves dates in ISO notation aside: they are read in any order, and
  may vote for any.
* **Without a vote** it is the order of the culture that is settled (`ofSamples_of_no_vote`).
* So the samples can be read just when some of them votes or the culture reads them all
  (`readsAll_ofSamples_iff`).
-/

set_option autoImplicit false

namespace SqlDialects

open Text

/-! ## The collection of the samples -/

theorem orderVotes_perm {samples samples' : List String} (h : samples.Perm samples')
    (order : DateOrder) : orderVotes samples order = orderVotes samples' order :=
  h.countP_eq _

namespace DateReader

/-- **The order of the samples** does not count. -/
theorem ofSamples_perm {samples samples' : List String} (h : samples.Perm samples')
    (culture : Culture) : ofSamples culture samples = ofSamples culture samples' := by
  rw [ofSamples_eq, ofSamples_eq, orderVotes_perm h, orderVotes_perm h]

/-! ## Votes and reading -/

/-- A reader can read all the samples. -/
def ReadsAll (reader : DateReader) (samples : List String) : Prop :=
  ∀ text ∈ samples, (reader.readDateTime text).isSome = true

instance (reader : DateReader) (samples : List String) : Decidable (reader.ReadsAll samples) :=
  inferInstanceAs (Decidable (∀ text ∈ samples, (reader.readDateTime text).isSome = true))

end DateReader

/-- No date in ISO notation is among the votes.  One that writes its year in four characters never
is. -/
def IsoAbstains (samples : List String) : Prop :=
  ∀ text ∈ samples, isIsoDate text = true → orderVote text.toList = none

instance (samples : List String) : Decidable (IsoAbstains samples) :=
  inferInstanceAs (Decidable (∀ text ∈ samples, isIsoDate text = true → _))

theorem orderVotes_eq_zero_iff {samples : List String} {order : DateOrder} :
    orderVotes samples order = 0 ↔ ∀ text ∈ samples, orderVote text.toList ≠ some order := by
  simp [orderVotes]

namespace DateReader

variable {reader : DateReader} {culture : Culture} {samples : List String}

/-- No sample votes against an order that reads them all. -/
theorem ReadsAll.orderVotes_other (h : reader.ReadsAll samples) (hiso : IsoAbstains samples) :
    orderVotes samples reader.order.other = 0 := by
  rw [DateReader.orderVotes_other h, isoVotes, List.countP_eq_zero]
  intro text htext hvote
  rw [Bool.and_eq_true] at hvote
  rw [hiso text htext hvote.1] at hvote
  nomatch hvote.2

/-- **One vote settles** the order that reads all the samples. -/
theorem ofSamples_of_vote {order : DateOrder} (h : ReadsAll ⟨culture, order⟩ samples)
    (hiso : IsoAbstains samples) (hvote : ∃ text ∈ samples, orderVote text.toList ≠ none) :
    ofSamples culture samples = ⟨culture, order⟩ := by
  have hother : orderVotes samples order.other = 0 := h.orderVotes_other hiso
  have hown : 0 < orderVotes samples order := by
    obtain ⟨text, htext, hsome⟩ := hvote
    obtain ⟨vote, hvote⟩ := Option.ne_none_iff_exists'.mp hsome
    refine Nat.pos_of_ne_zero fun hzero => ?_
    rcases vote.eq_or_eq_other order with rfl | rfl
    · exact orderVotes_eq_zero_iff.mp hzero text htext hvote
    · exact orderVotes_eq_zero_iff.mp hother text htext hvote
  rw [ofSamples_eq]
  rcases order.eq_or_eq_other culture.dateOrder with rfl | rfl
  · rw [hother, if_neg (Nat.not_lt_zero _), ofCulture]
  · rw [DateOrder.other_other] at hother
    rw [hother, if_pos hown]

/-- Without a vote the order of the culture is settled. -/
theorem ofSamples_of_no_vote (h : ¬∃ text ∈ samples, orderVote text.toList ≠ none) :
    ofSamples culture samples = ofCulture culture := by
  have hnone : ∀ order, orderVotes samples order = 0 := fun order => by
    refine orderVotes_eq_zero_iff.mpr fun text htext hvote => h ⟨text, htext, ?_⟩
    rw [hvote]
    exact Option.some_ne_none order
  rw [ofSamples_eq, hnone, hnone, if_neg (Nat.lt_irrefl 0)]

/-- **The settled order reads the samples**, of which no date in ISO notation votes and which some
order reads, just when the culture reads them or one of them votes. -/
theorem readsAll_ofSamples_iff (hiso : IsoAbstains samples)
    (h : ∃ order, ReadsAll ⟨culture, order⟩ samples) :
    (ofSamples culture samples).ReadsAll samples ↔
      (ofCulture culture).ReadsAll samples ∨
        ∃ text ∈ samples, orderVote text.toList ≠ none := by
  obtain ⟨order, hreads⟩ := h
  by_cases hvote : ∃ text ∈ samples, orderVote text.toList ≠ none
  · rw [ofSamples_of_vote hreads hiso hvote]
    exact iff_of_true hreads (.inr hvote)
  · rw [ofSamples_of_no_vote hvote, or_iff_left hvote]

/-- One day in digits settles the order for the names of months, against the culture. -/
theorem readsAll_ofSamples_named_months :
    IsoAbstains ["Jan 5 2001", "2001-02-03", "2/28/2001"] ∧
      (ofSamples .enGB ["Jan 5 2001", "2001-02-03", "2/28/2001"]).ReadsAll
        ["Jan 5 2001", "2001-02-03", "2/28/2001"] := by
  have hiso : IsoAbstains ["Jan 5 2001", "2001-02-03", "2/28/2001"] := by decide
  have hreads : ReadsAll ⟨.enGB, .monthFirst⟩ ["Jan 5 2001", "2001-02-03", "2/28/2001"] := by
    decide
  exact ⟨hiso, (readsAll_ofSamples_iff hiso ⟨.monthFirst, hreads⟩).mpr
    (.inr ⟨"2/28/2001", by decide, by decide⟩)⟩

/-- A month by name, before the day, is not read where the culture has the day first, and no vote
says so. -/
theorem ofSamples_loses_named_month :
    (∃ order, ReadsAll ⟨.enGB, order⟩ ["Jan 5 2001"]) ∧
      ¬(ofSamples .enGB ["Jan 5 2001"]).ReadsAll ["Jan 5 2001"] :=
  ⟨⟨.monthFirst, by decide⟩, by decide⟩

end DateReader

end SqlDialects
