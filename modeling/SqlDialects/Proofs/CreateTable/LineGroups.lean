import SqlDialects.Config.Basic
import SqlDialects.Proofs.CreateTable.Batch

/-!
# Batches are groups of lines

A script is cut into batches in one pass, which remembers the batch that has begun.  What comes out
of it can be said without the pass: cut the numbered lines at the separator lines, and every group
of lines in which something is written is a batch, from its first line that is not blank on.

* **`batchesFrom_eq`** — the pass in the middle of a group, whose batch may have begun.
* **Nothing is lost**: the lines in which something is written are those of the script that are no
  separators (`writtenLines_splitBatches`).
* **`splitBatches_eq_groups`** — the batches are the groups, and what follows from it.

A separator is a word.  The separators are those that a configuration may set (`isSeparator_iff`).
-/

set_option autoImplicit false

namespace SqlDialects

open Text

variable {separator : String}

/-! ## Separators -/

/-- **A separator** says something and holds no white space. -/
structure IsSeparator (separator : String) : Prop where
  nonempty : separator ≠ ""
  noBlank : ∀ c ∈ separator.toList, isBlank c = false

/-- The separators are those that the check of a configuration lets pass. -/
theorem isSeparator_iff : IsSeparator separator ↔
    ∃ config : Config, config.check = .ok () ∧ config.createTable.batchSeparator = separator := by
  constructor
  · intro h
    refine ⟨{ createTable := { batchSeparator := separator } }, ?_, rfl⟩
    have hempty : separator.isEmpty = false := by simpa using h.nonempty
    have hblank : separator.toList.any isBlank = false := by simpa using h.noBlank
    have hcheck : CreateTableSettings.check { batchSeparator := separator } = .ok () := by
      simp [CreateTableSettings.check, hempty, hblank, defaultTimeout]
    rw [Config.check, hcheck]
    rfl
  · rintro ⟨config, hcheck, rfl⟩
    rw [Config.check] at hcheck
    cases hsettings : config.createTable.check with
    | error fault =>
      rw [hsettings] at hcheck
      contradiction
    | ok =>
      rw [CreateTableSettings.check] at hsettings
      split at hsettings
      · contradiction
      next hempty =>
      split at hsettings
      · contradiction
      next hblank =>
      exact ⟨by simpa using hempty, by simpa using hblank⟩

theorem IsSeparator.isSeparatorLine_self (h : IsSeparator separator) :
    isSeparatorLine separator separator.toList = true := by
  rw [isSeparatorLine, trim_of_solid h.noBlank, beq_self_eq_true]

/-- A blank line separates nothing. -/
theorem IsSeparator.isSeparatorLine_of_blank (h : IsSeparator separator) {line : Chars}
    (hblank : allBlank line = true) : isSeparatorLine separator line = false := by
  rw [isSeparatorLine, trim_eq_nil_iff.mpr hblank, beq_eq_false_iff_ne]
  intro heq
  exact h.nonempty (String.toList_eq_nil_iff.mp (List.map_eq_nil_iff.mp heq.symm))

/-! ## Groups of lines -/

/-- A line and its number in the script, counted from 1. -/
abbrev NumberedLine := Chars × Nat

/-- **The groups of lines** between the separator lines of a script. -/
def lineGroups (script separator : String) : List (List NumberedLine) :=
  ((lines script.toList).zipIdx 1).splitOnP fun line => isSeparatorLine separator line.1

/-- **The batch of a group of lines** begins with the first line that is not blank and ends with the
group.  A group of blank lines has none. -/
def groupBatch? (group : List NumberedLine) : Option Batch :=
  match group.dropWhile fun line => allBlank line.1 with
  | [] => none
  | first :: more =>
    some ⟨first.2, String.ofList (trimEnd (['\n'].intercalate ((first :: more).map Prod.fst)))⟩

/-- The line feed behind the last line makes no difference to what is trimmed. -/
theorem trimEnd_joinLines (line : Chars) (more : List Chars) :
    trimEnd (joinLines (line :: more)) = trimEnd (['\n'].intercalate (line :: more)) := by
  have hjoin : joinLines (line :: more) = ['\n'].intercalate (line :: more) ++ ['\n'] := by
    induction more generalizing line with
    | nil => rw [joinLines_cons, List.intercalate_singleton]; rfl
    | cons next more ih =>
      rw [joinLines_cons, ih, List.intercalate_cons_cons, List.append_assoc, List.append_assoc]
      rfl
  rw [hjoin, trimEnd_append_of_blank _ (by decide)]

@[simp] theorem groupBatch?_nil : groupBatch? [] = none := rfl

theorem groupBatch?_cons_blank {line : Chars} (h : allBlank line = true) (number : Nat)
    (group : List NumberedLine) : groupBatch? ((line, number) :: group) = groupBatch? group := by
  rw [groupBatch?, List.dropWhile_cons, if_pos h, groupBatch?]

theorem groupBatch?_cons_written {line : Chars} (h : allBlank line = false) (number : Nat)
    (group : List NumberedLine) : groupBatch? ((line, number) :: group) =
      some ⟨number, String.ofList (trimEnd (joinLines (line :: group.map Prod.fst)))⟩ := by
  rw [groupBatch?, List.dropWhile_cons, if_neg (Bool.not_eq_true _ ▸ h), trimEnd_joinLines]
  rfl

theorem filterMap_groupBatch?_cons (group : List NumberedLine)
    (groups : List (List NumberedLine)) : (group :: groups).filterMap groupBatch? =
      (groupBatch? group).toList ++ groups.filterMap groupBatch? := by
  rw [List.filterMap_cons]
  cases groupBatch? group <;> rfl

/-- A group has a batch if something is written in it. -/
theorem isSome_groupBatch?_iff {group : List NumberedLine} :
    (groupBatch? group).isSome = true ↔ ∃ line ∈ group, allBlank line.1 = false := by
  induction group with
  | nil => simp
  | cons line group ih =>
    obtain ⟨line, number⟩ := line
    cases h : allBlank line with
    | true => simp [groupBatch?_cons_blank h, ih, h]
    | false => simp [groupBatch?_cons_written h, h]

/-- A batch begins on a line of its group. -/
theorem line_sublist_of_groupBatch? {group : List NumberedLine} {b : Batch}
    (h : groupBatch? group = some b) : [b.line].Sublist (group.map Prod.snd) := by
  induction group with
  | nil => nomatch h
  | cons line group ih =>
    obtain ⟨line, number⟩ := line
    cases hblank : allBlank line with
    | true =>
      rw [groupBatch?_cons_blank hblank] at h
      exact (ih h).cons number
    | false =>
      rw [groupBatch?_cons_written hblank] at h
      obtain rfl := Option.some.inj h
      exact (List.nil_sublist _).cons_cons number

/-- Something is written in a batch. -/
theorem not_blank_of_groupBatch? {group : List NumberedLine} {b : Batch}
    (h : groupBatch? group = some b) : isBlankText b.sql = false := by
  induction group with
  | nil => nomatch h
  | cons line group ih =>
    obtain ⟨line, number⟩ := line
    cases hblank : allBlank line with
    | true =>
      rw [groupBatch?_cons_blank hblank] at h
      exact ih h
    | false =>
      rw [groupBatch?_cons_written hblank] at h
      obtain rfl := Option.some.inj h
      rw [isBlankText, String.toList_ofList, allBlank_trimEnd, joinLines_cons, allBlank_append,
        hblank, Bool.false_and]

/-! ## What is written -/

/-- **What is written** in lines: those that are not blank, without white space at their ends. -/
def writtenLines (ls : List Chars) : List Chars :=
  (ls.filter fun line => !allBlank line).map trimEnd

theorem writtenLines_append (ls more : List Chars) :
    writtenLines (ls ++ more) = writtenLines ls ++ writtenLines more := by
  rw [writtenLines, List.filter_append, List.map_append, writtenLines, writtenLines]

@[simp] theorem writtenLines_nil : writtenLines [] = [] := rfl

theorem writtenLines_cons (line : Chars) (ls : List Chars) : writtenLines (line :: ls) =
    if allBlank line then writtenLines ls else trimEnd line :: writtenLines ls := by
  cases h : allBlank line <;> simp [writtenLines, h]

/-- White space at the end of a line makes no difference. -/
theorem writtenLines_cons_congr {line other : Chars} (h : trimEnd line = trimEnd other)
    (ls : List Chars) : writtenLines (line :: ls) = writtenLines (other :: ls) := by
  rw [writtenLines_cons, writtenLines_cons, ← allBlank_trimEnd line, h, allBlank_trimEnd]

theorem trimEnd_endLine (line : Chars) : trimEnd (endLine line.reverse) = trimEnd line := by
  rcases endLine_reverse line with ⟨-, h⟩ | ⟨front, rfl, h⟩
  · rw [h]
  · rw [h, trimEnd_append_of_blank front (by decide)]

theorem notMem_of_mem_lines {s line : Chars} (h : line ∈ lines s) : '\n' ∉ line := by
  induction s using lines_induction with
  | last s hs =>
    by_cases hne : s = []
    · subst hne
      nomatch h
    · rw [lines_of_notMem hs hne] at h
      exact List.mem_singleton.mp h ▸ hs
  | cons first rest hfirst ih =>
    rw [lines_append hfirst] at h
    rcases List.mem_cons.mp h with hline | h
    · rcases endLine_reverse first with ⟨-, hend⟩ | ⟨front, rfl, hend⟩
      · rwa [hline, hend]
      · rw [hline, hend]
        exact fun hmem => hfirst (List.mem_append_left _ hmem)
    · exact ih h

/-- What is written in lines is still written in them when they have been put together and the end
has been trimmed. -/
theorem writtenLines_lines_trimEnd {ls : List Chars} (h : ∀ line ∈ ls, '\n' ∉ line) :
    writtenLines (lines (trimEnd (joinLines ls))) = writtenLines ls := by
  induction ls with
  | nil => rfl
  | cons line more ih =>
    rw [List.forall_mem_cons] at h
    rw [joinLines_cons]
    cases hrest : allBlank ('\n' :: joinLines more) with
    | true =>
      -- the lines behind are blank, and the text ends with this one
      have hmore : writtenLines more = [] := by
        rw [← ih h.2, trimEnd_eq_nil (s := joinLines more) hrest]
        rfl
      rw [trimEnd_append_of_blank _ hrest, writtenLines_cons, hmore]
      cases hline : allBlank line with
      | true =>
        rw [trimEnd_eq_nil hline]
        rfl
      | false =>
        have hfeed : '\n' ∉ trimEnd line := fun hmem => h.1 (mem_of_mem_trimEnd hmem)
        have hne : trimEnd line ≠ [] := by
          intro hnil
          rw [← allBlank_trimEnd, hnil] at hline
          contradiction
        rw [lines_of_notMem hfeed hne, writtenLines_cons, allBlank_trimEnd, hline, trimEnd_trimEnd]
        rfl
    | false =>
      have hjoined : allBlank (joinLines more) = false := hrest
      have hfeed : trimEnd ('\n' :: joinLines more) = '\n' :: trimEnd (joinLines more) :=
        trimEnd_append ['\n'] hjoined
      rw [trimEnd_append _ hrest, hfeed, lines_append h.1,
        writtenLines_cons_congr (trimEnd_endLine line), writtenLines_cons, writtenLines_cons,
        ih h.2]

/-- The batch of a group holds what is written in the group. -/
theorem writtenLines_groupBatch? {group : List NumberedLine}
    (h : ∀ line ∈ group, '\n' ∉ line.1) :
    ((groupBatch? group).toList.flatMap fun b => writtenLines (lines b.sql.toList)) =
      writtenLines (group.map Prod.fst) := by
  induction group with
  | nil => rfl
  | cons line group ih =>
    obtain ⟨line, number⟩ := line
    cases hblank : allBlank line with
    | true =>
      rw [groupBatch?_cons_blank hblank, ih fun other hother => h other (.tail _ hother),
        List.map_cons, writtenLines_cons, if_pos hblank]
    | false =>
      have hlines : ∀ other ∈ line :: group.map Prod.fst, '\n' ∉ other := by simpa using h
      rw [groupBatch?_cons_written hblank, Option.toList_some, List.flatMap_singleton,
        String.toList_ofList, writtenLines_lines_trimEnd hlines]
      rfl

/-! ## The pass -/

/-- The batch of a group of lines.  It may have begun before them, with lines that are given
backwards. -/
def resume (current : Option (Nat × List Chars)) (group : List NumberedLine) : Option Batch :=
  match current with
  | none => groupBatch? group
  | some (start, ls) => some (endBatch start ((group.map Prod.fst).reverse ++ ls))

/-- A batch that has begun takes in every line of its group. -/
theorem resume_some_cons (start : Nat) (ls : List Chars) (line : NumberedLine)
    (group : List NumberedLine) :
    resume (some (start, ls)) (line :: group) = resume (some (start, line.1 :: ls)) group := by
  rw [resume, resume, List.map_cons, List.reverse_cons, List.append_assoc, List.singleton_append]

/-- A batch begins with the first line that is not blank. -/
theorem resume_none_cons (line : Chars) (number : Nat) (group : List NumberedLine) :
    resume none ((line, number) :: group) =
      resume (if allBlank line then none else some (number, [line])) group := by
  cases h : allBlank line with
  | true => exact groupBatch?_cons_blank h number group
  | false =>
    rw [resume, groupBatch?_cons_written h, if_neg Bool.false_ne_true, resume, endBatch,
      List.reverse_append, List.reverse_reverse]
    rfl

/-- **The pass in the middle of a group** ends the batch with the group, if it has begun or begins
there, and goes on with the groups behind. -/
theorem batchesFrom_eq (hlast : isSeparatorLine separator separator.toList = true)
    {ls : List Chars} {number : Nat} (current : Option (Nat × List Chars))
    {group : List NumberedLine} {groups : List (List NumberedLine)}
    (h : ((ls.zipIdx number).splitOnP fun line => isSeparatorLine separator line.1) =
      group :: groups) :
    batchesFrom separator number current (ls ++ [separator.toList]) =
      (resume current group).toList ++ groups.filterMap groupBatch? := by
  induction ls generalizing number current group groups with
  | nil =>
    obtain ⟨rfl, rfl⟩ := List.cons.inj h.symm
    rw [List.nil_append, batchesFrom.eq_def]
    cases current <;> simp [hlast, resume, batchesFrom]
  | cons line ls ih =>
    obtain ⟨first, rest, hsplit⟩ := List.exists_cons_of_ne_nil (List.splitOnP_ne_nil
      (fun line => isSeparatorLine separator line.1) (ls.zipIdx (number + 1)))
    rw [List.zipIdx_cons, List.splitOnP_cons_eq_if_modifyHead, hsplit] at h
    cases hseparator : isSeparatorLine separator line with
    | true =>
      -- the group ends here, and the next one has no batch yet
      rw [hseparator, if_pos rfl] at h
      obtain ⟨rfl, rfl⟩ := List.cons.inj h.symm
      have hrest := ih none hsplit
      rw [filterMap_groupBatch?_cons]
      cases current with
      | none => rw [List.cons_append, batchesFrom, if_pos hseparator, hrest]; rfl
      | some begun => rw [List.cons_append, batchesFrom, if_pos hseparator, hrest]; rfl
    | false =>
      rw [hseparator, if_neg Bool.false_ne_true] at h
      obtain ⟨rfl, rfl⟩ := List.cons.inj h.symm
      cases current with
      | none =>
        rw [List.cons_append, batchesFrom, if_neg (Bool.not_eq_true _ ▸ hseparator),
          resume_none_cons]
        split
        · exact ih none hsplit
        · exact ih _ hsplit
      | some begun =>
        rw [List.cons_append, batchesFrom, if_neg (Bool.not_eq_true _ ▸ hseparator),
          ih _ hsplit, resume_some_cons]

/-- The batches of a script are those of its groups. -/
theorem splitBatches_eq_filterMap (h : IsSeparator separator) (script : String) :
    splitBatches script separator = (lineGroups script separator).filterMap groupBatch? := by
  obtain ⟨first, rest, hsplit⟩ := List.exists_cons_of_ne_nil (List.splitOnP_ne_nil
    (fun line => isSeparatorLine separator line.1) ((lines script.toList).zipIdx 1))
  rw [splitBatches, batchesFrom_eq h.isSeparatorLine_self none hsplit, lineGroups, hsplit,
    filterMap_groupBatch?_cons, resume]

/-! ## What the groups hold -/

/-- The groups hold the lines that are no separators. -/
theorem flatten_lineGroups (script separator : String) : (lineGroups script separator).flatten =
    ((lines script.toList).zipIdx 1).filter fun line => !isSeparatorLine separator line.1 := by
  rw [lineGroups]
  generalize (lines script.toList).zipIdx 1 = numbered
  induction numbered with
  | nil => rfl
  | cons line numbered ih =>
    obtain ⟨first, rest, hsplit⟩ := List.exists_cons_of_ne_nil (List.splitOnP_ne_nil
      (fun line => isSeparatorLine separator line.1) numbered)
    rw [hsplit] at ih
    rw [List.splitOnP_cons_eq_if_modifyHead, hsplit, List.filter_cons, ← ih]
    cases isSeparatorLine separator line.1 <;> rfl

/-- Batches begin in the order of the lines. -/
theorem line_sublist_filterMap (groups : List (List NumberedLine)) :
    ((groups.filterMap groupBatch?).map Batch.line).Sublist (groups.flatten.map Prod.snd) := by
  induction groups with
  | nil => exact .slnil
  | cons group groups ih =>
    rw [filterMap_groupBatch?_cons, List.map_append, List.flatten_cons, List.map_append]
    refine List.Sublist.append ?_ ih
    cases h : groupBatch? group with
    | none => exact List.nil_sublist _
    | some b => exact line_sublist_of_groupBatch? h

theorem writtenLines_filterMap {groups : List (List NumberedLine)}
    (h : ∀ line ∈ groups.flatten, '\n' ∉ line.1) :
    ((groups.filterMap groupBatch?).flatMap fun b => writtenLines (lines b.sql.toList)) =
      writtenLines (groups.flatten.map Prod.fst) := by
  induction groups with
  | nil => rfl
  | cons group groups ih =>
    rw [List.flatten_cons, List.forall_mem_append] at h
    rw [filterMap_groupBatch?_cons, List.flatMap_append, writtenLines_groupBatch? h.1, ih h.2,
      List.flatten_cons, List.map_append, writtenLines_append]

/-- **Nothing is lost.**  What is written in the batches of a script, line after line, is what is
written in its lines but the separators. -/
theorem writtenLines_splitBatches (h : IsSeparator separator) (script : String) :
    ((splitBatches script separator).flatMap fun b => writtenLines (lines b.sql.toList)) =
      writtenLines ((lines script.toList).filter fun line => !isSeparatorLine separator line) := by
  have hlines : (lineGroups script separator).flatten.map Prod.fst =
      (lines script.toList).filter fun line => !isSeparatorLine separator line := by
    conv_rhs => rw [← List.zipIdx_map_fst 1 (lines script.toList), List.filter_map]
    rw [flatten_lineGroups]
    rfl
  have hfeed : ∀ line ∈ (lineGroups script separator).flatten, '\n' ∉ line.1 := by
    intro line hline
    have hmem := hlines ▸ List.mem_map_of_mem (f := Prod.fst) hline
    exact notMem_of_mem_lines (List.mem_filter.mp hmem).1
  rw [splitBatches_eq_filterMap h, writtenLines_filterMap hfeed, hlines]

/-- No line of a batch is a separator. -/
theorem isSeparatorLine_of_mem_splitBatches (h : IsSeparator separator) {script : String}
    {b : Batch} (hb : b ∈ splitBatches script separator) {line : Chars}
    (hline : line ∈ lines b.sql.toList) : isSeparatorLine separator line = false := by
  cases hblank : allBlank line with
  | true => exact h.isSeparatorLine_of_blank hblank
  | false =>
    have hwritten : trimEnd line ∈ writtenLines (lines b.sql.toList) :=
      List.mem_map_of_mem (List.mem_filter.mpr ⟨hline, by simp [hblank]⟩)
    have hscript : trimEnd line ∈ (splitBatches script separator).flatMap fun b =>
        writtenLines (lines b.sql.toList) := List.mem_flatMap.mpr ⟨b, hb, hwritten⟩
    rw [writtenLines_splitBatches h] at hscript
    obtain ⟨other, hother, heq⟩ := List.mem_map.mp hscript
    have hnone := (List.mem_filter.mp (List.mem_filter.mp hother).1).2
    rw [Bool.not_eq_true'] at hnone
    rw [isSeparatorLine, ← trim_trimEnd, ← heq, trim_trimEnd]
    exact hnone

/-- **Batches are groups of lines.**  The batches of a script are, one after the other, those of the
groups of lines between its separator lines, where a group has a batch if something is written in
it.  They begin on lines further and further down, none of them is blank or holds a separator line,
together they hold what the script holds, and what stands behind the last separator is the last
batch. -/
theorem splitBatches_eq_groups (h : IsSeparator separator) (script : String) :
    splitBatches script separator = (lineGroups script separator).filterMap groupBatch? ∧
    ((splitBatches script separator).map Batch.line).Pairwise (· < ·) ∧
    (∀ b ∈ splitBatches script separator, isBlankText b.sql = false ∧
      ∀ line ∈ lines b.sql.toList, isSeparatorLine separator line = false) ∧
    ((splitBatches script separator).flatMap fun b => writtenLines (lines b.sql.toList)) =
      writtenLines ((lines script.toList).filter fun line => !isSeparatorLine separator line) ∧
    ∀ group, (lineGroups script separator).getLast? = some group →
      (∃ line ∈ group, allBlank line.1 = false) →
      ∃ b, groupBatch? group = some b ∧ (splitBatches script separator).getLast? = some b := by
  have hgroups := splitBatches_eq_filterMap h script
  refine ⟨hgroups, ?_, fun b hb => ⟨?_, fun line hline =>
    isSeparatorLine_of_mem_splitBatches h hb hline⟩, writtenLines_splitBatches h script, ?_⟩
  · have hnumbers : ((lineGroups script separator).flatten.map Prod.snd).Sublist
        (List.range' 1 (lines script.toList).length) := by
      rw [flatten_lineGroups, ← List.zipIdx_map_snd]
      exact List.filter_sublist.map Prod.snd
    rw [hgroups]
    exact List.Pairwise.sublist ((line_sublist_filterMap _).trans hnumbers)
      (List.pairwise_lt_range' 1)
  · rw [hgroups] at hb
    obtain ⟨group, -, hgroup⟩ := List.mem_filterMap.mp hb
    exact not_blank_of_groupBatch? hgroup
  · intro group hlast hwritten
    obtain ⟨b, hb⟩ := Option.isSome_iff_exists.mp (isSome_groupBatch?_iff.mpr hwritten)
    obtain ⟨front, hfront⟩ := List.getLast?_eq_some_iff.mp hlast
    refine ⟨b, hb, ?_⟩
    rw [hgroups, hfront, List.filterMap_append, List.filterMap_cons, hb]
    exact List.getLast?_concat

/-- Separator lines in two spellings, blank lines before and within a batch, and text behind the
last separator. -/
theorem splitBatches_eq_groups_two_spellings :
    IsSeparator "GO" ∧
    splitBatches "go\n\n SELECT 1\n\n;  \r\n Go\t\nGO\nGO TO" "GO" =
      (lineGroups "go\n\n SELECT 1\n\n;  \r\n Go\t\nGO\nGO TO" "GO").filterMap groupBatch? ∧
    (lineGroups "go\n\n SELECT 1\n\n;  \r\n Go\t\nGO\nGO TO" "GO").filterMap groupBatch? =
      [⟨3, " SELECT 1\n\n;"⟩, ⟨8, "GO TO"⟩] := by
  have h : IsSeparator "GO" :=
    ⟨by decide, List.forall_mem_cons.mpr ⟨rfl, List.forall_mem_singleton.mpr rfl⟩⟩
  exact ⟨h, (splitBatches_eq_groups h _).1, by decide +kernel⟩

end SqlDialects
