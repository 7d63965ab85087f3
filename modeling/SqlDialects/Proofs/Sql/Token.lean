import Mathlib.Data.List.Forall2
import Mathlib.Tactic.SplitIfs
import SqlDialects.Dialect.Style
import SqlDialects.Proofs.Dialect.QuotedName
import SqlDialects.Proofs.Identifier
import SqlDialects.Proofs.TypeName.Spelling

/-!
# Statements as tokens

What a statement says is told by its words, and a word counts only where it stands outside quotes.
So before anything is said about the meaning of a generated statement, it is read as an engine reads
it, from left to right and one character at a time, into words, quoted names, literals and marks.

The reader follows one statement without comments.  Where a comment, a further statement or a
quotation of another kind begins it goes astray, and then there are no tokens at all: it never takes
a text for something else than it is.

* `readTokens?` — the tokens of a text.
* `readTokens?_append` — two texts are read one after the other if the second one stands apart: it
  begins with a blank, a parenthesis, a comma or a point, and with none of them a token goes on.
* `readTokens?_words`, `readTokens?_quote`, `IsNameSequence.readTokens?` — words and names.
* `readTokens?_intercalate` — lists.
-/

set_option autoImplicit false

namespace SqlDialects

open Text

/-! ## Tokens -/

/-- What a statement is made of. -/
inductive Token where
  /-- A keyword, a plain name or a numeral, in upper case. -/
  | word (text : Chars)
  /-- A quoted name, without its quotes. -/
  | name (text : Chars)
  /-- A text between apostrophes. -/
  | literal
  | mark (c : Char)
deriving DecidableEq, Repr, Inhabited

/-- The token of a keyword. -/
def keyword (text : String) : Token := .word text.toList

/-- The characters of words: to an engine, whatever is beyond ASCII belongs to a word. -/
def isWordPart (c : Char) : Bool := isPlain c || 128 ≤ c.toNat

/-- The marks that may begin a comment, a further statement or a quotation of another kind. -/
def Dialect.strayMarks (dialect : Dialect) : List Char :=
  [';', '/', '#', '\\', '$', '\x22', '\x60'] ++
    match dialect with
    | sqlite => ['[']
    | _ => []

/-! ## The reader -/

namespace TokenReader

/-- What has been read of the token that comes next; texts are held backwards. -/
inductive Pending where
  | nothing
  /-- A dash, which begins a comment if another one follows. -/
  | dash
  | word (text : Chars)
  | name (text : Chars)
  /-- A name up to a mark that closes it, unless another one follows. -/
  | closedName (text : Chars)
  | literal
  /-- A literal up to an apostrophe that closes it, unless another one follows. -/
  | closedLiteral
  /-- Something that the reader does not follow. -/
  | astray
deriving DecidableEq, Repr, Inhabited

end TokenReader

/-- The tokens read so far, the last one first, and what has been read of the next one. -/
structure TokenReader where
  tokens : List Token := []
  pending : TokenReader.Pending := .nothing
deriving DecidableEq, Repr, Inhabited

namespace TokenReader

variable {dialect : Dialect}

/-- Reads a character with which no token goes on. -/
def start (dialect : Dialect) (tokens : List Token) (c : Char) : TokenReader :=
  if isBlank c then ⟨tokens, .nothing⟩
  else if c = dialect.style.quotes.openMark then ⟨tokens, .name []⟩
  else if c = '\x27' then ⟨tokens, .literal⟩
  else if isWordPart c then ⟨tokens, .word [c]⟩
  else if c = '-' then ⟨.mark c :: tokens, .dash⟩
  else if c ∈ dialect.strayMarks then ⟨tokens, .astray⟩
  else ⟨.mark c :: tokens, .nothing⟩

/-- Reads a character. -/
def step (dialect : Dialect) : TokenReader → Char → TokenReader
  | ⟨tokens, .nothing⟩, c => start dialect tokens c
  | ⟨tokens, .dash⟩, c => if c = '-' then ⟨tokens, .astray⟩ else start dialect tokens c
  | ⟨tokens, .word w⟩, c =>
    if isWordPart c then ⟨tokens, .word (c :: w)⟩
    else start dialect (.word (upper w.reverse) :: tokens) c
  | ⟨tokens, .name n⟩, c =>
    if c = dialect.style.quotes.closeMark then ⟨tokens, .closedName n⟩
    else ⟨tokens, .name (c :: n)⟩
  | ⟨tokens, .closedName n⟩, c =>
    if c = dialect.style.quotes.closeMark then ⟨tokens, .name (c :: n)⟩
    else start dialect (.name n.reverse :: tokens) c
  | ⟨tokens, .literal⟩, c =>
    if c = '\x27' then ⟨tokens, .closedLiteral⟩
    else if c = '\\' then ⟨tokens, .astray⟩
    else ⟨tokens, .literal⟩
  | ⟨tokens, .closedLiteral⟩, c =>
    if c = '\x27' then ⟨tokens, .literal⟩ else start dialect (.literal :: tokens) c
  | ⟨tokens, .astray⟩, _ => ⟨tokens, .astray⟩

/-- Reads a text. -/
def run (dialect : Dialect) (r : TokenReader) (s : Chars) : TokenReader :=
  s.foldl (step dialect) r

/-- The tokens, the last one first, if the text may end here. -/
def finish? : TokenReader → Option (List Token)
  | ⟨tokens, .nothing⟩ | ⟨tokens, .dash⟩ => some tokens
  | ⟨tokens, .word w⟩ => some (.word (upper w.reverse) :: tokens)
  | ⟨tokens, .closedName n⟩ => some (.name n.reverse :: tokens)
  | ⟨tokens, .closedLiteral⟩ => some (.literal :: tokens)
  | ⟨_, .name _⟩ | ⟨_, .literal⟩ | ⟨_, .astray⟩ => none

@[simp]
theorem run_nil (r : TokenReader) : run dialect r [] = r := rfl

@[simp]
theorem run_cons (r : TokenReader) (c : Char) (s : Chars) :
    run dialect r (c :: s) = run dialect (step dialect r c) s := rfl

theorem run_append (r : TokenReader) (s t : Chars) :
    run dialect r (s ++ t) = run dialect (run dialect r s) t := List.foldl_append

/-! ### What has been read before does not matter -/

/-- The reader with the given tokens before its own. -/
def onto (before : List Token) (r : TokenReader) : TokenReader :=
  { r with tokens := r.tokens ++ before }

theorem start_append (tokens before : List Token) (c : Char) :
    start dialect (tokens ++ before) c = (start dialect tokens c).onto before := by
  simp only [start]
  split_ifs <;> rfl

theorem step_onto (before : List Token) (r : TokenReader) (c : Char) :
    step dialect (r.onto before) c = (step dialect r c).onto before := by
  obtain ⟨tokens, pending⟩ := r
  cases pending with
  | nothing => exact start_append tokens before c
  | astray => rfl
  | name n =>
    simp only [onto, step]
    split_ifs <;> rfl
  | literal =>
    simp only [onto, step]
    split_ifs <;> rfl
  | dash =>
    simp only [onto, step]
    split_ifs
    · rfl
    · exact start_append tokens before c
  | word w =>
    simp only [onto, step]
    split_ifs
    · rfl
    · exact start_append (_ :: tokens) before c
  | closedName n =>
    simp only [onto, step]
    split_ifs
    · rfl
    · exact start_append (_ :: tokens) before c
  | closedLiteral =>
    simp only [onto, step]
    split_ifs
    · rfl
    · exact start_append (_ :: tokens) before c

theorem run_onto (before : List Token) (r : TokenReader) (s : Chars) :
    run dialect (r.onto before) s = (run dialect r s).onto before := by
  induction s generalizing r with
  | nil => rfl
  | cons c s ih => rw [run_cons, run_cons, step_onto, ih]

theorem finish?_onto (before : List Token) (r : TokenReader) :
    (r.onto before).finish? = r.finish?.map (· ++ before) := by
  obtain ⟨tokens, pending⟩ := r
  cases pending <;> rfl

end TokenReader

/-- **The tokens of a text**, if it can be read. -/
def readTokens? (dialect : Dialect) (s : Chars) : Option (List Token) :=
  (TokenReader.run dialect {} s).finish?.map List.reverse

/-! ## Texts one after the other -/

/-- The characters with which nothing goes on that stands outside quotes. -/
def stops : List Char := [' ', '\n', '(', ')', ',', '.']

/-- A text that does not go on with what stands before it. -/
def StandsApart (s : Chars) : Prop := ∀ c, s.head? = some c → c ∈ stops

theorem standsApart_cons {c : Char} (hc : c ∈ stops) (s : Chars) : StandsApart (c :: s) :=
  fun _ h => Option.some.inj h ▸ hc

theorem StandsApart.append {s t : Chars} (hs : StandsApart s) (ht : StandsApart t) :
    StandsApart (s ++ t) := by
  cases s with
  | nil => exact ht
  | cons => exact hs

section Append

open TokenReader

variable {dialect : Dialect}

theorem not_goesOn_of_mem_stops (dialect : Dialect) {c : Char} (h : c ∈ stops) :
    isWordPart c = false ∧ c ≠ '-' ∧ c ≠ '\x27' ∧ c ≠ dialect.style.quotes.closeMark := by
  have hall : stops.all (fun c => decide (isWordPart c = false ∧ c ≠ '-' ∧ c ≠ '\x27' ∧
      c ≠ dialect.style.quotes.closeMark)) = true := by
    cases dialect <;> decide
  exact of_decide_eq_true (List.all_eq_true.mp hall c h)

/-- Where a token may end, a stop ends it. -/
theorem TokenReader.step_of_finish? {r : TokenReader} {tokens : List Token}
    (h : r.finish? = some tokens) {c : Char} (hc : c ∈ stops) :
    step dialect r c = start dialect tokens c := by
  obtain ⟨hword, hdash, hliteral, hname⟩ := not_goesOn_of_mem_stops dialect hc
  obtain ⟨before, pending⟩ := r
  cases pending with
  | name | literal | astray => contradiction
  | _ =>
    obtain rfl := Option.some.inj h
    simp only [step, hword, hdash, hliteral, hname, Bool.false_eq_true, if_false]

theorem readTokens?_eq_some {s : Chars} {tokens : List Token} :
    readTokens? dialect s = some tokens ↔
      (TokenReader.run dialect {} s).finish? = some tokens.reverse := by
  rw [readTokens?, Option.map_eq_some_iff]
  constructor
  · rintro ⟨_, h, rfl⟩
    rw [h, List.reverse_reverse]
  · exact fun h => ⟨_, h, List.reverse_reverse tokens⟩

/-- **Texts one after the other** are read one after the other, if the second one stands apart. -/
theorem readTokens?_append {s t : Chars} {first second : List Token} (hapart : StandsApart t)
    (hs : readTokens? dialect s = some first) (ht : readTokens? dialect t = some second) :
    readTokens? dialect (s ++ t) = some (first ++ second) := by
  cases t with
  | nil =>
    obtain rfl := Option.some.inj ht
    rwa [List.append_nil, List.reverse_nil, List.append_nil]
  | cons c t =>
    rw [readTokens?_eq_some] at hs ht ⊢
    have hrun : run dialect {} (s ++ c :: t) = (run dialect {} (c :: t)).onto first.reverse := by
      rw [run_append, run_cons, step_of_finish? hs (hapart c rfl), ← run_onto, run_cons]
      rfl
    rw [hrun, finish?_onto, ht, Option.map_some, List.reverse_append]

/-- White space before a text is passed over. -/
theorem readTokens?_blanks {gap : Chars} (h : allBlank gap = true) (s : Chars) :
    readTokens? dialect (gap ++ s) = readTokens? dialect s := by
  induction gap with
  | nil => rfl
  | cons c gap ih =>
    rw [allBlank, List.all_cons, Bool.and_eq_true] at h
    rw [← ih h.2, readTokens?, List.cons_append, run_cons, step, start, if_pos h.1]
    rfl

theorem readTokens?_cons_blank (s : Chars) :
    readTokens? dialect (' ' :: s) = readTokens? dialect s :=
  readTokens?_blanks (show allBlank [' '] = true from rfl) s

/-- The marks of lists are tokens of their own. -/
theorem readTokens?_cons_mark {c : Char} (hc : c ∈ ['(', ')', ',', '.']) {s : Chars}
    {tokens : List Token} (hs : readTokens? dialect s = some tokens) :
    readTokens? dialect (c :: s) = some (.mark c :: tokens) := by
  have hall : ['(', ')', ',', '.'].all
      (fun c => start dialect [] c == TokenReader.onto [.mark c] {}) = true := by
    cases dialect <;> decide
  have hstart := beq_iff_eq.mp (List.all_eq_true.mp hall c hc)
  rw [readTokens?_eq_some] at hs ⊢
  rw [run_cons, step, hstart, run_onto, finish?_onto, hs, Option.map_some, List.reverse_cons]

end Append

/-! ## Words and names -/

section Names

open TokenReader

variable {dialect : Dialect}

theorem start_of_isPlain (dialect : Dialect) {c : Char} (h : isPlain c = true) :
    isBlank c = false ∧ ∀ tokens, start dialect tokens c = ⟨tokens, .word [c]⟩ := by
  have hblank := isBlank_of_isPlain h
  obtain ⟨hliteral, hname⟩ := of_isPlain
    (fun c => c ≠ '\x27' ∧ c ≠ dialect.style.quotes.openMark) (by cases dialect <;> decide) h
  refine ⟨hblank, fun tokens => ?_⟩
  simp only [start, hblank, hliteral, hname, isWordPart, h, Bool.false_eq_true, if_false,
    Bool.true_or, if_true]

/-- Plain words and blanks are read word by word; `w` is what has been read of the next word. -/
theorem finish?_run_words {s : Chars} (h : s.all (fun c => isPlain c || c == ' ') = true)
    (tokens : List Token) (w : Chars) :
    (run dialect ⟨tokens, if w = [] then .nothing else .word w⟩ s).finish? =
      some (((wordsFrom w s).map fun t => .word (upper t)).reverse ++ tokens) := by
  induction s generalizing tokens w with
  | nil => cases w <;> rfl
  | cons c s ih =>
    rw [List.all_cons, Bool.and_eq_true, Bool.or_eq_true, beq_iff_eq] at h
    obtain ⟨hplain | rfl, hrest⟩ := h
    · obtain ⟨hblank, hstart⟩ := start_of_isPlain dialect hplain
      have hstep : step dialect ⟨tokens, if w = [] then .nothing else .word w⟩ c =
          ⟨tokens, .word (c :: w)⟩ := by
        cases w with
        | nil => exact hstart tokens
        | cons d w => simp [step, isWordPart, hplain]
      have hnext := ih hrest tokens (c :: w)
      rw [if_neg (List.cons_ne_nil c w)] at hnext
      rw [run_cons, hstep, hnext, wordsFrom, hblank]
      rfl
    · have hnext := fun tokens => ih hrest tokens []
      cases w with
      | nil => exact hnext tokens
      | cons d w =>
        have hstep : step dialect ⟨tokens, .word (d :: w)⟩ ' ' =
            ⟨.word (upper (d :: w).reverse) :: tokens, .nothing⟩ := rfl
        rw [if_neg (List.cons_ne_nil d w), run_cons, hstep]
        refine (hnext _).trans ?_
        rw [wordsFrom, if_pos (show isBlank ' ' = true from rfl)]
        simp

/-- **Plain words** are words. -/
theorem readTokens?_words {s : Chars} (h : s.all (fun c => isPlain c || c == ' ') = true) :
    readTokens? dialect s = some ((words s).map fun t => .word (upper t)) := by
  rw [readTokens?_eq_some]
  exact (finish?_run_words h [] []).trans (by rw [List.append_nil]; rfl)

/-- A plain name is a word. -/
theorem readTokens?_of_isPlain {s : Chars} (hne : s ≠ []) (h : ∀ c ∈ s, isPlain c = true) :
    readTokens? dialect s = some [.word (upper s)] := by
  have hall : s.all (fun c => isPlain c || c == ' ') = true :=
    List.all_eq_true.mpr fun c hc => by rw [h c hc, Bool.true_or]
  rw [readTokens?_words hall, words, wordsFrom_of_not_blank fun c hc =>
    (start_of_isPlain dialect (h c hc)).1]
  simp [hne]

theorem run_name (tokens : List Token) (n name : Chars) :
    run dialect ⟨tokens, .name n⟩ (dialect.style.quotes.doubleMarks name) =
      ⟨tokens, .name (name.reverse ++ n)⟩ := by
  induction name generalizing n with
  | nil => rfl
  | cons c name ih =>
    rw [Quotes.doubleMarks]
    split
    · next hc =>
      rw [run_cons, step, if_pos hc, run_cons, step, if_pos hc, ih]
      simp
    · next hc =>
      rw [run_cons, step, if_neg hc, ih]
      simp

/-- **Whatever a name holds, between quotes it is one token.** -/
theorem readTokens?_quote (name : Chars) :
    readTokens? dialect (dialect.style.quotes.quote name) = some [.name name] := by
  have hopen : start dialect [] dialect.style.quotes.openMark = ⟨[], .name []⟩ := by
    cases dialect <;> decide
  rw [readTokens?, Quotes.quote, List.cons_append, run_cons, step, hopen, run_append, run_name,
    run_cons, step, if_pos rfl]
  simp [finish?]

/-- Whether a token belongs to a qualified name. -/
def Token.isNamePart : Token → Bool
  | name _ => true
  | mark c => c == '.'
  | word _ | literal => false

/-- **A sequence of names** is read as names and points. -/
theorem Quotes.IsNameSequence.readTokens? {gaps : Bool} {t : Chars}
    (h : dialect.style.quotes.IsNameSequence gaps t) :
    ∃ tokens, SqlDialects.readTokens? dialect t = some tokens ∧
      ∀ token ∈ tokens, token.isNamePart = true := by
  have hname {s : Chars} (hs : dialect.style.quotes.IsName s) :
      ∃ n, SqlDialects.readTokens? dialect s = some [.name n] := by
    obtain ⟨n, rfl⟩ := isName_iff_exists_quote.mp hs
    exact ⟨n, readTokens?_quote n⟩
  induction h with
  | name hs =>
    obtain ⟨n, hn⟩ := hname hs
    exact ⟨_, hn, by simp [Token.isNamePart]⟩
  | point hs _ ih =>
    obtain ⟨n, hn⟩ := hname hs
    obtain ⟨tokens, ht, hparts⟩ := ih
    refine ⟨_, readTokens?_append (standsApart_cons (by decide) _) hn
      (readTokens?_cons_mark (by decide) ht), ?_⟩
    simp only [List.cons_append, List.nil_append, List.forall_mem_cons]
    exact ⟨rfl, rfl, hparts⟩
  | gap _ hs _ ih =>
    obtain ⟨n, hn⟩ := hname hs
    obtain ⟨tokens, ht, hparts⟩ := ih
    refine ⟨_, readTokens?_append (standsApart_cons (by decide) _) hn
      (readTokens?_cons_mark (by decide) (readTokens?_cons_mark (by decide) ht)), ?_⟩
    simp only [List.cons_append, List.nil_append, List.forall_mem_cons]
    exact ⟨rfl, rfl, rfl, hparts⟩

end Names

/-! ## Lists -/

/-- **A list** is read item by item; there may be white space behind the commas. -/
theorem readTokens?_intercalate {dialect : Dialect} {gap : Chars}
    (hgap : allBlank gap = true) {items : List Chars} {tokens : List (List Token)}
    (h : List.Forall₂ (fun item ts => readTokens? dialect item = some ts) items tokens) :
    readTokens? dialect ((',' :: gap).intercalate items) =
      some ([Token.mark ','].intercalate tokens) := by
  induction h with
  | nil => rfl
  | @cons first ts items tokens hfirst hrest ih =>
    cases hrest with
    | nil => rwa [List.intercalate_singleton, List.intercalate_singleton]
    | cons =>
      rw [List.intercalate_cons_cons, List.intercalate_cons_cons, List.append_assoc,
        List.append_assoc]
      refine readTokens?_append (standsApart_cons (by decide) _) hfirst ?_
      rw [List.cons_append]
      refine readTokens?_cons_mark (by decide) ?_
      rw [readTokens?_blanks hgap]
      exact ih

end SqlDialects
