import SqlDialects.DataSet
import SqlDialects.DateReader
import SqlDialects.Text.Word

/-!
# Guessing column types

The type of a column of text is guessed from its values: each value is read as the most special kind
it can be, and the guesses are widened until all values fit.  Integers remember their digits on the
way, so that a decimal found later leaves room for them too.

A numeral with a leading zero is a code and no number, and the words `true` and `false` never turn
into numbers.

## Main definitions

* `guessText`, `guessValue` — the guess for one value.
* `Guesser` — a way to guess values, to widen guesses and to finish them.
* `Guesser.basic` — the guesser of this library.
* `Guesser.guessColumn` — the guess for all values of a column.
* `basicWiden?`, `Guesser.counts` — whether all widths on the way can be counted.
-/

set_option autoImplicit false

namespace SqlDialects

open Text

/-- What a guess depends on besides the values. -/
structure GuessSettings where
  /-- The width to add for each character beyond ASCII. -/
  extraPerNonAscii : UInt32 := 0
  culture : Culture := .invariant
deriving DecidableEq, Repr, Inhabited

/-! ## Numerals -/

/-- The bytes that a text takes. -/
def byteLength (s : Chars) : Nat := (String.ofList s).utf8ByteSize

/-- The text without one sign in front. -/
def dropSign : Chars → Chars
  | '+' :: s => s
  | '-' :: s => s
  | s => s

/-- The text without any signs in front. -/
def dropSigns (s : Chars) : Chars := s.dropWhile fun c => c = '+' || c = '-'

/-- The text without any zeros in front. -/
def dropLeadingZeros (s : Chars) : Chars := s.dropWhile (· = '0')

/-- The text without any zeros at its end. -/
def dropTrailingZeros (s : Chars) : Chars := (s.reverse.dropWhile (· = '0')).reverse

/-- A zero in front of further characters, other than the one before a decimal point. -/
def hasLeadingZero (s : Chars) : Bool :=
  let digits := dropSigns s
  1 < byteLength digits && digits.head? == some '0' && digits[1]? != some '.'

/-- A whole number: a sign or none, and digits of any script. -/
def isWholeNumeral (s : Chars) : Bool :=
  let digits := dropSign s
  !digits.isEmpty && digits.all isAnyDigit

/-- The digits before and after the point of a decimal numeral.  Digits may be missing on one side
of the point. -/
def decimalParts? (s : Chars) : Option (Chars × Chars) :=
  let number := dropSign s
  let whole := number.takeWhile isAnyDigit
  match number.dropWhile isAnyDigit with
  | '.' :: fraction =>
    if fraction.all isAnyDigit && !(whole.isEmpty && fraction.isEmpty) then some (whole, fraction)
    else none
  | _ => none

/-- The digits that a numeral needs on both sides of the point. -/
def numeralSize (whole fraction : Chars) : DecimalSize :=
  DecimalSize.ofDigits (byteLength (dropLeadingZeros whole))
    (byteLength (dropTrailingZeros fraction))

/-- The digits that a decimal needs on both sides of the point. -/
def FixedDecimal.size (d : FixedDecimal) : DecimalSize :=
  numeralSize d.shortened.integerDigits d.shortened.fractionDigits

/-! ## Single values -/

/-- A guess for an integer of so many digits. -/
def integerGuess (kind : TypeKind) (digits : Nat) : TypeRequest :=
  { kind, decimalSize := some (DecimalSize.ofDigits digits 0) }

/-- The characters of a text that are not ASCII. -/
def nonAsciiCount (s : Chars) : Nat := s.countP fun c => 128 ≤ c.toNat

/-- The width of a text, with the extra width for characters beyond ASCII. -/
def paddedWidth (settings : GuessSettings) (s : Chars) : UInt32 :=
  UInt32.ofNat s.length + UInt32.ofNat (nonAsciiCount s) * settings.extraPerNonAscii

/-- The width of a text, with the extra width for characters beyond ASCII; nothing if it cannot be
counted. -/
def paddedWidth? (settings : GuessSettings) (s : Chars) : Option UInt32 := do
  let extra ← Count.product? (UInt32.ofNat (nonAsciiCount s)) settings.extraPerNonAscii
  Count.sum? (UInt32.ofNat s.length) extra

/-- A guess for a text that means nothing more special. -/
def stringGuess (settings : GuessSettings) (s : Chars) : TypeRequest :=
  { TypeRequest.string (paddedWidth settings s) with unicode := 0 < nonAsciiCount s }

/-- A guess for a whole numeral. -/
def wholeGuess (s : Chars) : TypeRequest :=
  let digits := max (byteLength (dropLeadingZeros (dropSigns s))) 1
  match readInt64 s with
  | some n =>
    if -2147483648 ≤ n ∧ n ≤ 2147483647 then integerGuess .int32 digits
    else integerGuess .int64 digits
  | none => .decimal (DecimalSize.ofDigits digits 0)

/-- Whether the text says true or false, whatever its case. -/
def isTruthWord (s : Chars) : Bool := lower s == "true".toList || lower s == "false".toList

/-- The guess for the number that a text stands for, if it stands for one. -/
def numberGuess? (s : Chars) : Option TypeRequest :=
  if hasLeadingZero s then none
  else if isWholeNumeral s then some (wholeGuess s)
  else (decimalParts? s).map fun (whole, fraction) => .decimal (numeralSize whole fraction)

/-- The guess for a text; none for a blank one. -/
def guessText (settings : GuessSettings) (text : String) : Option TypeRequest :=
  let t := trim text.toList
  if t.isEmpty then none
  else if isTruthWord t then some (.ofKind .bool)
  else
    -- what can be a number is never guessed as a date
    match numberGuess? t with
    | some guess => some guess
    | none =>
      if ((DateReader.ofCulture settings.culture).readDateTime text).isSome then
        some (.ofKind .dateTime)
      else if (DateReader.readTime text).isSome then some (.ofKind .timeSpan)
      else some (stringGuess settings text.toList)

/-- The count of decimal digits of an integer without its sign. -/
def digitCount (n : Int) : Nat := (Nat.toDigits 10 n.natAbs).length

/-- The guess for a value; none for null and blank text. -/
def guessValue (settings : GuessSettings) : SqlValue → Option TypeRequest
  | .null => none
  | .text s => guessText settings s
  | .bool _ => some (.ofKind .bool)
  | .byte n => some (integerGuess .byte (digitCount n.toNat))
  | .int16 n => some (integerGuess .int16 (digitCount n.toInt))
  | .int32 n => some (integerGuess .int32 (digitCount n.toInt))
  | .int64 n => some (integerGuess .int64 (digitCount n.toInt))
  | .double x => some (match x.toFixed? with
      | some d => .decimal d.size
      | none => .ofKind .decimal)
  | .decimal d => some (.decimal d.size)
  | .bytes b => some (.byteArray (some (UInt32.ofNat b.length)))
  | .guid _ => some (.ofKind .guid)
  | .dateTime _ | .date _ => some (.ofKind .dateTime)
  | .time _ => some (.ofKind .timeSpan)

/-- The guess for a value; nothing at all if it is a string whose width cannot be counted. -/
def guessValue? (settings : GuessSettings) (value : SqlValue) : Option (Option TypeRequest) := do
  let guess := guessValue settings value
  if let .text s := value then
    if guess.any fun r => r.kind == .string then let _ ← paddedWidth? settings s.toList
  return guess

/-! ## Guessers -/

/-- Widens a guess by another one, if there are two. -/
def joinGuesses (join : TypeRequest → TypeRequest → TypeRequest) :
    Option TypeRequest → Option TypeRequest → Option TypeRequest
  | some a, some b => some (join a b)
  | a, none => a
  | none, b => b

/-- A finished guess has digits only if it is a decimal. -/
def dropDigits (r : TypeRequest) : TypeRequest :=
  if r.kind = .decimal then r else { r with decimalSize := none }

/-- A way to guess types. -/
structure Guesser where
  /-- The guess for one value. -/
  guess : GuessSettings → SqlValue → Option TypeRequest
  /-- A guess widened so that it admits a further value. -/
  widen : GuessSettings → Option TypeRequest → SqlValue → Option TypeRequest :=
    fun settings sofar value => joinGuesses TypeRequest.widen sofar (guess settings value)
  /-- The last touch to a guess. -/
  finish : TypeRequest → TypeRequest := dropDigits
  /-- The guess for a whole column; none if no value says anything. -/
  guessColumn : GuessSettings → List SqlValue → Option TypeRequest :=
    fun settings values => (values.foldl (widen settings) none).map finish
  /-- Whether all widths can be counted on the way through the values. -/
  counts : GuessSettings → List SqlValue → Bool := fun _ _ => true

/-- Widens a guess by that for a text, where a truth value and anything else make a string. -/
def widenByText (a b : TypeRequest) : TypeRequest :=
  if a.kind ≠ b.kind ∧ (a.kind = .bool ∨ b.kind = .bool) then
    { kind := .string, width := TypeRequest.maxLimit a.textWidth b.textWidth }
  else a.widen b

/-- Widens a guess by a value. -/
def basicWiden (settings : GuessSettings) (sofar : Option TypeRequest) (value : SqlValue) :
    Option TypeRequest :=
  joinGuesses (if value.text?.isSome then widenByText else TypeRequest.widen) sofar
    (guessValue settings value)

/-! ## Widths that can be counted -/

/-- Widens a guess by that for a text; nothing if a width cannot be counted. -/
def widenByText? (a b : TypeRequest) : Option TypeRequest :=
  if a.kind ≠ b.kind ∧ (a.kind = .bool ∨ b.kind = .bool) then do
    let _ ← a.textWidth?
    let _ ← b.textWidth?
    return widenByText a b
  else a.widen? b

/-- Widens a guess by another one, if there are two; nothing at all if a width cannot be counted. -/
def joinGuesses? (join? : TypeRequest → TypeRequest → Option TypeRequest) :
    Option TypeRequest → Option TypeRequest → Option (Option TypeRequest)
  | some a, some b => (join? a b).map some
  | a, none => some a
  | none, b => some b

/-- Widens a guess by a value; nothing at all if a width cannot be counted. -/
def basicWiden? (settings : GuessSettings) (sofar : Option TypeRequest) (value : SqlValue) :
    Option (Option TypeRequest) := do
  joinGuesses? (if value.text?.isSome then widenByText? else TypeRequest.widen?) sofar
    (← guessValue? settings value)

/-- The same, where truth values in texts are widened like all other kinds. -/
def uniformWiden? (settings : GuessSettings) (sofar : Option TypeRequest) (value : SqlValue) :
    Option (Option TypeRequest) := do
  joinGuesses? TypeRequest.widen? sofar (← guessValue? settings value)

namespace Guesser

/-- The guesser of this library. -/
def basic : Guesser where
  guess := guessValue
  widen := basicWiden
  counts settings values := (values.foldlM (basicWiden? settings) none).isSome

/-- A guesser that widens truth values in texts like all other kinds. -/
def uniform : Guesser where
  guess := guessValue
  counts settings values := (values.foldlM (uniformWiden? settings) none).isSome

end Guesser

end SqlDialects
