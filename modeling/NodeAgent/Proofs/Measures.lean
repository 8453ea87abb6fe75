/-
This file says which texts are sizes and which parts of a JSON text are. A size may be written with
blanks around it, with quotes around its number and with or without its unit, but with nothing else;
and whatever way a size is written, it is read back.
-/

import NodeAgent.Proofs.Records
import NodeAgent.Proofs.Trimming
import NodeAgent.Proofs.RoundTrip
import NodeAgent.Size

namespace NodeAgent.Size

/-! ### Whole numbers -/

/-- What stands before the digits of a number. -/
inductive Sign where
  | none
  | plus
  | minus
deriving DecidableEq

namespace Sign

/-- The sign as it is written. -/
def text : Sign → List Char
  | none => []
  | plus => ['+']
  | minus => ['-']

/-- The number that digits stand for after the sign. -/
def apply (sign : Sign) (magnitude : Nat) : Int :=
  if sign = minus then -(magnitude : Int) else magnitude

theorem mem_text {sign : Sign} {c : Char} (member : c ∈ sign.text) : c = '+' ∨ c = '-' := by
  cases sign with
  | none => cases member
  | plus => exact .inl (List.mem_singleton.1 member)
  | minus => exact .inr (List.mem_singleton.1 member)

end Sign

variable {text digits : List Char} {value : Int} {sign : Sign}

/-- The number of digits after a sign, where it fits. -/
def wholeOf (sign : Sign) (digits : List Char) : Option Int :=
  if digits ≠ [] ∧ digits.all Char.isDigit then
    if Word.isSigned (sign.apply (Json.Numeral.value digits)) then
      some (sign.apply (Json.Numeral.value digits))
    else none
  else none

theorem wholeOf_eq_some_iff :
    wholeOf sign digits = some value ↔ digits ≠ [] ∧ (∀ c ∈ digits, c.isDigit = true) ∧
      Word.isSigned value = true ∧ sign.apply (Json.Numeral.value digits) = value := by
  unfold wholeOf
  rw [Option.ite_none_right_eq_some, Option.ite_none_right_eq_some, List.all_eq_true, and_assoc,
    Option.some.injEq]
  refine and_congr_right' (and_congr_right' (and_congr_left ?_))
  rintro rfl
  rfl

theorem readWhole?_cons {c : Char} {rest : List Char} (minus : c ≠ '-') (plus : c ≠ '+') :
    readWhole? (c :: rest) = wholeOf .none (c :: rest) := by
  unfold readWhole?
  split
  next same =>
    split at same
    · next split => exact absurd (List.cons.inj split).1 minus
    · next split => exact absurd (List.cons.inj split).1 plus
    · cases same
      rfl

/-- Every text is read as digits after a sign. -/
theorem exists_wholeOf (text : List Char) : ∃ (sign : Sign) (digits : List Char),
    text = sign.text ++ digits ∧ readWhole? text = wholeOf sign digits := by
  cases text with
  | nil => exact ⟨.none, [], rfl, rfl⟩
  | cons c rest =>
    by_cases minus : c = '-'
    · exact ⟨.minus, rest, congrArg (· :: rest) minus, minus ▸ rfl⟩
    by_cases plus : c = '+'
    · exact ⟨.plus, rest, congrArg (· :: rest) plus, plus ▸ rfl⟩
    · exact ⟨.none, c :: rest, rfl, readWhole?_cons minus plus⟩

theorem readWhole?_sign (sign : Sign) (decimal : ∀ c ∈ digits, c.isDigit = true) :
    readWhole? (sign.text ++ digits) = wholeOf sign digits := by
  cases sign with
  | plus | minus => rfl
  | none =>
    cases digits with
    | nil => rfl
    | cons c rest =>
      -- A digit is no sign.
      have digit := decimal c List.mem_cons_self
      refine readWhole?_cons ?_ ?_
      · rintro rfl
        exact absurd digit (by decide)
      · rintro rfl
        exact absurd digit (by decide)

theorem readWhole?_eq_some_iff :
    readWhole? text = some value ↔ ∃ (sign : Sign) (digits : List Char),
      text = sign.text ++ digits ∧ digits ≠ [] ∧ (∀ c ∈ digits, c.isDigit = true) ∧
        Word.isSigned value = true ∧ sign.apply (Json.Numeral.value digits) = value := by
  constructor
  · intro read
    obtain ⟨sign, digits, split, same⟩ := exists_wholeOf text
    rw [same] at read
    exact ⟨sign, digits, split, wholeOf_eq_some_iff.1 read⟩
  · rintro ⟨sign, digits, rfl, nonempty, decimal, signed, same⟩
    rw [readWhole?_sign sign decimal]
    exact wholeOf_eq_some_iff.2 ⟨nonempty, decimal, signed, same⟩

/-! ### Sizes -/

/-- A way to write a size: blanks around quotes around a number and its unit. The number of quotes
before and after need not be the same, and the unit may be missing. -/
structure Spelling where
  before : List Char
  opening : Nat
  sign : Sign
  digits : List Char
  unit : Bool
  closing : Nat
  after : List Char
  blankBefore : ∀ c ∈ before, Text.isBlank c = true
  blankAfter : ∀ c ∈ after, Text.isBlank c = true
  nonempty : digits ≠ []
  decimal : ∀ c ∈ digits, c.isDigit = true
  fits : Word.isSigned (sign.apply (Json.Numeral.value digits)) = true

namespace Spelling

/-- The size that is written. -/
def size (spelling : Spelling) : Size :=
  ⟨spelling.sign.apply (Json.Numeral.value spelling.digits)⟩

/-- The number without what is around it, up to its unit. -/
def number (spelling : Spelling) : List Char :=
  spelling.sign.text ++ spelling.digits ++ if spelling.unit then ['B'] else []

/-- The number between its quotes. -/
def quoted (spelling : Spelling) : List Char :=
  List.replicate spelling.opening '"' ++ spelling.number ++ List.replicate spelling.closing '"'

/-- The characters that are written. -/
def characters (spelling : Spelling) : List Char :=
  spelling.before ++ spelling.quoted ++ spelling.after

theorem mem_number {spelling : Spelling} {c : Char} (member : c ∈ spelling.number) :
    c ∈ ['+', '-', 'B'] ∨ c.isDigit = true := by
  unfold number at member
  rcases List.mem_append.1 member with numeral | unit
  · rcases List.mem_append.1 numeral with sign | digit
    · rcases Sign.mem_text sign with rfl | rfl
      · decide
      · decide
    · exact .inr (spelling.decimal c digit)
  · refine .inl ?_
    split at unit
    · obtain rfl := List.mem_singleton.1 unit
      decide
    · cases unit

/-- Nothing in a number is a quote. -/
theorem not_quote_of_mem {spelling : Spelling} {c : Char} (member : c ∈ spelling.number) :
    decide (c = '"') = false := by
  refine decide_eq_false ?_
  rintro rfl
  exact absurd (mem_number member) (by decide)

/-- Nothing between the blanks is a blank. -/
theorem not_blank_of_mem {spelling : Spelling} {c : Char} (member : c ∈ spelling.quoted) :
    Text.isBlank c = false := by
  have quote {count : Nat} (member : c ∈ List.replicate count '"') : Text.isBlank c = false := by
    rw [List.eq_of_mem_replicate member]
    decide
  unfold quoted at member
  rcases List.mem_append.1 member with before | closing
  · rcases List.mem_append.1 before with opening | number
    · exact quote opening
    · rcases mem_number number with mark | digit
      · simp only [List.mem_cons, List.not_mem_nil, or_false] at mark
        rcases mark with rfl | rfl | rfl <;> decide
      · exact Instant.Scan.isBlank_eq_false_of_isDigit digit
  · exact quote closing

theorem trims_number (spelling : Spelling) :
    Text.Trims (· = '"') spelling.quoted spelling.number :=
  .intro (fun _ member => decide_eq_true (List.eq_of_mem_replicate member))
    (fun _ member => decide_eq_true (List.eq_of_mem_replicate member))
    (fun _ among => not_quote_of_mem (List.mem_of_mem_head? among))
    (fun _ among => not_quote_of_mem (List.mem_of_getLast? among))

theorem trims_quoted (spelling : Spelling) :
    Text.Trims Text.isBlank spelling.characters spelling.quoted :=
  .intro spelling.blankBefore spelling.blankAfter
    (fun _ among => not_blank_of_mem (List.mem_of_mem_head? among))
    (fun _ among => not_blank_of_mem (List.mem_of_getLast? among))

end Spelling

/-- What is left of a number without its unit. -/
def unitless (bare : List Char) : List Char :=
  if bare.getLast? = some 'B' then bare.dropLast else bare

theorem exists_unit (bare : List Char) :
    ∃ unit : Bool, bare = unitless bare ++ if unit then ['B'] else [] := by
  unfold unitless
  split
  · next unit => exact ⟨true, (List.dropLast_append_getLast? 'B' unit).symm⟩
  · exact ⟨false, (List.append_nil _).symm⟩

/-- Only the unit is left out, because a number ends with a digit. -/
theorem unitless_number (spelling : Spelling) :
    unitless spelling.number = spelling.sign.text ++ spelling.digits := by
  unfold unitless Spelling.number
  cases spelling.unit with
  | true => simp
  | false =>
    have ends : (spelling.sign.text ++ spelling.digits).getLast? ≠ some 'B' := by
      intro unit
      rcases List.mem_append.1 (List.mem_of_getLast? unit) with sign | digit
      · exact absurd (Sign.mem_text sign) (by decide)
      · exact absurd (spelling.decimal _ digit) (by decide)
    rw [if_neg Bool.false_ne_true, List.append_nil, if_neg ends]

theorem read?_eq (words : String) :
    read? words = (readWhole? (unitless
      (Text.trimBy (· = '"') (Text.trimBy Text.isBlank words.toList)))).map Size.mk := rfl

/-- A text is read as a size exactly where it is one of these spellings of it. -/
theorem read?_eq_some_iff {words : String} {size : Size} :
    read? words = some size ↔
      ∃ spelling : Spelling, spelling.characters = words.toList ∧ spelling.size = size := by
  rw [read?_eq]
  constructor
  · intro read
    obtain ⟨value, number, rfl⟩ := Option.map_eq_some_iff.1 read
    obtain ⟨sign, digits, split, nonempty, decimal, fits, rfl⟩ := readWhole?_eq_some_iff.1 number
    have outer := Text.trims_trimBy Text.isBlank words.toList
    generalize Text.trimBy Text.isBlank words.toList = quoted at outer split
    have inner := Text.trims_trimBy (· = '"') quoted
    generalize Text.trimBy (· = '"') quoted = bare at inner split
    obtain ⟨unit, whole⟩ := exists_unit bare
    rw [split] at whole
    generalize characters : words.toList = text at outer
    obtain @⟨before, _, after, blankBefore, blankAfter, -, -⟩ := outer
    obtain @⟨opening, _, closing, quotesBefore, quotesAfter, -, -⟩ := inner
    have replicated {quotes : List Char} (all : ∀ c ∈ quotes, decide (c = '"') = true) :
        List.replicate quotes.length '"' = quotes :=
      (List.eq_replicate_iff.2 ⟨rfl, fun c member => of_decide_eq_true (all c member)⟩).symm
    refine ⟨⟨before, opening.length, sign, digits, unit, closing.length, after, blankBefore,
      blankAfter, nonempty, decimal, fits⟩, ?_, rfl⟩
    unfold Spelling.characters Spelling.quoted Spelling.number
    dsimp only
    rw [replicated quotesBefore, replicated quotesAfter, ← whole]
  · rintro ⟨spelling, written, rfl⟩
    rw [← written, Text.trims_iff.1 spelling.trims_quoted, Text.trims_iff.1 spelling.trims_number,
      unitless_number, readWhole?_eq_some_iff.2 ⟨_, _, rfl, spelling.nonempty, spelling.decimal,
        spelling.fits, rfl⟩]
    rfl

/-! ### Written sizes -/

/-- A number is written with a minus or without a sign. -/
theorem exists_sign (value : Int) :
    ∃ (sign : Sign) (count : Nat), sign.apply count = value ∧
      (toString value).toList = sign.text ++ Nat.toDigits 10 count := by
  cases value with
  | ofNat count => exact ⟨.none, count, rfl, Json.Lexer.toList_toString_ofNat count⟩
  | negSucc count => exact ⟨.minus, count + 1, rfl, Json.Lexer.toList_toString_negSucc count⟩

/-- A number is read as a size with its unit and without it. -/
theorem read?_of_written {size : Size} (fits : Word.isSigned size.bytes = true) (unit : Bool)
    {words : String}
    (written : words.toList = (toString size.bytes).toList ++ if unit then ['B'] else []) :
    read? words = some size := by
  obtain ⟨bytes⟩ := size
  obtain ⟨sign, count, rfl, digits⟩ := exists_sign bytes
  have worth := Json.Numeral.value_toDigits count
  refine read?_eq_some_iff.2 ⟨⟨[], 0, sign, Nat.toDigits 10 count, unit, 0, [], nofun, nofun,
    Nat.toDigits_ne_nil, fun _ => Nat.isDigit_of_mem_toDigits (by decide) (by decide),
    worth.symm ▸ fits⟩, ?_, ?_⟩
  · rw [written, digits]
    simp only [Spelling.characters, Spelling.quoted, Spelling.number, List.replicate_zero,
      List.nil_append, List.append_nil]
  · exact congrArg (fun count => Size.mk (sign.apply count)) worth

theorem read?_text {size : Size} (fits : Word.isSigned size.bytes = true) :
    read? size.text = some size ∧ read? (toString size) = some size ∧
      read? (toString size.bytes) = some size := by
  have withUnit : read? size.text = some size := read?_of_written fits true String.toList_append
  exact ⟨withUnit, withUnit, read?_of_written fits false (List.append_nil _).symm⟩

/-! ### Sizes inside JSON -/

open Json (decodeText document)
open Text (Glyph)

/-- The text of a whole number in JSON: digits without leading zeros, after a minus or without
one. -/
def integer (negative : Bool) (count : Nat) : String :=
  String.ofList (Json.Lexer.signed negative (Nat.toDigits 10 count))

/-- The sign of such a number. -/
def signOf (negative : Bool) : Sign := if negative then .minus else .none

theorem document_integer (negative : Bool) (count : Nat) :
    document (Glyph.ofString (integer negative count)) =
      ⟨.number (Json.Lexer.numeralValue ⟨negative, Nat.toDigits 10 count, none, none⟩), false⟩ := by
  have read := @Json.Lexer.run_integer negative count [] (.inl rfl)
  rw [List.append_nil] at read
  unfold document Json.tokens Glyph.ofString integer
  rw [String.toList_ofList, read]
  rfl

variable {source words : String} {size : Size} {part : Json.Node}

theorem unexpected_ne_ok {Value : Type} {expected : String} {value : Value} :
    Json.unexpected part expected ≠ .ok value := by
  unfold Json.unexpected
  cases part.found with
  | ok found => exact nofun
  | error fault => exact nofun

theorem decoder_text_iff {place : Json.Place} :
    decoder place (.text (.ok words)) = .ok size ↔ read? words = some size := by
  cases found : read? words with
  | none =>
    have opened : decoder place (.text (.ok words)) =
        .error (Json.Fault.rejected (.badSize words)) := by
      simp only [decoder, found]
    rw [opened]
    exact iff_of_false nofun nofun
  | some other =>
    have opened : decoder place (.text (.ok words)) = .ok other := by
      simp only [decoder, found]
    rw [opened, Except.ok.injEq, Option.some.injEq]

theorem decoder_whole_iff {place : Json.Place} {value : Int} :
    decoder place (.number (.ok (.whole value))) = .ok size ↔
      value < Word.signedBound ∧ size = ⟨value⟩ := by
  show (if value < Word.signedBound then Except.ok (Size.mk value)
    else .error (Json.Fault.rejected (.sizeTooLarge value))) = .ok size ↔ _
  split
  · next small => rw [Except.ok.injEq, and_iff_right small, eq_comm]
  · next large => exact iff_of_false nofun fun both => large both.1

/-- A size is read off a text that is one, or off a whole number that is not too large. -/
theorem decoder_eq_ok_iff {place : Json.Place} :
    decoder place part = .ok size ↔
      (∃ words, part = .text (.ok words) ∧ read? words = some size) ∨
      ∃ value, part = .number (.ok (.whole value)) ∧ value < Word.signedBound ∧ size = ⟨value⟩ := by
  constructor
  · intro taken
    cases part with
    | number given =>
      rcases given with fault | (value | double)
      · exact absurd taken unexpected_ne_ok
      · exact .inr ⟨value, rfl, decoder_whole_iff.1 taken⟩
      · exact absurd taken unexpected_ne_ok
    | text given =>
      rcases given with fault | words
      · exact absurd taken unexpected_ne_ok
      · exact .inl ⟨words, rfl, decoder_text_iff.1 taken⟩
    | null | bool | list | object | broken => exact absurd taken unexpected_ne_ok
  · rintro (⟨words, rfl, read⟩ | ⟨value, rfl, small⟩)
    · exact decoder_text_iff.2 read
    · exact decoder_whole_iff.2 small

/-- What is read from a text is read off its one value. -/
theorem decodeText_eq_ok_iff {Value : Type} {decoder : Json.Decoder Value} {value : Value} :
    decodeText decoder source = .ok value ↔
      ∃ root, document (Glyph.ofString source) = ⟨root, false⟩ ∧
        decoder ⟨.text, 0⟩ root = .ok value := by
  unfold Json.decodeText Json.decodeGlyphs
  obtain ⟨root, surplus⟩ := document (Glyph.ofString source)
  dsimp only
  constructor
  · intro read
    obtain ⟨found, decoded, rest⟩ := of_bind_eq_ok read
    cases surplus with
    | true => cases rest
    | false =>
      cases rest
      exact ⟨root, rfl, decoded⟩
  · rintro ⟨_, ⟨⟩, decoded⟩
    rw [decoded]
    rfl

/-! ### Whole numbers inside JSON -/

theorem double?_ne_whole (numeral : Json.Numeral) (value : Int) :
    numeral.double? ≠ some (.whole value) := by
  unfold Json.Numeral.double?
  dsimp only
  intro same
  obtain ⟨_, _, double⟩ := Option.map_eq_some_iff.1 same
  cases double

/-- Of the whole numbers in JSON those of 64 bits are taken as such, but for a zero after a minus:
that is a double, because only a double keeps its sign. -/
theorem number?_integer_iff {negative : Bool} {count : Nat} {value : Int} :
    (Json.Numeral.mk negative (Nat.toDigits 10 count) none none).number? = some (.whole value) ↔
      ¬(negative = true ∧ count = 0) ∧
        (if negative then count ≤ Word.signedBound else count < Word.bound) ∧
        (signOf negative).apply count = value := by
  unfold Json.Numeral.number?
  dsimp only
  rw [Json.Numeral.value_toDigits]
  cases negative with
  | false =>
    rw [if_neg Bool.false_ne_true, if_neg Bool.false_ne_true]
    constructor
    · intro read
      split at read
      · next small =>
        cases read
        exact ⟨fun both => Bool.false_ne_true both.1, small, rfl⟩
      · exact absurd read (double?_ne_whole _ _)
    · rintro ⟨-, small, rfl⟩
      rw [if_pos small]
      rfl
  | true =>
    rw [if_pos rfl, if_pos rfl]
    constructor
    · intro read
      split at read
      · next small =>
        cases read
        exact ⟨fun both => Nat.ne_of_gt small.1 both.2, small.2, rfl⟩
      · exact absurd read (double?_ne_whole _ _)
    · rintro ⟨nonzero, small, rfl⟩
      rw [if_pos ⟨Nat.pos_of_ne_zero fun zero => nonzero ⟨rfl, zero⟩, small⟩]
      rfl

theorem decodeText_integer_iff {negative : Bool} {count : Nat} :
    decodeText decoder (integer negative count) = .ok size ↔
      ¬(negative = true ∧ count = 0) ∧
        Word.isSigned ((signOf negative).apply count) = true ∧
        size = ⟨(signOf negative).apply count⟩ := by
  have taken : decodeText decoder (integer negative count) = .ok size ↔
      ∃ value, (Json.Numeral.mk negative (Nat.toDigits 10 count) none none).number? =
        some (.whole value) ∧ value < Word.signedBound ∧ size = ⟨value⟩ := by
    rw [decodeText_eq_ok_iff, document_integer]
    constructor
    · rintro ⟨_, ⟨⟩, decoded⟩
      rcases decoder_eq_ok_iff.1 decoded with ⟨_, text, -⟩ | ⟨value, number, small⟩
      · cases text
      · exact ⟨value, Json.Lexer.numeralValue_eq_ok_iff.1 (Json.Node.number.inj number), small⟩
    · rintro ⟨value, number, small⟩
      exact ⟨_, rfl, decoder_eq_ok_iff.2 (.inr ⟨value,
        congrArg _ (Json.Lexer.numeralValue_eq_ok_iff.2 number), small⟩)⟩
  rw [taken]
  have fits : Word.isSigned ((signOf negative).apply count) = true ↔
      (if negative then count ≤ Word.signedBound else count < Word.bound) ∧
        (signOf negative).apply count < Word.signedBound := by
    unfold Word.isSigned Word.signedBound Word.bound
    rw [Bool.and_eq_true, decide_eq_true_eq, decide_eq_true_eq]
    cases negative with
    | false =>
      have plain : (signOf false).apply count = count := rfl
      rw [plain, if_neg Bool.false_ne_true]
      omega
    | true =>
      have minus : (signOf true).apply count = -(count : Int) := rfl
      rw [minus, if_pos (rfl : true = true)]
      omega
  rw [fits]
  constructor
  · rintro ⟨value, number, small, rfl⟩
    obtain ⟨signed, bounded, rfl⟩ := number?_integer_iff.1 number
    exact ⟨signed, ⟨bounded, small⟩, rfl⟩
  · rintro ⟨signed, ⟨bounded, small⟩, rfl⟩
    exact ⟨_, number?_integer_iff.2 ⟨signed, bounded, rfl⟩, small, rfl⟩

theorem decodeText_text_iff :
    decodeText decoder (Json.text words).print = .ok size ↔ read? words = some size := by
  rw [Json.decodeText_print decoder (.text words), decoder_eq_ok_iff]
  constructor
  · rintro (⟨_, same, read⟩ | ⟨_, same, -⟩)
    · cases same
      exact read
    · cases same
  · exact fun read => .inl ⟨words, rfl, read⟩

theorem decodeText_toJson (fits : Word.isSigned size.bytes = true) :
    decodeText decoder size.toJson.print = .ok size :=
  (conveys_size _ fits).decodeText

/-- A text is read as a size exactly where it spells that size. Every way to print a size is read
back, and so is its JSON. Inside JSON a whole number is a size exactly where it fits into 64 bits
and is no zero after a minus, a text is one exactly where it is read as one, and nothing else is. -/
theorem read_exactly_as_spelled :
    (∀ (words : String) (size : Size), read? words = some size ↔
      ∃ spelling : Spelling, spelling.characters = words.toList ∧ spelling.size = size) ∧
    (∀ size : Size, Word.isSigned size.bytes = true →
      (read? size.text = some size ∧ read? (toString size) = some size ∧
        read? (toString size.bytes) = some size) ∧
      decodeText decoder size.toJson.print = .ok size) ∧
    (∀ (negative : Bool) (count : Nat) (size : Size),
      decodeText decoder (integer negative count) = .ok size ↔
        ¬(negative = true ∧ count = 0) ∧
          Word.isSigned ((signOf negative).apply count) = true ∧
          size = ⟨(signOf negative).apply count⟩) ∧
    (∀ (words : String) (size : Size),
      decodeText decoder (Json.text words).print = .ok size ↔ read? words = some size) ∧
    ∀ (source : String) (size : Size), decodeText decoder source = .ok size ↔
      (∃ words, document (Glyph.ofString source) = ⟨.text (.ok words), false⟩ ∧
        read? words = some size) ∨
      ∃ value, document (Glyph.ofString source) = ⟨.number (.ok (.whole value)), false⟩ ∧
        value < Word.signedBound ∧ size = ⟨value⟩ := by
  refine ⟨fun _ _ => read?_eq_some_iff, fun _ fits => ⟨read?_text fits, decodeText_toJson fits⟩,
    fun _ _ _ => decodeText_integer_iff, fun _ _ => decodeText_text_iff, fun source size => ?_⟩
  rw [decodeText_eq_ok_iff]
  constructor
  · rintro ⟨root, grown, decoded⟩
    rcases decoder_eq_ok_iff.1 decoded with ⟨words, rfl, read⟩ | ⟨value, rfl, small⟩
    · exact .inl ⟨words, grown, read⟩
    · exact .inr ⟨value, grown, small⟩
  · rintro (⟨words, grown, read⟩ | ⟨value, grown, small⟩)
    · exact ⟨_, grown, decoder_eq_ok_iff.2 (.inl ⟨words, rfl, read⟩)⟩
    · exact ⟨_, grown, decoder_eq_ok_iff.2 (.inr ⟨value, rfl, small⟩)⟩

/-- The least size is read back, and a size with everything around it is spelled. -/
theorem least_read_as_spelled :
    (read? "-9223372036854775808B" = some ⟨-9223372036854775808⟩ ∧
      decodeText decoder (toJson ⟨-9223372036854775808⟩).print = .ok ⟨-9223372036854775808⟩) ∧
    ∃ spelling : Spelling,
      spelling.characters = " \"\"+0012B\"\n".toList ∧ spelling.size = ⟨12⟩ := by
  obtain ⟨spelled, back, -, -, -⟩ := read_exactly_as_spelled
  obtain ⟨⟨written, -, -⟩, json⟩ := back ⟨-9223372036854775808⟩ (by decide)
  have text : Size.text ⟨-9223372036854775808⟩ = "-9223372036854775808B" := by decide +kernel
  rw [text] at written
  exact ⟨⟨written, json⟩, (spelled _ _).1 (by decide +kernel)⟩

/-- A zero after a minus fits into 64 bits and is read as a size from a text, but not from JSON. -/
theorem minus_zero_refused :
    integer true 0 = "-0" ∧ Word.isSigned ((signOf true).apply 0) = true ∧
      read? "-0" = some ⟨0⟩ ∧ ∀ size, decodeText decoder "-0" ≠ .ok size := by
  have written : integer true 0 = "-0" := by decide +kernel
  refine ⟨written, by decide, by decide +kernel, fun size taken => ?_⟩
  rw [← written] at taken
  exact (decodeText_integer_iff.1 taken).1 ⟨rfl, rfl⟩

end NodeAgent.Size
