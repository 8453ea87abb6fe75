/-
This file splits what was written into tokens again. Each piece of a text is read as its own tokens
whatever comes after it; only a number needs something after it that ends it, and a comma, a bracket
or the end of the text does.
-/

import Mathlib.Data.List.Forall2
import NodeAgent.Json.Printer
import NodeAgent.Json.Token
import NodeAgent.Proofs.Digits

namespace NodeAgent.Json

open Text (Glyph)

/-! ### What is written -/

/-- All numbers of a value are of a kind. -/
inductive Numbers (kind : Number → Prop) : Json → Prop where
  | null : Numbers kind .null
  | bool (value : Bool) : Numbers kind (.bool value)
  | number {value : Number} (here : kind value) : Numbers kind (.number value)
  | text (words : String) : Numbers kind (.text words)
  | list {items : List Json} (each : ∀ item ∈ items, Numbers kind item) :
      Numbers kind (.list items)
  | object {members : List (String × Json)} (each : ∀ member ∈ members, Numbers kind member.2) :
      Numbers kind (.object members)

/-- A number that is no double. -/
def Number.IsWhole : Number → Prop
  | whole _ => True
  | double _ => False

/-- A whole number that fits into 64 bits, with a sign or without one. -/
def Number.IsWord : Number → Prop
  | whole value => -(Word.signedBound : Int) ≤ value ∧ value < Word.bound
  | double _ => False

mutual

/-- The tokens of a value. -/
def tokenized : Json → List Token
  | .null => [.null]
  | .bool value => [.bool value]
  | .number value => [.number (.ok value)]
  | .text words => [.text (.ok words)]
  | .list items => .openList :: List.intercalate [.comma] (tokenizedItems items) ++ [.closeList]
  | .object members =>
    .openObject :: List.intercalate [.comma] (tokenizedMembers members) ++ [.closeObject]

/-- The tokens of each item. -/
def tokenizedItems : List Json → List (List Token)
  | [] => []
  | item :: rest => item.tokenized :: tokenizedItems rest

/-- The tokens of each member. -/
def tokenizedMembers : List (String × Json) → List (List Token)
  | [] => []
  | (key, value) :: rest =>
    (.text (.ok key) :: .colon :: value.tokenized) :: tokenizedMembers rest

end

/-- What may come after a value. -/
def Ended (rest : List Glyph) : Prop :=
  rest = [] ∨ ∃ c more, c ∈ [',', ']', '\x7d'] ∧ rest = .char c :: more

theorem ended_cons {c : Char} (ends : c ∈ [',', ']', '\x7d']) (more : List Glyph) :
    Ended (.char c :: more) :=
  Or.inr ⟨c, more, ends, rfl⟩

/-- Characters that are read as these tokens, where something comes after them that may. -/
def Lexes (characters : List Char) (read : List Token) : Prop :=
  ∀ rest, Ended rest →
    Lexer.between.run (characters.map .char ++ rest) = read ++ Lexer.between.run rest

namespace Lexer

/-! ### Texts -/

theorem hexValue?_digitChar {digit : Nat} (small : digit < 16) :
    TextState.hexValue? (Nat.digitChar digit) = some digit := by
  have digits : ∀ digit < 16, TextState.hexValue? (Nat.digitChar digit) = some digit := by decide
  exact digits digit small

theorem run_hex {digit count sum : Nat} (small : digit < 16) (early : count ≠ 3)
    (read rest : List Glyph) :
    run (.text ⟨read, false, .hex none count sum⟩) (.char (Nat.digitChar digit) :: rest) =
      run (.text ⟨read, false, .hex none (count + 1) (sum * 16 + digit)⟩) rest := by
  simp only [run, step, TextState.move, hexValue?_digitChar small, if_neg early, List.nil_append]

/-- The last digit of an escape settles it. -/
theorem run_last_hex {digit sum : Nat} (small : digit < 16) (low : sum * 16 + digit < 0xD800)
    (read rest : List Glyph) :
    run (.text ⟨read, false, .hex none 3 sum⟩) (.char (Nat.digitChar digit) :: rest) =
      run (.text ⟨.char (Char.ofNat (sum * 16 + digit)) :: read, false, .plain⟩) rest := by
  have noTail : ¬(0xDC00 ≤ sum * 16 + digit ∧ sum * 16 + digit ≤ 0xDFFF) := by omega
  have noLead : ¬(0xD800 ≤ sum * 16 + digit ∧ sum * 16 + digit ≤ 0xDBFF ∧ ¬false = true) := by
    omega
  simp only [run, step, TextState.move, hexValue?_digitChar small, TextState.settle, if_true,
    if_neg noTail, if_neg noLead, TextState.push, List.nil_append]

/-- The written form of a character among a text is read as that character, whatever comes after
it. -/
theorem run_escaped (c : Char) (read rest : List Glyph) :
    run (.text ⟨read, false, .plain⟩) ((escaped c).map .char ++ rest) =
      run (.text ⟨.char c :: read, false, .plain⟩) rest := by
  have numbered {number : Nat} (same : c.toNat = number) : c = Char.ofNat number := by
    rw [← same, Char.ofNat_toNat]
  unfold escaped
  split
  · next same => rw [same]; rfl
  split
  · next same => rw [same]; rfl
  split
  · next same => rw [same]; rfl
  split
  · next same => rw [same]; rfl
  split
  · next same => rw [same]; rfl
  split
  · next same => rw [numbered same]; rfl
  split
  · next same => rw [numbered same]; rfl
  split
  · next small =>
    have joined : c.toNat / 16 * 16 + c.toNat % 16 = c.toNat := by omega
    show run (.text ⟨read, false, .hex none 2 0⟩) (.char (Nat.digitChar (c.toNat / 16)) ::
      .char (Nat.digitChar (c.toNat % 16)) :: rest) = _
    rw [run_hex (by omega) (by decide), Nat.zero_mul, Nat.zero_add,
      run_last_hex (by omega) (by omega), joined, Char.ofNat_toNat]
  · next noQuote noEscape _ _ _ _ _ large =>
    show run (.text ⟨read, false, .plain⟩) (.char c :: rest) = _
    simp only [run, step, TextState.move, TextState.movePlain, if_neg noQuote, if_neg noEscape,
      if_neg large, TextState.push, List.nil_append]

theorem run_words (words : List Char) (read rest : List Glyph) :
    run (.text ⟨read, false, .plain⟩) ((words.flatMap escaped).map .char ++ rest) =
      run (.text ⟨(words.map Glyph.char).reverse ++ read, false, .plain⟩) rest := by
  induction words generalizing read with
  | nil => rfl
  | cons c words inductionHypothesis =>
    rw [List.flatMap_cons, List.map_append, List.append_assoc, run_escaped, inductionHypothesis,
      List.map_cons, List.reverse_cons, List.append_assoc]
    rfl

/-- A text between quotes is read as the text. -/
theorem run_quotedText (words : String) (rest : List Glyph) :
    between.run ((quotedText words).map .char ++ rest) =
      .text (.ok words) :: between.run rest := by
  have value : TextState.value ⟨(words.toList.map Glyph.char).reverse, false, .plain⟩ =
      .ok words := by
    unfold TextState.value
    dsimp only
    rw [if_neg (by decide), List.reverse_reverse, Glyph.text?_map_char]
    exact congrArg Except.ok String.ofList_toList
  have body := run_words words.toList [] (.char '"' :: rest)
  rw [List.append_nil] at body
  calc between.run ((quotedText words).map .char ++ rest)
    _ = run (.text ⟨[], false, .plain⟩)
        ((words.toList.flatMap escaped).map .char ++ .char '"' :: rest) := by
      unfold quotedText
      rw [List.map_append, List.append_assoc]
      rfl
    _ = run (.text ⟨(words.toList.map Glyph.char).reverse, false, .plain⟩)
        (.char '"' :: rest) := body
    _ = .text (.ok words) :: between.run rest := by
      rw [← value]
      rfl

/-! ### Numbers -/

/-- Digits after a minus or without one. -/
def signed (negative : Bool) (digits : List Char) : List Char :=
  if negative then '-' :: digits else digits

theorem toList_toString_ofNat (count : Nat) :
    (toString (Int.ofNat count)).toList = signed false (Nat.toDigits 10 count) := by
  show (toString count).toList = _
  rw [Nat.toString_eq_ofList_toDigits, String.toList_ofList]
  rfl

theorem toList_toString_negSucc (count : Nat) :
    (toString (Int.negSucc count)).toList = signed true (Nat.toDigits 10 (count + 1)) := by
  show ("-" ++ toString (count + 1)).toList = _
  rw [String.toList_append, Nat.toString_eq_ofList_toDigits, String.toList_ofList,
    String.toList_ofList]
  rfl

/-- Digits after the first go on with a numeral. -/
theorem run_digits (negative : Bool) (digits read : List Char)
    (decimal : ∀ c ∈ digits, c.isDigit = true) (rest : List Glyph) :
    run (.number ⟨⟨negative, read, none, none⟩, .integer⟩) (digits.map .char ++ rest) =
      run (.number ⟨⟨negative, digits.reverse ++ read, none, none⟩, .integer⟩) rest := by
  induction digits generalizing read with
  | nil => rfl
  | cons c digits inductionHypothesis =>
    obtain ⟨here, later⟩ := List.forall_mem_cons.1 decimal
    have first : run (.number ⟨⟨negative, read, none, none⟩, .integer⟩)
        (.char c :: (digits.map .char ++ rest)) =
          run (.number ⟨⟨negative, c :: read, none, none⟩, .integer⟩)
            (digits.map .char ++ rest) := by
      simp only [run, step, NumeralState.move, if_pos here, List.nil_append]
    rw [List.map_cons, List.cons_append, first, inductionHypothesis _ later, List.reverse_cons,
      List.append_assoc]
    rfl

/-- A numeral without a point is complete where its value may end. -/
theorem run_ended {state : NumeralState} (stage : state.stage = .zero ∨ state.stage = .integer)
    {rest : List Glyph} (ends : Ended rest) :
    run (.number state) rest = state.token :: between.run rest := by
  obtain ⟨numeral, stage⟩ := state
  rcases ends with rfl | ⟨c, more, ends, rfl⟩
  · rcases stage with rfl | rfl
    · rfl
    · rfl
  · rcases stage with rfl | rfl
    all_goals
      simp only [List.mem_cons, List.not_mem_nil, or_false] at ends
      rcases ends with rfl | rfl | rfl
      · rfl
      · rfl
      · rfl

/-- The number of a numeral, for a reader. -/
def numeralValue (numeral : Numeral) : Except Break Number :=
  match numeral.number? with
  | some found => .ok found
  | none => .error .malformed

theorem numeralValue_eq_ok_iff {numeral : Numeral} {value : Number} :
    numeralValue numeral = .ok value ↔ numeral.number? = some value := by
  unfold numeralValue
  cases numeral.number? with
  | some found => rw [Except.ok.injEq, Option.some.injEq]
  | none => exact iff_of_false nofun nofun

/-- The token of a numeral that was read whole. -/
theorem token_whole (negative : Bool) (read : List Char) (stage : NumeralStage) :
    NumeralState.token ⟨⟨negative, read, none, none⟩, stage⟩ =
      .number (numeralValue ⟨negative, read.reverse, none, none⟩) := rfl

theorem token_of_number? {numeral : Numeral} {value : Number}
    (worth : numeral.number? = some value) :
    Token.number (numeralValue numeral) = .number (.ok value) :=
  congrArg Token.number (numeralValue_eq_ok_iff.2 worth)

/-- The digits of a number, after a minus or without one. -/
theorem run_toDigits {negative : Bool} {lexer : Lexer} (count : Nat)
    (begins : ∀ c : Char, c.isDigit = true → ∀ more, lexer.run (.char c :: more) =
      run (.number ⟨⟨negative, [c], none, none⟩, if c = '0' then .zero else .integer⟩) more)
    {rest : List Glyph} (ends : Ended rest) :
    lexer.run ((Nat.toDigits 10 count).map .char ++ rest) =
      .number (numeralValue ⟨negative, Nat.toDigits 10 count, none, none⟩) :: between.run rest := by
  rcases Nat.eq_zero_or_pos count with rfl | positive
  · calc lexer.run ((Nat.toDigits 10 0).map .char ++ rest)
      _ = run (.number ⟨⟨negative, ['0'], none, none⟩, .zero⟩) rest := begins '0' (by decide) rest
      _ = _ := by rw [run_ended (Or.inl rfl) ends, token_whole]; rfl
  · obtain ⟨first, digits, written, nonzero, decimal⟩ :=
      Numeral.exists_toDigits_of_pos positive
    have later : ∀ c ∈ digits, c.isDigit = true := fun c member =>
      Nat.isDigit_of_mem_toDigits (by decide) (by decide)
        (written ▸ List.mem_cons_of_mem first member)
    rw [written]
    calc lexer.run ((first :: digits).map .char ++ rest)
      _ = run (.number ⟨⟨negative, [first], none, none⟩, .integer⟩)
          (digits.map .char ++ rest) := by
        rw [List.map_cons, List.cons_append, begins first decimal, if_neg nonzero]
      _ = run (.number ⟨⟨negative, digits.reverse ++ [first], none, none⟩, .integer⟩) rest :=
        run_digits negative digits [first] later rest
      _ = _ := by
        rw [run_ended (Or.inr rfl) ends, token_whole, List.reverse_append, List.reverse_reverse]
        rfl

theorem begins_between (c : Char) (decimal : c.isDigit = true) (more : List Glyph) :
    between.run (.char c :: more) =
      run (.number ⟨⟨false, [c], none, none⟩, if c = '0' then .zero else .integer⟩) more := by
  have other (mark : Char) (plain : mark.isDigit = false) : (c = mark) = False :=
    eq_false fun same => Bool.false_ne_true (plain.symm.trans (same ▸ decimal))
  by_cases zero : c = '0'
  · rw [zero]
    rfl
  · simp only [run, step, start, other ' ' rfl, other '\n' rfl, other '\t' rfl, other '\r' rfl,
      other '\x7b' rfl, other '\x7d' rfl, other '[' rfl, other ']' rfl, other ',' rfl,
      other ':' rfl, other '"' rfl, other 'n' rfl, other 't' rfl, other 'f' rfl, other '-' rfl,
      or_self, if_false, if_neg zero, if_pos decimal, List.nil_append]

theorem begins_sign (c : Char) (decimal : c.isDigit = true) (more : List Glyph) :
    run (.number ⟨⟨true, [], none, none⟩, .sign⟩) (.char c :: more) =
      run (.number ⟨⟨true, [c], none, none⟩, if c = '0' then .zero else .integer⟩) more := by
  by_cases zero : c = '0'
  · rw [zero]
    rfl
  · simp only [run, step, NumeralState.move, if_neg zero, if_pos decimal, List.nil_append]

/-- A whole number of any size is read as one numeral, where it ends. -/
theorem run_integer (negative : Bool) (count : Nat) {rest : List Glyph} (ends : Ended rest) :
    between.run ((signed negative (Nat.toDigits 10 count)).map .char ++ rest) =
      .number (numeralValue ⟨negative, Nat.toDigits 10 count, none, none⟩) :: between.run rest := by
  cases negative with
  | false => exact run_toDigits count begins_between ends
  | true => exact run_toDigits count begins_sign ends

theorem number?_toDigits {count : Nat} (small : count < Word.bound) :
    (Numeral.mk false (Nat.toDigits 10 count) none none).number? = some (.whole count) := by
  unfold Numeral.number?
  dsimp only
  rw [Numeral.value_toDigits, if_neg (by decide), if_pos small]

theorem number?_minus {count : Nat} (positive : 0 < count) (small : count ≤ Word.signedBound) :
    (Numeral.mk true (Nat.toDigits 10 count) none none).number? = some (.whole (-count)) := by
  unfold Numeral.number?
  dsimp only
  rw [Numeral.value_toDigits, if_pos rfl, if_pos ⟨positive, small⟩]

/-- A whole number of 64 bits is read as it is, where it ends. -/
theorem run_number {value : Number} (word : value.IsWord) {rest : List Glyph} (ends : Ended rest) :
    between.run (value.text.map .char ++ rest) = .number (.ok value) :: between.run rest := by
  match value, word with
  | .whole (.ofNat count), word =>
    have small : count < Word.bound := Int.ofNat_lt.1 word.2
    show between.run ((toString (Int.ofNat count)).toList.map .char ++ rest) = _
    rw [toList_toString_ofNat]
    exact (run_integer false count ends).trans
      (congrArg (· :: _) (token_of_number? (number?_toDigits small)))
  | .whole (.negSucc count), word =>
    have small : count + 1 ≤ Word.signedBound := by
      have lower := word.1
      omega
    show between.run ((toString (Int.negSucc count)).toList.map .char ++ rest) = _
    rw [toList_toString_negSucc]
    exact (run_integer true (count + 1) ends).trans
      (congrArg (· :: _) (token_of_number? (number?_minus (Nat.succ_pos count) small)))

end Lexer

/-! ### Values -/

namespace Lexes

/-- Parts with commas between them are read one after another. -/
theorem intercalate {parts : List (List Char)} {reads : List (List Token)}
    (each : List.Forall₂ Lexes parts reads) :
    Lexes (commaSeparated parts) (List.intercalate [.comma] reads) := by
  unfold commaSeparated
  induction each with
  | nil => exact fun _ _ => rfl
  | @cons part read parts reads here later inductionHypothesis =>
    cases later with
    | nil =>
      rw [List.intercalate_singleton, List.intercalate_singleton]
      exact here
    | @cons second other parts reads =>
      intro after ends
      have comma : Ended (.char ',' ::
          ((List.intercalate [','] (second :: parts)).map Glyph.char ++ after)) :=
        ended_cons (by decide) _
      rw [List.intercalate_cons_cons, List.intercalate_cons_cons]
      calc Lexer.between.run
            ((part ++ [','] ++ List.intercalate [','] (second :: parts)).map .char ++ after)
        _ = Lexer.between.run (part.map .char ++ .char ',' ::
            ((List.intercalate [','] (second :: parts)).map .char ++ after)) := by
          rw [List.map_append, List.map_append, List.append_assoc, List.append_assoc]
          rfl
        _ = read ++ .comma :: Lexer.between.run
            ((List.intercalate [','] (second :: parts)).map Glyph.char ++ after) := here _ comma
        _ = _ := by
          rw [inductionHypothesis after ends, List.append_assoc, List.append_assoc]
          rfl

/-- What stands between brackets is read between their tokens. -/
theorem enclosed {first last : Char} {opening closing : Token} {inner : List Char}
    {read : List Token}
    (opens : ∀ rest, Lexer.between.run (.char first :: rest) = opening :: Lexer.between.run rest)
    (closes : ∀ rest, Lexer.between.run (.char last :: rest) = closing :: Lexer.between.run rest)
    (ends : last ∈ [',', ']', '\x7d']) (lexes : Lexes inner read) :
    Lexes (first :: inner ++ [last]) (opening :: read ++ [closing]) := by
  intro rest _
  calc Lexer.between.run ((first :: inner ++ [last]).map .char ++ rest)
    _ = Lexer.between.run (.char first :: (inner.map .char ++ .char last :: rest)) := by
      rw [List.map_append, List.append_assoc]
      rfl
    _ = opening :: (read ++ closing :: Lexer.between.run rest) := by
      rw [opens, lexes _ (ended_cons ends rest), closes]
    _ = _ := by
      rw [List.append_assoc]
      rfl

/-- A key is read before its value. -/
theorem keyed {value : List Char} {read : List Token} (key : String) (lexes : Lexes value read) :
    Lexes (quotedText key ++ ':' :: value) (.text (.ok key) :: .colon :: read) := by
  intro rest ends
  rw [List.map_append, List.append_assoc, Lexer.run_quotedText]
  exact congrArg (fun read => .text (.ok key) :: .colon :: read) (lexes rest ends)

theorem items {items : List Json} (each : ∀ item ∈ items, Lexes item.render item.tokenized) :
    List.Forall₂ Lexes (renderItems items) (tokenizedItems items) := by
  induction items with
  | nil => exact .nil
  | cons item rest inductionHypothesis =>
    obtain ⟨here, later⟩ := List.forall_mem_cons.1 each
    exact .cons here (inductionHypothesis later)

theorem members {members : List (String × Json)}
    (each : ∀ member ∈ members, Lexes member.2.render member.2.tokenized) :
    List.Forall₂ Lexes (renderMembers members) (tokenizedMembers members) := by
  induction members with
  | nil => exact .nil
  | cons member rest inductionHypothesis =>
    obtain ⟨key, value⟩ := member
    obtain ⟨here, later⟩ := List.forall_mem_cons.1 each
    exact .cons (here.keyed key) (inductionHypothesis later)

/-- A value that is written is read as its tokens. -/
theorem render {value : Json} (words : value.Numbers Number.IsWord) :
    Lexes value.render value.tokenized := by
  induction words with
  | null => exact fun _ _ => rfl
  | bool value =>
    cases value with
    | true => exact fun _ _ => rfl
    | false => exact fun _ _ => rfl
  | number word => exact fun _ ends => Lexer.run_number word ends
  | text words => exact fun rest _ => Lexer.run_quotedText words rest
  | list _ inductionHypothesis =>
    exact enclosed (fun _ => rfl) (fun _ => rfl) (by decide)
      (intercalate (items inductionHypothesis))
  | object _ inductionHypothesis =>
    exact enclosed (fun _ => rfl) (fun _ => rfl) (by decide)
      (intercalate (members inductionHypothesis))

end Lexes

/-- The tokens of the text of a value. -/
theorem tokens_print {value : Json} (words : value.Numbers Number.IsWord) :
    tokens (Glyph.ofString value.print) = value.tokenized := by
  have read := Lexes.render words [] (Or.inl rfl)
  rw [List.append_nil] at read
  unfold tokens Glyph.ofString print
  rw [String.toList_ofList, read]
  exact List.append_nil _

end NodeAgent.Json
