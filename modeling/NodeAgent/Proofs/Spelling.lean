/-
This file shows that the octets of a text are read as that text. Each character is read from its
first octet, which says how many follow and in which range the next one is, and from the octets that
follow, each of which carries six more bits.
-/

import NodeAgent.Rpc.Frame

namespace NodeAgent

namespace Text

/-- An octet that goes on with a character: it carries the last six bits of what is read then. -/
def tailOctet (bits : Nat) : UInt8 := .ofNat (bits % 0x40 + 0x80)

theorem toNat_tailOctet (bits : Nat) : (tailOctet bits).toNat = bits % 0x40 + 0x80 := by
  unfold tailOctet
  rw [UInt8.toNat_ofNat']
  omega

/-- The next octet is in the range that it must be in. -/
def Unfinished.Allows (begun : Unfinished) (bits : Nat) : Prop :=
  begun.lowest ≤ bits % 0x40 + 0x80 ∧ bits % 0x40 + 0x80 ≤ begun.highest

/-! ### The octets that go on with a character -/

theorem nextOctet_tailOctet {begun : Unfinished} {bits : Nat} (allows : begun.Allows bits)
    (carried : begun.bits = bits / 0x40) :
    nextOctet (some begun) (tailOctet bits) =
      if begun.missing ≤ 1 then ([.char (Char.ofNat bits)], none)
      else ([], some ⟨begun.octets ++ [tailOctet bits], bits, 0x80, 0xBF, begun.missing - 1⟩) := by
  have whole : begun.bits * 0x40 + (tailOctet bits).toNat % 0x40 = bits := by
    rw [carried, toNat_tailOctet]
    omega
  unfold nextOctet
  dsimp only
  rw [if_pos (by rwa [toNat_tailOctet]), whole]

theorem allows_tail (octets : List UInt8) (earlier bits missing : Nat) :
    (Unfinished.mk octets earlier 0x80 0xBF missing).Allows bits := by
  constructor
  · show 0x80 ≤ bits % 0x40 + 0x80
    omega
  · show bits % 0x40 + 0x80 ≤ 0xBF
    omega

/-- The last octet of a character completes it. -/
theorem glyphsAfter_last {begun : Unfinished} {bits : Nat} (allows : begun.Allows bits)
    (carried : begun.bits = bits / 0x40) (last : begun.missing = 1) (rest : List UInt8) :
    glyphsAfter (some begun) (tailOctet bits :: rest) =
      .char (Char.ofNat bits) :: glyphsAfter none rest := by
  rw [glyphsAfter, nextOctet_tailOctet allows carried, if_pos (by omega)]
  rfl

/-- Any other octet of a character leaves one less to come. -/
theorem glyphsAfter_more {begun : Unfinished} {bits missing : Nat} (allows : begun.Allows bits)
    (carried : begun.bits = bits / 0x40) (more : begun.missing = missing + 2)
    (rest : List UInt8) :
    glyphsAfter (some begun) (tailOctet bits :: rest) =
      glyphsAfter (some ⟨begun.octets ++ [tailOctet bits], bits, 0x80, 0xBF, missing + 1⟩)
        rest := by
  rw [glyphsAfter, nextOctet_tailOctet allows carried, if_neg (by omega), more]
  rfl

theorem glyphsAfter_two {begun : Unfinished} {value : Nat} (allows : begun.Allows (value / 0x40))
    (carried : begun.bits = value / 0x40 / 0x40) (missing : begun.missing = 2)
    (rest : List UInt8) :
    glyphsAfter (some begun) (tailOctet (value / 0x40) :: tailOctet value :: rest) =
      .char (Char.ofNat value) :: glyphsAfter none rest := by
  rw [glyphsAfter_more allows carried missing]
  exact glyphsAfter_last (allows_tail ..) rfl rfl rest

theorem glyphsAfter_three {begun : Unfinished} {value : Nat}
    (allows : begun.Allows (value / 0x1000)) (carried : begun.bits = value / 0x1000 / 0x40)
    (missing : begun.missing = 3) (rest : List UInt8) :
    glyphsAfter (some begun)
        (tailOctet (value / 0x1000) :: tailOctet (value / 0x40) :: tailOctet value :: rest) =
      .char (Char.ofNat value) :: glyphsAfter none rest := by
  rw [glyphsAfter_more allows carried missing]
  exact glyphsAfter_two (allows_tail ..) (by dsimp only; omega) rfl rest

/-! ### The first octet of a character -/

/-- The octet is read as the first of a character, in which some octets are missing and the next of
them, with which the given bits are read, is allowed. -/
def Leads (octet : UInt8) (next missing : Nat) : Prop :=
  ∃ begun : Unfinished, leadOctet octet = ([], some begun) ∧ begun.Allows next ∧
    begun.bits = next / 0x40 ∧ begun.missing = missing

theorem leadOctet_single {value : Nat} (small : value ≤ 0x7F) :
    leadOctet (.ofNat value) = ([.char (Char.ofNat value)], none) := by
  have octet : (UInt8.ofNat value).toNat = value := by
    rw [UInt8.toNat_ofNat']
    omega
  unfold leadOctet
  rw [octet]
  exact if_pos (by omega)

theorem leads_two {value : Nat} (least : 0x80 ≤ value) (most : value ≤ 0x7FF) :
    Leads (.ofNat (value / 0x40 % 0x20 + 0xC0)) value 1 := by
  have octet : (UInt8.ofNat (value / 0x40 % 0x20 + 0xC0)).toNat = value / 0x40 + 0xC0 := by
    rw [UInt8.toNat_ofNat']
    omega
  unfold Leads leadOctet
  rw [octet]
  dsimp only
  rw [if_neg (by omega), if_pos (by omega)]
  exact ⟨_, rfl, allows_tail .., by dsimp only; omega, rfl⟩

theorem leads_three {value : Nat} (least : 0x800 ≤ value) (most : value ≤ 0xFFFF)
    (scalar : value < 0xD800 ∨ 0xDFFF < value) :
    Leads (.ofNat (value / 0x1000 % 0x10 + 0xE0)) (value / 0x40) 2 := by
  have octet : (UInt8.ofNat (value / 0x1000 % 0x10 + 0xE0)).toNat = value / 0x1000 + 0xE0 := by
    rw [UInt8.toNat_ofNat']
    omega
  unfold Leads leadOctet
  rw [octet]
  dsimp only
  rw [if_neg (by omega), if_neg (by omega)]
  -- The first value must not be spelled in fewer octets, and the fourteenth is half surrogates.
  by_cases first : value / 0x1000 + 0xE0 = 0xE0
  · rw [if_pos first]
    exact ⟨_, rfl, by unfold Unfinished.Allows; dsimp only; omega, by dsimp only; omega, rfl⟩
  rw [if_neg first]
  by_cases half : value / 0x1000 + 0xE0 = 0xED
  · rw [if_pos half]
    exact ⟨_, rfl, by unfold Unfinished.Allows; dsimp only; omega, by dsimp only; omega, rfl⟩
  rw [if_neg half, if_pos (by omega)]
  exact ⟨_, rfl, allows_tail .., by dsimp only; omega, rfl⟩

theorem leads_four {value : Nat} (least : 0x10000 ≤ value) (most : value < 0x110000) :
    Leads (.ofNat (value / 0x40000 % 0x08 + 0xF0)) (value / 0x1000) 3 := by
  have octet : (UInt8.ofNat (value / 0x40000 % 0x08 + 0xF0)).toNat = value / 0x40000 + 0xF0 := by
    rw [UInt8.toNat_ofNat']
    omega
  unfold Leads leadOctet
  rw [octet]
  dsimp only
  rw [if_neg (by omega), if_neg (by omega), if_neg (by omega), if_neg (by omega),
    if_neg (by omega)]
  -- The first value must not be spelled in fewer octets, and the last goes on past all characters.
  by_cases first : value / 0x40000 + 0xF0 = 0xF0
  · rw [if_pos first]
    exact ⟨_, rfl, by unfold Unfinished.Allows; dsimp only; omega, by dsimp only; omega, rfl⟩
  rw [if_neg first]
  by_cases middle : value / 0x40000 + 0xF0 ≤ 0xF3
  · rw [if_pos (by omega)]
    exact ⟨_, rfl, allows_tail .., by dsimp only; omega, rfl⟩
  rw [if_neg (by omega), if_pos (by omega)]
  exact ⟨_, rfl, by unfold Unfinished.Allows; dsimp only; omega, by dsimp only; omega, rfl⟩

theorem glyphsAfter_of_lead {octet : UInt8} {begun : Unfinished}
    (leads : leadOctet octet = ([], some begun)) (rest : List UInt8) :
    glyphsAfter none (octet :: rest) = glyphsAfter (some begun) rest := by
  rw [glyphsAfter, nextOctet, leads]
  rfl

/-! ### Characters and texts -/

/-- The octets of a character are read as the character. -/
theorem glyphsAfter_char (c : Char) (rest : List UInt8) :
    glyphsAfter none (String.utf8EncodeChar c ++ rest) = .char c :: glyphsAfter none rest := by
  have scalar : c.val.toNat < 0xD800 ∨ 0xDFFF < c.val.toNat ∧ c.val.toNat < 0x110000 := c.valid
  have same : Char.ofNat c.val.toNat = c := c.ofNat_toNat
  unfold String.utf8EncodeChar
  generalize c.val.toNat = value at scalar same
  subst same
  dsimp only
  by_cases one : value ≤ 0x7F
  · rw [if_pos one, List.cons_append, List.nil_append, glyphsAfter, nextOctet,
      leadOctet_single one]
    rfl
  rw [if_neg one]
  by_cases two : value ≤ 0x7FF
  · obtain ⟨begun, lead, allows, carried, missing⟩ := leads_two (by omega) two
    rw [if_pos two]
    exact (glyphsAfter_of_lead lead _).trans (glyphsAfter_last allows carried missing rest)
  rw [if_neg two]
  by_cases three : value ≤ 0xFFFF
  · obtain ⟨begun, lead, allows, carried, missing⟩ := leads_three (by omega) three (by omega)
    rw [if_pos three]
    exact (glyphsAfter_of_lead lead _).trans (glyphsAfter_two allows carried missing rest)
  · have least : 0x10000 ≤ value := by omega
    obtain ⟨begun, lead, allows, carried, missing⟩ := leads_four least (by omega)
    rw [if_neg three]
    exact (glyphsAfter_of_lead lead _).trans (glyphsAfter_three allows carried missing rest)

theorem glyphs_chars (text : List Char) :
    glyphs (text.flatMap String.utf8EncodeChar) = text.map .char := by
  induction text with
  | nil => rfl
  | cons c rest inductionHypothesis =>
    exact (glyphsAfter_char c _).trans (congrArg (Glyph.char c :: ·) inductionHypothesis)

theorem toList_loop (octets : ByteArray) (index : Nat) (before : List UInt8) :
    ByteArray.toList.loop octets index before =
      before.reverse ++ octets.data.toList.drop index := by
  fun_induction ByteArray.toList.loop octets index before with
  | case1 index before within inductionHypothesis =>
    have inside : index < octets.data.toList.length := within
    have here : octets.get! index = octets.data.toList[index] :=
      getElem!_pos octets.data index within
    rw [inductionHypothesis, List.drop_eq_getElem_cons inside, here, List.reverse_cons,
      List.append_assoc]
    rfl
  | case2 index before outside =>
    have past : octets.data.toList.length ≤ index := Nat.le_of_not_lt outside
    rw [List.drop_eq_nil_of_le past, List.append_nil]

/-- The octets of a text are those of its characters. -/
theorem octets_eq (text : String) :
    octets text = text.toList.flatMap String.utf8EncodeChar := by
  unfold octets ByteArray.toList
  rw [toList_loop, String.toUTF8_eq_toByteArray, ← String.utf8Encode_toList]
  exact List.toList_data_toByteArray

/-- The octets of a text are read as the text. -/
theorem strict?_octets (text : String) : strict? (octets text) = some text := by
  unfold strict?
  rw [octets_eq, glyphs_chars, Glyph.text?_map_char]
  exact congrArg some String.ofList_toList

end Text

namespace Rpc

/-- A binary frame with the octets of a text has the same message as the text. -/
theorem Frame.message?_binary_octets (words : String) :
    (Frame.binary (Text.octets words)).message? = (Frame.text words).message? := by
  unfold Frame.message?
  exact congrArg (Option.bind · _) (Text.strict?_octets words)

end Rpc

end NodeAgent
