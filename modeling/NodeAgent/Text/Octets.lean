/-
This file reads octets as UTF-8. Octets that are not UTF-8 are kept as stray runs, each of them
the longest beginning of a character that a later octet breaks off, so that a reader can either
refuse them or show a replacement character for each run.
-/

namespace NodeAgent.Text

/-- What a run of octets stands for: a character, or octets that begin none. -/
inductive Glyph where
  | char (c : Char)
  | stray (octets : List UInt8)
deriving DecidableEq, Inhabited

namespace Glyph

/-- The character shown for a glyph: stray octets show as U+FFFD. -/
def shown : Glyph → Char
  | char c => c
  | stray _ => '\uFFFD'

/-- The number of octets of a glyph. -/
def width : Glyph → Nat
  | char c => c.utf8Size
  | stray octets => octets.length

/-- A text, character by character. -/
def ofString (text : String) : List Glyph := text.toList.map char

/-- The text of glyphs that are all characters. -/
def text? : List Glyph → Option (List Char)
  | [] => some []
  | char c :: rest => (text? rest).map (c :: ·)
  | stray _ :: _ => none

/-- The text of glyphs with a replacement character for each stray run. -/
def lossyText (glyphs : List Glyph) : String := String.ofList (glyphs.map shown)

theorem text?_map_char (text : List Char) : text? (text.map char) = some text := by
  induction text with
  | nil => rfl
  | cons c rest inductionHypothesis => simp [text?, inductionHypothesis]

end Glyph

/-- A character of which some octets are read: they, the bits they carry, the range of the next
octet and the number of octets still to come. -/
structure Unfinished where
  octets : List UInt8
  bits : Nat
  lowest : Nat
  highest : Nat
  missing : Nat

/-- Reads the first octet of a character. -/
def leadOctet (octet : UInt8) : List Glyph × Option Unfinished :=
  let value := octet.toNat
  if value < 0x80 then ([.char (Char.ofNat value)], none)
  else if 0xC2 ≤ value ∧ value ≤ 0xDF then ([], some ⟨[octet], value % 0x20, 0x80, 0xBF, 1⟩)
  else if value = 0xE0 then ([], some ⟨[octet], 0, 0xA0, 0xBF, 2⟩)
  else if value = 0xED then ([], some ⟨[octet], 0xD, 0x80, 0x9F, 2⟩)
  else if 0xE1 ≤ value ∧ value ≤ 0xEF then ([], some ⟨[octet], value % 0x10, 0x80, 0xBF, 2⟩)
  else if value = 0xF0 then ([], some ⟨[octet], 0, 0x90, 0xBF, 3⟩)
  else if 0xF1 ≤ value ∧ value ≤ 0xF3 then ([], some ⟨[octet], value % 0x08, 0x80, 0xBF, 3⟩)
  else if value = 0xF4 then ([], some ⟨[octet], 4, 0x80, 0x8F, 3⟩)
  else ([.stray [octet]], none)

/-- Reads one octet after an unfinished character or none: the glyphs that are now complete, and
what is unfinished. -/
def nextOctet (unfinished : Option Unfinished) (octet : UInt8) : List Glyph × Option Unfinished :=
  match unfinished with
  | none => leadOctet octet
  | some begun =>
    if begun.lowest ≤ octet.toNat ∧ octet.toNat ≤ begun.highest then
      let bits := begun.bits * 0x40 + octet.toNat % 0x40
      if begun.missing ≤ 1 then ([.char (Char.ofNat bits)], none)
      else ([], some ⟨begun.octets ++ [octet], bits, 0x80, 0xBF, begun.missing - 1⟩)
    else
      let (glyphs, later) := leadOctet octet
      (.stray begun.octets :: glyphs, later)

/-- Reads octets after an unfinished character or none. -/
def glyphsAfter (unfinished : Option Unfinished) : List UInt8 → List Glyph
  | [] => (unfinished.map fun begun => Glyph.stray begun.octets).toList
  | octet :: rest =>
    let (glyphs, later) := nextOctet unfinished octet
    glyphs ++ glyphsAfter later rest

/-- Reads octets as UTF-8. -/
def glyphs (octets : List UInt8) : List Glyph := glyphsAfter none octets

/-- The octets of a text. -/
def octets (text : String) : List UInt8 := text.toUTF8.toList

/-- The text of octets, with a replacement character for each stray run. -/
def lossy (octets : List UInt8) : String := Glyph.lossyText (glyphs octets)

/-- The text of octets that are UTF-8. -/
def strict? (octets : List UInt8) : Option String :=
  (Glyph.text? (glyphs octets)).map String.ofList

end NodeAgent.Text
