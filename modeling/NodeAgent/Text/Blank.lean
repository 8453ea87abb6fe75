/-
This file says which characters are blank and cuts blank ends off a text. Blank means the
White_Space property of Unicode, which holds of more characters than core's `isWhitespace`.
-/

namespace NodeAgent.Text

/-- First and last code point of each range of white space. -/
def blankRanges : List (Nat × Nat) :=
  [(0x09, 0x0D), (0x20, 0x20), (0x85, 0x85), (0xA0, 0xA0), (0x1680, 0x1680), (0x2000, 0x200A),
   (0x2028, 0x2029), (0x202F, 0x202F), (0x205F, 0x205F), (0x3000, 0x3000)]

/-- Whether a character is white space. -/
def isBlank (c : Char) : Bool :=
  blankRanges.any fun range => range.1 ≤ c.toNat && c.toNat ≤ range.2

/-- The text without the characters of a class at its end. -/
def trimEnd (drop : Char → Bool) (text : List Char) : List Char :=
  (text.reverse.dropWhile drop).reverse

/-- The text without the characters of a class at its ends. -/
def trimBy (drop : Char → Bool) (text : List Char) : List Char :=
  trimEnd drop (text.dropWhile drop)

/-- The text without white space at its ends. -/
def trim (text : String) : String := String.ofList (trimBy isBlank text.toList)

/-- The parts of a text between the occurrences of a character; one more than there are
occurrences. -/
def splitAt (mark : Char) : List Char → List (List Char)
  | [] => [[]]
  | c :: rest =>
    if c = mark then [] :: splitAt mark rest
    else
      match splitAt mark rest with
      | [] => [[c]]
      | part :: parts => (c :: part) :: parts

/-- The first line that is not blank, without its blank ends. -/
def firstLine (text : String) : Option String :=
  ((splitAt '\n' text.toList).map (trimBy isBlank)).find? (· ≠ []) |>.map String.ofList

end NodeAgent.Text
