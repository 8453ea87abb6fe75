/-
This file builds the tree of a written value from its tokens again. The tree is the one that the
value has as a part without faults, so a reader of the text sees what a reader of the value sees.
-/

import NodeAgent.Json.Decoder
import NodeAgent.Proofs.Lexing

namespace NodeAgent

/-- A result that was reached over another one came from it. -/
theorem of_bind_eq_ok {Error First Later : Type} {first : Except Error First}
    {next : First → Except Error Later} {last : Later} (reached : first >>= next = .ok last) :
    ∃ result, first = .ok result ∧ next result = .ok last := by
  cases first with
  | error failure => cases reached
  | ok result => exact ⟨result, rfl, reached⟩

theorem of_map_eq_ok {Error First Later : Type} {first : Except Error First}
    {change : First → Later} {last : Later} (reached : first.map change = .ok last) :
    ∃ result, first = .ok result ∧ change result = last := by
  cases first with
  | error failure => cases reached
  | ok result => exact ⟨result, rfl, Except.ok.inj reached⟩

namespace Json

/-! ### Trees -/

/-- A part that is complete: it is attached to the innermost container, or it is the whole. -/
def settled (part : Node) (rest : List Token) : List Frame → Document
  | [] => ⟨part, !rest.isEmpty⟩
  | frame :: below => grow rest .separator (frame.attach part :: below)

/-- Where a value may begin. -/
def Expected.IsValue (expected : Expected) : Prop := expected = .value ∨ expected = .firstItem

/-- A value grows into its part from its tokens, whatever is around it. -/
def Grows (value : Json) : Prop :=
  ∀ (rest : List Token) (expected : Expected) (stack : List Frame), expected.IsValue →
    grow (value.tokenized ++ rest) expected stack = settled value.node rest stack

theorem grow_items {first : Json} {items : List Json} (each : ∀ item ∈ first :: items, item.Grows)
    (rest : List Token) {expected : Expected} (begins : expected.IsValue) (read : List Node)
    (below : List Frame) :
    grow (List.intercalate [.comma] (tokenizedItems (first :: items)) ++ .closeList :: rest)
        expected (.list read :: below) =
      settled (.list (read.reverse ++ itemNodes (first :: items)) .closed) rest below := by
  induction items generalizing first expected read with
  | nil =>
    obtain ⟨here, -⟩ := List.forall_mem_cons.1 each
    have attached : read.reverse ++ itemNodes [first] = (first.node :: read).reverse :=
      List.reverse_cons.symm
    rw [attached]
    show grow (List.intercalate [.comma] [first.tokenized] ++ .closeList :: rest) expected _ = _
    rw [List.intercalate_singleton]
    exact here (.closeList :: rest) expected _ begins
  | cons second items inductionHypothesis =>
    obtain ⟨here, later⟩ := List.forall_mem_cons.1 each
    have attached : read.reverse ++ itemNodes (first :: second :: items) =
        (first.node :: read).reverse ++ itemNodes (second :: items) := by
      rw [List.reverse_cons, List.append_assoc]
      rfl
    have others := inductionHypothesis later (Or.inl rfl) (first.node :: read)
    rw [attached, ← others]
    show grow (List.intercalate [.comma] (first.tokenized :: second.tokenized ::
      tokenizedItems items) ++ .closeList :: rest) expected (.list read :: below) = _
    rw [List.intercalate_cons_cons, List.append_assoc, List.append_assoc, here _ _ _ begins]
    rfl

theorem grow_members {first : String × Json} {members : List (String × Json)}
    (each : ∀ member ∈ first :: members, member.2.Grows) (rest : List Token)
    {expected : Expected} (begins : expected = .key ∨ expected = .firstKey)
    (read : List (Except Break String × Node)) (below : List Frame) :
    grow (List.intercalate [.comma] (tokenizedMembers (first :: members)) ++ .closeObject :: rest)
        expected (.object read :: below) =
      settled (.object (read.reverse ++ memberNodes (first :: members)) .closed) rest below := by
  -- The key and the colon are read, then the value is attached under the key.
  have member (key : String) (value : Json) (grows : value.Grows) (more : List Token)
      (expected : Expected) (begins : expected = .key ∨ expected = .firstKey)
      (read : List (Except Break String × Node)) :
      grow (.text (.ok key) :: .colon :: (value.tokenized ++ more)) expected
          (.object read :: below) =
        grow more .separator (.object ((.ok key, value.node) :: read) :: below) := by
    have settles := grows more .value (.member read (.ok key) :: below) (Or.inl rfl)
    rcases begins with rfl | rfl
    · exact settles
    · exact settles
  induction members generalizing first expected read with
  | nil =>
    obtain ⟨key, value⟩ := first
    obtain ⟨here, -⟩ := List.forall_mem_cons.1 each
    have attached : read.reverse ++ memberNodes [(key, value)] =
        ((.ok key, value.node) :: read).reverse := List.reverse_cons.symm
    rw [attached]
    show grow (List.intercalate [.comma] [.text (.ok key) :: .colon :: value.tokenized] ++
      .closeObject :: rest) expected _ = _
    rw [List.intercalate_singleton]
    exact member key value here (.closeObject :: rest) expected begins read
  | cons second members inductionHypothesis =>
    obtain ⟨key, value⟩ := first
    obtain ⟨here, later⟩ := List.forall_mem_cons.1 each
    have attached : read.reverse ++ memberNodes ((key, value) :: second :: members) =
        ((.ok key, value.node) :: read).reverse ++ memberNodes (second :: members) := by
      rw [List.reverse_cons, List.append_assoc]
      rfl
    have others := inductionHypothesis later (Or.inl rfl) ((.ok key, value.node) :: read)
    rw [attached, ← others]
    obtain ⟨name, next⟩ := second
    show grow (List.intercalate [.comma] ((.text (.ok key) :: .colon :: value.tokenized) ::
      (.text (.ok name) :: .colon :: next.tokenized) :: tokenizedMembers members) ++
        .closeObject :: rest) expected (.object read :: below) = _
    rw [List.intercalate_cons_cons, List.append_assoc, List.append_assoc]
    exact member key value here _ expected begins read

/-- A value grows into its part. -/
theorem grows_of_numbers {kind : Number → Prop} {value : Json} (numbers : value.Numbers kind) :
    value.Grows := by
  induction numbers with
  | null | bool value | number here | text words =>
    rintro rest expected stack (rfl | rfl)
    · cases stack <;> rfl
    · cases stack <;> rfl
  | @list items _ inductionHypothesis =>
    intro rest expected stack begins
    have opened (inner : List Token) : grow (.openList :: inner) expected stack =
        grow inner .firstItem (.list [] :: stack) := by
      rcases begins with rfl | rfl
      · rfl
      · rfl
    show grow (.openList :: List.intercalate [.comma] (tokenizedItems items) ++ [.closeList] ++
      rest) expected stack = _
    rw [List.cons_append, List.cons_append, List.append_assoc, opened]
    cases items with
    | nil => cases stack <;> rfl
    | cons first items => exact grow_items inductionHypothesis rest (Or.inr rfl) [] stack
  | @object members _ inductionHypothesis =>
    intro rest expected stack begins
    have opened (inner : List Token) : grow (.openObject :: inner) expected stack =
        grow inner .firstKey (.object [] :: stack) := by
      rcases begins with rfl | rfl
      · rfl
      · rfl
    show grow (.openObject :: List.intercalate [.comma] (tokenizedMembers members) ++
      [.closeObject] ++ rest) expected stack = _
    rw [List.cons_append, List.cons_append, List.append_assoc, opened]
    cases members with
    | nil => cases stack <;> rfl
    | cons first members => exact grow_members inductionHypothesis rest (Or.inr rfl) [] stack

/-- The tree of the text of a value is the value as a part. -/
theorem document_print {value : Json} (words : value.Numbers Number.IsWord) :
    document (Text.Glyph.ofString value.print) = ⟨value.node, false⟩ := by
  have grown := grows_of_numbers words [] .value [] (Or.inl rfl)
  rw [List.append_nil] at grown
  unfold document
  rw [tokens_print words, grown]
  rfl

/-- A value is read off its text as it is read off itself. -/
theorem decodeText_print {Value : Type} (decoder : Decoder Value) {value : Json}
    (words : value.Numbers Number.IsWord) :
    decodeText decoder value.print = decoder ⟨.text, 0⟩ value.node := by
  unfold decodeText decodeGlyphs
  rw [document_print words]
  dsimp only
  cases decoder ⟨.text, 0⟩ value.node with
  | ok found => rfl
  | error fault => rfl

end Json

end NodeAgent
