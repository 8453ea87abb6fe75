/-
This file reads typed values off the tree of a JSON text. A decoder goes through the tree in
reading order, so of two faults the earlier one is reported. Records are described by their
fields; a record is read from an object with its members in any order, or from a list with its
fields in order. The same decoders read a value that was read before; there a list with too many
items is refused for its length.
-/

import NodeAgent.Json.Fault
import NodeAgent.Word

namespace NodeAgent.Json

/-- Where a part comes from: a text or a value that was read before. -/
inductive Origin where
  | text
  | value
deriving DecidableEq

/-- What a decoder knows about the place of a part. -/
structure Place where
  origin : Origin
  depth : Nat

/-- The place inside one more container. A text may nest only so deep. -/
def Place.enter (place : Place) : Except Fault Place :=
  if place.origin = .text ∧ deepest ≤ place.depth then .error (.broken .malformed)
  else .ok { place with depth := place.depth + 1 }

/-- Reads a typed value off a part. -/
abbrev Decoder (Value : Type) := Place → Node → Except Fault Value

/-- A step that can break off, as a step of a decoder. -/
def orBroken {Value : Type} (step : Except Break Value) : Except Fault Value :=
  step.mapError .broken

/-- What a part is, for a message. A part that breaks off cannot be named. -/
def Node.found : Node → Except Fault Found
  | .null => .ok .null
  | .bool value => .ok (.bool value)
  | .number value => orBroken (value.map .number)
  | .text value => orBroken (value.map .text)
  | .list _ _ => .ok .list
  | .object _ _ => .ok .object
  | .broken _ wanted _ => .error (.broken wanted)

/-- Refuses a part that is not of the expected type. -/
def unexpected {Value : Type} (part : Node) (expected : String) : Except Fault Value := do
  throw (.rejected (.invalidType (← part.found) expected))

namespace Decoder

variable {Value Other : Type}

/-! ### Simple values -/

/-- Reads a text, naming what was expected otherwise. -/
def textFor (expected : String) : Decoder String := fun _ part =>
  match part with
  | .text value => orBroken value
  | part => unexpected part expected

/-- Reads a text. -/
def text : Decoder String := textFor "a string"

/-- Reads a truth value. -/
def bool : Decoder Bool := fun _ part =>
  match part with
  | .bool value => .ok value
  | part => unexpected part "a boolean"

/-- Reads a whole number of 64 bits with sign. -/
def int64 : Decoder Int := fun _ part =>
  match part with
  | .number (.ok (.whole value)) =>
    if value < Word.signedBound then .ok value
    else .error (.rejected (.invalidValue (.number (.whole value)) "i64"))
  | part => unexpected part "i64"

/-- Reads nothing, written as null. -/
def unit : Decoder Unit := fun _ part =>
  match part with
  | .null => .ok ()
  | part => unexpected part "unit"

/-- Reads any value. -/
def any : Decoder Json := fun place part =>
  orBroken (part.value (if place.origin = .text then place.depth else 0))

/-- Reads an instant. -/
def instant : Decoder Instant := fun place part => do
  let words ← textFor "an RFC 3339 formatted date and time string" place part
  match Instant.read words with
  | .ok instant => pure instant
  | .error fault => throw (.rejected (.badInstant fault))

/-- Reads a value or null. -/
def optional (decoder : Decoder Value) : Decoder (Option Value) := fun place part =>
  match part with
  | .null => .ok none
  | part => (decoder place part).map some

/-- Changes what a decoder reads. -/
def map (change : Value → Other) (decoder : Decoder Value) : Decoder Other := fun place part =>
  (decoder place part).map change

/-! ### Lists and tables -/

/-- Reads the items of a list one after another. -/
def items (decoder : Decoder Value) (place : Place) : List Node → Except Fault (List Value)
  | [] => .ok []
  | item :: rest => do
    let value ← decoder place item
    let values ← items decoder place rest
    pure (value :: values)

/-- Reads a list. -/
def list (decoder : Decoder Value) : Decoder (List Value) := fun place part =>
  match part with
  | .list parts ending => do
    let values ← items decoder (← place.enter) parts
    orBroken ending.wanted
    pure values
  | part => unexpected part "a sequence"

/-- Reads the members of a table one after another. -/
def members (decoder : Decoder Value) (place : Place) :
    List (Except Break String × Node) → Except Fault (List (String × Value))
  | [] => .ok []
  | (key, part) :: rest => do
    let key ← orBroken key
    let value ← decoder place part
    let others ← members decoder place rest
    pure ((key, value) :: others)

/-- Reads a table with any keys; of equal keys the last one counts. -/
def table (decoder : Decoder Value) : Decoder (List (String × Value)) := fun place part =>
  match part with
  | .object entries ending => do
    let pairs ← members decoder (← place.enter) entries
    orBroken ending.wanted
    pure pairs
  | part => unexpected part "a map"

/-! ### Choices -/

/-- Finds the choice of a name. -/
def chosen (choices : List (String × Value)) (name : String) : Except Fault Value :=
  match choices.find? fun choice => choice.1 = name with
  | some choice => .ok choice.2
  | none => .error (.rejected (.unknownVariant name (choices.map Prod.fst)))

/-- Reads the name of a choice. -/
def variant (choices : List (String × Value)) : Decoder Value := fun place part => do
  chosen choices (← textFor "variant identifier" place part)

/-- Reads one of some names, written as a text or as an object with the name as its only key and
null as its value. -/
def choice (choices : List (String × Value)) : Decoder Value := fun place part =>
  match part with
  | .text _ | .broken .text _ _ => variant choices place part
  | .broken .nothing wanted _ => .error (.broken wanted)
  | .object entries ending => do
    let inside ← place.enter
    match entries with
    | [] =>
      match ending with
      | .misplaced found => variant choices inside found
      | .closed => throw (.broken .malformed)
      | .broken wanted _ | .dangling wanted _ => throw (.broken wanted)
    | (key, value) :: others =>
      let chosen ← chosen choices (← orBroken key)
      unit inside value
      match others, ending with
      | [], .closed => pure chosen
      | [], .broken wanted _ => throw (.broken wanted)
      | _, _ => throw (.broken .malformed)
  | .null | .bool _ | .number _ | .list _ _ | .broken .scalar _ _ => .error (.broken .malformed)

end Decoder

/-! ### Records -/

/-- A field of a record: its name, how its value is read, and what stands for it where it is left
out of an object or of a list. -/
structure Field (Value : Type) where
  name : String
  decoder : Decoder Value
  leftOut : Option Value
  cutOff : Option Value

namespace Field

variable {Value : Type}

/-- A field that has to be there. -/
def required (name : String) (decoder : Decoder Value) : Field Value := ⟨name, decoder, none, none⟩

/-- A field that may be left out of an object, and may be null. -/
def optional (name : String) (decoder : Decoder Value) : Field (Option Value) :=
  ⟨name, decoder.optional, some none, none⟩

/-- A field with a value of its own where it is left out. -/
def withDefault (name : String) (decoder : Decoder Value) (value : Value) : Field Value :=
  ⟨name, decoder, some value, some value⟩

end Field

/-- The fields of a record, in order; the record is the tuple of their values. -/
inductive Fields : Type → Type 1 where
  | none : Fields Unit
  | more {First Rest : Type} (first : Field First) (rest : Fields Rest) : Fields (First × Rest)

namespace Fields

/-- What is known of each field while the members of an object are read. -/
def Slots : {Record : Type} → Fields Record → Type
  | _, .none => Unit
  | _, @Fields.more First _ _ rest => Option First × Slots rest

/-- Nothing is known yet. -/
def noSlots : {Record : Type} → (fields : Fields Record) → fields.Slots
  | _, .none => ()
  | _, .more _ rest => (Option.none, rest.noSlots)

/-- The number of fields. -/
def count : {Record : Type} → Fields Record → Nat
  | _, .none => 0
  | _, .more _ rest => rest.count + 1

/-- Reads the member at a key into its slot. A field may be given once; a member that is no field
is passed over. -/
def take : {Record : Type} → (fields : Fields Record) → Place → String → Node → fields.Slots →
    Except Fault fields.Slots
  | _, .none, _, _, part, slots => do
    orBroken part.pass
    pure slots
  | _, @Fields.more First _ first rest, place, key, part, slots =>
    let (slot, others) : Option First × rest.Slots := slots
    if key = first.name then
      if slot.isSome then .error (.rejected (.duplicateField first.name))
      else do
        let value ← first.decoder place part
        pure (some value, others)
    else do
      let others ← rest.take place key part others
      pure (slot, others)

/-- Reads the members of an object. -/
def takeAll {Record : Type} (fields : Fields Record) (place : Place) :
    List (Except Break String × Node) → fields.Slots → Except Fault fields.Slots
  | [], slots => .ok slots
  | (key, part) :: rest, slots => do
    let key ← orBroken key
    let slots ← fields.take place key part slots
    fields.takeAll place rest slots

/-- The record of the slots; the first missing field in order is reported. -/
def finish : {Record : Type} → (fields : Fields Record) → fields.Slots → Except Fault Record
  | _, .none, _ => .ok ()
  | _, @Fields.more First _ first rest, slots => do
    let (slot, later) : Option First × rest.Slots := slots
    let value ← match slot.or first.leftOut with
      | some value => pure value
      | Option.none => throw (.rejected (.missingField first.name))
    let others ← rest.finish later
    pure (value, others)

/-- Reads the fields in order off the items of a list; with the items left over. `expected` words
the record and `index` counts the fields before. -/
def inOrder : {Record : Type} → (fields : Fields Record) → Place → (expected : String) →
    (ending : Ending Node) → (index : Nat) → List Node → Except Fault (Record × List Node)
  | _, .none, _, _, _, _, items => .ok ((), items)
  | _, .more first rest, place, expected, ending, index, items => do
    let (value, items) ← match items with
      | item :: items => do pure (← first.decoder place item, items)
      | [] => do
        orBroken ending.wanted
        match first.cutOff with
        | some value => pure (value, [])
        | Option.none => throw (.rejected (.invalidLength index expected))
    let (others, items) ← rest.inOrder place expected ending (index + 1) items
    pure ((value, others), items)

end Fields

/-- Reads a record of a given name off an object or a list. -/
def Decoder.record {Record : Type} (name : String) (fields : Fields Record) : Decoder Record :=
  fun place part =>
    match part with
    | .object entries ending => do
      let slots ← fields.takeAll (← place.enter) entries fields.noSlots
      orBroken ending.wanted
      fields.finish slots
    | .list items ending => do
      let inside ← place.enter
      let elements := if fields.count = 1 then "1 element" else s!"{fields.count} elements"
      let (record, surplus) ←
        fields.inOrder inside s!"struct {name} with {elements}" ending 0 items
      match surplus, place.origin with
      | [], _ => orBroken ending.wanted
      | _, .text => throw (.broken .malformed)
      | _, .value =>
        throw (.rejected (.invalidLength items.length "fewer elements in array"))
      pure record
    | part => unexpected part s!"struct {name}"

/-! ### Whole texts and values -/

/-- Reads a typed value from a text. -/
def decodeGlyphs {Value : Type} (decoder : Decoder Value) (glyphs : List Text.Glyph) :
    Except Fault Value := do
  let document := document glyphs
  let value ← decoder ⟨.text, 0⟩ document.root
  if document.surplus then throw (.broken .malformed)
  pure value

/-- Reads a typed value from a text. -/
def decodeText {Value : Type} (decoder : Decoder Value) (words : String) : Except Fault Value :=
  decodeGlyphs decoder (Text.Glyph.ofString words)

/-- Reads a typed value from a value. -/
def decodeValue {Value : Type} (decoder : Decoder Value) (value : Json) : Except Fault Value :=
  decoder ⟨.value, 0⟩ value.node

end NodeAgent.Json
