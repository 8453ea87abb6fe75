/-
This file says how a record is read. Where the members of an object are fields of the record in
their order, with some that may be left out, the record of their values is read; and whatever a
record is read from, each of its values was read from a part of that or stands for one that is not
there.
-/

import NodeAgent.Proofs.Canonical

namespace NodeAgent.Json

/-! ### What a value conveys -/

/-- A value without doubles is written, and it is read by a decoder at a place. -/
structure Conveys {Value : Type} (decoder : Decoder Value) (place : Place) (written : Json)
    (read : Value) : Prop where
  words : written.Numbers Number.IsWord
  reads : decoder place written.node = .ok read

namespace Conveys

variable {Value Other : Type} {decoder : Decoder Value} {place : Place} {written : Json}
  {read : Value}

/-- What a value conveys is read from its text. -/
theorem decodeText (conveys : Conveys decoder ⟨.text, 0⟩ written read) :
    Json.decodeText decoder written.print = .ok read :=
  (decodeText_print decoder conveys.words).trans conveys.reads

theorem map {change : Value → Other} {result : Other} (conveys : Conveys decoder place written read)
    (same : change read = result) : Conveys (decoder.map change) place written result :=
  ⟨conveys.words, (congrArg (Except.map change) conveys.reads).trans (congrArg Except.ok same)⟩

/-- A value that is not null conveys one that is there. -/
theorem optional (conveys : Conveys decoder place written read) (there : written ≠ .null) :
    Conveys decoder.optional place written (some read) := by
  refine ⟨conveys.words, ?_⟩
  cases written with
  | null => exact absurd rfl there
  | bool | number | text | list | object => exact congrArg (Except.map some) conveys.reads

end Conveys

theorem conveys_text (place : Place) (words : String) :
    Conveys Decoder.text place (.text words) words :=
  ⟨.text words, rfl⟩

theorem conveys_bool (place : Place) (value : Bool) :
    Conveys Decoder.bool place (.bool value) value :=
  ⟨.bool value, rfl⟩

/-- The whole numbers with a sign and 64 bits are read back. -/
theorem conveys_int64 (place : Place) {value : Int} (signed : Word.isSigned value = true) :
    Conveys Decoder.int64 place (.whole value) value := by
  simp only [Word.isSigned, Bool.and_eq_true, decide_eq_true_eq] at signed
  refine ⟨.number ⟨signed.1, Int.lt_trans signed.2 (by decide)⟩, ?_⟩
  exact if_pos signed.2

/-- A value with its keys in order is read as itself where there is room for its containers. -/
theorem conveys_any {depth levels : Nat} {value : Json} (words : value.Numbers Number.IsWord)
    (ordered : value.Ordered levels) (shallow : depth + levels ≤ deepest) :
    Conveys Decoder.any ⟨.text, depth⟩ value value := by
  refine ⟨words, ?_⟩
  show orBroken (value.node.value depth) = _
  rw [value_node ordered depth shallow]
  rfl

theorem items_itemNodes {Value : Type} {decoder : Decoder Value} {place : Place}
    {write : Value → Json} (each : ∀ value, Conveys decoder place (write value) value)
    (values : List Value) : decoder.items place (itemNodes (values.map write)) = .ok values := by
  induction values with
  | nil => rfl
  | cons value _ inductionHypothesis =>
    show (decoder place (write value).node >>= fun value => decoder.items place _ >>= fun values =>
      pure (value :: values)) = _
    rw [(each value).reads, inductionHypothesis]
    rfl

/-- A list conveys what its items convey. -/
theorem conveys_list {Value : Type} {decoder : Decoder Value} {place inside : Place}
    {write : Value → Json} (entered : place.enter = .ok inside)
    (each : ∀ value, Conveys decoder inside (write value) value) (values : List Value) :
    Conveys decoder.list place (.list (values.map write)) values := by
  refine ⟨.list fun item member => ?_, ?_⟩
  · obtain ⟨value, -, rfl⟩ := List.mem_map.1 member
    exact (each value).words
  · show (place.enter >>= fun inside => decoder.items inside (itemNodes (values.map write)) >>=
      fun values => orBroken (.ok ()) >>= fun _ => pure values) = _
    rw [entered]
    show (decoder.items inside (itemNodes (values.map write)) >>= _) = _
    rw [items_itemNodes each]
    rfl

/-! ### Members that are read -/

namespace Fields

variable {First Rest Record : Type} {place : Place}

/-- The names of the fields. -/
def names : {Record : Type} → Fields Record → List String
  | _, .none => []
  | _, .more first rest => first.name :: rest.names

/-- Members that are fields of a record in their order, and the record that they make. -/
inductive Spelt (place : Place) :
    {Record : Type} → Fields Record → List (String × Json) → Record → Prop where
  | none : Spelt place .none [] ()
  | given {First Rest : Type} {first : Field First} {rest : Fields Rest} {value : Json}
      {members : List (String × Json)} {read : First} {record : Rest}
      (conveys : Conveys first.decoder place value read)
      (later : Spelt place rest members record) :
      Spelt place (.more first rest) ((first.name, value) :: members) (read, record)
  | leftOut {First Rest : Type} {first : Field First} {rest : Fields Rest}
      {members : List (String × Json)} {read : First} {record : Rest}
      (default : first.leftOut = some read) (later : Spelt place rest members record) :
      Spelt place (.more first rest) members (read, record)

theorem Spelt.key_mem {fields : Fields Record} {members : List (String × Json)} {record : Record}
    (spelt : Spelt place fields members record) : ∀ member ∈ members, member.1 ∈ fields.names := by
  induction spelt with
  | none => exact List.forall_mem_nil _
  | given _ _ inductionHypothesis =>
    exact List.forall_mem_cons.2 ⟨List.mem_cons_self, fun member inside =>
      List.mem_cons_of_mem _ (inductionHypothesis member inside)⟩
  | leftOut _ _ inductionHypothesis =>
    exact fun member inside => List.mem_cons_of_mem _ (inductionHypothesis member inside)

theorem Spelt.words {fields : Fields Record} {members : List (String × Json)} {record : Record}
    (spelt : Spelt place fields members record) :
    ∀ member ∈ members, member.2.Numbers Number.IsWord := by
  induction spelt with
  | none => exact List.forall_mem_nil _
  | given conveys _ inductionHypothesis =>
    exact List.forall_mem_cons.2 ⟨conveys.words, inductionHypothesis⟩
  | leftOut _ _ inductionHypothesis => exact inductionHypothesis

/-- A field that is written where it has a value, and otherwise stands for none. -/
theorem Spelt.optional {Value : Type} {name : String} {decoder : Decoder (Option Value)}
    {cutOff : Option (Option Value)} {value : Option Value} {write : Value → Json}
    {rest : Fields Rest} {members : List (String × Json)} {record : Rest}
    (conveys : ∀ present, value = some present →
      Conveys decoder place (write present) (some present))
    (later : Spelt place rest members record) :
    Spelt place (.more ⟨name, decoder, some Option.none, cutOff⟩ rest)
      ((value.map fun present => (name, write present)).toList ++ members) (value, record) := by
  cases value with
  | none => exact .leftOut rfl later
  | some present => exact .given (conveys present rfl) later

/-- So it is with the last field. -/
theorem Spelt.optional_last {Value : Type} {name : String} {decoder : Decoder (Option Value)}
    {cutOff : Option (Option Value)} {value : Option Value} {write : Value → Json}
    (conveys : ∀ present, value = some present →
      Conveys decoder place (write present) (some present)) :
    Spelt place (.more ⟨name, decoder, some Option.none, cutOff⟩ .none)
      (value.map fun present => (name, write present)).toList (value, ()) := by
  rw [← List.append_nil (Option.toList _)]
  exact .optional conveys .none

/-- Members with other keys than a field are read into the slots of the other fields. -/
theorem takeAll_more_of_absent {first : Field First} {rest : Fields Rest}
    {members : List (String × Json)} (absent : ∀ member ∈ members, member.1 ≠ first.name)
    (slot : Option First) (others : rest.Slots) :
    (Fields.more first rest).takeAll place (memberNodes members) (slot, others) =
      (rest.takeAll place (memberNodes members) others).map fun others => (slot, others) := by
  induction members generalizing others with
  | nil => rfl
  | cons member members inductionHypothesis =>
    obtain ⟨key, value⟩ := member
    obtain ⟨here, later⟩ := List.forall_mem_cons.1 absent
    have taken : (Fields.more first rest).take place key value.node (slot, others) =
        (rest.take place key value.node others).map fun others => (slot, others) := by
      refine (if_neg here).trans ?_
      cases rest.take place key value.node others with
      | ok others => rfl
      | error fault => rfl
    show ((Fields.more first rest).take place key value.node (slot, others) >>= fun slots =>
        (Fields.more first rest).takeAll place (memberNodes members) slots) =
      (rest.take place key value.node others >>= fun others =>
        rest.takeAll place (memberNodes members) others).map _
    rw [taken]
    cases rest.take place key value.node others with
    | ok others => exact inductionHypothesis later others
    | error fault => rfl

/-- A record is complete where each field has a value or stands for one. -/
theorem finish_more {first : Field First} {rest : Fields Rest} {slot : Option First}
    {others : rest.Slots} {value : First} {record : Rest}
    (known : slot.or first.leftOut = some value)
    (finished : rest.finish others = .ok record) :
    (Fields.more first rest).finish (slot, others) = .ok (value, record) := by
  simp only [finish, known, pure_bind, finished]
  rfl

/-- Members that are fields of a record in their order are read as that record. -/
theorem Spelt.reads {fields : Fields Record} {members : List (String × Json)} {record : Record}
    (spelt : Spelt place fields members record) (distinct : fields.names.Nodup) :
    (fields.takeAll place (memberNodes members) fields.noSlots >>= fields.finish) = .ok record := by
  induction spelt with
  | none => rfl
  | @given First Rest first rest value members read record conveys later inductionHypothesis =>
    obtain ⟨fresh, others⟩ := List.nodup_cons.1 distinct
    have absent : ∀ member ∈ members, member.1 ≠ first.name := fun member inside same =>
      fresh (same ▸ later.key_mem member inside)
    have taken : (Fields.more first rest).take place first.name value.node
        (Option.none, rest.noSlots) = .ok (some read, rest.noSlots) := by
      refine (if_pos rfl).trans ?_
      rw [conveys.reads]
      rfl
    obtain ⟨slots, readAll, finished⟩ := of_bind_eq_ok (inductionHypothesis others)
    show ((Fields.more first rest).take place first.name value.node
      (Option.none, rest.noSlots) >>= fun slots =>
        (Fields.more first rest).takeAll place (memberNodes members) slots) >>= _ = _
    rw [taken]
    show (Fields.more first rest).takeAll place (memberNodes members) (some read, rest.noSlots) >>=
      _ = _
    rw [takeAll_more_of_absent absent, readAll]
    exact finish_more rfl finished
  | @leftOut First Rest first rest members read record default later inductionHypothesis =>
    obtain ⟨fresh, others⟩ := List.nodup_cons.1 distinct
    have absent : ∀ member ∈ members, member.1 ≠ first.name := fun member inside same =>
      fresh (same ▸ later.key_mem member inside)
    obtain ⟨slots, readAll, finished⟩ := of_bind_eq_ok (inductionHypothesis others)
    show (Fields.more first rest).takeAll place (memberNodes members)
      (Option.none, rest.noSlots) >>= _ = _
    rw [takeAll_more_of_absent absent, readAll]
    exact finish_more default finished

end Fields

/-- An object that is written of a record conveys the record. -/
theorem conveys_record (name : String) {Record : Type} {fields : Fields Record}
    {place inside : Place} {members : List (String × Json)} (record : Record)
    (entered : place.enter = .ok inside) (distinct : fields.names.Nodup)
    (spelt : fields.Spelt inside members record) :
    Conveys (Decoder.record name fields) place (.object members) record := by
  refine ⟨.object spelt.words, ?_⟩
  obtain ⟨slots, taken, finished⟩ := of_bind_eq_ok (spelt.reads distinct)
  show (place.enter >>= fun inside => fields.takeAll inside (memberNodes members) fields.noSlots >>=
    fun slots => orBroken (.ok ()) >>= fun _ => fields.finish slots) = _
  rw [entered]
  show (fields.takeAll inside (memberNodes members) fields.noSlots >>= _) = _
  rw [taken]
  exact finished

/-! ### Where the values of a record come from -/

/-- The value of a field was read from a part, or it stands for one that is not there. -/
def Field.Came {Value : Type} (field : Field Value) (place : Place) (value : Value) : Prop :=
  field.leftOut = some value ∨ field.cutOff = some value ∨
    ∃ part : Node, part.Numbers Number.Fits ∧ field.decoder place part = .ok value

namespace Fields

variable {Record : Type} {place : Place}

/-- So it is with each value of a record. -/
def Came (place : Place) : {Record : Type} → Fields Record → Record → Prop
  | _, .none, _ => True
  | _, @Fields.more First Rest first rest, record =>
    let (value, others) : First × Rest := record
    first.Came place value ∧ Came place rest others

/-- What is known of each field was read from a part. -/
def SlotsCame (place : Place) : {Record : Type} → (fields : Fields Record) → fields.Slots → Prop
  | _, .none, _ => True
  | _, @Fields.more First _ first rest, slots =>
    let (slot, others) : Option First × rest.Slots := slots
    (∀ value, slot = some value →
      ∃ part : Node, part.Numbers Number.Fits ∧ first.decoder place part = .ok value) ∧
    SlotsCame place rest others

theorem slotsCame_noSlots (fields : Fields Record) : fields.SlotsCame place fields.noSlots := by
  induction fields with
  | none => trivial
  | more first rest inductionHypothesis => exact ⟨nofun, inductionHypothesis⟩

theorem SlotsCame.take {fields : Fields Record} {slots next : fields.Slots}
    (came : fields.SlotsCame place slots) {key : String} {part : Node}
    (numbers : part.Numbers Number.Fits) (taken : fields.take place key part slots = .ok next) :
    fields.SlotsCame place next := by
  induction fields with
  | none => trivial
  | @more First Rest first rest inductionHypothesis =>
    obtain ⟨slot, others⟩ : Option First × rest.Slots := slots
    obtain ⟨known, later⟩ := came
    replace taken : (if key = first.name then
        if slot.isSome then .error (.rejected (.duplicateField first.name))
        else first.decoder place part >>= fun value => pure (some value, others)
      else rest.take place key part others >>= fun others => pure (slot, others)) =
        (.ok next : Except Fault (Option First × rest.Slots)) := taken
    split at taken
    · split at taken
      · cases taken
      · obtain ⟨value, read, taken⟩ := of_bind_eq_ok taken
        cases taken
        refine ⟨fun found same => ?_, later⟩
        cases same
        exact ⟨part, numbers, read⟩
    · obtain ⟨others, read, taken⟩ := of_bind_eq_ok taken
      cases taken
      exact ⟨known, inductionHypothesis later read⟩

theorem SlotsCame.takeAll {fields : Fields Record} {slots next : fields.Slots}
    (came : fields.SlotsCame place slots) {entries : List (Except Break String × Node)}
    (numbers : ∀ entry ∈ entries, entry.2.Numbers Number.Fits)
    (taken : fields.takeAll place entries slots = .ok next) : fields.SlotsCame place next := by
  induction entries generalizing slots with
  | nil =>
    cases taken
    exact came
  | cons entry entries inductionHypothesis =>
    obtain ⟨here, later⟩ := List.forall_mem_cons.1 numbers
    obtain ⟨key, -, taken⟩ := of_bind_eq_ok taken
    obtain ⟨middle, first, rest⟩ := of_bind_eq_ok taken
    exact inductionHypothesis (came.take here first) later rest

theorem SlotsCame.finish {fields : Fields Record} {slots : fields.Slots} {record : Record}
    (came : fields.SlotsCame place slots) (finished : fields.finish slots = .ok record) :
    fields.Came place record := by
  induction fields with
  | none => trivial
  | @more First Rest first rest inductionHypothesis =>
    obtain ⟨slot, others⟩ : Option First × rest.Slots := slots
    obtain ⟨known, later⟩ := came
    simp only [Fields.finish] at finished
    cases value : slot.or first.leftOut with
    | none =>
      rw [value] at finished
      cases finished
    | some found =>
      rw [value] at finished
      obtain ⟨_, same, finished⟩ := of_bind_eq_ok finished
      cases same
      obtain ⟨record, there, finished⟩ := of_bind_eq_ok finished
      cases finished
      refine ⟨?_, inductionHypothesis later there⟩
      rcases Option.or_eq_some_iff.1 value with read | ⟨-, default⟩
      · exact Or.inr (Or.inr (known found read))
      · exact Or.inl default

theorem came_of_inOrder {fields : Fields Record} {expected : String} {ending : Ending Node}
    {index : Nat} {items left : List Node} {record : Record}
    (numbers : ∀ item ∈ items, item.Numbers Number.Fits)
    (read : fields.inOrder place expected ending index items = .ok (record, left)) :
    fields.Came place record := by
  induction fields generalizing index items left with
  | none => trivial
  | @more First Rest first rest inductionHypothesis =>
    simp only [Fields.inOrder] at read
    cases items with
    | cons item items =>
      obtain ⟨here, later⟩ := List.forall_mem_cons.1 numbers
      obtain ⟨value, decoded, read⟩ := of_bind_eq_ok read
      obtain ⟨_, same, read⟩ := of_bind_eq_ok read
      cases same
      obtain ⟨others, there, read⟩ := of_bind_eq_ok read
      cases read
      exact ⟨Or.inr (Or.inr ⟨item, here, decoded⟩), inductionHypothesis later there⟩
    | nil =>
      obtain ⟨_, -, read⟩ := of_bind_eq_ok read
      cases default : first.cutOff with
      | none =>
        rw [default] at read
        cases read
      | some value =>
        rw [default] at read
        obtain ⟨_, same, read⟩ := of_bind_eq_ok read
        cases same
        obtain ⟨others, there, read⟩ := of_bind_eq_ok read
        cases read
        exact ⟨Or.inr (Or.inl default), inductionHypothesis (List.forall_mem_nil _) there⟩

end Fields

/-- Each value of a record that is read was read from a part or stands for one that is not
there. -/
theorem Decoder.came_of_record {Record : Type} {name : String} {fields : Fields Record}
    {place : Place} {part : Node} {record : Record} (numbers : part.Numbers Number.Fits)
    (read : Decoder.record name fields place part = .ok record) :
    ∃ inside, place.enter = .ok inside ∧ fields.Came inside record := by
  cases numbers with
  | object ending each =>
    obtain ⟨inside, entered, read⟩ := of_bind_eq_ok read
    obtain ⟨slots, taken, read⟩ := of_bind_eq_ok read
    obtain ⟨_, -, finished⟩ := of_bind_eq_ok read
    exact ⟨inside, entered, ((fields.slotsCame_noSlots).takeAll each taken).finish finished⟩
  | list ending each =>
    obtain ⟨inside, entered, read⟩ := of_bind_eq_ok read
    obtain ⟨⟨whole, surplus⟩, ordered, read⟩ := of_bind_eq_ok read
    refine ⟨inside, entered, ?_⟩
    have came := Fields.came_of_inOrder each ordered
    dsimp only at read
    split at read
    · obtain ⟨_, -, read⟩ := of_bind_eq_ok read
      cases read
      exact came
    · cases read
    · cases read
  | null => cases read
  | bool => cases read
  | @number value here =>
    cases value with
    | ok => cases read
    | error => cases read
  | text value =>
    cases value with
    | ok => cases read
    | error => cases read
  | broken => cases read

/-- So it is with a value that is made of a record. -/
theorem Decoder.came_of_map {Record Value : Type} {name : String} {fields : Fields Record}
    {change : Record → Value} {place : Place} {part : Node} {value : Value}
    (numbers : part.Numbers Number.Fits)
    (read : ((Decoder.record name fields).map change) place part = .ok value) :
    ∃ inside record, place.enter = .ok inside ∧ fields.Came inside record ∧
      change record = value := by
  obtain ⟨record, read, same⟩ := of_map_eq_ok read
  obtain ⟨inside, entered, came⟩ := came_of_record numbers read
  exact ⟨inside, record, entered, came, same⟩

end NodeAgent.Json
