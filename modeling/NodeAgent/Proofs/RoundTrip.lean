/-
This file shows that what is sent is what arrives. Each record of the protocol is read back from its
text, with every text, number and instant that it can hold; and a message that was read from any
text, however that was written, is read again from its own.
-/

import NodeAgent.Proofs.Moments
import NodeAgent.Proofs.Records
import NodeAgent.Repository.Snapshot
import NodeAgent.Rpc.Message
import NodeAgent.Rpc.Payload
import NodeAgent.Volume

namespace NodeAgent

open Json (Conveys Place conveys_text conveys_bool conveys_int64 conveys_any conveys_list
  conveys_record)

/-! ### Parts of records -/

theorem conveys_instant (place : Place) {instant : Instant} (first : 0 ≤ instant.date.year)
    (last : instant.date.year ≤ 9999) :
    Conveys Json.Decoder.instant place (.text instant.wireText) instant := by
  have read := Instant.read_wireText first last
  generalize instant.wireText = words at read ⊢
  refine ⟨.text words, ?_⟩
  have spelled (expected : String) :
      Json.Decoder.textFor expected place (.text (.ok words)) = pure words := rfl
  show Json.Decoder.instant place (.text (.ok words)) = _
  unfold Json.Decoder.instant
  rw [spelled, pure_bind, read]
  rfl

theorem conveys_size (place : Place) {size : Size} (signed : Word.isSigned size.bytes = true) :
    Conveys Size.decoder place size.toJson size := by
  refine ⟨(conveys_int64 place signed).words, ?_⟩
  simp only [Word.isSigned, Bool.and_eq_true, decide_eq_true_eq] at signed
  exact if_pos signed.2

theorem conveys_target (place : Place) (target : Option Path) :
    Conveys Volume.pathDecoder.optional place (.ofText? (target.map Path.text)) target := by
  cases target with
  | none => exact ⟨.null, rfl⟩
  | some path => exact ⟨.text path.text, rfl⟩

theorem conveys_kind (place : Place) (kind : Rpc.Kind) :
    Conveys Rpc.Kind.decoder place (.text kind.text) kind := by
  refine ⟨.text _, ?_⟩
  cases kind <;> rfl

/-! ### Records -/

variable {place inside : Place}

namespace Rpc

theorem Registration.conveys (registration : Registration) :
    Conveys Registration.decoder ⟨.text, 0⟩ registration.toJson registration := by
  let ⟨nodeId, hostname, driverName⟩ := registration
  refine Conveys.map (conveys_record _ (nodeId, hostname, driverName, ()) rfl (by decide) ?_) rfl
  exact .given (conveys_text _ _) (.given (conveys_text _ _) (.given (conveys_text _ _) .none))

theorem PublishRequest.conveys {request : PublishRequest}
    (signed : ∀ capacity, request.capacity = some capacity → Word.isSigned capacity = true) :
    Conveys PublishRequest.decoder ⟨.text, 0⟩ request.toJson request := by
  let ⟨volumeId, targetPath, capacity⟩ := request
  refine Conveys.map (conveys_record _ (volumeId, targetPath, capacity, ()) rfl (by decide) ?_)
    rfl
  refine .given (conveys_text _ _) (.given (conveys_text _ _) (.optional_last ?_))
  exact fun bytes present => (conveys_int64 _ (signed bytes present)).optional nofun

theorem RestoredSnapshot.conveys (entered : place.enter = .ok inside)
    (restored : RestoredSnapshot) :
    Conveys RestoredSnapshot.decoder place restored.toJson restored := by
  let ⟨repository, snapshotId, time⟩ := restored
  refine Conveys.map (conveys_record _ (repository, snapshotId, time, ()) entered (by decide) ?_)
    rfl
  exact .given (conveys_text _ _) (.given (conveys_text _ _) (.given (conveys_text _ _) .none))

theorem PublishResponse.conveys {response : PublishResponse}
    (signed : Word.isSigned response.size = true) :
    Conveys PublishResponse.decoder ⟨.text, 0⟩ response.toJson response := by
  let ⟨volumeId, targetPath, size, created, restoredFrom⟩ := response
  refine Conveys.map (conveys_record _ (volumeId, targetPath, size, created, restoredFrom, ())
    rfl (by decide) ?_) rfl
  refine .given (conveys_text _ _) (.given (conveys_text _ _) (.given (conveys_int64 _ signed)
    (.given (conveys_bool _ _) (.optional_last ?_))))
  exact fun restored _ => (restored.conveys rfl).optional nofun

theorem UnpublishRequest.conveys (request : UnpublishRequest) :
    Conveys UnpublishRequest.decoder ⟨.text, 0⟩ request.toJson request := by
  let ⟨volumeId, targetPath⟩ := request
  refine Conveys.map (conveys_record _ (volumeId, targetPath, ()) rfl (by decide) ?_) rfl
  exact .given (conveys_text _ _) (.given (conveys_text _ _) .none)

theorem BackupStatus.conveys (entered : place.enter = .ok inside) (status : BackupStatus) :
    Conveys BackupStatus.decoder place status.toJson status := by
  let ⟨repository, success, error⟩ := status
  refine Conveys.map (conveys_record _ (repository, success, error, ()) entered (by decide) ?_) rfl
  refine .given (conveys_text _ _) (.given (conveys_bool _ _) (.optional_last ?_))
  exact fun error _ => (conveys_text _ error).optional nofun

/-- Warnings are left out where there are none. -/
theorem UnpublishResponse.conveys (response : UnpublishResponse) :
    Conveys UnpublishResponse.decoder ⟨.text, 0⟩ response.toJson response := by
  let ⟨volumeId, backupTime, backups, warnings⟩ := response
  refine Conveys.map (conveys_record _ (volumeId, backupTime, backups, warnings, ()) rfl (by decide)
    ?_) rfl
  refine .given (conveys_text _ _) (.given (conveys_text _ _)
    (.given (conveys_list rfl (BackupStatus.conveys rfl) backups) ?_))
  show Json.Fields.Spelt _ _ (if warnings = [] then [] else [("warnings", .ofTexts warnings)]) _
  split
  · next none =>
    rw [none]
    exact .leftOut rfl .none
  · exact .given (conveys_list rfl (conveys_text _) warnings) .none

/-! ### Messages -/

/-- A value that a message can carry: not null, of words of 64 bits, its keys in order, and with no
more containers inside one another than there is room for. -/
structure Carried (levels : Nat) (value : Json) : Prop where
  there : value ≠ .null
  words : value.Numbers Json.Number.IsWord
  ordered : value.Ordered levels

/-- A message whose payload and details can be carried. -/
structure Message.Carried (message : Message) : Prop where
  payload : ∀ payload, message.payload = some payload → Rpc.Carried (Json.deepest - 1) payload
  details : ∀ error details, message.error = some error → error.details = some details →
    Rpc.Carried (Json.deepest - 2) details

theorem Carried.conveys {levels depth : Nat} {value : Json} (carried : Carried levels value)
    (shallow : depth + levels ≤ Json.deepest) :
    Conveys Json.Decoder.any.optional ⟨.text, depth⟩ value (some value) :=
  (conveys_any carried.words carried.ordered shallow).optional carried.there

theorem ErrorInfo.conveys {error : ErrorInfo}
    (carried : ∀ details, error.details = some details → Carried (Json.deepest - 2) details) :
    Conveys ErrorInfo.decoder ⟨.text, 1⟩ error.toJson error := by
  let ⟨code, message, details⟩ := error
  refine Conveys.map (conveys_record _ (code, message, details, ()) rfl (by decide) ?_) rfl
  refine .given (conveys_text _ _) (.given (conveys_text _ _) (.optional_last ?_))
  exact fun details present => (carried details present).conveys (by decide)

theorem Message.conveys {message : Message} (carried : message.Carried) :
    Conveys Message.decoder ⟨.text, 0⟩ message.toJson message := by
  obtain ⟨payloads, details⟩ := carried
  let ⟨id, kind, method, payload, error⟩ := message
  refine Conveys.map (conveys_record _ (id, kind, method, payload, error, ()) rfl (by decide) ?_)
    rfl
  rw [List.append_assoc, List.append_assoc]
  refine .given (conveys_text _ _) (.given (conveys_kind _ _) (.optional ?_ (.optional ?_
    (.optional_last ?_))))
  · exact fun method _ => (conveys_text _ method).optional nofun
  · exact fun payload present => (payloads payload present).conveys (by decide)
  · exact fun error present => (ErrorInfo.conveys (details error · present)).optional nofun

/-! ### Messages that were read -/

/-- A number that was read and is no double has 64 bits. -/
theorem words_of_whole {value : Json} (whole : value.Numbers Json.Number.IsWhole)
    (fits : value.Numbers Json.Number.Fits) : value.Numbers Json.Number.IsWord := by
  induction whole with
  | null => exact .null
  | bool value => exact .bool value
  | number here =>
    cases fits with
    | number there => exact .number (there here)
  | text words => exact .text words
  | list _ inductionHypothesis =>
    cases fits with
    | list each => exact .list fun item member => inductionHypothesis item member (each item member)
  | object _ inductionHypothesis =>
    cases fits with
    | object each =>
      exact .object fun entry member => inductionHypothesis entry member (each entry member)

/-- Only null is read as null. -/
theorem eq_null_of_value {depth : Nat} {part : Json.Node} (read : part.value depth = .ok .null) :
    part = .null := by
  cases part with
  | null => rfl
  | bool | broken => cases read
  | number value =>
    cases value with
    | ok | error => cases read
  | text value =>
    cases value with
    | ok | error => cases read
  | list items ending =>
    unfold Json.Node.value at read
    split at read
    · cases read
    · obtain ⟨values, -, read⟩ := of_bind_eq_ok read
      obtain ⟨_, -, read⟩ := of_bind_eq_ok read
      cases read
  | object entries ending =>
    unfold Json.Node.value at read
    split at read
    · cases read
    · obtain ⟨members, -, read⟩ := of_bind_eq_ok read
      obtain ⟨_, -, read⟩ := of_bind_eq_ok read
      cases read

/-- An optional value of a record that is there was read from a part. -/
theorem exists_part_of_came {Value : Type} {name : String} {decoder : Json.Decoder Value}
    {value : Value} (came : (Json.Field.optional name decoder).Came place (some value)) :
    ∃ part : Json.Node, part.Numbers Json.Number.Fits ∧ part ≠ .null ∧
      decoder place part = .ok value := by
  rcases came with leftOut | cutOff | ⟨part, fits, read⟩
  · cases leftOut
  · cases cutOff
  · replace read : decoder.optional place part = .ok (some value) := read
    refine ⟨part, fits, ?_⟩
    cases part with
    | null => cases read
    | bool | number | text | list | object | broken =>
      obtain ⟨found, read, same⟩ := of_map_eq_ok read
      cases same
      exact ⟨nofun, read⟩

/-- A value that was read and has no doubles can be carried. -/
theorem carried_of_came {name : String} {depth : Nat} {value : Json}
    (came : (Json.Field.optional name Json.Decoder.any).Came ⟨.text, depth⟩ (some value))
    (whole : value.Numbers Json.Number.IsWhole) : Carried (Json.deepest - depth) value := by
  obtain ⟨part, fits, there, read⟩ := exists_part_of_came came
  replace read : (part.value depth).mapError Json.Fault.broken = .ok value := read
  cases found : part.value depth with
  | error fault =>
    rw [found] at read
    cases read
  | ok same =>
    rw [found] at read
    cases read
    obtain ⟨ordered, numbers⟩ := fits.of_value found
    refine ⟨?_, words_of_whole whole numbers, ordered⟩
    rintro rfl
    exact there (eq_null_of_value found)

/-- A message that was read and has no doubles can be carried. -/
theorem Message.carried_of_read {text : String} {message : Message}
    (read : Message.read text = .ok message)
    (payload : ∀ payload, message.payload = some payload → payload.Numbers Json.Number.IsWhole)
    (details : ∀ error details, message.error = some error → error.details = some details →
      details.Numbers Json.Number.IsWhole) : message.Carried := by
  obtain ⟨part, fits, read⟩ := Json.exists_of_decodeText read
  obtain ⟨inside, ⟨id, kind, method, payload?, error?, _⟩, entered, came, rfl⟩ :=
    Json.Decoder.came_of_map fits read
  cases entered
  obtain ⟨-, -, -, payloadCame, errorCame, -⟩ := came
  refine ⟨fun value present => ?_, fun error value present within => ?_⟩
  · cases present
    exact carried_of_came payloadCame (payload value rfl)
  · cases present
    obtain ⟨part, fits, -, read⟩ := exists_part_of_came errorCame
    obtain ⟨inside, ⟨code, words, details?, _⟩, entered, came, rfl⟩ :=
      Json.Decoder.came_of_map fits read
    cases entered
    obtain ⟨-, -, detailsCame, -⟩ := came
    cases within
    exact carried_of_came detailsCame (details _ value rfl rfl)

end Rpc

theorem Volume.conveys {volume : Volume} (signed : Word.isSigned volume.size.bytes = true) :
    Conveys Volume.decoder ⟨.text, 0⟩ volume.toJson volume := by
  let ⟨name, group, attributes, size, mounted, target⟩ := volume
  refine Conveys.map (conveys_record _ (name, group, attributes, size, mounted, target, ()) rfl
    (by decide) ?_) rfl
  exact .given (conveys_text _ _) (.given (conveys_text _ _) (.given (conveys_text _ _)
    (.given (conveys_size _ signed) (.given (conveys_bool _ _)
      (.given (conveys_target _ _) .none)))))

theorem Snapshot.conveys {snapshot : Snapshot} (first : 0 ≤ snapshot.time.date.year)
    (last : snapshot.time.date.year ≤ 9999) :
    Conveys Snapshot.decoder ⟨.text, 0⟩ snapshot.toJson snapshot := by
  let ⟨repository, id, shortId, time, paths⟩ := snapshot
  refine Conveys.map (conveys_record _ (repository, id, shortId, time, paths, ()) rfl (by decide)
    ?_) rfl
  exact .given (conveys_text _ _) (.given (conveys_text _ _) (.given (conveys_text _ _)
    (.given (conveys_instant _ first last)
      (.given (conveys_list rfl (conveys_text _) paths) .none))))

/-! ### What arrives -/

/-- A value is read back from its text. -/
def ReadsBack {Value : Type} (decoder : Json.Decoder Value) (toJson : Value → Json)
    (value : Value) : Prop :=
  Json.decodeText decoder (toJson value).print = .ok value

/-- What is sent arrives: messages with a payload and details that can be carried, each request,
response and status, volumes, and snapshots of the years that have four digits. And a message
without doubles that was read from any text is read again from its own. -/
theorem wire_round_trips :
    (∀ message : Rpc.Message, message.Carried → Rpc.Message.read message.print = .ok message) ∧
    (∀ registration, ReadsBack Rpc.Registration.decoder Rpc.Registration.toJson registration) ∧
    (∀ request : Rpc.PublishRequest,
      (∀ capacity, request.capacity = some capacity → Word.isSigned capacity = true) →
      ReadsBack Rpc.PublishRequest.decoder Rpc.PublishRequest.toJson request) ∧
    (∀ restored, ReadsBack Rpc.RestoredSnapshot.decoder Rpc.RestoredSnapshot.toJson restored) ∧
    (∀ response : Rpc.PublishResponse, Word.isSigned response.size = true →
      ReadsBack Rpc.PublishResponse.decoder Rpc.PublishResponse.toJson response) ∧
    (∀ request, ReadsBack Rpc.UnpublishRequest.decoder Rpc.UnpublishRequest.toJson request) ∧
    (∀ status, ReadsBack Rpc.BackupStatus.decoder Rpc.BackupStatus.toJson status) ∧
    (∀ response, ReadsBack Rpc.UnpublishResponse.decoder Rpc.UnpublishResponse.toJson response) ∧
    (∀ volume : Volume, Word.isSigned volume.size.bytes = true →
      ReadsBack Volume.decoder Volume.toJson volume) ∧
    (∀ snapshot : Snapshot, 0 ≤ snapshot.time.date.year → snapshot.time.date.year ≤ 9999 →
      ReadsBack Snapshot.decoder Snapshot.toJson snapshot) ∧
    ∀ (text : String) (message : Rpc.Message), Rpc.Message.read text = .ok message →
      (∀ payload, message.payload = some payload → payload.Numbers Json.Number.IsWhole) →
      (∀ error details, message.error = some error → error.details = some details →
        details.Numbers Json.Number.IsWhole) →
      Rpc.Message.read message.print = .ok message := by
  refine ⟨?messages, ?registrations, ?publishRequests, ?restored, ?publishResponses,
    ?unpublishRequests, ?statuses, ?unpublishResponses, ?volumes, ?snapshots, ?again⟩
  case messages => exact fun message carried => (Rpc.Message.conveys carried).decodeText
  case registrations => exact fun registration => registration.conveys.decodeText
  case publishRequests => exact fun request signed => (Rpc.PublishRequest.conveys signed).decodeText
  case restored => exact fun restored => (restored.conveys rfl).decodeText
  case publishResponses =>
    exact fun response signed => (Rpc.PublishResponse.conveys signed).decodeText
  case unpublishRequests => exact fun request => request.conveys.decodeText
  case statuses => exact fun status => (status.conveys rfl).decodeText
  case unpublishResponses => exact fun response => response.conveys.decodeText
  case volumes => exact fun volume signed => (Volume.conveys signed).decodeText
  case snapshots => exact fun snapshot first last => (Snapshot.conveys first last).decodeText
  case again =>
    exact fun text message read payload details =>
      (Rpc.Message.conveys (Rpc.Message.carried_of_read read payload details)).decodeText

/-- A refusal that quotes what it refuses, the bounds of the numbers, the last nanosecond of the
last year, and a request whose text has its members in another order and one that is unknown. -/
theorem wire_round_trips_at_bounds :
    let refusal : Rpc.Message := ⟨"\"\n\\é", .response, none, none, some ⟨"PARSE", "\x01",
      some (.object [("got", .list [.whole (-9223372036854775808), .whole 18446744073709551615])])⟩⟩
    let text := (Json.object [("extra", .null), ("type", .text "request"), ("id", .text "1"),
      ("payload", .object [("b", .whole 1), ("a", .list [])])]).print
    let request : Rpc.Message := ⟨"1", .request, none,
      some (.object [("a", .list []), ("b", .whole 1)]), none⟩
    Rpc.Message.read refusal.print = .ok refusal ∧
      ReadsBack Rpc.PublishRequest.decoder Rpc.PublishRequest.toJson
        ⟨"v", "/mnt", some (-9223372036854775808)⟩ ∧
      ReadsBack Rpc.PublishResponse.decoder Rpc.PublishResponse.toJson
        ⟨"v", "/mnt", 9223372036854775807, true, some ⟨"r", "id", "now"⟩⟩ ∧
      ReadsBack Volume.decoder Volume.toJson ⟨"v", "vg", "", ⟨0⟩, true, some ⟨"/mnt"⟩⟩ ∧
      ReadsBack Snapshot.decoder Snapshot.toJson
        ⟨"r", "id", "i", .ofUnix 253402300799 999999999, ["/mnt"]⟩ ∧
      Rpc.Message.read text = .ok request ∧ Rpc.Message.read request.print = .ok request := by
  intro refusal text request
  obtain ⟨messages, -, publishRequests, -, publishResponses, -, -, -, volumes, snapshots, again⟩ :=
    wire_round_trips
  have read : Rpc.Message.read text = .ok request := by
    refine (Json.decodeText_print Rpc.Message.decoder (.object ?_)).trans rfl
    simp only [List.forall_mem_cons]
    exact ⟨.null, .text _, .text _, .object (List.forall_mem_cons.2 ⟨.number ⟨by decide, by decide⟩,
      List.forall_mem_singleton.2 (.list (List.forall_mem_nil _))⟩), List.forall_mem_nil _⟩
  refine ⟨messages refusal ?_, publishRequests _ ?_, publishResponses _ (by decide),
    volumes _ (by decide), snapshots _ (by decide) (by decide), read, again _ _ read ?_ nofun⟩
  · refine ⟨nofun, fun error details present within => ?_⟩
    cases present
    cases within
    refine ⟨nofun, .object (List.forall_mem_singleton.2 (.list ?_)), ?_⟩
    · exact List.forall_mem_cons.2 ⟨.number ⟨by decide, by decide⟩, List.forall_mem_singleton.2
        (.number ⟨by decide, by decide⟩)⟩
    · show Json.Ordered (123 + 1 + 1) _
      exact .object (List.pairwise_singleton ..) (List.forall_mem_singleton.2 (.list
        (List.forall_mem_cons.2 ⟨.number _, List.forall_mem_singleton.2 (.number _)⟩)))
  · intro capacity present
    cases present
    decide
  · intro payload present
    cases present
    exact .object (List.forall_mem_cons.2 ⟨.list (List.forall_mem_nil _),
      List.forall_mem_singleton.2 (.number trivial)⟩)

end NodeAgent
