import LedgerClient.Proofs.Json.Record
import LedgerClient.Subscription.Frame

/-! # What a frame is

A frame is a failure if it has an error, else a response if it has an id, else a notification if
its parameters name a subscription (`LedgerClient.Frame.said`). This is read off the members of
the object alone. Reading a frame comes to the same, as long as its parameters have one of the
shapes that parameters may have: parameters of another shape make a frame unreadable even if it
is a response or a failure, which have no need of them (`LedgerClient.Frame.parse_eq_said_iff`).
-/

namespace LedgerClient.Frame

open Json (member? present? Fields)

/-! ### Error bodies -/

/-- An integer of 64 bits with sign. -/
def code? : Json → Option Int
  | .number (.integer code) => if -2 ^ 63 ≤ code ∧ code ≤ 2 ^ 63 - 1 then some code else none
  | _ => none

/-- A text, which may be left out. -/
def message? : Option Json → Option String
  | none => some ""
  | some (.text message) => some message
  | some _ => none

/-- The code and the message of an error that has the form of an error body: an object, or an
array of the two. The message may be left out. -/
def body? : Json → Option (Int × String)
  | .object members => do
    return (← (members.lookup "code").bind code?, ← message? (members.lookup "message"))
  | .array [code] => do return (← code? code, ← message? none)
  | .array [code, message] => do return (← code? code, ← message? (some message))
  | _ => none

private theorem toOption_integer (depth : Nat) (json : Json) :
    (Json.Shape.integer (-2 ^ 63) (2 ^ 63 - 1) depth json).toOption = code? json := by
  cases json with
  | number n =>
      cases n with
      | integer code =>
          simp only [Json.Shape.integer, Json.Meaning.number, code?]
          split
          · rfl
          · rfl
      | double x => rfl
  | null | bool | text | array | object => rfl

private theorem toOption_text (depth : Nat) (json : Json) :
    (Json.Shape.text depth json).toOption = message? (some json) := by
  cases json with
  | text message => rfl
  | null | bool | number | array | object => rfl

private theorem toOption_bind {φ α β : Type} (outcome : Except φ α) (next : α → Except φ β) :
    (outcome >>= next).toOption = outcome.toOption.bind fun value => (next value).toOption := by
  cases outcome with
  | error fault => rfl
  | ok value => rfl

private theorem toOption_code (fields : Fields String Json.Number) :
    (fields.required "code" (.integer (-2 ^ 63) (2 ^ 63 - 1))).toOption =
      (fields.get? "code").bind code? := by
  rw [Fields.required]
  cases fields.get? "code" with
  | none => rfl
  | some code => exact toOption_integer fields.depth code

private theorem toOption_message (fields : Fields String Json.Number) :
    (fields.withDefault "message" "" .text).toOption = message? (fields.get? "message") := by
  rw [Fields.withDefault]
  cases fields.get? "message" with
  | none => rfl
  | some message => exact toOption_text fields.depth message

private theorem toOption_failureShape {fields : Fields String Json.Number} {error : Json}
    (known : Fields.ofTree ["code", "message"] Json.maxDepth error = .ok fields) :
    (Json.decodeWith failureShape error).toOption = do
      return (← (fields.get? "code").bind code?, ← message? (fields.get? "message")) := by
  rw [Json.decodeWith, failureShape, known]
  simp only [toOption_bind, toOption_code, toOption_message]
  rfl

/-- **An error is read** as an error body exactly if it has that form. -/
theorem toOption_decode_failure {error : Json}
    (once : ∀ members, error = .object members → (members.map Prod.fst).Nodup) :
    (Json.decodeWith failureShape error).toOption = body? error := by
  cases error with
  | null | bool | number | text => rfl
  | object members =>
      have each : List.Forall₂ (Json.Named (· = ·)) members members :=
        List.forall₂_same.mpr fun _ _ => ⟨rfl, rfl⟩
      have fieldsOnce : ["code", "message"].Nodup := by decide
      obtain ⟨fields, known, _, _, agrees⟩ :=
        Fields.exists_ofTree fieldsOnce each (once members rfl)
      have found (name : String) (field : name ∈ ["code", "message"]) :
          fields.get? name = members.lookup name := by
        have agree := agrees name field
        generalize fields.get? name = given, members.lookup name = held at agree ⊢
        cases agree with
        | none => rfl
        | some same => exact congrArg some same
      rw [toOption_failureShape known, found "code" (by decide), found "message" (by decide)]
      rfl
  | array items =>
      match items with
      | [] => rfl
      | [code] =>
          have known : Fields.ofTree ["code", "message"] Json.maxDepth (.array [code]) =
              .ok ⟨[("code", some code), ("message", none)], true, 126⟩ := rfl
          exact toOption_failureShape known
      | [code, message] =>
          have known : Fields.ofTree ["code", "message"] Json.maxDepth (.array [code, message]) =
              .ok ⟨[("code", some code), ("message", some message)], true, 126⟩ := rfl
          exact toOption_failureShape known
      | _ :: _ :: _ :: _ => rfl

/-- An error says its body, or its whole text where it has no body. -/
theorem ofError_eq {error : Json} (id : Option UInt64)
    (once : ∀ members, error = .object members → (members.map Prod.fst).Nodup) :
    ofError id error = match body? error with
      | some (code, message) => .failure id code message
      | none => .failure id (-32000) error.render := by
  rw [ofError, ← toOption_decode_failure once]
  cases Json.decodeWith failureShape error with
  | error fault => rfl
  | ok body => rfl

/-! ### What the members say -/

section Members

variable (members : List (String × Json))

/-- The id that a frame names. -/
def id? : Option UInt64 := (member? members "id").bind Json.asWord?

/-- **What a frame with some members says.** -/
def said : Frame :=
  match member? members "error", id? members with
  | some error, id =>
    match body? error with
    | some (code, message) => .failure id code message
    | none => .failure id (-32000) error.render
  | none, some id => .response id ((member? members "result").getD .null)
  | none, none =>
    match member? members "params" with
    | some (.object params) =>
      match (member? params "subscription").bind Json.asWord? with
      | some subscription => .notification subscription ((member? params "result").getD .null)
      | none => .other
    | _ => .other

/-- Something other than the parameters tells what the frame is. -/
def Told : Prop := (member? members "error").isSome ∨ (id? members).isSome

/-- Parameters are left out, or null, or an object. They may also be an array of a result and a
subscription, unless nothing but the parameters tells what the frame is and they name a
subscription in this way. -/
def ParamsFit : Prop :=
  match member? members "params" with
  | none | some (.object _) => True
  | some (.array [_, subscription]) => Told members ∨ Json.asWord? subscription = none
  | some _ => False

end Members

private theorem untold_iff {members : List (String × Json)} :
    ¬Told members ↔ member? members "error" = none ∧ id? members = none := by
  rw [Told, not_or, Option.not_isSome_iff_eq_none, Option.not_isSome_iff_eq_none]

/-! ### Reading a frame -/

variable {τ ν : Type} [Json.Meaning τ ν] {depth : Nat} {tree : Json.Tree τ ν} {json : Json}

/-- The parameters that a value gives: an object, or an array of the two. -/
def params? : Json → Option FrameParams
  | .object params => some ⟨(member? params "result").getD .null, member? params "subscription"⟩
  | .array [result, subscription] => some ⟨result, present? subscription⟩
  | _ => none

/-- The parameters are what their fields hold. -/
theorem paramsShape_of_fields {fields : Fields τ ν} {result : Json}
    (known : Fields.ofTree ["result", "subscription"] depth tree = .ok fields)
    (first : fields.withDefault "result" .null .value = .ok result) :
    paramsShape depth tree = (fields.optional "subscription" .value).map (⟨result, ·⟩) := by
  rw [paramsShape, known]
  change (fields.withDefault "result" .null .value >>= fun result => do
    return FrameParams.mk result (← fields.optional "subscription" .value)) = _
  rw [first]
  cases fields.optional "subscription" Json.Shape.value with
  | error fault => rfl
  | ok subscription => rfl

/-- **Parameters are read** exactly if they have one of their shapes. -/
theorem toOption_paramsShape (shows : Json.Shows (depth + 1) tree json) :
    (paramsShape (depth + 1) tree).toOption = params? json := by
  cases tree with
  | null | bool =>
      have read := shows.value
      rw [Json.Tree.value] at read
      cases read
      rfl
  | number n =>
      obtain ⟨_, rfl⟩ := Json.exists_of_value_number shows.value
      rfl
  | text t =>
      obtain ⟨_, rfl⟩ := Json.exists_of_value_text shows.value
      rfl
  | array items =>
      obtain ⟨values, rfl, each⟩ := shows.exists_items
      cases each with
      | nil => rfl
      | @cons item result items _ first rest =>
          cases rest with
          | nil =>
              have known : Fields.ofTree ["result", "subscription"] (depth + 1) (.array [item]) =
                  .ok ⟨[("result", some item), ("subscription", none)], true, depth⟩ := rfl
              rw [paramsShape_of_fields known first.value]
              rfl
          | @cons last subscription _ _ second rest =>
              cases rest with
              | nil =>
                  have known : Fields.ofTree ["result", "subscription"] (depth + 1)
                      (.array [item, last]) =
                    .ok ⟨[("result", some item), ("subscription", some last)], true, depth⟩ := rfl
                  rw [paramsShape_of_fields known first.value]
                  change (Except.map _ (Json.Shape.optional .value depth last)).toOption = _
                  rw [Json.optional_value second.value]
                  rfl
              | cons => rfl
  | object members =>
      have once : ["result", "subscription"].Nodup := by decide
      obtain ⟨params, fields, rfl, _, known, _, byName, agrees⟩ := shows.exists_fields once
      rw [paramsShape_of_fields known (Fields.withDefault_null (agrees "result" (by decide))),
        Fields.optional_eq (agrees "subscription" (by decide)) byName]
      rfl

/-- What the parameters say, where nothing else does. -/
def ofParams : Option FrameParams → Frame
  | none => .other
  | some params =>
    match params.subscription.bind Json.asWord? with
    | some subscription => .notification subscription params.result
    | none => .other

/-- What the parameters of a frame give, if there are any. -/
def paramsOf? : Option Json → Option (Option FrameParams)
  | none => some none
  | some json => (params? json).map some

private theorem toOption_params {fields : Fields τ ν} {held : Option Json}
    (agree : Option.Rel (Json.Shows fields.depth) (fields.get? "params") held)
    (deep : fields.depth = depth + 1) :
    (fields.withDefault "params" none (.optional paramsShape)).toOption =
      paramsOf? (held.bind present?) := by
  rw [Fields.withDefault]
  rw [deep] at agree ⊢
  generalize fields.get? "params" = given at agree
  cases agree with
  | none => rfl
  | @some tree json shows =>
      by_cases nothing : tree = .null
      · subst nothing
        have read := shows.value
        rw [Json.Tree.value] at read
        cases read
        rfl
      · have present : json ≠ .null := by
          rintro rfl
          exact nothing (Json.eq_null_of_value shows.value)
        rw [Option.bind_some, Json.present?_eq_self present, paramsOf?,
          ← toOption_paramsShape shows]
        change (Json.Shape.optional paramsShape (depth + 1) tree).toOption = _
        rw [Json.Shape.optional]
        · cases paramsShape (depth + 1) tree with
          | error fault => rfl
          | ok params => rfl
        · exact nothing

/-- **The fields of a frame are read** exactly if its parameters are. -/
theorem toOption_fieldsShape {members : List (String × Json)}
    (shows : Json.Shows (depth + 2) tree (.object members)) :
    (fieldsShape (depth + 2) tree).toOption =
      (paramsOf? (member? members "params")).map fun params =>
        ⟨member? members "id", member? members "result", member? members "error", params⟩ := by
  obtain ⟨_, rfl⟩ := Json.exists_of_value_eq_object shows.value
  have once : ["id", "result", "error", "params"].Nodup := by decide
  obtain ⟨_, fields, ⟨⟩, _, known, deep, _, agrees⟩ := shows.exists_fields once
  have id := Fields.withDefault_optional (agrees "id" (by decide))
  have result := Fields.withDefault_optional (agrees "result" (by decide))
  have error := Fields.withDefault_optional (agrees "error" (by decide))
  have params : _ = paramsOf? (member? members "params") :=
    toOption_params (agrees "params" (by decide)) deep
  rw [fieldsShape, known, ← params]
  change (do
    let id ← fields.withDefault "id" none (.optional .value)
    let result ← fields.withDefault "result" none (.optional .value)
    let error ← fields.withDefault "error" none (.optional .value)
    return FrameFields.mk id result error
      (← fields.withDefault "params" none (.optional paramsShape))).toOption = _
  rw [id, result, error]
  cases fields.withDefault "params" none (.optional paramsShape) with
  | error fault => rfl
  | ok params => rfl

private theorem nodup_of_member {members inner : List (String × Json)} {name : String}
    (shows : Json.Shows (depth + 2) tree (.object members))
    (held : member? members name = some (.object inner)) : (inner.map Prod.fst).Nodup := by
  obtain ⟨_, rfl⟩ := Json.exists_of_value_eq_object shows.value
  obtain ⟨_, fields, ⟨⟩, _, _, _, _, agrees⟩ := shows.exists_fields (List.nodup_singleton name)
  have agree := agrees name (List.mem_singleton_self name)
  rw [member?] at held
  generalize fields.get? name = given, members.lookup name = found at agree held
  cases agree with
  | none => cases held
  | @some _ json shows =>
      cases json with
      | object =>
          cases held
          exact shows.nodup
      | null | bool | number | text | array => cases held

section Saying

variable {members : List (String × Json)} {params : Option FrameParams}
  (once : ∀ inner, member? members "error" = some (.object inner) → (inner.map Prod.fst).Nodup)

/-- The fields of a frame with some parameters. -/
def fieldsOf (members : List (String × Json)) (params : Option FrameParams) : FrameFields :=
  ⟨member? members "id", member? members "result", member? members "error", params⟩

include once

/-- **A frame with an error or an id** says the same whatever its parameters are. -/
theorem ofFields_of_told (told : Told members) :
    ofFields (fieldsOf members params) = said members := by
  unfold ofFields fieldsOf said id?
  dsimp only
  cases error : member? members "error" with
  | some body => exact ofError_eq _ fun inner same => once inner (same ▸ error)
  | none =>
      cases id : (member? members "id").bind Json.asWord? with
      | some id => rfl
      | none => exact (untold_iff.mpr ⟨error, id⟩ told).elim

omit once in
private theorem ofFields_of_untold (untold : ¬Told members) :
    ofFields (fieldsOf members params) = ofParams params := by
  obtain ⟨error, id⟩ := untold_iff.mp untold
  rw [id?] at id
  unfold ofFields fieldsOf
  dsimp only
  rw [error, id]
  cases params with
  | none => rfl
  | some params => rfl

end Saying

variable {bytes : List UInt8} {members : List (String × Json)}

/-- A frame is read wherever its parameters are. -/
theorem toOption_parse (spells : Json.SpellsObject bytes members) :
    (parse bytes).toOption = (paramsOf? (member? members "params")).map fun params =>
      ofFields (fieldsOf members params) := by
  obtain ⟨tree, found, shows⟩ := spells.exists_shows
  have fields : (fieldsShape Json.maxDepth tree).toOption = _ := toOption_fieldsShape shows
  rw [parse, Json.parseWith, found]
  change ((fieldsShape Json.maxDepth tree).map ofFields).toOption = _
  cases read : fieldsShape Json.maxDepth tree with
  | error fault =>
      rw [read] at fields
      rw [Option.map_eq_none_iff.mp fields.symm]
      rfl
  | ok raw =>
      rw [read] at fields
      obtain ⟨params, known, same⟩ := Option.map_eq_some_iff.mp fields.symm
      rw [known, ← same]
      rfl

private theorem toOption_eq_some_iff {φ α : Type} {outcome : Except φ α} {value : α} :
    outcome.toOption = some value ↔ outcome = .ok value := by
  cases outcome with
  | error fault => simp [Except.toOption]
  | ok found => simp [Except.toOption]

private theorem paramsFit_iff_of_told (told : Told members) :
    ParamsFit members ↔ (paramsOf? (member? members "params")).isSome := by
  unfold ParamsFit
  cases member? members "params" with
  | none => exact iff_of_true trivial rfl
  | some json =>
      cases json with
      | null | bool | number | text => exact iff_of_false id Bool.false_ne_true
      | object => exact iff_of_true trivial rfl
      | array items =>
          match items with
          | [] | [_] | _ :: _ :: _ :: _ => exact iff_of_false id Bool.false_ne_true
          | [_, _] => exact iff_of_true (.inl told) rfl

private theorem present?_bind_asWord? (json : Json) :
    (Json.present? json).bind Json.asWord? = Json.asWord? json := by
  cases json with
  | null | bool | number | text | array | object => rfl

private theorem paramsFit_iff_of_untold (untold : ¬Told members) :
    ParamsFit members ↔
      (paramsOf? (member? members "params")).map ofParams = some (said members) := by
  obtain ⟨error, id⟩ := untold_iff.mp untold
  unfold ParamsFit said
  rw [error, id]
  cases member? members "params" with
  | none => exact iff_of_true trivial rfl
  | some json =>
      cases json with
      | null | bool | number | text => exact iff_of_false (·.elim) (Option.some_ne_none _).symm
      | object => exact iff_of_true trivial rfl
      | array items =>
          match items with
          | [] | [_] | _ :: _ :: _ :: _ =>
              exact iff_of_false (·.elim) (Option.some_ne_none _).symm
          | [result, subscription] =>
              change Told members ∨ Json.asWord? subscription = none ↔
                some (match (Json.present? subscription).bind Json.asWord? with
                  | some subscription => Frame.notification subscription result
                  | none => .other) = some .other
              rw [present?_bind_asWord?, or_iff_right untold]
              cases Json.asWord? subscription with
              | none => exact iff_of_true rfl rfl
              | some subscription => exact iff_of_false nofun nofun

/-- **A frame is what its members say** exactly if its parameters fit. -/
theorem parse_eq_said_iff (spells : Json.SpellsObject bytes members) :
    parse bytes = .ok (said members) ↔ ParamsFit members := by
  obtain ⟨_, _, shows⟩ := spells.exists_shows
  rw [← toOption_eq_some_iff, toOption_parse spells]
  by_cases told : Told members
  · have same : (fun params => ofFields (fieldsOf members params)) = fun _ => said members :=
      funext fun _ => ofFields_of_told (fun _ held => nodup_of_member shows held) told
    rw [same, paramsFit_iff_of_told told]
    cases paramsOf? (member? members "params") with
    | none => exact iff_of_false nofun nofun
    | some params => exact iff_of_true rfl rfl
  · have same : (fun params => ofFields (fieldsOf members params)) = ofParams :=
      funext fun _ => ofFields_of_untold told
    rw [same, paramsFit_iff_of_untold told]

/-- An answer to a request that has some parameters beside. -/
def answerBeside (params : String) : List UInt8 :=
  Utf8.encode ("\x7b\"id\":1,\"result\":5,\"params\":" ++ params ++ "\x7d")

/-- The members of such an answer. -/
def answerMembers (params : Json) : List (String × Json) :=
  [("id", .number (.integer 1)), ("params", params), ("result", .number (.integer 5))]

/-- The tree of such an answer. -/
def answerTree (params : Json.Syntax) : Json.Syntax :=
  .object [(⟨Utf8.encode "id"⟩, .number ⟨false, [1], [], none⟩),
    (⟨Utf8.encode "result"⟩, .number ⟨false, [5], [], none⟩),
    (⟨Utf8.encode "params"⟩, params)]

private theorem unrepeated_answerTree {params : Json.Syntax} (once : params.Unrepeated) :
    (answerTree params).Unrepeated := by
  apply Json.Tree.Unrepeated.object
  · change ([.ok "id", .ok "result", .ok "params"] : List (Except Json.Fault String)).Nodup
    decide
  · intro member listed
    simp only [List.mem_cons, List.not_mem_nil, or_false] at listed
    obtain rfl | rfl | rfl := listed
    · exact .number
    · exact .number
    · exact once

private theorem spells_answerBeside_seven :
    Json.SpellsObject (answerBeside "7") (answerMembers (.number (.integer 7))) := by
  have parsed : Json.Syntax.parse (answerBeside "7") =
      .ok (answerTree (.number ⟨false, [7], [], none⟩)) := rfl
  exact .ofTree parsed ⟨rfl, unrepeated_answerTree .number⟩

/-- An answer with empty parameters beside it. -/
theorem parse_answerBeside_empty :
    Json.SpellsObject (answerBeside "\x7b\x7d") (answerMembers (.object [])) ∧
      ParamsFit (answerMembers (.object [])) ∧
        parse (answerBeside "\x7b\x7d") = .ok (.response 1 (.number (.integer 5))) := by
  have parsed : Json.Syntax.parse (answerBeside "\x7b\x7d") = .ok (answerTree (.object [])) := rfl
  have spells : Json.SpellsObject (answerBeside "\x7b\x7d") (answerMembers (.object [])) :=
    .ofTree parsed ⟨rfl, unrepeated_answerTree (.object List.nodup_nil nofun)⟩
  exact ⟨spells, trivial, (parse_eq_said_iff spells).mpr trivial⟩

/-- An answer is unreadable for parameters that it has no need of. -/
theorem parse_answerBeside_seven :
    Json.SpellsObject (answerBeside "7") (answerMembers (.number (.integer 7))) ∧
      said (answerMembers (.number (.integer 7))) = .response 1 (.number (.integer 5)) ∧
        ∃ fault, parse (answerBeside "7") = .error fault :=
  ⟨spells_answerBeside_seven, rfl, _, rfl⟩

end LedgerClient.Frame
