import MediaPlane.Proofs.Value.Plain
import MediaPlane.Request.Message
import MediaPlane.Request.Placeholder

/-
  Wire forms. An operation comes back from its parts, and from its form inside a transaction, and a
  request from its members, as long as the values that clients put into them are plain
  (`wire_forms_faithful`). What comes back in general has its embedded values replaced
  (`Operation.ofParts_toParts`, `Request.ofValue_toValue`), so that one that is not plain never
  comes back as it was.
-/

namespace MediaPlane

/-! ## Operations -/

namespace Operation

/-- Whether the values that a client put into it are plain. -/
def isPlain : Operation → Bool
  | create _ payload | invoke _ _ payload | subscribe _ _ payload => payload.isPlain
  | transaction entries => Value.isPlainItems entries
  | ref _ | unref _ | release _ | describe _ | unsubscribe .. | closeSession _ | keepAlive
  | connect | ping => true

/-- The operation with the values of its client taken over, or why they cannot be. -/
def takenOver : Operation → Except DecodeFault Operation
  | create typeName payload => payload.unpack.map (create typeName)
  | invoke object operation payload => payload.unpack.map (invoke object operation)
  | subscribe object eventType payload => payload.unpack.map (subscribe object eventType)
  | transaction entries => (Value.unpackItems entries).map transaction
  | op => .ok op

theorem map_eq_ok_iff {α β : Type} {f : α → β} (hf : Function.Injective f)
    {x : Except DecodeFault α} {a : α} : x.map f = .ok (f a) ↔ x = .ok a := by
  cases x with
  | error e => exact ⟨nofun, nofun⟩
  | ok b =>
    show Except.ok (f b) = .ok (f a) ↔ _
    rw [Except.ok.injEq, Except.ok.injEq, hf.eq_iff]

theorem takenOver_eq_self_iff (op : Operation) : op.takenOver = .ok op ↔ op.isPlain = true := by
  cases op with
  | create typeName payload =>
    exact (map_eq_ok_iff fun _ _ h => (create.inj h).2).trans (Value.unpack_eq_self_iff payload)
  | invoke object operation payload =>
    exact (map_eq_ok_iff fun _ _ h => (invoke.inj h).2.2).trans (Value.unpack_eq_self_iff payload)
  | subscribe object eventType payload =>
    exact (map_eq_ok_iff fun _ _ h => (subscribe.inj h).2.2).trans
      (Value.unpack_eq_self_iff payload)
  | transaction entries =>
    exact (map_eq_ok_iff fun _ _ h => transaction.inj h).trans
      (Value.unpackItems_eq_self_iff entries)
  | ref | unref | release | describe | unsubscribe | closeSession | keepAlive | connect | ping =>
    exact iff_of_true rfl rfl

/-- What is read from written parameters is the operation, its values taken over. -/
theorem read_params (op : Operation) {r : Record} (hr : op.method.record = some r) :
    (r.read (orEmpty op.params)).map (ofFields op.method) = op.takenOver := by
  cases op with
  | keepAlive | connect | ping => cases hr
  | create _ payload | invoke _ _ payload | subscribe _ _ payload =>
    cases hr
    simp (disch := decide) only [params, Value.object, Members.ofPairs, List.foldl_cons,
      List.foldl_nil, Members.insert_nil, Members.insert_of_lt, Members.insert_of_gt]
    cases h : payload.unpack <;>
      simp [method, orEmpty, Value.isNull, Record.read, Record.readMembers, Record.field?,
        Record.missing, Record.keep, FieldReader.anything, takenOver, h, Except.map, ofFields,
        Value.textAt, Value.memberAt, Members.get?_cons, Value.str?, Value.orNull]
  | transaction entries =>
    cases hr
    cases h : Value.unpackItems entries <;>
      simp [method, params, orEmpty, Value.isNull, Value.object, Members.ofPairs, Record.read,
        Record.readMembers, Record.field?, Record.missing, Record.keep, FieldReader.list,
        takenOver, h, Except.map, ofFields, Value.itemsAt, Members.get?_cons, Value.arr?]
  | closeSession forced =>
    cases hr
    simp [method, params, orEmpty, Value.isNull, Value.object, Members.ofPairs, Record.read,
      Record.readMembers, Record.field?, Record.missing, Record.keep, takenOver, Except.map,
      ofFields, Value.flagAt, Members.get?_cons, Value.bool?]
  | ref | unref | release | describe | unsubscribe =>
    cases hr
    simp (disch := decide) only [params, Value.object, Members.ofPairs, List.foldl_cons,
      List.foldl_nil, Members.insert_nil, Members.insert_of_gt]
    simp [method, orEmpty, Value.isNull, Record.read, Record.readMembers, Record.field?,
      Record.missing, Record.keep, takenOver, Except.map, ofFields, Value.textAt,
      Members.get?_cons, Value.str?]

/-- What comes back from the parts of an operation. -/
theorem ofParts_toParts (op : Operation) :
    ofParts op.toParts.1 op.toParts.2 =
      op.takenOver.mapError fun f => .invalidParams (.malformed op.method.name f) := by
  unfold ofParts toParts
  rw [Method.ofName?_name]
  show ofParams op.method op.params = _
  unfold ofParams
  cases hr : op.method.record with
  | none =>
    cases op with
    | keepAlive | connect | ping => rfl
    | create | invoke | ref | unref | release | describe | subscribe | unsubscribe | transaction
    | closeSession => cases hr
  | some r =>
    rw [← read_params op hr]
    cases h : r.read (orEmpty op.params) with
    | error f => simp only [h, Except.map, Except.mapError]
    | ok fields => simp only [h, Except.map, Except.mapError]

/-- An operation is split inside a transaction as it is into its parts. -/
theorem splitEntry_toValue (op : Operation) : splitEntry op.toValue = .ok op.toParts := by
  unfold toValue toParts
  cases h : op.params.isNull with
  | true =>
    simp [Value.objectOf, Members.present, Members.ofPairs, splitEntry, Members.get?_cons,
      Value.orNull, Value.isNull_iff.mp h]
  | false =>
    simp [Value.objectOf, Members.present, Members.ofPairs, Members.get?_insert, splitEntry,
      Members.get?_cons, Value.orNull]

/-- An operation comes back from both of its wire forms. -/
structure Survives (op : Operation) : Prop where
  parts : ofParts op.toParts.1 op.toParts.2 = .ok op
  entry : ((splitEntry op.toValue).bind fun parts => ofParts parts.1 parts.2) = .ok op

theorem ofParts_toParts_eq_self_iff (op : Operation) :
    ofParts op.toParts.1 op.toParts.2 = .ok op ↔ op.isPlain = true := by
  rw [ofParts_toParts, ← takenOver_eq_self_iff]
  cases op.takenOver with
  | error f => exact ⟨nofun, nofun⟩
  | ok o => exact ⟨fun h => by cases h; rfl, fun h => by cases h; rfl⟩

theorem survives_iff (op : Operation) : op.Survives ↔ op.isPlain = true := by
  have hparts := ofParts_toParts_eq_self_iff op
  constructor
  · intro h
    exact hparts.mp h.parts
  · intro h
    refine ⟨hparts.mpr h, ?_⟩
    rw [splitEntry_toValue]
    exact hparts.mpr h

end Operation

/-! ## Requests -/

theorem FieldReader.optional_of_isNull {v : Value} (h : v.isNull = false) (read : FieldReader) :
    optional read v = read v := by
  cases v with
  | null => cases h
  | bool | int | double | str | arr | obj => rfl

theorem FieldReader.optional_str (s : String) (read : FieldReader) :
    optional read (.str s) = read (.str s) := rfl

namespace Request

/-- The members that a request is written with; absent ones are left out. -/
structure WrittenAs (r : Request) (wire : Value) : Prop where
  id : wire.get? "id" = r.id.map RequestId.toValue
  session : wire.get? "sessionId" = r.session.map (.str ·.text)
  method : wire.get? "method" = some (.str r.method)
  params : wire.get? "params" = if r.params.isNull then none else some r.params

theorem writtenAs_toValue (r : Request) : r.WrittenAs r.toValue := by
  obtain ⟨id, session, method, params⟩ := r
  cases id <;> cases session <;> cases h : params.isNull <;> constructor <;>
    simp [toValue, h, Value.objectOf, Members.present, Members.ofPairs, Members.get?_insert,
      Members.get?_cons]

/-- The written members in the order of their keys, which is the one they are read in. -/
theorem toValue_eq (r : Request) : r.toValue = .obj
    ((r.id.map fun i => ("id", i.toValue)).toList ++ ("method", .str r.method) ::
      ((if r.params.isNull then [] else [("params", r.params)]) ++
        (r.session.map fun s => ("sessionId", .str s.text)).toList)) := by
  obtain ⟨id, session, method, params⟩ := r
  cases id <;> cases session <;> cases h : params.isNull <;>
    simp (disch := decide) only [toValue, h, Value.objectOf, Members.present, Members.ofPairs,
      Option.map_some, Option.map_none, List.filterMap_cons, List.filterMap_nil, List.foldl_cons,
      List.foldl_nil, Members.insert_nil, Members.insert_of_lt, Members.insert_of_gt,
      Option.toList_some, Option.toList_none, List.nil_append, List.cons_append, List.append_nil,
      if_true, if_false, Bool.false_eq_true]

theorem read_id (i : RequestId) :
    FieldReader.optional RequestId.read i.toValue = .ok (some i.toValue) := by
  rw [FieldReader.optional_of_isNull (by cases i <;> rfl)]
  simp only [RequestId.read, RequestId.ofValue?_toValue, Option.isSome_some, if_true]

/-- What is read from a written request is the request, its parameters taken over. -/
theorem ofValue_toValue (r : Request) :
    ofValue r.toValue = r.params.unpack.map fun params => { r with params } := by
  rw [toValue_eq]
  obtain ⟨id, session, method, params⟩ := r
  cases hnull : params.isNull with
  | true =>
    cases Value.isNull_iff.mp hnull
    cases id <;> cases session <;>
      simp [ofValue, record, Record.read, Record.readMembers, Record.field?, Record.missing,
        Record.keep, read_id, Except.map, ofFields, Members.get?_cons, FieldReader.optional_str,
        RequestId.ofValue?_toValue, Value.textAt, Value.memberAt, Value.str?, Value.orNull]
  | false =>
    cases hparams : params.unpack <;> cases id <;> cases session <;>
      simp [ofValue, record, Record.read, Record.readMembers, Record.field?, Record.missing,
        Record.keep, read_id, hparams, Except.map, ofFields, Members.get?_cons,
        FieldReader.optional_str, FieldReader.anything, RequestId.ofValue?_toValue, Value.textAt,
        Value.memberAt, Value.str?, Value.orNull]

/-- A request comes back from its wire form, in which what is absent is left out. -/
structure Survives (r : Request) : Prop where
  written : r.WrittenAs r.toValue
  decoded : ofValue r.toValue = .ok r

theorem survives_iff (r : Request) : r.Survives ↔ r.params.isPlain = true := by
  have hdecoded : ofValue r.toValue = .ok r ↔ r.params.isPlain = true := by
    rw [ofValue_toValue, ← Value.unpack_eq_self_iff]
    exact Operation.map_eq_ok_iff fun _ _ h => (Request.mk.inj h).2.2.2
  exact ⟨fun h => hdecoded.mp h.decoded, fun h => ⟨writtenAs_toValue r, hdecoded.mpr h⟩⟩

end Request

/-- Operations and requests survive their wire forms exactly if the values that clients put into
them are plain. -/
theorem wire_forms_faithful (op : Operation) (r : Request) :
    (op.Survives ↔ op.isPlain = true) ∧ (r.Survives ↔ r.params.isPlain = true) :=
  ⟨op.survives_iff, r.survives_iff⟩

/-! ## What is lost -/

/-- An echo of an object that says `[1]` in the way of an embedded value. -/
def Operation.markedEcho (others : List (String × Value)) : Operation :=
  .invoke ⟨"o"⟩ "echo" (.object ((Value.embeddedKey, .str "[1]") :: others))

/-- Such an echo is refused if the object has another member, and otherwise becomes an echo of the
list. -/
theorem marked_payloads_lost :
    Operation.ofParts "invoke" (Operation.markedEcho [("a", .int 1)]).params =
        .error (.invalidParams (.malformed "invoke" (.tooManyMembers 2))) ∧
      Operation.ofParts "invoke" (Operation.markedEcho []).params =
        .ok (.invoke ⟨"o"⟩ "echo" (.arr [.int 1])) ∧
      ¬ (∀ op : Operation, op.Survives) ∧ ¬ ∀ r : Request, r.Survives := by
  refine ⟨?_, ?_, fun h => ?_, fun h => ?_⟩
  · exact (Operation.markedEcho [("a", .int 1)]).ofParts_toParts.trans (by rfl)
  · exact (Operation.markedEcho []).ofParts_toParts.trans (by rfl)
  · have hplain := (Operation.survives_iff (.markedEcho [])).mp (h _)
    revert hplain
    decide
  · have hplain := (Request.survives_iff (.anonymous (.markedEcho []))).mp (h _)
    revert hplain
    decide

end MediaPlane
