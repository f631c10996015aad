import MediaPlane.Proofs.ControlPlane.Lasting

/-
  What calls perform. A call makes its way to a response through operations that address objects; a
  transaction performs several. Each of them is noted as it is performed (`Performance`): the state
  that it finds, its session, and the operation itself, from which all that came of it can be read
  off. `performs` and its relatives follow the stages of a call and list the performances of each.
  `passes_begin`, `passes_resume?`: from its start or a wait on, a call passes through acts of a few
  kinds (`Act`), performs what is listed and nothing else, and is counted once it is answered or
  found to be a repetition.
-/

namespace MediaPlane

/-- A split of a longer list is at its end or before. -/
theorem split_concat {α : Type} {before after l : List α} {x y : α}
    (h : l ++ [x] = before ++ y :: after) :
    (after = [] ∧ before = l ∧ y = x) ∨
      ∃ rest, after = rest ++ [x] ∧ l = before ++ y :: rest := by
  rcases List.eq_nil_or_concat after with rfl | ⟨rest, z, rfl⟩
  · obtain ⟨hl, hx⟩ := List.append_inj' h rfl
    exact Or.inl ⟨rfl, hl.symm, (List.singleton_inj.mp hx).symm⟩
  · rw [List.concat_eq_append, ← List.cons_append, ← List.append_assoc] at h
    obtain ⟨hl, hx⟩ := List.append_inj' h rfl
    rw [List.concat_eq_append, List.singleton_inj.mp hx]
    exact Or.inr ⟨rest, rfl, hl⟩

/-- The answer is that there are not enough resources. -/
def Outcome.refused : Outcome → Bool
  | settled (.error e) => e.code = .notEnoughResources
  | settled (.ok _) | waiting _ => false

/-- An operation as a call performs it, in the state that it finds. -/
structure Performance where
  plane : ControlPlane
  session : SessionId
  op : Operation

namespace Performance

def outcome (p : Performance) : Outcome := (p.plane.execute p.session p.op).1

/-- The state that it leaves. -/
def next (p : Performance) : ControlPlane := (p.plane.execute p.session p.op).2

/-- How many requests a transport made and had answered on the way. -/
def requests (p : Performance) : Nat := p.plane.requestsWithin p.session p.op

/-- Whether an object is to be created. -/
def creates (p : Performance) : Bool := p.op.method = .create

/-- Whether it is a creation that was not admitted. -/
def refused (p : Performance) : Bool := p.creates && p.outcome.refused

theorem refused_eq {p : Performance} (h : p.op.method = .create) :
    p.refused = p.outcome.refused := by
  unfold refused creates
  rw [decide_eq_true h, Bool.true_and]

theorem refused_eq_false {p : Performance} (h : p.op.method ≠ .create) : p.refused = false := by
  unfold refused creates
  rw [decide_eq_false h, Bool.false_and]

end Performance

namespace ControlPlane

/-! ## What is performed -/

/-- An entry of a transaction is performed if its operation can be read. -/
def entryPerforms (cp : ControlPlane) (session : SessionId) (slots : Slots) (method : String)
    (params : Value) : List Performance :=
  match entryOperation slots method params with
  | .error _ => []
  | .ok op => [⟨cp, session, op⟩]

/-- The entries that are left are performed up to the first that waits. -/
def entriesPerform (cp : ControlPlane) (session : SessionId) (slots : Slots) :
    List Value → List Performance
  | [] => []
  | entry :: rest =>
    match Operation.splitEntry entry with
    | .error _ => entriesPerform cp session slots rest
    | .ok (method, params) =>
      cp.entryPerforms session slots method params ++
        match cp.executeEntry session slots method params with
        | (.waiting _, _) => []
        | (.settled result, cp) => entriesPerform cp session (slots.record method result) rest

/-- What an operation performs that is not part of a transaction. -/
def performs (cp : ControlPlane) (session : SessionId) (op : Operation) : List Performance :=
  match op with
  | .ping | .keepAlive | .connect | .closeSession _ => []
  | .transaction entries => (cp.enter session).entriesPerform session [] entries
  | op => [⟨cp.enter session, session, op⟩]

/-- What a request performs that no earlier execution answers. -/
def startPerforms (cp : ControlPlane) (r : Request) : List Performance :=
  let (session, cp) := cp.sessionFor r.session
  match r.operation with
  | .error _ => []
  | .ok op => cp.performs session op

/-- What a request performs when it arrives; a repetition performs nothing. -/
def beginPerforms (cp : ControlPlane) (r : Request) : List Performance :=
  match r.id, r.session with
  | some id, some session =>
    match cp.cache.begin { session, id } cp.now with
    | (.fresh _, cache) => { cp with cache }.startPerforms r
    | _ => []
  | _, _ => cp.startPerforms r

/-- What a call performs when it goes on. -/
def resumePerforms (cp : ControlPlane) (tick : Nat) (p : Pending) : List Performance :=
  match p with
  | .duplicate .. => []
  | .running caller wait batch =>
    if tick < wait.ready then []
    else
      let (result, cp) := cp.finishWait caller.session wait
      match batch with
      | none => []
      | some b => cp.entriesPerform caller.session (b.slots.record b.method result) b.rest

/-! ## Acts -/

variable {cp mid next last : ControlPlane} {s : SessionId} {op : Operation}
  {ps qs : List Performance} {n k : Nat}

/-- One act of a call: what it performs, and how often it is counted. -/
inductive Act (cp : ControlPlane) : List Performance → Nat → ControlPlane → Prop where
  | draw : Act cp [] 0 cp.drawName.2
  | enter (s : SessionId) : Act cp [] 0 (cp.enter s)
  | leave (s : SessionId) : Act cp [] 0 (cp.leave s)
  | keepAlive {s : SessionId} {next : ControlPlane} (h : cp.keepAlive s = .ok next) :
      Act cp [] 0 next
  | connect (s : SessionId) : Act cp [] 0 (cp.connect s)
  | close {s : SessionId} {forced : Bool} {n : Nat} {next : ControlPlane}
      (h : cp.closeSession s forced = .ok (n, next)) : Act cp [] 0 next
  /-- An operation is performed and settles. -/
  | perform {s : SessionId} {op : Operation} {result : Except Failure Value} {next : ControlPlane}
      (h : cp.execute s op = (.settled result, next)) : Act cp [⟨cp, s, op⟩] 0 next
  | cache (cache : RetryCache) : Act cp [] 0 { cp with cache }
  /-- The call is answered. -/
  | count (label : String) (result : Except Failure Value) :
      Act cp [] 1 (cp.countRequest label result)
  /-- The call repeats another one. -/
  | replay : Act cp [] 1 { cp with metrics := cp.metrics.countReplay }

/-- A chain of acts. -/
inductive Acts (cp : ControlPlane) : List Performance → Nat → ControlPlane → Prop where
  | refl : Acts cp [] 0 cp
  | tail {ps qs : List Performance} {n k : Nat} {mid next : ControlPlane} (h : Acts cp ps n mid)
      (ha : Act mid qs k next) : Acts cp (ps ++ qs) (n + k) next

/-- How far a call passes at a time: to its response, or to something that it waits for. -/
inductive Passes (cp : ControlPlane) : List Performance → Progress → ControlPlane → Prop where
  | finished {ps : List Performance} {next : ControlPlane} (h : Acts cp ps 1 next)
      (response : Response) : Passes cp ps (.finished response) next
  | repeated {ps : List Performance} {next : ControlPlane} (h : Acts cp ps 1 next)
      (key : RetryKey) (ticket : Nat) : Passes cp ps (.suspended (.duplicate key ticket)) next
  | suspended {ps : List Performance} {mid next : ControlPlane} {op : Operation} {w : Wait}
      (h : Acts cp ps 0 mid) (caller : Caller) (batch : Option Batch)
      (hw : mid.execute caller.session op = (.waiting w, next)) :
      Passes cp (ps ++ [⟨mid, caller.session, op⟩]) (.suspended (.running caller w batch)) next

theorem Acts.one (h : Act cp ps n next) : Acts cp ps n next := by
  have hone := Acts.refl.tail h
  rwa [List.nil_append, Nat.zero_add] at hone

theorem Acts.trans (h : Acts cp ps n mid) (h' : Acts mid qs k next) :
    Acts cp (ps ++ qs) (n + k) next := by
  induction h' with
  | refl => rwa [List.append_nil]
  | tail _ ha ih =>
    rw [← List.append_assoc, ← Nat.add_assoc]
    exact ih.tail ha

/-- Acts that are not counted may come first. -/
theorem Passes.after {progress : Progress} (h : Acts cp ps 0 mid)
    (h' : Passes mid qs progress next) : Passes cp (ps ++ qs) progress next := by
  cases h' with
  | finished ha response => exact .finished (h.trans ha) response
  | repeated ha key ticket => exact .repeated (h.trans ha) key ticket
  | suspended ha caller batch hw =>
    rw [← List.append_assoc]
    exact .suspended (h.trans ha) caller batch hw

/-- Nothing is performed at first. -/
theorem Passes.afterIdle {progress : Progress} (h : Acts cp [] 0 mid)
    (h' : Passes mid qs progress next) : Passes cp qs progress next := Passes.after h h'

/-! ## The stages of a call -/

theorem passes_respond (h : Acts cp ps 0 mid) (caller : Caller) (result : Except Failure Value) :
    Passes cp ps (mid.respond caller result).1 (mid.respond caller result).2 := by
  have hcount : Acts cp (ps ++ []) 1 (mid.countRequest caller.label result) :=
    h.tail (.count caller.label result)
  rw [List.append_nil] at hcount
  unfold respond
  refine .finished ?_ _
  simp only
  split
  · exact hcount
  · rw [← List.append_nil ps]
    exact hcount.tail (.cache _)

theorem passes_proceed (cp : ControlPlane) (caller : Caller) (op : Operation) :
    Passes cp [⟨cp, caller.session, op⟩]
      ((cp.execute caller.session op).2.proceed caller (cp.execute caller.session op).1).1
      ((cp.execute caller.session op).2.proceed caller (cp.execute caller.session op).1).2 := by
  rcases he : cp.execute caller.session op with ⟨result | w, mid⟩
  · exact passes_respond ((Acts.one (.perform he)).trans (.one (.leave _))) caller result
  · exact .suspended .refl caller none he

/-- Entry after entry is performed, and the call passes to its response or to a wait. -/
theorem passes_batch (cp : ControlPlane) (caller : Caller) (slots : Slots)
    (results entries : List Value) :
    Passes cp (cp.entriesPerform caller.session slots entries)
      ((cp.runEntries caller.session slots results entries).2.proceedBatch caller
        (cp.runEntries caller.session slots results entries).1).1
      ((cp.runEntries caller.session slots results entries).2.proceedBatch caller
        (cp.runEntries caller.session slots results entries).1).2 := by
  induction entries generalizing cp slots results with
  | nil => exact passes_respond (.one (.leave _)) caller _
  | cons entry rest ih =>
    cases hsplit : Operation.splitEntry entry with
    | error e =>
      simp only [runEntries, entriesPerform, hsplit]
      exact ih cp slots _
    | ok r =>
      obtain ⟨method, params⟩ := r
      simp only [runEntries, entriesPerform, entryPerforms, executeEntry, hsplit]
      cases hop : entryOperation slots method params with
      | error e => exact ih cp _ _
      | ok op =>
        simp only
        rcases he : cp.execute caller.session op with ⟨result | w, mid⟩
        · exact Passes.after (.one (.perform he)) (ih mid _ _)
        · exact .suspended .refl caller _ he

theorem passes_perform (cp : ControlPlane) (caller : Caller) (op : Operation) :
    Passes cp (cp.performs caller.session op) (cp.perform caller op).1
      (cp.perform caller op).2 := by
  have henter : Acts cp [] 0 (cp.enter caller.session) := .one (.enter caller.session)
  cases op with
  | ping => exact passes_respond .refl caller _
  | keepAlive =>
    unfold perform
    simp only
    split
    · exact passes_respond .refl caller _
    · next heq => exact passes_respond (.one (.keepAlive heq)) caller _
  | connect => exact passes_respond (.one (.connect _)) caller _
  | closeSession forced =>
    unfold perform
    simp only
    split
    · exact passes_respond .refl caller _
    · next heq => exact passes_respond (.one (.close heq)) caller _
  | transaction entries => exact Passes.afterIdle henter (passes_batch _ caller [] [] entries)
  | create | invoke | ref | unref | release | describe | subscribe | unsubscribe =>
    exact Passes.afterIdle henter (passes_proceed _ caller _)

theorem passes_start (cp : ControlPlane) (r : Request) (guard : Option Guard) :
    Passes cp (cp.startPerforms r) (cp.start r guard).1 (cp.start r guard).2 := by
  have hsession : Acts cp [] 0 (cp.sessionFor r.session).2 := by
    unfold sessionFor
    cases r.session with
    | some s => exact .refl
    | none => exact .one .draw
  unfold start startPerforms
  rcases heq : cp.sessionFor r.session with ⟨session, mid⟩
  rw [heq] at hsession
  refine Passes.afterIdle hsession ?_
  let caller : Caller :=
    { id := r.id, named := r.session, session, label := methodLabel r.method, guard }
  cases r.operation with
  | error e => exact passes_respond .refl caller _
  | ok op => exact passes_perform mid caller op

/-- A request arrives, and passes to its response or to what it waits for. -/
theorem passes_begin (cp : ControlPlane) (r : Request) :
    Passes cp (cp.beginPerforms r) (cp.begin r).1 (cp.begin r).2 := by
  have hreplay : Acts cp [] 1 { cp with metrics := cp.metrics.countReplay } := .one .replay
  unfold begin beginPerforms
  cases hid : r.id with
  | none => exact passes_start cp r none
  | some id =>
    cases hsession : r.session with
    | none => exact passes_start cp r none
    | some session =>
      simp only
      rcases cp.cache.begin { session, id } cp.now with ⟨guard | response | ticket, cache⟩
      · exact Passes.afterIdle (.one (.cache cache)) (passes_start _ r (some guard))
      · exact .finished hreplay response
      · exact .repeated hreplay _ ticket

/-- A call that goes on is ready. -/
theorem ready_of_resume? {tick : Nat} {caller : Caller} {wait : Wait} {batch : Option Batch}
    {r : Progress × ControlPlane}
    (h : cp.resume? tick (.running caller wait batch) = some r) : wait.ready ≤ tick := by
  unfold resume? at h
  simp only at h
  split at h
  · cases h
  · next hready => exact Nat.not_lt.mp hready

/-- A call goes on, and passes to its response or to what it waits for next. -/
theorem passes_resume? {tick : Nat} {caller : Caller} {wait : Wait} {batch : Option Batch}
    {r : Progress × ControlPlane}
    (h : cp.resume? tick (.running caller wait batch) = some r) :
    Passes (cp.finishWait caller.session wait).2
      (cp.resumePerforms tick (.running caller wait batch)) r.1 r.2 := by
  unfold resume? at h
  unfold resumePerforms
  simp only at h ⊢
  split at h
  · cases h
  · next hready =>
    rw [if_neg hready]
    cases batch with
    | none =>
      cases h
      exact passes_respond (.one (.leave _)) caller _
    | some b =>
      cases h
      exact passes_batch _ caller _ _ b.rest

/-! ## What lasts -/

/-- What lasts is kept by every act. -/
theorem Lasting.act {Q : ControlPlane → Prop} (hQ : Lasting Q) (h : Act cp ps n next)
    (hq : Q cp) : Q next := by
  cases h with
  | draw => exact hQ.change (Change.draw (s := default) (P := Leeway.full)) hq
  | enter s => exact hQ.change (Change.enter (s := s) (P := Leeway.full)) hq
  | leave s => exact hQ.change (Change.leave (s := s) (P := Leeway.full)) hq
  | keepAlive h => exact hQ.change (Change.keepAlive (P := Leeway.full) h) hq
  | connect s => exact hQ.change (Change.connect (s := s) (P := Leeway.full)) hq
  | @close s _ _ _ h => exact hQ.change (Change.close (s := s) (P := Leeway.full) trivial h) hq
  | @perform s op _ _ h =>
    have hstretch := execute_stretch cp.dispatcher.within_full s op
    rw [h] at hstretch
    exact hQ.stretch hstretch hq
  | cache cache => exact hQ.cache hq cache
  | count | replay => exact hQ.metrics hq _

theorem Lasting.acts {Q : ControlPlane → Prop} (hQ : Lasting Q) (h : Acts cp ps n next)
    (hq : Q cp) : Q next := by
  induction h with
  | refl => exact hq
  | tail _ ha ih => exact hQ.act ha ih

/-- What lasts also holds wherever an operation is performed on the way. -/
theorem Lasting.performed {Q : ControlPlane → Prop} (hQ : Lasting Q) (h : Acts cp ps n next)
    (hq : Q cp) : ∀ p ∈ ps, Q p.plane := by
  induction h with
  | refl => exact fun p hp => by cases hp
  | @tail ps qs n k mid next h ha ih =>
    intro p hp
    rcases List.mem_append.mp hp with hp | hp
    · exact ih p hp
    · have hmid := hQ.acts h hq
      cases ha with
      | perform =>
        rw [List.mem_singleton.mp hp]
        exact hmid
      | _ => cases hp

theorem Lasting.passed {Q : ControlPlane → Prop} (hQ : Lasting Q) {progress : Progress}
    (h : Passes cp ps progress next) (hq : Q cp) : ∀ p ∈ ps, Q p.plane := by
  cases h with
  | finished ha | repeated ha => exact hQ.performed ha hq
  | suspended ha caller batch hw =>
    intro p hp
    rcases List.mem_append.mp hp with hp | hp
    · exact hQ.performed ha hq p hp
    · rw [List.mem_singleton.mp hp]
      exact hQ.acts ha hq

end ControlPlane

end MediaPlane
