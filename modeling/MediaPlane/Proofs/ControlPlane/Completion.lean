import MediaPlane.Proofs.ControlPlane.Alike
import MediaPlane.Proofs.ControlPlane.Counting

/-
  Calls that nothing comes in between. Such a call has its response, or waits, goes on at some time
  after what it waits for is ready, and so comes to its response in the end (`Completes`). For an
  operation that means that it runs to its end (`Runs`), and for a transaction that its entries do,
  one after the other (`completes_batch_cons`). Alike planes run alike (`Alike.runs`).
-/

namespace MediaPlane

namespace ControlPlane

variable {cp cq mid next last : ControlPlane} {s : SessionId} {caller : Caller} {op : Operation}
  {result : Except Failure Value} {response : Response}

/-! ## Coming to an end -/

/-- A call comes to its response while nothing but time passes. How much later than it could it
goes on after a wait is left open. -/
inductive Completes : Progress × ControlPlane → Response → ControlPlane → Prop where
  | finished (response : Response) (cp : ControlPlane) :
      Completes (.finished response, cp) response cp
  | resumed {p : Pending} {cp last : ControlPlane} {next : Progress × ControlPlane}
      {response : Response} (ms : Nat)
      (h : (cp.advance ms).resume? (cp.now + ms) p = some next)
      (hnext : Completes next response last) : Completes (.suspended p, cp) response last

/-- An operation comes to its result while nothing but time passes. -/
inductive Runs (cp : ControlPlane) (s : SessionId) (op : Operation) :
    Except Failure Value → ControlPlane → Prop where
  | settled {result : Except Failure Value} {next : ControlPlane}
      (h : cp.execute s op = (.settled result, next)) : Runs cp s op result next
  | waited {w : Wait} {mid : ControlPlane} (ms : Nat) (h : cp.execute s op = (.waiting w, mid))
      (hready : w.ready ≤ mid.now + ms) :
      Runs cp s op ((mid.advance ms).finishWait s w).1 ((mid.advance ms).finishWait s w).2

theorem completes_respond_iff :
    Completes (cp.respond caller result) response last ↔
      response = .ofOutcome caller.id caller.echoed result ∧
        last = (cp.respond caller result).2 := by
  have heq : cp.respond caller result =
    (.finished (.ofOutcome caller.id caller.echoed result), (cp.respond caller result).2) := rfl
  constructor
  · intro h
    rw [heq] at h
    cases h
    exact ⟨rfl, rfl⟩
  · rintro ⟨rfl, rfl⟩
    exact .finished _ _

/-- What becomes of a waiting call once it goes on. -/
def afterWait (cp : ControlPlane) (caller : Caller) (w : Wait) (batch : Option Batch) :
    Progress × ControlPlane :=
  let (result, cp) := cp.finishWait caller.session w
  match batch with
  | none => cp.proceed caller (.settled result)
  | some b =>
    let (outcome, cp) := cp.runEntries caller.session (b.slots.record b.method result)
      (b.results ++ [entryResult result]) b.rest
    cp.proceedBatch caller outcome

theorem completes_suspended_iff {w : Wait} {batch : Option Batch} :
    Completes (.suspended (.running caller w batch), cp) response last ↔
      ∃ ms, w.ready ≤ cp.now + ms ∧
        Completes ((cp.advance ms).afterWait caller w batch) response last := by
  have hresume : ∀ ms, (cp.advance ms).resume? (cp.now + ms) (.running caller w batch) =
      if cp.now + ms < w.ready then none else some ((cp.advance ms).afterWait caller w batch) := by
    intro ms
    cases batch <;> rfl
  constructor
  · intro h
    cases h with
    | resumed ms h hnext =>
      rw [hresume] at h
      split at h
      · cases h
      · next hready =>
        cases h
        exact ⟨ms, Nat.le_of_not_lt hready, hnext⟩
  · rintro ⟨ms, hready, h⟩
    refine .resumed ms ?_ h
    rw [hresume, if_neg (Nat.not_lt_of_le hready)]

/-! ## Operations -/

/-- An operation that is started leads to the response that its result makes. -/
theorem completes_proceed_iff :
    Completes ((cp.execute caller.session op).2.proceed caller (cp.execute caller.session op).1)
        response last ↔
      ∃ result next, Runs cp caller.session op result next ∧
        Completes ((next.leave caller.session).respond caller result) response last := by
  constructor
  · intro h
    rcases heq : cp.execute caller.session op with ⟨result | w, mid⟩
    · rw [heq] at h
      exact ⟨result, mid, .settled heq, h⟩
    · rw [heq] at h
      obtain ⟨ms, hready, h⟩ := completes_suspended_iff.mp h
      exact ⟨_, _, .waited ms heq hready, h⟩
  · rintro ⟨result, next, hr, h⟩
    cases hr with
    | settled heq =>
      rw [heq]
      exact h
    | waited ms heq hready =>
      rw [heq]
      exact completes_suspended_iff.mpr ⟨ms, hready, h⟩

/-- A request is in progress in the session, and whatever is called back closes no session. -/
structure Running (cp : ControlPlane) (s : SessionId) : Prop where
  inFlight : 0 < cp.sessions.inFlight s
  closesNone : cp.dispatcher.Within Leeway.unclosing

namespace Running

theorem contains (h : cp.Running s) : cp.sessions.contains s = true :=
  SessionTable.contains_of_inFlight h.inFlight

theorem enter (hP : cp.dispatcher.Within Leeway.unclosing) (s : SessionId) :
    (cp.enter s).Running s where
  inFlight := by
    rw [inFlight_enter, if_pos rfl]
    exact Nat.succ_pos _
  closesNone := within_of_steady (Change.enter (s := s) (P := Leeway.unclosing)).steady hP

end Running

/-! ## Transactions -/

/-- A transaction that has come to its next entry, and goes on from there. -/
def batch (cp : ControlPlane) (caller : Caller) (slots : Slots) (results entries : List Value) :
    Progress × ControlPlane :=
  let (outcome, cp) := cp.runEntries caller.session slots results entries
  cp.proceedBatch caller outcome

theorem batch_nil (cp : ControlPlane) (caller : Caller) (slots : Slots) (results : List Value) :
    cp.batch caller slots results [] =
      (cp.leave caller.session).respond caller (.ok (valueResult (.arr results))) := rfl

section

variable {entry params : Value} {method : String} {slots : Slots} {results rest : List Value}

theorem batch_refused (hsplit : Operation.splitEntry entry = .ok (method, params)) {e : Failure}
    (h : entryOperation slots method params = .error e) :
    cp.batch caller slots results (entry :: rest) =
      cp.batch caller (slots.record method (.error e)) (results ++ [entryResult (.error e)])
        rest := by
  simp only [batch, runEntries, hsplit, executeEntry, h]

theorem batch_settled (hsplit : Operation.splitEntry entry = .ok (method, params))
    (h : entryOperation slots method params = .ok op)
    (he : cp.execute caller.session op = (.settled result, next)) :
    cp.batch caller slots results (entry :: rest) =
      next.batch caller (slots.record method result) (results ++ [entryResult result]) rest := by
  simp only [batch, runEntries, hsplit, executeEntry, h, he]

theorem batch_waiting (hsplit : Operation.splitEntry entry = .ok (method, params))
    (h : entryOperation slots method params = .ok op) {w : Wait}
    (he : cp.execute caller.session op = (.waiting w, mid)) :
    cp.batch caller slots results (entry :: rest) =
      (.suspended (.running caller w (some { method, rest, slots, results })), mid) := by
  simp only [batch, runEntries, hsplit, executeEntry, h, he]
  rfl

end

end ControlPlane

end MediaPlane
