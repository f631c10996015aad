import MediaPlane.Proofs.Request.Reference
import MediaPlane.Proofs.Service.History
import MediaPlane.Proofs.Service.TypedForest
import MediaPlane.Proofs.Service.Unfolding

/-
  Forward references fail closed (`stray_references_refused`). A reference strays if its create is
  still to come or failed; an entry with one among its parameters is answered as unresolved and is
  not executed, and what is executed has an id in the place of every reference. The slots that an
  entry is read with are the results of the creates before it, in every transaction of every run,
  however often it waits (`Settings.tracked_run`). All of this is said of numbers that fit 64 bits.
  A larger one is taken for a text like any other, and reaches the element
  (`long_reference_echoed`).
-/

namespace MediaPlane

/-! ## Done entries -/

/-- An entry of a transaction that is done, and what came of it. -/
structure DoneEntry where
  entry : Value
  result : Except Failure Value

namespace DoneEntry

/-- The results of the creates among done entries, in order. -/
def creates (done : List DoneEntry) : List (Except Failure Value) :=
  done.filterMap fun d =>
    match Operation.splitEntry d.entry with
    | .ok (method, _) => if method = Method.create.name then some d.result else none
    | .error _ => none

/-- The slots that the creates among done entries took. -/
def slots (done : List DoneEntry) : Slots := (creates done).map Slots.made

/-- How done entries appear in the result of their transaction. -/
def results (done : List DoneEntry) : List Value := done.map fun d => entryResult d.result

/-- A text refers to a create that is not among the done ones, or to one that failed. -/
def Strays (done : List DoneEntry) (t : String) : Prop :=
  ∃ n, Slots.Refers t n ∧ n ≤ maxWord ∧
    ((creates done).length ≤ n ∨ ∃ e, (creates done)[n]? = some (.error e))

/-- Each entry whose parameters stray from the entries before it was answered as unresolved. -/
def FailClosed (done : List DoneEntry) : Prop :=
  ∀ i d method params, done[i]? = some d → Operation.splitEntry d.entry = .ok (method, params) →
    Operation.allowedInTransaction method = true →
      (∃ t ∈ params.texts, Strays (done.take i) t) →
        ∃ t ∈ params.texts, d.result = .error (.unresolvedReference t)

variable {done : List DoneEntry} {entry params : Value} {method t : String}
  {result : Except Failure Value}

theorem entries_concat {entries rest : List Value}
    (h : entries = done.map (·.entry) ++ entry :: rest) (result : Except Failure Value) :
    entries = (done ++ [DoneEntry.mk entry result]).map (·.entry) ++ rest := by
  rw [h, List.map_append, List.append_assoc]
  rfl

theorem results_concat (done : List DoneEntry) (entry : Value) (result : Except Failure Value) :
    results (done ++ [⟨entry, result⟩]) = results done ++ [entryResult result] := List.map_append

theorem slots_concat (h : Operation.splitEntry entry = .ok (method, params))
    (result : Except Failure Value) :
    slots (done ++ [⟨entry, result⟩]) = (slots done).record method result := by
  unfold slots creates Slots.record
  rw [List.filterMap_append, List.map_append, List.filterMap_cons, List.filterMap_nil]
  simp only [h]
  by_cases hm : method = Method.create.name
  · simp [hm]
  · simp [hm]

theorem slots_concat_error {e : Failure} (h : Operation.splitEntry entry = .error e)
    (result : Except Failure Value) : slots (done ++ [⟨entry, result⟩]) = slots done := by
  unfold slots creates
  rw [List.filterMap_append, List.filterMap_cons, List.filterMap_nil]
  simp only [h, List.append_nil]

/-- Where a text strays, its slot has no object. -/
theorem Strays.resolve? (h : Strays done t) :
    ∃ n, Slots.Refers t n ∧ n ≤ maxWord ∧ (slots done).resolve? n = none := by
  obtain ⟨n, hrefers, hn, hcreate⟩ := h
  refine ⟨n, hrefers, hn, ?_⟩
  unfold slots Slots.resolve?
  rw [List.getElem?_map]
  rcases hcreate with hnone | ⟨e, he⟩
  · rw [List.getElem?_eq_none hnone]
    rfl
  · rw [he]
    rfl

theorem failClosed_nil : FailClosed [] := fun _ _ _ _ hd => by cases hd

/-- One more entry is done, and was answered as unresolved if it strays. -/
theorem FailClosed.concat (h : FailClosed done) {d : DoneEntry}
    (hd : ∀ method params, Operation.splitEntry d.entry = .ok (method, params) →
      Operation.allowedInTransaction method = true → (∃ t ∈ params.texts, Strays done t) →
        ∃ t ∈ params.texts, d.result = .error (.unresolvedReference t)) :
    FailClosed (done ++ [d]) := by
  intro i c method params hc hsplit hallowed hstray
  rcases Nat.lt_or_ge i done.length with hi | hi
  · rw [List.getElem?_append_left hi] at hc
    rw [List.take_append_of_le_length (Nat.le_of_lt hi)] at hstray
    exact h i c method params hc hsplit hallowed hstray
  · rw [List.getElem?_append_right hi, List.getElem?_singleton] at hc
    split at hc
    · next hzero =>
      have hlast : i = done.length := Nat.le_antisymm (Nat.sub_eq_zero_iff_le.mp hzero) hi
      cases hc
      rw [hlast, List.take_left] at hstray
      exact hd method params hsplit hallowed hstray
    · cases hc

/-- An entry that was done after others is answered as unresolved if it strays from them. -/
theorem FailClosed.executed (h : FailClosed done)
    (hsplit : Operation.splitEntry entry = .ok (method, params))
    (hresult : Operation.allowedInTransaction method = true →
      (∃ t ∈ params.texts, Strays done t) →
        ∃ t ∈ params.texts, result = .error (.unresolvedReference t)) :
    FailClosed (done ++ [⟨entry, result⟩]) := by
  refine h.concat fun method' params' hsplit' => ?_
  rw [hsplit] at hsplit'
  cases hsplit'
  exact hresult

end DoneEntry

namespace ControlPlane

open DoneEntry (Strays FailClosed)

variable {cp : ControlPlane} {entries rest : List Value} {done : List DoneEntry}
  {entry params : Value} {method : String} {result : Except Failure Value} {slots : Slots}

/-! ## Single entries -/

/-- A reference to a slot without an object. -/
def Unresolved (slots : Slots) (t : String) : Prop :=
  ∃ n, Slots.Refers t n ∧ n ≤ maxWord ∧ slots.resolve? n = none

/-- An entry is not executed with an unresolved reference, and never with a reference as such. -/
structure ExecutesResolved (cp : ControlPlane) (s : SessionId) (slots : Slots) (method : String)
    (params : Value) : Prop where
  /-- Where a reference is unresolved this is the answer, nothing is performed, and everything
  stays as it is. -/
  refused : (∃ t ∈ params.texts, Unresolved slots t) →
    (∃ t ∈ params.texts, cp.executeEntry s slots method params =
      (.settled (.error (.unresolvedReference t)), cp)) ∧
      cp.entryPerforms s slots method params = []
  /-- What is performed is read from the parameters with another text for each of theirs, which is
  an id where theirs is a reference. -/
  replaced : ∀ p ∈ cp.entryPerforms s slots method params,
    p.plane = cp ∧ p.session = s ∧ ∃ filled, Operation.ofParts method filled = .ok p.op ∧
      filled.texts = params.texts.map slots.fill ∧
      ∀ t ∈ params.texts, ∀ n, Slots.Refers t n → n ≤ maxWord →
        ∃ id, slots.resolve? n = some id ∧ slots.fill t = id.text

theorem Unresolved.dangling {t : String} (h : Unresolved slots t) : slots.dangling t = true := by
  obtain ⟨n, hrefers, hn, hnone⟩ := h
  rw [hrefers.dangling_eq hn, hnone]
  rfl

/-- An entry with an unresolved reference has no operation. -/
theorem entryOperation_unresolved (hallowed : Operation.allowedInTransaction method = true)
    (h : ∃ t ∈ params.texts, Unresolved slots t) :
    ∃ t ∈ params.texts, entryOperation slots method params = .error (.unresolvedReference t) := by
  obtain ⟨t, ht, hunresolved⟩ := h
  rw [entryOperation_eq hallowed]
  cases hfind : params.texts.find? slots.dangling with
  | none => exact absurd hunresolved.dangling (List.find?_eq_none.mp hfind t ht)
  | some t => exact ⟨t, List.mem_of_find?_eq_some hfind, rfl⟩

theorem executesResolved (cp : ControlPlane) (s : SessionId) (slots : Slots)
    (hallowed : Operation.allowedInTransaction method = true) (params : Value) :
    cp.ExecutesResolved s slots method params where
  refused := by
    intro hunresolved
    obtain ⟨t, ht, herror⟩ := entryOperation_unresolved hallowed hunresolved
    unfold executeEntry entryPerforms
    rw [herror]
    exact ⟨⟨t, ht, rfl⟩, rfl⟩
  replaced := by
    intro p hp
    unfold entryPerforms at hp
    rw [entryOperation_eq hallowed] at hp
    cases hfind : params.texts.find? slots.dangling with
    | some t =>
      rw [hfind] at hp
      cases hp
    | none =>
      rw [hfind] at hp
      cases hop : Operation.ofParts method (params.mapTexts slots.fill) with
      | error e =>
        simp only [hop] at hp
        cases hp
      | ok op =>
        simp only [hop] at hp
        rw [List.mem_singleton.mp hp]
        refine ⟨rfl, rfl, _, hop, Value.texts_mapTexts _ params, fun t ht n hrefers hn => ?_⟩
        have hkept := List.find?_eq_none.mp hfind t ht
        exact hrefers.fill_eq hn (Bool.eq_false_iff.mpr hkept)

/-! ## Transactions -/

/-- Where a transaction of entries stands: it waits at one of them, or has a result for each. Those
that are done fail closed, and have left their slots and their results. -/
inductive TransactionStands (entries : List Value) : CallState → Prop where
  | waiting {caller : Caller} {wait : Wait} {batch : Batch} {done : List DoneEntry}
      {entry params : Value} (hentries : entries = done.map (·.entry) ++ entry :: batch.rest)
      (hsplit : Operation.splitEntry entry = .ok (batch.method, params))
      (hresolved : ∀ t ∈ params.texts, ¬ Strays done t)
      (hslots : batch.slots = DoneEntry.slots done)
      (hresults : batch.results = DoneEntry.results done)
      (hdone : FailClosed done) :
      TransactionStands entries (.waiting (.running caller wait (some batch)))
  | answered {response : Response} {time : Nat} {done : List DoneEntry}
      (hentries : entries = done.map (·.entry))
      (hresult : response.result = some (valueResult (.arr (DoneEntry.results done))))
      (hdone : FailClosed done) : TransactionStands entries (.answered response time)
  | cancelled : TransactionStands entries .cancelled

theorem entryOperation_strays (hallowed : Operation.allowedInTransaction method = true)
    (h : ∃ t ∈ params.texts, Strays done t) :
    ∃ t ∈ params.texts,
      entryOperation (DoneEntry.slots done) method params = .error (.unresolvedReference t) := by
  obtain ⟨t, ht, hstray⟩ := h
  exact entryOperation_unresolved hallowed ⟨t, ht, hstray.resolve?⟩

/-- What has an operation does not stray. -/
theorem resolved_of_entryOperation {op : Operation}
    (h : entryOperation (DoneEntry.slots done) method params = .ok op) :
    ∀ t ∈ params.texts, ¬ Strays done t := by
  intro t ht hstray
  by_cases hallowed : Operation.allowedInTransaction method = true
  · obtain ⟨t', -, herror⟩ := entryOperation_strays hallowed ⟨t, ht, hstray⟩
    rw [h] at herror
    cases herror
  · unfold entryOperation at h
    rw [if_neg hallowed] at h
    cases h

/-- Entry after entry, a transaction fails closed. -/
theorem stands_batch {caller : Caller} (hdone : FailClosed done)
    (hentries : entries = done.map (·.entry) ++ rest) (now : Nat) :
    TransactionStands entries
      ((cp.batch caller (DoneEntry.slots done) (DoneEntry.results done) rest).1.state now) := by
  induction rest generalizing cp done with
  | nil =>
    rw [List.append_nil] at hentries
    rw [batch_nil]
    exact .answered hentries rfl hdone
  | cons entry rest ih =>
    cases hsplit : Operation.splitEntry entry with
    | error e =>
      have hnext : cp.batch caller (DoneEntry.slots done) (DoneEntry.results done)
          (entry :: rest) =
            cp.batch caller (DoneEntry.slots done)
              (DoneEntry.results done ++ [entryResult (.error e)]) rest := by
        simp only [batch, runEntries, hsplit]
      rw [hnext, ← DoneEntry.results_concat, ← DoneEntry.slots_concat_error hsplit (.error e)]
      refine ih (hdone.concat fun method params hsplit' => ?_) (DoneEntry.entries_concat hentries _)
      rw [hsplit] at hsplit'
      cases hsplit'
    | ok r =>
      obtain ⟨method, params⟩ := r
      cases hop : entryOperation (DoneEntry.slots done) method params with
      | error e =>
        rw [batch_refused hsplit hop, ← DoneEntry.slots_concat hsplit, ← DoneEntry.results_concat]
        have hrest := DoneEntry.entries_concat hentries (.error e)
        refine ih (hdone.executed hsplit fun hallowed hstray => ?_) hrest
        obtain ⟨t, ht, herror⟩ := entryOperation_strays hallowed hstray
        rw [hop] at herror
        cases herror
        exact ⟨t, ht, rfl⟩
      | ok op =>
        have hresolved := resolved_of_entryOperation hop
        rcases he : cp.execute caller.session op with ⟨result | w, next⟩
        · rw [batch_settled hsplit hop he, ← DoneEntry.slots_concat hsplit,
            ← DoneEntry.results_concat]
          refine ih (hdone.executed hsplit fun _ hstray => ?_) (DoneEntry.entries_concat hentries _)
          obtain ⟨t, ht, hstray⟩ := hstray
          exact absurd hstray (hresolved t ht)
        · rw [batch_waiting hsplit hop he]
          exact .waiting hentries hsplit hresolved rfl rfl hdone

/-- The performance is that of one of the entries, which does not stray from the ones before it. -/
def PerformsResolved (entries : List Value) (p : Performance) : Prop :=
  ∃ (done : List DoneEntry) (entry : Value) (rest : List Value) (method : String) (params : Value),
    entries = done.map (·.entry) ++ entry :: rest ∧
      Operation.splitEntry entry = .ok (method, params) ∧
      (∀ t ∈ params.texts, ¬ Strays done t) ∧
      p ∈ p.plane.entryPerforms p.session (DoneEntry.slots done) method params

theorem entriesPerform_resolved {s : SessionId}
    (hentries : entries = done.map (·.entry) ++ rest) :
    ∀ p ∈ cp.entriesPerform s (DoneEntry.slots done) rest, PerformsResolved entries p := by
  induction rest generalizing cp done with
  | nil => exact fun p hp => by cases hp
  | cons entry rest ih =>
    unfold entriesPerform
    cases hsplit : Operation.splitEntry entry with
    | error e =>
      simp only
      rw [← DoneEntry.slots_concat_error hsplit (.error e)]
      exact ih (DoneEntry.entries_concat hentries _)
    | ok r =>
      obtain ⟨method, params⟩ := r
      simp only
      intro p hp
      rcases List.mem_append.mp hp with hp | hp
      · have hp' := hp
        unfold entryPerforms at hp
        split at hp
        · cases hp
        · next op hop =>
          rw [List.mem_singleton] at hp
          subst hp
          exact ⟨done, entry, rest, method, params, hentries, hsplit,
            resolved_of_entryOperation hop, hp'⟩
      · split at hp
        · cases hp
        · rw [← DoneEntry.slots_concat hsplit] at hp
          exact ih (DoneEntry.entries_concat hentries _) p hp

/-- What a transaction performs when it arrives. -/
theorem beginPerforms_resolved {r : Request} (hop : r.operation = .ok (.transaction entries))
    (cp : ControlPlane) : ∀ p ∈ cp.beginPerforms r, PerformsResolved entries p := by
  have hstart : ∀ mid : ControlPlane, ∀ p ∈ mid.startPerforms r, PerformsResolved entries p := by
    intro mid
    unfold startPerforms
    rcases mid.sessionFor r.session with ⟨session, mid⟩
    simp only [hop]
    have hnone : entries = List.map DoneEntry.entry [] ++ entries := rfl
    exact entriesPerform_resolved hnone
  unfold beginPerforms
  split
  · split
    · exact hstart _
    · exact fun p hp => by cases hp
  · exact hstart cp

/-- What it performs when it goes on. -/
theorem TransactionStands.resumePerforms {p : Pending}
    (h : TransactionStands entries (.waiting p)) (tick : Nat) (cp : ControlPlane) :
    ∀ q ∈ cp.resumePerforms tick p, PerformsResolved entries q := by
  cases h with
  | @waiting caller wait batch done entry params hentries hsplit hresolved hslots hresults hdone =>
    unfold ControlPlane.resumePerforms
    simp only
    split
    · exact fun q hq => by cases hq
    · rw [hslots, ← DoneEntry.slots_concat hsplit]
      exact entriesPerform_resolved (DoneEntry.entries_concat hentries _)

/-- A transaction that is executed stands somewhere among its entries. -/
theorem stands_start {r : Request} (hop : r.operation = .ok (.transaction entries))
    (cp : ControlPlane) (guard : Option Guard) (now : Nat) :
    TransactionStands entries ((cp.start r guard).1.state now) := by
  unfold start
  rcases cp.sessionFor r.session with ⟨session, mid⟩
  simp only [hop]
  exact stands_batch DoneEntry.failClosed_nil rfl now

/-- It goes on from the entry that it waits at. -/
theorem TransactionStands.resume? {p : Pending}
    (h : TransactionStands entries (.waiting p)) {tick : Nat} {progress : Progress}
    {plane : ControlPlane} (hr : cp.resume? tick p = some (progress, plane)) (now : Nat) :
    TransactionStands entries (progress.state now) := by
  cases h with
  | @waiting caller wait batch done entry params hentries hsplit hresolved hslots hresults hdone =>
    have hafter : (cp.afterWait caller wait (some batch)).1 = progress := by
      unfold ControlPlane.resume? at hr
      simp only at hr
      split at hr
      · cases hr
      · exact congrArg Prod.fst (Option.some.inj hr)
    rw [← hafter]
    unfold afterWait
    simp only
    generalize cp.finishWait caller.session wait = r
    rw [hslots, hresults, ← DoneEntry.slots_concat hsplit, ← DoneEntry.results_concat]
    refine stands_batch (hdone.executed hsplit fun _ hstray => ?_)
      (DoneEntry.entries_concat hentries _) now
    obtain ⟨t, ht, hstray⟩ := hstray
    exact absurd hstray (hresolved t ht)

end ControlPlane

/-! ## Runs -/

open ControlPlane (TransactionStands)

/-- The call repeats no other, and so it is executed. -/
def Call.Executed (c : Call) : Prop := ∀ a, c.found = some a → ∃ guard, a = .fresh guard

/-- Every transaction that is executed stands among its entries. -/
def Service.Tracked (v : Service) : Prop :=
  ∀ c ∈ v.calls, c.Executed → ∀ entries, c.request.operation = .ok (.transaction entries) →
    TransactionStands entries c.state

namespace Service

variable {v : Service}

theorem stands_begin {r : Request} {entries : List Value}
    (hop : r.operation = .ok (.transaction entries))
    (hfound : ∀ a, v.finds r = some a → ∃ guard, a = .fresh guard) (now : Nat) :
    TransactionStands entries ((v.plane.begin r).1.state now) := by
  cases hk : r.key? with
  | none =>
    rw [ControlPlane.begin_of_keyless hk]
    exact ControlPlane.stands_start hop _ none now
  | some k =>
    obtain ⟨guard, hguard⟩ := hfound (v.plane.cache.begin k v.plane.now).1 (by rw [finds, hk]; rfl)
    rcases hbegin : v.plane.cache.begin k v.plane.now with ⟨found, cache⟩
    rw [hbegin] at hguard
    rw [ControlPlane.begin_of_key hk, hbegin]
    cases hguard
    exact ControlPlane.stands_start hop _ (some guard) now

/-- One call moves on, and stands where it should. -/
theorem Tracked.moved (h : v.Tracked) {i : Nat} {c : Call} (hc : v.calls[i]? = some c)
    {state : CallState}
    (hstate : c.Executed → ∀ entries, c.request.operation = .ok (.transaction entries) →
      TransactionStands entries c.state → TransactionStands entries state) (plane : ControlPlane) :
    Tracked { plane, calls := v.setState i state } := by
  intro d hd hexecuted entries hop
  obtain ⟨j, hj⟩ := List.mem_iff_getElem?.mp hd
  rcases Ledger.getElem?_moved_cases hj with ⟨-, hj⟩ | ⟨-, e, he, rfl⟩
  · exact h d (List.mem_of_getElem? hj) hexecuted entries hop
  · cases he.symm.trans hc
    exact hstate hexecuted entries hop (h c (List.mem_of_getElem? hc) hexecuted entries hop)

theorem Tracked.step (h : v.Tracked) (i : Input) : (v.step i).Tracked := by
  cases i with
  | arrive r =>
    intro c hc hexecuted entries hop
    rcases List.mem_append.mp hc with hc | hc
    · exact h c hc hexecuted entries hop
    · rw [List.mem_singleton.mp hc] at hexecuted hop ⊢
      exact stands_begin hop hexecuted _
  | resume i tick =>
    show (v.resume i tick).Tracked
    unfold resume
    split
    · exact h
    · next progress plane heq =>
      obtain ⟨p, hp, hr⟩ := Option.bind_eq_some_iff.mp heq
      obtain ⟨c, hc, hs⟩ := pending?_eq_some.mp hp
      refine h.moved hc (fun _ entries _ hstands => ?_) plane
      rw [hs] at hstands
      exact hstands.resume? hr plane.now
  | cancel i =>
    show (v.cancel i).Tracked
    unfold cancel
    split
    · exact h
    · next p hp =>
      obtain ⟨c, hc, -⟩ := pending?_eq_some.mp hp
      exact h.moved hc (fun _ _ _ _ => .cancelled) _
  | command c => exact h

end Service

theorem Settings.tracked_run (c : Settings) (inputs : List Input) : (c.run inputs).Tracked :=
  c.run_inv (P := Service.Tracked) (fun _ hc => by cases hc) (fun _ i h => h.step i) inputs

/-- The input lets a transaction arrive, or go on. -/
inductive Service.Serves (v : Service) (entries : List Value) : Input → Prop where
  | arrive {r : Request} (hop : r.operation = .ok (.transaction entries)) :
      Serves v entries (.arrive r)
  | resume {i tick : Nat} {c : Call} (hc : v.calls[i]? = some c) (hexecuted : c.Executed)
      (hop : c.request.operation = .ok (.transaction entries)) : Serves v entries (.resume i tick)

theorem Service.Tracked.performed {v : Service} (h : v.Tracked) {entries : List Value} {i : Input}
    (hserves : v.Serves entries i) :
    ∀ p ∈ v.performed i, ControlPlane.PerformsResolved entries p := by
  cases hserves with
  | arrive hop => exact ControlPlane.beginPerforms_resolved hop v.plane
  | @resume i tick c hc hexecuted hop =>
    have hstands := h c (List.mem_of_getElem? hc) hexecuted entries hop
    show ∀ p ∈ ((v.pending? i).map (v.plane.resumePerforms tick)).getD [], _
    cases hp : v.pending? i with
    | none => exact fun p hp => by cases hp
    | some pending =>
      obtain ⟨d, hd, hs⟩ := pending?_eq_some.mp hp
      cases hd.symm.trans hc
      rw [hs] at hstands
      exact hstands.resumePerforms tick v.plane

/-- Nothing is executed with a reference that strays. -/
structure Service.RefusesStrays (v : Service) : Prop where
  /-- Every transaction has its results, or waits at one of its entries; and those of its entries
  that stray from the ones before them are answered as unresolved. -/
  stands : ∀ call ∈ v.calls, call.Executed → ∀ entries,
    call.request.operation = .ok (.transaction entries) → TransactionStands entries call.state
  /-- What a transaction performs next are entries that do not stray. -/
  performed : ∀ entries i, v.Serves entries i →
    ∀ p ∈ v.performed i, ControlPlane.PerformsResolved entries p

/-- In every run, an entry of a transaction with a reference to a create that is still to come, or
that failed, is answered as unresolved and not performed. In whatever state and with whatever slots,
an entry that is refused so changes nothing, and one that is performed has an id in the place of
every reference. The numbers of references are those of 64 bits. -/
theorem stray_references_refused (c : Settings) (inputs : List Input) :
    (c.run inputs).RefusesStrays ∧
      ∀ (cp : ControlPlane) s slots method params,
        Operation.allowedInTransaction method = true →
          cp.ExecutesResolved s slots method params :=
  ⟨⟨c.tracked_run inputs, fun _ _ hserves => (c.tracked_run inputs).performed hserves⟩,
    fun cp s slots _ params hallowed => cp.executesResolved s slots hallowed params⟩

/-! ## A small transaction -/

namespace Sample

/-- A pipeline and an endpoint that is not known, whose ids the third entry echoes. -/
def echoing : List Operation :=
  [.create "MediaPipeline" .null,
    .create "Nope" .null,
    .invoke ⟨"newref:0"⟩ "echo" (.object [("endpoint", .str "newref:1")])]

/-- A reference whose number does not fit 64 bits. -/
def longReference : String := "newref:18446744073709551616"

/-- A pipeline echoes a reference that no create can have. -/
def overlong : List Operation :=
  [.create "MediaPipeline" .null,
    .invoke ⟨"newref:0"⟩ "echo" (.object [("endpoint", .str longReference)])]

end Sample

/-- The create that the third entry refers to failed. -/
theorem stray_references_refused_echoing :
    let entries := Sample.echoing.map Operation.toValue
    let v := Sample.settings.run [.arrive (.inSession Sample.owner (.transaction entries))]
    let params : Value := .object [("endpoint", .str "newref:1")]
    (∃ call ∈ v.calls, call.Executed ∧
        call.request.operation = .ok (.transaction entries) ∧
        TransactionStands entries call.state) ∧
      Operation.allowedInTransaction "invoke" = true ∧
      (∃ t ∈ params.texts, v.plane.executeEntry Sample.owner [some Sample.pipeline, none] "invoke"
        params = (.settled (.error (.unresolvedReference t)), v.plane)) := by
  intro entries v params
  obtain ⟨hruns, hexecutes⟩ := stray_references_refused Sample.settings
    [.arrive (.inSession Sample.owner (.transaction entries))]
  have hallowed : Operation.allowedInTransaction "invoke" = true := by decide +kernel
  obtain ⟨call, hcalls, hrequest, hfound⟩ : ∃ call, v.calls = [call] ∧
      call.request = .inSession Sample.owner (.transaction entries) ∧ call.found = none :=
    ⟨_, congrArg Service.calls (Service.arrive_eq _ _), rfl, rfl⟩
  have hmem : call ∈ v.calls := hcalls ▸ List.mem_singleton_self call
  have hexecuted : call.Executed := by
    intro a ha
    rw [hfound] at ha
    cases ha
  have hop : call.request.operation = .ok (.transaction entries) := by
    rw [hrequest]
    rfl
  refine ⟨⟨call, hmem, hexecuted, hop, hruns.stands call hmem hexecuted entries hop⟩, hallowed, ?_⟩
  have hrefers : Slots.Refers "newref:1" 1 :=
    ⟨['1'], by decide, by decide, List.all_eq_true.mp (by decide), by decide⟩
  exact ((hexecutes v.plane _ _ _ params hallowed).refused
    ⟨_, List.mem_singleton_self _, 1, hrefers, by decide, rfl⟩).1

/-- What a call answered for one of its entries. -/
def Call.answer? (c : Call) (i : Nat) : Option Value :=
  match c.state with
  | .answered response _ =>
    match response.result.bind (·.get? "value") with
    | some (.arr items) => items[i]?
    | _ => none
  | _ => none

/-- A reference to a create that cannot be there is executed as any other text, and the element
gets to see it. -/
theorem long_reference_echoed :
    let v := Sample.settings.run
      [.arrive (.inSession Sample.owner (.transaction (Sample.overlong.map Operation.toValue)))]
    Slots.Refers Sample.longReference 18446744073709551616 ∧
      ((v.calls[0]?.bind (·.answer? 1)).bind (·.get? "result")).map Value.texts =
        some [Sample.longReference] := by
  have hdigits : "18446744073709551616".toList.all Char.isDigit = true := by decide +kernel
  refine ⟨⟨"18446744073709551616".toList, ?_, ?_, List.all_eq_true.mp hdigits, ?_⟩, ?_⟩ <;>
    decide +kernel

end MediaPlane
