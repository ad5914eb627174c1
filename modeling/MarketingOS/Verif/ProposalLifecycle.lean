import MarketingOS.Verif.ProposalRace

/-! # The one-way lifecycle and the single execution

What the refinement says about the calls themselves. At most one call ever enters the execution
phase, whatever the others do; the audit trail holds its rows or none. The status moves one way
as long as no rejection is written late, since `reject` looks first and writes afterwards. -/
namespace MarketingOS.ProposalRace

open ProposalService
open ClaimOnce (Cell)

variable {env : Environment} {proposal : ChangeProposal}

/-! ## Transfer -/

/-- A guard under which the calls refine the cell under another guard. -/
theorem refines {allowed : Machine.Guard World Label}
    (permitted : Machine.Guard (ClaimOnce.State Nat ProposalStatus)
      (ClaimOnce.Label Nat ProposalStatus))
    (carries : ∀ w label seen, allowed w label → (∀ c, seen = .withdraw c → label = .cancel c) →
      permitted (view proposal w) seen)
    {w : World} (reached : (machine env proposal).Reachable allowed w) :
    (ClaimOnce.machine Nat final).Reachable permitted (view proposal w) ∧
      ∃ p, w.stored proposal = some p := by
  let sim : Machine.Simulation (machine env proposal) (ClaimOnce.machine Nat final) allowed
      permitted :=
    { view := view proposal
      invariant := fun w => ∃ p, w.stored proposal = some p
      start := by
        intro w first
        refine ⟨⟨?_, ?_⟩, proposal, first.pending.1⟩
        · simp only [view, first.pending.1, cellIn, Option.elim_some, cellOf_free]
          exact first.pending.2
        · intro i
          simp only [view]
          cases found : w.calls[i]? with
          | none => rfl
          | some call =>
            obtain rfl := first.idle call (List.mem_of_getElem? found)
            rfl
      step := by
        rintro w label w' ⟨p, found⟩ meets taken
        obtain ⟨kept, same | ⟨seen, moved, origin⟩⟩ := step_refines found (step_of_next taken)
        · exact ⟨kept, .inl same⟩
        · exact ⟨kept, .inr ⟨seen, carries w label seen meets origin, moved⟩⟩ }
  exact sim.reachable reached

/-- The proposal is always there. -/
theorem stored_of_reachable {allowed : Machine.Guard World Label} {w : World}
    (reached : (machine env proposal).Reachable allowed w) : ∃ p, w.stored proposal = some p :=
  (refines Machine.anyStep (fun _ _ _ _ _ => trivial) reached).2

/-- What the cell says of every reachable world. -/
theorem cell_of_reachable {allowed : Machine.Guard World Label} {w : World}
    (reached : (machine env proposal).Reachable allowed w) :
    ClaimOnce.Exclusive (view proposal w) ∧ ClaimOnce.Settled final (view proposal w) := by
  have seen := (refines Machine.anyStep (fun _ _ _ _ _ => trivial) reached).1
  exact ⟨ClaimOnce.exclusive_of_reachable seen, ClaimOnce.settled_of_reachable seen⟩

/-- Two calls that have entered the execution phase are one call. -/
theorem claimed_unique {allowed : Machine.Guard World Label} {w : World}
    (reached : (machine env proposal).Reachable allowed w) {c d : Nat} {call other : Call}
    (first : w.calls[c]? = some call) (second : w.calls[d]? = some other)
    (claims : call.Claimed) (also : other.Claimed) : c = d := by
  apply (cell_of_reachable reached).1.unique c d
  · rwa [view_party first]
  · rwa [view_party second]

/-- While a call is in the execution phase, no call is done. -/
theorem undone_of_won {allowed : Machine.Guard World Label} {w : World}
    (reached : (machine env proposal).Reachable allowed w) {c : Nat} {call : Call}
    (inside : w.calls[c]? = some call) (won : call.party = .won) (d : Nat) (other : Call)
    (there : w.calls[d]? = some other) : other.party ≠ .done := by
  intro done
  have same := claimed_unique reached inside there
    (by simp [Call.Claimed, won, ClaimOnce.Party.Claimed])
    (by simp [Call.Claimed, done, ClaimOnce.Party.Claimed])
  subst same
  rw [inside] at there
  obtain rfl := Option.some.inj there
  simp [won] at done

/-! ## What the execution leaves in the audit trail -/

/-- A call looked up after one call moved is that call, or one that was there before. -/
theorem calls_set {w : World} {c d : Nat} {call other : Call}
    (found : (w.calls.set c call)[d]? = some other) :
    (d = c ∧ other = call) ∨ (d ≠ c ∧ w.calls[d]? = some other) := by
  by_cases same : d = c
  · subst same
    rw [List.getElem?_set_self'] at found
    cases was : w.calls[d]? with
    | none => simp [was] at found
    | some old =>
      rw [was] at found
      exact .inl ⟨rfl, (Option.some.inj found).symm⟩
  · rw [List.getElem?_set_ne (Ne.symm same)] at found
    exact .inr ⟨same, found⟩

/-- Other users' transactions add no audit row of the proposal. -/
theorem auditOf_applyAll {writes : List RowWrite}
    (foreign : ∀ row, .audit row ∈ writes → row.proposalId ≠ some proposal.id) (t : Tables) :
    auditOf proposal (RowWrite.applyAll t writes) = auditOf proposal t := by
  induction writes generalizing t with
  | nil => rfl
  | cons write writes ih =>
    rw [RowWrite.applyAll, List.foldl_cons]
    have later := ih (fun row inside => foreign row (List.mem_cons_of_mem _ inside))
      (RowWrite.apply t write)
    refine later.trans ?_
    cases write with
    | audit row =>
      have apart := foreign row List.mem_cons_self
      simp [auditOf, RowWrite.apply, apart]
    | _ => rfl

/-- A transaction that may commit adds no audit row of the proposal. -/
theorem foreign_of_editable {w : World} {writes : List RowWrite}
    (legal : editable proposal w writes = true) (row : AuditLog) (inside : .audit row ∈ writes) :
    row.proposalId ≠ some proposal.id := by
  simp only [editable, Bool.and_eq_true] at legal
  have apart := List.all_eq_true.mp legal.1.2 (.audit row) inside
  simpa using apart

/-- A call looked up after another transaction is one that has observed it. -/
theorem calls_observe {calls : List Call} {writes : List RowWrite} {d : Nat} {call : Call}
    (found : (calls.map (Call.observe writes))[d]? = some call) :
    ∃ was, calls[d]? = some was ∧ call = was.observe writes := by
  rw [List.getElem?_map, Option.map_eq_some_iff] at found
  obtain ⟨was, there, moved⟩ := found
  exact ⟨was, there, moved.symm⟩

/-- The audit row of an executed operation is one of the proposal's. -/
theorem auditOf_executed {t t' : Tables} {tick : Tick} {user : User} {op marked : ProposedOperation}
    (done : executeAndRecord env tick user proposal.clientId proposal.id t op = .ok (marked, t')) :
    auditOf proposal t' = auditOf proposal t ++
      [auditRow tick user proposal.clientId proposal.id marked] := by
  obtain ⟨-, -, audit, -, -⟩ := executeAndRecord_ok done
  simp [auditOf, audit, auditRow]

/-- What the calls leave in the audit trail, and which operations they have gone through. -/
structure Traced (proposal : ChangeProposal) (w : World) : Prop where
  /-- Until a call is done, the committed operations are the staged ones. -/
  operations : (∀ (c : Nat) call, w.calls[c]? = some call → call.party ≠ .done) →
    ∀ p, w.stored proposal = some p → p.operations = proposal.operations
  checking : ∀ (c : Nat) user now checked rest,
    w.calls[c]? = some (.checking user now checked rest) → checked ++ rest = proposal.operations
  applying : ∀ (c : Nat) user now session executed rest,
    w.calls[c]? = some (.applying user now session executed rest) →
      executed.map (fun turn => turn.2.seq) ++ rest.map ProposedOperation.seq =
        proposal.operations.map ProposedOperation.seq ∧
      auditOf proposal session = auditRows proposal user executed
  completed : ∀ (c : Nat) user executed, w.calls[c]? = some (.completed user executed) →
      executed.map (fun turn => turn.2.seq) = proposal.operations.map ProposedOperation.seq ∧
      auditOf proposal w.db.tables = auditRows proposal user executed
  untouched : (∀ (c : Nat) user executed, w.calls[c]? ≠ some (.completed user executed)) →
    auditOf proposal w.db.tables = []

/-- A call that moves, and does not complete, keeps the trace when it keeps the audit trail, the
operations, and what the trace says of the place it moves to. -/
theorem Traced.commit {w : World} (holds : Traced proposal w) {c : Nat} {was call : Call}
    (db : Database) (inside : w.calls[c]? = some was) (moving : was.party ≠ .done)
    (kept : call.party ≠ .done → ∀ p, storedIn proposal db = some p →
      ∃ old, w.stored proposal = some old ∧ p.operations = old.operations)
    (audit : auditOf proposal db.tables = auditOf proposal w.db.tables)
    (checks : ∀ user now checked rest, call = .checking user now checked rest →
      checked ++ rest = proposal.operations)
    (applies : ∀ user now session executed rest, call = .applying user now session executed rest →
      executed.map (fun turn => turn.2.seq) ++ rest.map ProposedOperation.seq =
        proposal.operations.map ProposedOperation.seq ∧
      auditOf proposal session = auditRows proposal user executed)
    (quiet : ∀ user executed, call ≠ .completed user executed) :
    Traced proposal (w.commit c call db) := by
  obtain ⟨bound, -⟩ := List.getElem?_eq_some_iff.mp inside
  constructor
  · intro undone p found
    have here : call.party ≠ .done := undone c call (by simp [World.commit, bound])
    obtain ⟨old, before, same⟩ := kept here p found
    rw [same]
    refine holds.operations (fun d other there => ?_) old before
    by_cases same : d = c
    · subst same
      rw [inside] at there
      exact Option.some.inj there ▸ moving
    · exact undone d other
        (by simpa [World.commit, List.getElem?_set_ne (Ne.symm same)] using there)
  · intro d user now checked rest found
    obtain ⟨-, moved⟩ | ⟨-, there⟩ := calls_set found
    · exact checks user now checked rest moved.symm
    · exact holds.checking d user now checked rest there
  · intro d user now session executed rest found
    obtain ⟨-, moved⟩ | ⟨-, there⟩ := calls_set found
    · exact applies user now session executed rest moved.symm
    · exact holds.applying d user now session executed rest there
  · intro d user executed found
    obtain ⟨-, moved⟩ | ⟨-, there⟩ := calls_set found
    · exact absurd moved.symm (quiet user executed)
    · exact ⟨(holds.completed d user executed there).1,
        audit.trans (holds.completed d user executed there).2⟩
  · intro never
    refine audit.trans (holds.untouched fun d user executed there => ?_)
    by_cases same : d = c
    · subst same
      rw [inside] at there
      exact moving (Option.some.inj there ▸ rfl)
    · exact never d user executed
        (by simpa [World.commit, List.getElem?_set_ne (Ne.symm same)] using there)

/-- A call that moves without a commit, and is not checking or executing afterwards, keeps the
trace. -/
theorem Traced.move {w : World} (holds : Traced proposal w) {c : Nat} {was call : Call}
    (inside : w.calls[c]? = some was) (moving : was.party ≠ .done)
    (checks : ∀ user now checked rest, call = .checking user now checked rest →
      checked ++ rest = proposal.operations)
    (applies : ∀ user now session executed rest, call = .applying user now session executed rest →
      executed.map (fun turn => turn.2.seq) ++ rest.map ProposedOperation.seq =
        proposal.operations.map ProposedOperation.seq ∧
      auditOf proposal session = auditRows proposal user executed)
    (quiet : ∀ user executed, call ≠ .completed user executed) :
    Traced proposal (w.move c call) :=
  holds.commit w.db inside moving (fun _ p found => ⟨p, found, rfl⟩) rfl checks applies
    quiet

/-- The call that commits its executed operations completes the trace. -/
theorem traced_complete {w : World} (holds : Traced proposal w) {c : Nat} {user : User}
    {now : Timestamp} {session : Tables} {executed : List (Tick × ProposedOperation)}
    {db : Database} (was : w.calls[c]? = some (.applying user now session executed []))
    (undone : ∀ (d : Nat) other, w.calls[d]? = some other → other.party ≠ .done)
    (committed : commit (finished proposal w.db user now session executed) = .ok db) :
    Traced proposal (w.commit c (.completed user executed) db) := by
  obtain ⟨seqs, audit⟩ := holds.applying c user now session executed [] was
  obtain ⟨bound, -⟩ := List.getElem?_eq_some_iff.mp was
  constructor
  · intro still
    exact absurd rfl (still c (.completed user executed) (by simp [World.commit, bound]))
  · intro d user now checked rest there
    obtain ⟨-, moved⟩ | ⟨-, there⟩ := calls_set there
    · cases moved
    · exact holds.checking d user now checked rest there
  · intro d user now session executed rest there
    obtain ⟨-, moved⟩ | ⟨-, there⟩ := calls_set there
    · cases moved
    · exact holds.applying d user now session executed rest there
  · intro d other done there
    obtain ⟨-, moved⟩ | ⟨-, there⟩ := calls_set there
    · cases moved
      refine ⟨by simpa using seqs, ?_⟩
      rw [show (w.commit c (.completed user executed) db).db = db from rfl, commit_ok committed]
      exact audit
    · exact absurd rfl (undone d _ there)
  · intro never
    exact absurd (by simp [World.commit, bound]) (never c user executed)

/-- Another user's transaction keeps the trace. -/
theorem traced_edited {w : World} (holds : Traced proposal w) {writes : List RowWrite}
    {db : Database} (legal : editable proposal w writes = true)
    (committed : commit (RowWrite.applyAll w.db.tables writes) = .ok db) :
    Traced proposal ⟨db, w.calls.map (Call.observe writes),
      w.edited ++ RowWrite.entities writes⟩ := by
  have foreign := foreign_of_editable legal
  have audit : auditOf proposal db.tables = auditOf proposal w.db.tables := by
    rw [commit_ok committed]
    exact auditOf_applyAll foreign w.db.tables
  constructor
  · intro undone p' after
    rw [stored_eq, storedIn_edit committed] at after
    refine holds.operations (fun d other there => ?_) p' after
    rw [← observe_party writes other]
    exact undone d _ (by simp [there])
  · intro d user now checked rest there
    obtain ⟨was, there, moved⟩ := calls_observe there
    cases was <;> simp only [Call.observe, reduceCtorEq] at moved
    exact holds.checking d user now checked rest (moved ▸ there)
  · intro d user now session executed rest there
    obtain ⟨was, there, moved⟩ := calls_observe there
    cases was <;> simp only [Call.observe, reduceCtorEq, Call.applying.injEq] at moved
    obtain ⟨rfl, rfl, rfl, rfl, rfl⟩ := moved
    obtain ⟨seqs, traced⟩ := holds.applying d user now _ executed rest there
    exact ⟨seqs, (auditOf_applyAll foreign _).trans traced⟩
  · intro d user executed there
    obtain ⟨was, there, moved⟩ := calls_observe there
    cases was <;> simp only [Call.observe, reduceCtorEq] at moved
    obtain ⟨seqs, traced⟩ := holds.completed d user executed (moved ▸ there)
    exact ⟨seqs, audit.trans traced⟩
  · intro never
    refine audit.trans (holds.untouched fun d user executed there => ?_)
    exact never d user executed (by simp [there, Call.observe])

/-- Every step from a reachable world keeps the trace. -/
theorem traced_step {allowed : Machine.Guard World Label} {w w' : World} {label : Label}
    (reached : (machine env proposal).Reachable allowed w) (holds : Traced proposal w)
    (taken : Step env proposal w label w') : Traced proposal w' := by
  obtain ⟨p, found⟩ := stored_of_reachable reached
  cases taken with
  | turnedAway c user exc was | admitted c user was | returned c read was found
  | crashed c user now session executed exc was | refusedRejection c user reason exc was
  | rejectable c user reason was passed =>
    exact holds.move was (by simp [Call.party]) (by simp) (by simp) (by simp)
  | claimed c user was updated =>
    refine holds.commit _ was (by simp [Call.party]) (fun _ p' after => ⟨p, found, ?_⟩) rfl
      (by simp) (by simp) (by simp)
    rw [storedIn_claim found] at after
    rw [← Option.some.inj after]
    split <;> rfl
  | lost c user was missed =>
    rw [claim_missed missed]
    exact holds.move was (by simp [Call.party]) (by simp) (by simp) (by simp)
  | validated c now user read was there =>
    have staged := holds.operations (undone_of_won reached was rfl) read there
    obtain same | ⟨reason, same⟩ | ⟨exc, same⟩ := validated_cases w.db.tables now user read
    · rw [same]
      refine holds.move was (by simp [Call.party]) ?_ (by simp) (by simp)
      rintro _ _ _ _ ⟨⟩
      exact staged
    · rw [same]
      exact holds.move was (by simp [Call.party]) (by simp) (by simp) (by simp)
    · rw [same]
      exact holds.move was (by simp [Call.party]) (by simp) (by simp) (by simp)
  | checked c user now checked rest was =>
    have all := holds.checking c user now checked rest was
    have fresh : auditOf proposal w.db.tables = [] :=
      holds.untouched fun d user executed there =>
        undone_of_won reached was rfl d _ there rfl
    obtain ⟨rfl, same⟩ | ⟨op, later, rfl, ⟨-, same⟩ | same⟩ :=
      checkNext_cases w.db.tables user now checked rest
    · rw [same]
      refine holds.move was (by simp [Call.party]) (by simp) ?_ (by simp)
      rintro _ _ _ _ _ ⟨⟩
      rw [List.append_nil] at all
      exact ⟨by simp [all], fresh⟩
    · rw [same]
      refine holds.move was (by simp [Call.party]) ?_ (by simp) (by simp)
      rintro _ _ _ _ ⟨⟩
      rw [List.append_assoc]
      exact all
    · rw [same]
      exact holds.move was (by simp [Call.party]) (by simp) (by simp) (by simp)
  | executed c tick user now session executed op rest was =>
    obtain ⟨seqs, audit⟩ := holds.applying c user now session executed (op :: rest) was
    obtain ⟨marked, after, done, same⟩ | ⟨seq, message, same⟩ | ⟨exc, same⟩ :=
      executeNext_cases env tick user now session executed op rest
    · rw [same]
      refine holds.move was (by simp [Call.party]) (by simp) ?_ (by simp)
      rintro _ _ _ _ _ ⟨⟩
      have place := (executeAndRecord_ok done).1
      refine ⟨by simpa [place] using seqs, ?_⟩
      rw [auditOf_executed done, audit]
      simp [auditRows]
    · rw [same]
      exact holds.move was (by simp [Call.party]) (by simp) (by simp) (by simp)
    · rw [same]
      exact holds.move was (by simp [Call.party]) (by simp) (by simp) (by simp)
  | completed c user now session executed db was committed =>
    exact traced_complete holds was (undone_of_won reached was rfl) committed
  | unfit c reason was =>
    exact holds.commit _ was (by simp [Call.party]) (fun undone => absurd rfl undone) rfl (by simp)
      (by simp) (by simp)
  | refused c seq message was =>
    exact holds.commit _ was (by simp [Call.party]) (fun undone => absurd rfl undone) rfl (by simp)
      (by simp) (by simp)
  | rejected c reason was =>
    refine holds.commit _ was (by simp [Call.party]) (fun _ p' after => ⟨p, found, ?_⟩) rfl
      (by simp) (by simp) (by simp)
    rw [storedIn_modify (ProposalService.cancel reason) (fun _ => rfl) found] at after
    rw [← Option.some.inj after]
    rfl
  | edited writes db legal committed => exact traced_edited holds legal committed

/-- The trace of every reachable world. -/
theorem traced_of_reachable {allowed : Machine.Guard World Label} {w : World}
    (reached : (machine env proposal).Reachable allowed w) : Traced proposal w := by
  apply reached.induction
  · intro w first
    have idle : ∀ (c : Nat) call, w.calls[c]? = some call → call = .idle :=
      fun c call there => first.idle call (List.mem_of_getElem? there)
    constructor
    · intro _ p found
      rw [first.pending.1] at found
      exact Option.some.inj found ▸ rfl
    · intro c user now checked rest there
      cases idle c _ there
    · intro c user now session executed rest there
      cases idle c _ there
    · intro c user executed there
      cases idle c _ there
    · intro _
      exact first.untraced
  · intro w label w' before holds _ taken
    exact traced_step before holds (step_of_next taken)

/-! ## At most one execution -/

/-- A status a losing `approve` may return. -/
def AtLeastExecuting (status : ProposalStatus) : Prop :=
  status = .executing ∨ status = .completed ∨ status = .failed

/-- A status whose cell is neither free nor withdrawn, and legal, is at least executing. -/
theorem atLeastExecuting_of_cell {status : ProposalStatus} (past : cellOf status ≠ .free)
    (standing : cellOf status ≠ .withdrawn)
    (legal : ∀ outcome, cellOf status = .finished outcome → final outcome = true) :
    AtLeastExecuting status := by
  cases status with
  | pendingApproval => exact absurd rfl past
  | cancelled => exact absurd rfl standing
  | executing => exact .inl rfl
  | completed => exact .inr (.inl rfl)
  | failed => exact .inr (.inr rfl)
  | draft => simpa [final] using legal .draft rfl
  | expired => simpa [final] using legal .expired rfl

/-- A party that withdrew is a rejection that has committed. -/
theorem rejected_of_party {w : World} {c : Nat} (withdrew : (view proposal w).party c = .withdrew) :
    w.calls[c]? = some .rejected := by
  simp only [view] at withdrew
  cases there : w.calls[c]? with
  | none => simp [there] at withdrew
  | some call =>
    rw [there, Option.elim_some] at withdrew
    cases call <;> simp_all [Call.party]

/-- Whatever the order of the steps, at most one call enters the execution phase. The audit
trail holds one row for each operation, in order, once a call has completed, and none before. A
call that loses the claim commits nothing, and what it reads back is past pending; it is
executing, completed or failed when nobody has rejected the proposal. -/
theorem executes_at_most_once (env : Environment) (proposal : ChangeProposal) (w : World)
    (reached : (machine env proposal).Reachable Machine.anyStep w) :
    (∀ (c d : Nat) call other, w.calls[c]? = some call → w.calls[d]? = some other →
      call.Claimed → other.Claimed → c = d) ∧
    ((auditOf proposal w.db.tables = [] ∧
        ∀ (c : Nat) user executed, w.calls[c]? ≠ some (.completed user executed)) ∨
      ∃ (c : Nat) (user : User) (executed : List (Tick × ProposedOperation)),
        w.calls[c]? = some (.completed user executed) ∧
        executed.map (fun turn => turn.2.seq) = proposal.operations.map ProposedOperation.seq ∧
        auditOf proposal w.db.tables = auditRows proposal user executed) ∧
    (∀ (c : Nat) w', next env proposal w (.claim c) = some w' → w'.calls[c]? = some .lost →
      w'.db = w.db) ∧
    ∀ (c : Nat) w', next env proposal w (.readBack c) = some w' →
      w'.db = w.db ∧ ∃ status, w'.calls[c]? = some (.returned status) ∧
        status ≠ .pendingApproval ∧
        ((∀ d : Nat, w.calls[d]? ≠ some .rejected) → AtLeastExecuting status) := by
  have traced := traced_of_reachable reached
  refine ⟨fun c d call other first second => claimed_unique reached first second, ?_, ?_, ?_⟩
  · by_cases never : ∀ (c : Nat) user executed, w.calls[c]? ≠ some (.completed user executed)
    · exact .inl ⟨traced.untouched never, never⟩
    · simp only [ne_eq, not_forall, Decidable.not_not] at never
      obtain ⟨c, user, executed, there⟩ := never
      exact .inr ⟨c, user, executed, there, traced.completed c user executed there⟩
  · intro c w' taken lost
    cases step_of_next taken with
    | claimed c user was updated =>
      obtain ⟨bound, -⟩ := List.getElem?_eq_some_iff.mp was
      simp [World.commit, bound] at lost
    | lost c user was missed => exact claim_missed missed
  · intro c w' taken
    cases step_of_next taken with
    | returned c read was found =>
      obtain ⟨bound, -⟩ := List.getElem?_eq_some_iff.mp was
      refine ⟨rfl, read.status, by simp [World.move, bound], ?_⟩
      obtain ⟨-, settled⟩ := cell_of_reachable reached
      have cell : (view proposal w).cell = cellOf read.status := by
        simp only [view, found, cellIn, Option.elim_some]
      have past := settled.beaten c (view_party was)
      rw [cell] at past
      refine ⟨fun pending => past (cellOf_free.mpr pending), fun unrejected => ?_⟩
      have standing : cellOf read.status ≠ .withdrawn := by
        intro withdrawn
        obtain ⟨d, withdrew⟩ := settled.withdrawn (cell.trans withdrawn)
        exact unrejected d (rejected_of_party withdrew)
      have legal := fun outcome => settled.legal outcome
      rw [cell] at legal
      exact atLeastExecuting_of_cell past standing legal

/-- Two idle calls on the sample proposal that renames the task. -/
def sampleRace : World := ⟨sampleDatabase [sampleProposal [sampleRename]], [.idle, .idle], []⟩

/-- The sample proposal was staged without a snapshot, so any edit may have come before. -/
theorem sampleRace_start : Start (sampleProposal [sampleRename]) sampleRace where
  pending := by decide
  untraced := rfl
  idle := by decide
  snapshots := by simp [sampleProposal, sampleRename, sampleTaskOperation, target]

/-- One approval from its claim to its commit, after both have read the proposal. -/
def sampleApproval (c : Nat) : List Label :=
  [.claim c, .validate c 20, .check c, .check c, .execute c (sampleTicks 0), .finish c]

set_option maxRecDepth 8000 in
/-- Two approvals that have both read the proposal: the second loses the claim and reads the
completed proposal back, and there is one audit row. -/
theorem two_approvals_execute_once :
    ∃ w, (machine sampleEnv (sampleProposal [sampleRename])).play Machine.anyStep sampleRace
        ([.readForApproval 0 sampleAdmin, .readForApproval 1 sampleAdmin] ++ sampleApproval 0 ++
          [.claim 1]) = some w ∧
      (auditOf (sampleProposal [sampleRename]) w.db.tables).length = 1 ∧
      ∀ w', next sampleEnv (sampleProposal [sampleRename]) w (.readBack 1) = some w' →
        w'.db = w.db := by
  have played : ((machine sampleEnv (sampleProposal [sampleRename])).play Machine.anyStep sampleRace
      ([.readForApproval 0 sampleAdmin, .readForApproval 1 sampleAdmin] ++ sampleApproval 0 ++
        [.claim 1])).map (fun w => (auditOf (sampleProposal [sampleRename]) w.db.tables).length) =
      some 1 := by decide
  obtain ⟨w, run, audit⟩ := Option.map_eq_some_iff.mp played
  have known := executes_at_most_once sampleEnv (sampleProposal [sampleRename]) w
    ⟨sampleRace, _, sampleRace_start, Machine.run_of_play run⟩
  exact ⟨w, run, audit, fun w' taken => (known.2.2.2 1 w' taken).1⟩

/-! ## One way -/

/-- The committed status. -/
def World.status (proposal : ChangeProposal) (w : World) : Option ProposalStatus :=
  (w.stored proposal).map ChangeProposal.status

/-- One move of the lifecycle. -/
inductive Advance : ProposalStatus → ProposalStatus → Prop where
  | claim : Advance .pendingApproval .executing
  | complete : Advance .executing .completed
  | fail : Advance .executing .failed
  | cancel : Advance .pendingApproval .cancelled

/-- A status the lifecycle never leaves. -/
def Decided (status : ProposalStatus) : Prop :=
  status = .completed ∨ status = .failed ∨ status = .cancelled

/-- No move leaves a decided status. -/
theorem Advance.undecided {before after : ProposalStatus} (moves : Advance before after) :
    ¬Decided before := by
  cases moves <;> simp [Decided]

/-- A rejection is written while the proposal is still pending, or already cancelled. -/
def RejectsInTime (proposal : ChangeProposal) : Machine.Guard World Label
  | w, .cancel _ =>
    w.status proposal = some .pendingApproval ∨ w.status proposal = some .cancelled
  | _, _ => True

instance (w : World) (label : Label) : Decidable (RejectsInTime proposal w label) := by
  cases label <;> dsimp only [RejectsInTime] <;> infer_instance

/-- A move of the cell is a move of the lifecycle. -/
theorem advance_of_cell {before after : ProposalStatus}
    (moves : Cell.Move final (cellOf before) (cellOf after)) :
    after = before ∨ Advance before after := by
  generalize first : cellOf before = cell at moves
  generalize second : cellOf after = cell' at moves
  cases moves with
  | stay => exact .inl (cellOf_injective (second.trans first.symm))
  | claim =>
    obtain rfl := cellOf_free.mp first
    obtain rfl := cellOf_taken.mp second
    exact .inr .claim
  | finish legal =>
    obtain rfl := cellOf_taken.mp first
    obtain rfl := cellOf_finished second
    simp only [final, decide_eq_true_eq] at legal
    obtain rfl | rfl := legal
    · exact .inr .complete
    · exact .inr .fail
  | withdraw =>
    obtain rfl := cellOf_free.mp first
    obtain rfl := cellOf_withdrawn.mp second
    exact .inr .cancel

/-- A rejection in time withdraws the cell in time. -/
theorem withdrawsInTime {w : World} {label : Label}
    {seen : ClaimOnce.Label Nat ProposalStatus} (meets : RejectsInTime proposal w label)
    (origin : ∀ c, seen = .withdraw c → label = .cancel c) :
    ClaimOnce.WithdrawsInTime (view proposal w) seen := by
  cases seen with
  | withdraw c =>
    obtain rfl := origin c rfl
    simp only [RejectsInTime, World.status, Option.map_eq_some_iff] at meets
    obtain ⟨p, found, status⟩ | ⟨p, found, status⟩ := meets
    · exact .inl (by simp [view, found, cellIn, status, cellOf])
    · exact .inr (by simp [view, found, cellIn, status, cellOf])
  | enter | claim | finish | look => trivial

/-- The cell of every world reached with rejections in time. -/
theorem ordered_of_reachable {w : World}
    (reached : (machine env proposal).Reachable (RejectsInTime proposal) w) :
    ClaimOnce.Exclusive (view proposal w) ∧ ClaimOnce.Ordered (view proposal w) :=
  ClaimOnce.ordered_of_reachable
    (refines _ (fun _ _ _ meets origin => withdrawsInTime meets origin) reached).1

/-- Every step with rejections in time moves the status one way. -/
theorem advances {w w' : World} {label : Label}
    (reached : (machine env proposal).Reachable (RejectsInTime proposal) w)
    (meets : RejectsInTime proposal w label) (taken : next env proposal w label = some w') :
    ∃ before after, w.status proposal = some before ∧ w'.status proposal = some after ∧
      (after = before ∨ Advance before after) := by
  obtain ⟨p, found⟩ := stored_of_reachable reached
  obtain ⟨⟨p', found'⟩, seen⟩ := step_refines found (step_of_next taken)
  refine ⟨p.status, p'.status, by simp [World.status, found], by simp [World.status, found'], ?_⟩
  apply advance_of_cell
  have cells : (view proposal w).cell = cellOf p.status ∧
      (view proposal w').cell = cellOf p'.status := by simp [view, found, found', cellIn]
  rw [← cells.1, ← cells.2]
  obtain same | ⟨label', moved, origin⟩ := seen
  · rw [same]
    exact .stay _
  · exact (ClaimOnce.ordered_step _ _ _ (ordered_of_reachable reached)
      (withdrawsInTime meets origin) moved).2

/-- A decided status is kept by every run with rejections in time. -/
theorem decided_stays {w last : World} {labels : List Label} {status : ProposalStatus}
    (reached : (machine env proposal).Reachable (RejectsInTime proposal) w)
    (decided : Decided status) (here : w.status proposal = some status)
    (run : (machine env proposal).Run (RejectsInTime proposal) w labels last) :
    last.status proposal = some status := by
  induction run with
  | nil w => exact here
  | cons meets taken rest ih =>
    apply ih (reached.step meets taken)
    obtain ⟨before, after, was, becomes, same | moves⟩ := advances reached meets taken
    · rw [becomes, same, ← was, here]
    · rw [here] at was
      exact absurd (Option.some.inj was ▸ decided) moves.undecided

/-- When rejections are written in time, the status only moves along the lifecycle, a decided
status is never left, and after a rejection that succeeded no call is or was in the execution
phase. -/
theorem lifecycle_one_way (env : Environment) (proposal : ChangeProposal) (w : World)
    (reached : (machine env proposal).Reachable (RejectsInTime proposal) w) :
    (∀ label w', RejectsInTime proposal w label → next env proposal w label = some w' →
      ∃ before after, w.status proposal = some before ∧ w'.status proposal = some after ∧
        (after = before ∨ Advance before after)) ∧
    (∀ status, Decided status → w.status proposal = some status → ∀ labels last,
      (machine env proposal).Run (RejectsInTime proposal) w labels last →
      last.status proposal = some status) ∧
    ∀ c : Nat, w.calls[c]? = some .rejected →
      (∀ (d : Nat) call, w.calls[d]? = some call → ¬call.Claimed) ∧
        auditOf proposal w.db.tables = [] := by
  refine ⟨fun label w' meets taken => advances reached meets taken,
    fun status decided here labels last run => decided_stays reached decided here run, ?_⟩
  intro c rejected
  have unclaimed : ∀ (d : Nat) call, w.calls[d]? = some call → ¬call.Claimed := by
    intro d call there claims
    apply ClaimOnce.unclaimed_of_withdrew
      (refines _ (fun _ _ _ meets origin => withdrawsInTime meets origin) reached).1
      (view_party rejected) d
    rwa [view_party there]
  refine ⟨unclaimed, (traced_of_reachable reached).untouched fun d user executed there => ?_⟩
  exact unclaimed d _ there trivial

set_option maxRecDepth 8000 in
/-- A rejection in time: the proposal is cancelled and stays so, and nothing is in the audit
trail. -/
theorem rejection_in_time_excludes_approval :
    ∃ w, (machine sampleEnv (sampleProposal [sampleRename])).play
        (RejectsInTime (sampleProposal [sampleRename])) sampleRace
        [.readForApproval 0 sampleAdmin, .readForRejection 1 sampleAdmin none, .cancel 1,
          .claim 0] = some w ∧
      w.status (sampleProposal [sampleRename]) = some .cancelled ∧
      auditOf (sampleProposal [sampleRename]) w.db.tables = [] := by
  have played : ((machine sampleEnv (sampleProposal [sampleRename])).play
      (RejectsInTime (sampleProposal [sampleRename])) sampleRace
      [.readForApproval 0 sampleAdmin, .readForRejection 1 sampleAdmin none, .cancel 1,
        .claim 0]).map (fun w => (w.status (sampleProposal [sampleRename]), w.calls[1]?)) =
      some (some .cancelled, some .rejected) := by decide
  obtain ⟨w, run, shown⟩ := Option.map_eq_some_iff.mp played
  obtain ⟨status, rejected⟩ := Prod.mk.inj shown
  have known := lifecycle_one_way sampleEnv (sampleProposal [sampleRename]) w
    ⟨sampleRace, _, sampleRace_start, Machine.run_of_play run⟩
  exact ⟨w, run, status, (known.2.2 1 rejected).2⟩

set_option maxRecDepth 8000 in
/-- A rejection that read the proposal before an approval claimed it, and writes after the
approval completed: the completed status is left for cancelled, and the rejection succeeds
although the operations are executed. -/
theorem late_rejection_overwrites_completion :
    Start (sampleProposal [sampleRename]) sampleRace ∧
      ∃ completed cancelled,
        (machine sampleEnv (sampleProposal [sampleRename])).play Machine.anyStep sampleRace
          ([.readForRejection 0 sampleAdmin none, .readForApproval 1 sampleAdmin] ++
            sampleApproval 1) = some completed ∧
        completed.status (sampleProposal [sampleRename]) = some .completed ∧
        next sampleEnv (sampleProposal [sampleRename]) completed (.cancel 0) = some cancelled ∧
        cancelled.status (sampleProposal [sampleRename]) = some .cancelled ∧
        cancelled.calls[0]? = some .rejected ∧
        cancelled.db.tables.planTasks.map PlanTask.title = [some "Final"] := by
  let proposal := sampleProposal [sampleRename]
  let approved := (machine sampleEnv proposal).play Machine.anyStep sampleRace
    ([.readForRejection 0 sampleAdmin none, .readForApproval 1 sampleAdmin] ++ sampleApproval 1)
  have first : approved.map (World.status proposal) = some (some .completed) := by decide
  have second : (approved.bind fun w => next sampleEnv proposal w (.cancel 0)).map
      (fun w => (w.status proposal, decide (w.calls[0]? = some .rejected),
        w.db.tables.planTasks.map PlanTask.title)) =
      some (some .cancelled, true, [some "Final"]) := by decide
  obtain ⟨completed, run, status⟩ := Option.map_eq_some_iff.mp first
  rw [run, Option.bind_some] at second
  obtain ⟨cancelled, taken, after⟩ := Option.map_eq_some_iff.mp second
  obtain ⟨last, after⟩ := Prod.mk.inj after
  obtain ⟨rejected, titles⟩ := Prod.mk.inj after
  exact ⟨sampleRace_start, completed, cancelled, run, status, taken, last,
    of_decide_eq_true rejected, titles⟩

end MarketingOS.ProposalRace
