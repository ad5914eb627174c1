import MarketingOS.Base.ClaimOnce
import MarketingOS.Services.Proposal.Race
import MarketingOS.Verif.Approval

/-! # Concurrent calls refine a cell claimed once

Every step of the concurrent calls is listed once, with what it commits. Seen through its
committed status alone, the proposal is then a cell that is claimed once: `approve` claims and
finishes it, `reject` looks first and withdraws it afterwards. -/
namespace MarketingOS.ProposalRace

open ProposalService

variable {env : Environment} {proposal : ChangeProposal}

/-- What one step does: one case for each way a transaction can end. -/
inductive Step (env : Environment) (proposal : ChangeProposal) (w : World) :
    Label → World → Prop where
  | turnedAway (c : Nat) (user : User) (exc : Exc) (was : w.calls[c]? = some .idle) :
      Step env proposal w (.readForApproval c user) (w.move c (.turnedAway exc))
  | admitted (c : Nat) (user : User) (was : w.calls[c]? = some .idle) :
      Step env proposal w (.readForApproval c user) (w.move c (.admitted user))
  | claimed (c : Nat) (user : User) (was : w.calls[c]? = some (.admitted user))
      (updated : (claimForExecution proposal.id w.db).1 ≠ 0) :
      Step env proposal w (.claim c)
        (w.commit c (.claimed user) (claimForExecution proposal.id w.db).2)
  | lost (c : Nat) (user : User) (was : w.calls[c]? = some (.admitted user))
      (missed : (claimForExecution proposal.id w.db).1 = 0) :
      Step env proposal w (.claim c) (w.commit c .lost (claimForExecution proposal.id w.db).2)
  | returned (c : Nat) (read : ChangeProposal) (was : w.calls[c]? = some .lost)
      (found : w.stored proposal = some read) :
      Step env proposal w (.readBack c) (w.move c (.returned read.status))
  | validated (c : Nat) (now : Timestamp) (user : User) (read : ChangeProposal)
      (was : w.calls[c]? = some (.claimed user)) (found : w.stored proposal = some read) :
      Step env proposal w (.validate c now) (w.move c (validated w.db.tables now user read))
  | checked (c : Nat) (user : User) (now : Timestamp) (checked rest : List ProposedOperation)
      (was : w.calls[c]? = some (.checking user now checked rest)) :
      Step env proposal w (.check c)
        (w.move c (checkNext proposal w.db.tables user now checked rest))
  | executed (c : Nat) (tick : Tick) (user : User) (now : Timestamp) (session : Tables)
      (executed : List (Tick × ProposedOperation)) (op : ProposedOperation)
      (rest : List ProposedOperation)
      (was : w.calls[c]? = some (.applying user now session executed (op :: rest))) :
      Step env proposal w (.execute c tick)
        (w.move c (executeNext env proposal tick user now session executed op rest))
  | crashed (c : Nat) (user : User) (now : Timestamp) (session : Tables)
      (executed : List (Tick × ProposedOperation)) (exc : Exc)
      (was : w.calls[c]? = some (.applying user now session executed [])) :
      Step env proposal w (.finish c) (w.move c (.crashed exc))
  | completed (c : Nat) (user : User) (now : Timestamp) (session : Tables)
      (executed : List (Tick × ProposedOperation)) (db : Database)
      (was : w.calls[c]? = some (.applying user now session executed []))
      (committed : commit (finished proposal w.db user now session executed) = .ok db) :
      Step env proposal w (.finish c) (w.commit c (.completed user executed) db)
  | unfit (c : Nat) (reason : String) (was : w.calls[c]? = some (.unfit reason)) :
      Step env proposal w (.record c)
        (w.commit c .failed (w.db.modifyProposal proposal.id (failPreflight reason)))
  | refused (c : Nat) (seq : Nat) (message : String)
      (was : w.calls[c]? = some (.refused seq message)) :
      Step env proposal w (.record c)
        (w.commit c .failed (w.db.modifyProposal proposal.id (recordFailure seq message)))
  | refusedRejection (c : Nat) (user : User) (reason : Option String) (exc : Exc)
      (was : w.calls[c]? = some .idle) :
      Step env proposal w (.readForRejection c user reason) (w.move c (.turnedAway exc))
  | rejectable (c : Nat) (user : User) (reason : Option String) (was : w.calls[c]? = some .idle)
      (pending : checkRejectable w.db.tables user proposal.clientId proposal.id = .ok ()) :
      Step env proposal w (.readForRejection c user reason) (w.move c (.rejectable reason))
  | rejected (c : Nat) (reason : Option String) (was : w.calls[c]? = some (.rejectable reason)) :
      Step env proposal w (.cancel c)
        (w.commit c .rejected (w.db.modifyProposal proposal.id (ProposalService.cancel reason)))
  | edited (writes : List RowWrite) (db : Database) (legal : editable proposal w writes = true)
      (committed : commit (RowWrite.applyAll w.db.tables writes) = .ok db) :
      Step env proposal w (.edit writes)
        ⟨db, w.calls.map (Call.observe writes), w.edited ++ RowWrite.entities writes⟩

/-- The inversion of the step function. -/
theorem step_of_next {w w' : World} {label : Label} (taken : next env proposal w label = some w') :
    Step env proposal w label w' := by
  cases label with
  | readForApproval c user =>
    simp only [next] at taken
    split at taken
    · next was =>
      obtain rfl := Option.some.inj taken
      unfold enter
      split
      · exact .turnedAway c user _ was
      · exact .admitted c user was
    · cases taken
  | claim c =>
    simp only [next] at taken
    split at taken
    · next user was =>
      obtain rfl := Option.some.inj taken
      split
      · next missed => exact .lost c user was missed
      · next updated => exact .claimed c user was updated
    · cases taken
  | readBack c =>
    simp only [next] at taken
    split at taken
    · next read was found =>
      obtain rfl := Option.some.inj taken
      exact .returned c read was found
    · cases taken
  | validate c now =>
    simp only [next] at taken
    split at taken
    · next user read was found =>
      obtain rfl := Option.some.inj taken
      exact .validated c now user read was found
    · cases taken
  | check c =>
    simp only [next] at taken
    split at taken
    · next user now checked rest was =>
      obtain rfl := Option.some.inj taken
      exact .checked c user now checked rest was
    · cases taken
  | execute c tick =>
    simp only [next] at taken
    split at taken
    · next user now session executed op rest was =>
      obtain rfl := Option.some.inj taken
      exact .executed c tick user now session executed op rest was
    · cases taken
  | finish c =>
    simp only [next] at taken
    split at taken
    · next user now session executed was =>
      split at taken
      · next exc _ =>
        obtain rfl := Option.some.inj taken
        exact .crashed c user now session executed exc was
      · next db committed =>
        obtain rfl := Option.some.inj taken
        exact .completed c user now session executed db was committed
    · cases taken
  | record c =>
    simp only [next] at taken
    split at taken
    · next reason was =>
      obtain rfl := Option.some.inj taken
      exact .unfit c reason was
    · next seq message was =>
      obtain rfl := Option.some.inj taken
      exact .refused c seq message was
    · cases taken
  | readForRejection c user reason =>
    simp only [next] at taken
    split at taken
    · next was =>
      split at taken
      · next exc _ =>
        obtain rfl := Option.some.inj taken
        exact .refusedRejection c user reason exc was
      · next pending =>
        obtain rfl := Option.some.inj taken
        exact .rejectable c user reason was pending
    · cases taken
  | cancel c =>
    simp only [next] at taken
    split at taken
    · next reason was =>
      obtain rfl := Option.some.inj taken
      exact .rejected c reason was
    · cases taken
  | edit writes =>
    simp only [next] at taken
    split at taken
    · next legal =>
      split at taken
      · cases taken
      · next db committed =>
        obtain rfl := Option.some.inj taken
        exact .edited writes db legal committed
    · cases taken

/-! ## What each write does to the stored proposal -/

/-- The proposal as it is committed in a database. -/
def storedIn (proposal : ChangeProposal) (db : Database) : Option ChangeProposal :=
  db.tables.getProposal proposal.clientId proposal.id

/-- The world's stored proposal is the one of its database. -/
theorem stored_eq (w : World) : w.stored proposal = storedIn proposal w.db := rfl

/-- A write to the proposal that keeps its keys is read back. -/
theorem storedIn_modify {db : Database} (change : ChangeProposal → ChangeProposal)
    {p : ChangeProposal} (keeps : ∀ p, (change p).scoped = p.scoped)
    (found : storedIn proposal db = some p) :
    storedIn proposal (db.modifyProposal proposal.id change
      fun p => congrArg Prod.fst (keeps p)) = some (change p) :=
  Database.getProposal_modify change keeps found

/-- A claim moves a pending proposal to executing and no other proposal anywhere. -/
theorem storedIn_claim {db : Database} {p : ChangeProposal}
    (found : storedIn proposal db = some p) :
    storedIn proposal (claimForExecution proposal.id db).2 =
      some (if p.status = .pendingApproval then p.claimed else p) :=
  getProposal_claim found

/-- A claim that updates a row finds the proposal pending. -/
theorem pending_of_claim {db : Database} {p : ChangeProposal}
    (found : storedIn proposal db = some p)
    (updated : (claimForExecution proposal.id db).1 ≠ 0) : p.status = .pendingApproval := by
  obtain ⟨row, selected⟩ := List.exists_mem_of_length_pos (Nat.pos_of_ne_zero updated)
  simp only [List.mem_filter, Bool.and_eq_true, decide_eq_true_eq] at selected
  obtain ⟨inside, same, pending⟩ := selected
  have distinct := db.consistent.2.2.2.2.2.2.2.2
  have keys : row.id = p.id := same.trans (Tables.getProposal_id found).symm
  have first := Table.get_of_mem distinct inside
  rw [keys, Table.get_of_mem distinct (Table.get_mem found)] at first
  rw [Option.some.inj first, pending]

/-- A claim that updates no row changes nothing. -/
theorem claim_missed {db : Database} (missed : (claimForExecution proposal.id db).1 = 0) :
    (claimForExecution proposal.id db).2 = db := by
  have none_pending : ∀ row ∈ db.tables.proposals, row.id = proposal.id →
      row.status ≠ .pendingApproval := by
    simpa [claimForExecution, List.filter_eq_nil_iff] using missed
  apply Database.eq_of_tables
  have same : Table.modify ChangeProposal.id proposal.id (fun p =>
      if p.status = .pendingApproval then { p with status := .executing } else p)
      db.tables.proposals = db.tables.proposals := by
    conv => rhs; rw [← List.map_id db.tables.proposals]
    apply List.map_congr_left
    intro row inside
    by_cases hit : row.id = proposal.id
    · simp [hit, none_pending row inside hit]
    · simp [hit]
  simp only [claimForExecution, Database.modifyProposal, Tables.modifyProposal, same]

/-- The commit of the executed operations completes the stored proposal. -/
theorem storedIn_finished {db db' : Database} {p : ChangeProposal} {user : User}
    {now : Timestamp} {session : Tables} {executed : List (Tick × ProposedOperation)}
    (found : storedIn proposal db = some p)
    (committed : commit (finished proposal db user now session executed) = .ok db') :
    storedIn proposal db' = some (complete user now (executed.map Prod.snd) p) := by
  rw [storedIn, commit_ok committed]
  have there : ({ session with proposals := db.tables.proposals } : Tables).getProposal
      proposal.clientId proposal.id = some p := found
  exact Tables.getProposal_modify _ (fun _ => rfl) there

/-- Other users' row writes leave the proposals alone. -/
theorem applyAll_proposals (t : Tables) (writes : List RowWrite) :
    (RowWrite.applyAll t writes).proposals = t.proposals := by
  induction writes generalizing t with
  | nil => rfl
  | cons write writes ih =>
    rw [RowWrite.applyAll, List.foldl_cons]
    exact (ih (RowWrite.apply t write)).trans (by cases write <;> rfl)

/-- Another transaction leaves the stored proposal alone. -/
theorem storedIn_edit {db db' : Database} {writes : List RowWrite}
    (committed : commit (RowWrite.applyAll db.tables writes) = .ok db') :
    storedIn proposal db' = storedIn proposal db := by
  have same : db'.tables.proposals = db.tables.proposals := by
    rw [commit_ok committed]
    exact applyAll_proposals db.tables writes
  simp only [storedIn, Tables.getProposal, same]

/-! ## The refinement -/

open ClaimOnce (Cell Party)

/-- The cell a status stands for. -/
def cellOf : ProposalStatus → Cell ProposalStatus
  | .pendingApproval => .free
  | .executing => .taken
  | .cancelled => .withdrawn
  | status => .finished status

/-- The cell is free while the proposal is pending. -/
theorem cellOf_free {status : ProposalStatus} :
    cellOf status = .free ↔ status = .pendingApproval := by
  cases status <;> simp [cellOf]

/-- The cell is taken while the proposal is executed. -/
theorem cellOf_taken {status : ProposalStatus} : cellOf status = .taken ↔ status = .executing := by
  cases status <;> simp [cellOf]

/-- The cell is withdrawn when the proposal is cancelled. -/
theorem cellOf_withdrawn {status : ProposalStatus} :
    cellOf status = .withdrawn ↔ status = .cancelled := by
  cases status <;> simp [cellOf]

/-- A finished cell shows the status itself. -/
theorem cellOf_finished {status outcome : ProposalStatus}
    (cell : cellOf status = .finished outcome) : status = outcome := by
  cases status <;> simp only [cellOf, reduceCtorEq, Cell.finished.injEq] at cell <;> exact cell

/-- Different statuses are different cells. -/
theorem cellOf_injective {status other : ProposalStatus} (same : cellOf status = cellOf other) :
    status = other := by
  cases cell : cellOf other with
  | free => rw [cellOf_free.mp cell, cellOf_free.mp (same.trans cell)]
  | taken => rw [cellOf_taken.mp cell, cellOf_taken.mp (same.trans cell)]
  | withdrawn => rw [cellOf_withdrawn.mp cell, cellOf_withdrawn.mp (same.trans cell)]
  | finished outcome => rw [cellOf_finished cell, cellOf_finished (same.trans cell)]

/-- The outcomes a claimed proposal may be finished with. -/
def final (status : ProposalStatus) : Bool := status = .completed ∨ status = .failed

/-- What a call is to the cell. -/
def Call.party : Call → Party
  | .idle | .turnedAway _ => .outside
  | .admitted _ => .waiting
  | .lost | .returned _ => .beaten
  | .claimed _ | .checking .. | .applying .. | .unfit _ | .refused .. | .crashed _ => .won
  | .completed .. | .failed => .done
  | .rejectable _ => .looked
  | .rejected => .withdrew

/-- A call that has entered `_validate_and_execute`. -/
def Call.Claimed (call : Call) : Prop := call.party.Claimed

/-- The cell of a stored proposal. -/
def cellIn (stored : Option ChangeProposal) : Cell ProposalStatus :=
  stored.elim .withdrawn fun p => cellOf p.status

/-- The world seen as a cell and its parties. -/
def view (proposal : ChangeProposal) (w : World) : ClaimOnce.State Nat ProposalStatus where
  cell := cellIn (w.stored proposal)
  party i := w.calls[i]?.elim .outside Call.party

/-- The party of a call of the world. -/
theorem view_party {w : World} {c : Nat} {call : Call} (was : w.calls[c]? = some call) :
    (view proposal w).party c = call.party := by
  simp only [view, was, Option.elim_some]

/-- A call that moves moves its party. -/
theorem view_commit {w : World} {c : Nat} {was call : Call} (db : Database)
    (inside : w.calls[c]? = some was) :
    view proposal (w.commit c call db) =
      { (view proposal w).move c call.party with cell := cellIn (storedIn proposal db) } := by
  obtain ⟨bound, -⟩ := List.getElem?_eq_some_iff.mp inside
  ext i
  · rfl
  · by_cases same : i = c
    · subst same
      simp [view, World.commit, ClaimOnce.State.move, bound]
    · simp [view, World.commit, ClaimOnce.State.move, same, List.getElem?_set_ne (Ne.symm same)]

/-- A call that moves without a commit moves its party only. -/
theorem view_move {w : World} {c : Nat} {was call : Call} (inside : w.calls[c]? = some was) :
    view proposal (w.move c call) = (view proposal w).move c call.party :=
  view_commit w.db inside

/-- A call that moves within one party is not seen. -/
theorem view_silent {w : World} {c : Nat} {was call : Call} (inside : w.calls[c]? = some was)
    (same : call.party = was.party) : view proposal (w.move c call) = view proposal w := by
  rw [view_move inside, ClaimOnce.State.move_self]
  rw [view_party inside, same]

/-- The validation lets a call go on to check every operation, or finds it unfit, or raises. -/
theorem validated_cases (t : Tables) (now : Timestamp) (user : User) (read : ChangeProposal) :
    validated t now user read = .checking user now [] read.operations ∨
      (∃ reason, validated t now user read = .unfit reason) ∨
      ∃ exc, validated t now user read = .crashed exc := by
  unfold validated
  split
  · exact .inr (.inr ⟨_, rfl⟩)
  · exact .inr (.inl ⟨_, rfl⟩)
  · exact .inl rfl

/-- A turn of the staleness loop ends the loop, checks its operation off, or finds the call
unfit. -/
theorem checkNext_cases (t : Tables) (user : User) (now : Timestamp)
    (checked rest : List ProposedOperation) :
    (rest = [] ∧ checkNext proposal t user now checked rest = .applying user now t [] checked) ∨
      ∃ op later, rest = op :: later ∧
        ((matchesLiveSnapshot t proposal.clientId op = true ∧
            checkNext proposal t user now checked rest =
              .checking user now (checked ++ [op]) later) ∨
          checkNext proposal t user now checked rest = .unfit staleReason) := by
  cases rest with
  | nil => exact .inl ⟨rfl, rfl⟩
  | cons op later =>
    refine .inr ⟨op, later, rfl, ?_⟩
    simp only [checkNext]
    split
    · next matched => exact .inl ⟨matched, rfl⟩
    · exact .inr rfl

/-- A turn of the execution loop executes its operation, or has it refused, or raises. -/
theorem executeNext_cases (env : Environment) (tick : Tick) (user : User) (now : Timestamp)
    (session : Tables) (executed : List (Tick × ProposedOperation)) (op : ProposedOperation)
    (rest : List ProposedOperation) :
    (∃ marked after, executeAndRecord env tick user proposal.clientId proposal.id session op =
        .ok (marked, after) ∧
        executeNext env proposal tick user now session executed op rest =
          .applying user now after (executed ++ [(tick, marked)]) rest) ∨
      (∃ seq message, executeNext env proposal tick user now session executed op rest =
        .refused seq message) ∨
      ∃ exc, executeNext env proposal tick user now session executed op rest = .crashed exc := by
  unfold executeNext
  split
  · exact .inr (.inl ⟨_, _, rfl⟩)
  · exact .inr (.inr ⟨_, rfl⟩)
  · next marked after done => exact .inl ⟨marked, after, done, rfl⟩

/-- The validation keeps the call among the winners. -/
theorem validated_party {t : Tables} {now : Timestamp} {user : User} {read : ChangeProposal} :
    (validated t now user read).party = .won := by
  rcases validated_cases t now user read with same | ⟨reason, same⟩ | ⟨exc, same⟩ <;>
    rw [same] <;> rfl

/-- The staleness loop keeps the call among the winners. -/
theorem checkNext_party {t : Tables} {user : User} {now : Timestamp}
    {checked rest : List ProposedOperation} :
    (checkNext proposal t user now checked rest).party = .won := by
  rcases checkNext_cases t user now checked rest with
    ⟨-, same⟩ | ⟨op, later, -, ⟨-, same⟩ | same⟩ <;> rw [same] <;> rfl

/-- The execution loop keeps the call among the winners. -/
theorem executeNext_party {tick : Tick} {user : User} {now : Timestamp} {session : Tables}
    {executed : List (Tick × ProposedOperation)} {op : ProposedOperation}
    {rest : List ProposedOperation} :
    (executeNext env proposal tick user now session executed op rest).party = .won := by
  rcases executeNext_cases env tick user now session executed op rest with
    ⟨marked, after, -, same⟩ | ⟨seq, message, same⟩ | ⟨exc, same⟩ <;> rw [same] <;> rfl

/-- Reading the tables of others changes no party. -/
theorem observe_party (writes : List RowWrite) (call : Call) :
    (call.observe writes).party = call.party := by
  cases call <;> rfl

/-- Another transaction is not seen. -/
theorem view_edit {w : World} {writes : List RowWrite} {db : Database} {edited : List Entity}
    (committed : commit (RowWrite.applyAll w.db.tables writes) = .ok db) :
    view proposal ⟨db, w.calls.map (Call.observe writes), edited⟩ = view proposal w := by
  ext i
  · exact congrArg cellIn (storedIn_edit committed)
  · simp only [view, List.getElem?_map]
    cases w.calls[i]? with
    | none => rfl
    | some call => exact observe_party writes call

/-- A rejection that passes its check has read the proposal as pending. -/
theorem pending_of_checkRejectable {t : Tables} {user : User} {clientId proposalId : Uuid}
    {p : ChangeProposal} (found : t.getProposal clientId proposalId = some p)
    (passed : checkRejectable t user clientId proposalId = .ok ()) :
    p.status = .pendingApproval := by
  simp only [checkRejectable, Outcome.bind_ok] at passed
  obtain ⟨-, -, read, lookup, passed⟩ := passed
  simp only [getProposal, found] at lookup
  obtain rfl := Except.ok.inj lookup
  split at passed
  · next pending => exact pending
  · cases passed

/-- Every step of the calls is a step of the cell, or is not seen. -/
theorem step_refines {w w' : World} {label : Label} {p : ChangeProposal}
    (found : w.stored proposal = some p) (taken : Step env proposal w label w') :
    (∃ p', w'.stored proposal = some p') ∧
      (view proposal w' = view proposal w ∨
        ∃ seen, ClaimOnce.next final (view proposal w) seen = some (view proposal w') ∧
          ∀ c, seen = .withdraw c → label = .cancel c) := by
  have cell : (view proposal w).cell = cellOf p.status := by
    simp only [view, found, cellIn, Option.elim_some]
  cases taken with
  | turnedAway c user exc was =>
    exact ⟨⟨p, found⟩, .inl (view_silent was rfl)⟩
  | refusedRejection c user reason exc was =>
    exact ⟨⟨p, found⟩, .inl (view_silent was rfl)⟩
  | admitted c user was =>
    refine ⟨⟨p, found⟩, .inr ⟨.enter c, ?_, by simp⟩⟩
    rw [view_move was]
    exact if_pos (view_party was)
  | claimed c user was updated =>
    have pending := pending_of_claim found updated
    have after := storedIn_claim found
    rw [if_pos pending] at after
    refine ⟨⟨_, after⟩, .inr ⟨.claim c, ?_, by simp⟩⟩
    have waiting : (view proposal w).party c = .waiting := view_party was
    simp only [ClaimOnce.next, waiting, cell, pending, cellOf, ↓reduceIte, view_commit _ was, after]
    rfl
  | lost c user was missed =>
    have same := claim_missed missed
    refine ⟨⟨p, (congrArg (storedIn proposal) same).trans found⟩, .inr ⟨.claim c, ?_, by simp⟩⟩
    have busy : (view proposal w).cell ≠ .free := by
      rw [cell]
      exact fun free => claimed_pos found (cellOf_free.mp free) missed
    rw [ClaimOnce.next_claim_busy (view_party was) busy, view_commit _ was, same]
    rfl
  | returned c read was _ =>
    exact ⟨⟨p, found⟩, .inl (view_silent was rfl)⟩
  | validated c now user read was _ =>
    exact ⟨⟨p, found⟩, .inl (view_silent was validated_party)⟩
  | checked c user now checked rest was =>
    exact ⟨⟨p, found⟩, .inl (view_silent was checkNext_party)⟩
  | executed c tick user now session executed op rest was =>
    exact ⟨⟨p, found⟩, .inl (view_silent was executeNext_party)⟩
  | crashed c user now session executed exc was =>
    exact ⟨⟨p, found⟩, .inl (view_silent was rfl)⟩
  | completed c user now session executed db was committed =>
    have after := storedIn_finished found committed
    refine ⟨⟨_, after⟩, .inr ⟨.finish c .completed, ?_, by simp⟩⟩
    have won : (view proposal w).party c = .won := view_party was
    simp only [ClaimOnce.next, won, view_commit _ was, after]
    rfl
  | unfit c reason was =>
    have after := storedIn_modify (failPreflight reason) (fun _ => rfl) found
    refine ⟨⟨_, after⟩, .inr ⟨.finish c .failed, ?_, by simp⟩⟩
    have won : (view proposal w).party c = .won := view_party was
    simp only [ClaimOnce.next, won, view_commit _ was, after]
    rfl
  | refused c seq message was =>
    have after := storedIn_modify (recordFailure seq message) (fun _ => rfl) found
    refine ⟨⟨_, after⟩, .inr ⟨.finish c .failed, ?_, by simp⟩⟩
    have won : (view proposal w).party c = .won := view_party was
    simp only [ClaimOnce.next, won, view_commit _ was, after]
    rfl
  | rejectable c user reason was passed =>
    refine ⟨⟨p, found⟩, .inr ⟨.look c, ?_, by simp⟩⟩
    have outside : (view proposal w).party c = .outside := view_party was
    have pending := pending_of_checkRejectable found passed
    simp only [ClaimOnce.next, outside, cell, pending, cellOf, ↓reduceIte, view_move was]
    rfl
  | rejected c reason was =>
    have after := storedIn_modify (ProposalService.cancel reason) (fun _ => rfl) found
    refine ⟨⟨_, after⟩, .inr ⟨.withdraw c, ?_, by simp⟩⟩
    have looked : (view proposal w).party c = .looked := view_party was
    simp only [ClaimOnce.next, looked, view_commit _ was, after]
    rfl
  | edited writes db legal committed =>
    exact ⟨⟨p, (storedIn_edit committed).trans found⟩, .inl (view_edit committed)⟩

end MarketingOS.ProposalRace
