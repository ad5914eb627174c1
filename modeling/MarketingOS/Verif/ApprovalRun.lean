import MarketingOS.Verif.ProposalRace

/-! # An uninterrupted approval is a run

The approval that meets no other transaction commits what one call of the concurrent machine
commits when it takes its steps in a row, so what is shown of all runs is shown of it. -/
namespace MarketingOS.ProposalRace

open ProposalService

variable {env : Environment} {proposal : ChangeProposal} {c : Nat}

/-- A run of one call brings it to a place, with a database committed. -/
def Leads (env : Environment) (proposal : ChangeProposal) (w : World) (c : Nat) (call : Call)
    (db : Database) : Prop :=
  ∃ labels w', (machine env proposal).Run Machine.anyStep w labels w' ∧
    w'.calls[c]? = some call ∧ w'.db = db

/-- One step leads where it goes. -/
theorem Leads.step {w : World} {was call : Call} {db : Database} (label : Label)
    (inside : w.calls[c]? = some was)
    (taken : next env proposal w label = some (w.commit c call db)) :
    Leads env proposal w c call db := by
  obtain ⟨bound, -⟩ := List.getElem?_eq_some_iff.mp inside
  exact ⟨[label], _, .cons trivial taken (.nil _), by simp [World.commit, bound], rfl⟩

/-- One run leads on from another. -/
theorem Leads.trans {w : World} {call call' : Call} {db db' : Database}
    (front : Leads env proposal w c call db)
    (back : ∀ w', w'.calls[c]? = some call → w'.db = db → Leads env proposal w' c call' db') :
    Leads env proposal w c call' db' := by
  obtain ⟨labels, middle, run, there, same⟩ := front
  obtain ⟨labels', last, run', here, after⟩ := back middle there same
  exact ⟨labels ++ labels', last, run.append run', here, after⟩

/-- The staleness loop runs to its end when every operation matches its live row, and to the
failure of the proposal otherwise. -/
theorem leads_check {user : User} {now : Timestamp} {rest : List ProposedOperation} {w : World}
    {checked : List ProposedOperation}
    (was : w.calls[c]? = some (.checking user now checked rest)) :
    Leads env proposal w c
      (if rest.all (matchesLiveSnapshot w.db.tables proposal.clientId) then
        .applying user now w.db.tables [] (checked ++ rest) else .unfit staleReason) w.db := by
  induction rest generalizing w checked with
  | nil =>
    refine .step (.check c) was ?_
    simp only [next, was, checkNext, List.all_nil, ↓reduceIte, List.append_nil]
    rfl
  | cons op rest ih =>
    by_cases matched : matchesLiveSnapshot w.db.tables proposal.clientId op = true
    · have first : Leads env proposal w c (.checking user now (checked ++ [op]) rest) w.db := by
        refine .step (.check c) was ?_
        simp only [next, was, checkNext, matched, ↓reduceIte]
        rfl
      refine first.trans fun w' there same => ?_
      have later := ih there
      simpa only [same, List.all_cons, matched, Bool.true_and, List.append_assoc,
        List.singleton_append] using later
    · refine .step (.check c) was ?_
      simp only [next, was, checkNext, matched, Bool.false_eq_true, ↓reduceIte, List.all_cons,
        Bool.false_and]
      rfl

/-- Where a call stands when the execution loop has ended. -/
def afterLoop (ticks : Nat → Tick) (user : User) (now : Timestamp)
    (executed : List (Tick × ProposedOperation)) (operations : List ProposedOperation) :
    LoopEnd → Call
  | .finished done t =>
    .applying user now t (executed ++ (operations.map fun op => ticks op.seq).zip done) []
  | .refused seq error => .refused seq error.message
  | .raised error => .crashed (.other error)

/-- The execution loop runs to its end. -/
theorem leads_execute (ticks : Nat → Tick) {user : User} {now : Timestamp}
    {rest : List ProposedOperation} {w : World} {session : Tables}
    {executed : List (Tick × ProposedOperation)}
    (was : w.calls[c]? = some (.applying user now session executed rest)) :
    Leads env proposal w c
      (afterLoop ticks user now executed rest
        (executeAll env ticks user proposal.clientId proposal.id session rest)) w.db := by
  induction rest generalizing w session executed with
  | nil =>
    refine ⟨[], w, .nil w, ?_, rfl⟩
    simpa [executeAll, afterLoop] using was
  | cons op rest ih =>
    have first : Leads env proposal w c (executeNext env proposal (ticks op.seq) user now session
        executed op rest) w.db := by
      refine .step (.execute c (ticks op.seq)) was ?_
      simp only [next, was]
      rfl
    simp only [executeAll]
    unfold executeNext at first
    cases turn : executeAndRecord env (ticks op.seq) user proposal.clientId proposal.id session
        op with
    | error exc =>
      rw [turn] at first
      cases exc <;> exact first
    | ok result =>
      obtain ⟨marked, session'⟩ := result
      rw [turn] at first
      refine first.trans fun w' there same => ?_
      have later := ih there
      rw [same] at later
      dsimp only
      cases ended : executeAll env ticks user proposal.clientId proposal.id session' rest <;>
        simpa [ended, afterLoop] using later

/-- A failed check is recorded. -/
theorem leads_unfit {w : World} {reason : String} {db : Database}
    (front : Leads env proposal w c (.unfit reason) db) :
    Leads env proposal w c .failed (db.modifyProposal proposal.id (failPreflight reason)) := by
  refine front.trans fun w' there same => ?_
  refine .step (.record c) there ?_
  simp only [next, there, same]

/-- A refused operation is recorded. -/
theorem leads_refused {w : World} {seq : Nat} {message : String} {db : Database}
    (front : Leads env proposal w c (.refused seq message) db) :
    Leads env proposal w c .failed (db.modifyProposal proposal.id (recordFailure seq message)) := by
  refine front.trans fun w' there same => ?_
  refine .step (.record c) there ?_
  simp only [next, there, same]

/-- Executed operations are committed, or the commit is refused and changes nothing. -/
theorem leads_finish {w : World} {user : User} {now : Timestamp} {session : Tables}
    {executed : List (Tick × ProposedOperation)} {db : Database}
    (front : Leads env proposal w c (.applying user now session executed []) db)
    (same : session.proposals = db.tables.proposals) :
    ∃ call, Leads env proposal w c call
      (match commit (session.modifyProposal proposal.id
          (complete user now (executed.map Prod.snd))) with
        | .error _ => db
        | .ok after => after) := by
  have sent : finished proposal db user now session executed =
      session.modifyProposal proposal.id (complete user now (executed.map Prod.snd)) := by
    simp only [finished, ← same]
  cases committed : commit (session.modifyProposal proposal.id
      (complete user now (executed.map Prod.snd))) with
  | error exc =>
    refine ⟨.crashed exc, front.trans fun w' there here => ?_⟩
    refine .step (.finish c) there ?_
    simp only [next, there, here, sent, committed]
    rw [← here]
    rfl
  | ok after =>
    refine ⟨.completed user executed, front.trans fun w' there here => ?_⟩
    refine .step (.finish c) there ?_
    simp only [next, there, here, sent, committed]

/-- What a claimed call commits when it goes on alone is what `_validate_and_execute` commits. -/
theorem leads_validate (env : Environment) (ticks : Nat → Tick) (now : Timestamp) {user : User}
    {w : World}
    {read : ChangeProposal} (was : w.calls[c]? = some (.claimed user))
    (found : w.stored proposal = some read) :
    ∃ call, Leads env proposal w c call (validateAndExecute env ticks now user read w.db).2 := by
  have client : read.clientId = proposal.clientId := Tables.getProposal_clientId found
  have identifier : read.id = proposal.id := Tables.getProposal_id found
  have first : Leads env proposal w c (validated w.db.tables now user read) w.db := by
    refine .step (.validate c now) was ?_
    simp only [next, was, found]
    rfl
  simp only [validateAndExecute, preflight, identifier, client]
  cases standing : checkStanding w.db.tables now user read with
  | error exc =>
    simp only [validated, standing] at first
    exact ⟨_, first⟩
  | ok verdict =>
    cases verdict with
    | some reason =>
      simp only [validated, standing] at first
      exact ⟨_, leads_unfit first⟩
    | none =>
      simp only [validated, standing] at first
      have second := first.trans fun w' there same => same ▸ leads_check there
      by_cases fresh :
          read.operations.all (matchesLiveSnapshot w.db.tables proposal.clientId) = true
      · simp only [fresh, ↓reduceIte, List.nil_append, Outcome.ok_bind, Outcome.pure_eq] at second ⊢
        have third := second.trans fun w' there same => same ▸ leads_execute ticks there
        cases ended : executeAll env ticks user proposal.clientId proposal.id w.db.tables
          read.operations with
        | raised error =>
          simp only [ended, afterLoop] at third
          exact ⟨_, third⟩
        | refused seq error =>
          simp only [ended, afterLoop] at third
          exact ⟨_, leads_refused third⟩
        | finished executed t =>
          simp only [ended, afterLoop, List.nil_append] at third
          obtain ⟨seqs, -, -, kept, -⟩ := executeAll_finished ended
          have lengths : executed.length ≤ (read.operations.map fun op => ticks op.seq).length := by
            simpa using Nat.le_of_eq (congrArg List.length seqs)
          obtain ⟨call, last⟩ := leads_finish third kept
          rw [List.map_snd_zip lengths] at last
          refine ⟨call, ?_⟩
          dsimp only
          cases committed : commit (t.modifyProposal proposal.id (complete user now executed)) <;>
            simpa only [committed] using last
      · simp only [fresh, Bool.false_eq_true, ↓reduceIte, Outcome.ok_bind, Outcome.pure_eq]
          at second ⊢
        exact ⟨_, leads_unfit second⟩

/-- An approval that meets no other transaction commits what some run of one idle call commits,
whatever the other calls have done. -/
theorem approve_is_run (env : Environment) (ticks : Nat → Tick) (now : Timestamp) (user : User)
    (w : World) (found : ∃ p, w.stored proposal = some p) (was : w.calls[c]? = some .idle) :
    ∃ call, Leads env proposal w c call
      (approve env ticks now user proposal.clientId proposal.id w.db).2 := by
  obtain ⟨p, found⟩ := found
  have first : Leads env proposal w c (enter proposal w.db.tables user) w.db := by
    refine .step (.readForApproval c user) was ?_
    simp only [next, was]
    rfl
  unfold enter at first
  unfold approve
  split
  · next exc entry =>
    rw [entry] at first
    exact ⟨_, first⟩
  · next read entry =>
    rw [entry] at first
    have second : Leads env proposal w c
        (if (claimForExecution proposal.id w.db).1 = 0 then .lost else .claimed user)
        (claimForExecution proposal.id w.db).2 := by
      refine first.trans fun w' there same => ?_
      refine .step (.claim c) there ?_
      simp only [next, there, same]
    by_cases missed : (claimForExecution proposal.id w.db).1 = 0
    · simp only [missed, ↓reduceIte] at second ⊢
      exact ⟨_, second⟩
    · have claimed := storedIn_claim found
      rw [if_pos (pending_of_claim found missed)] at claimed
      have reread : getProposal (claimForExecution proposal.id w.db).2.tables proposal.clientId
          proposal.id = .ok p.claimed := by
        simp only [storedIn] at claimed
        simp only [getProposal, claimed]
      simp only [missed, ↓reduceIte, reread] at second ⊢
      obtain ⟨labels, w', run, there, same⟩ := second
      have stored : w'.stored proposal = some p.claimed := by
        rw [stored_eq, same]
        exact claimed
      obtain ⟨call, labels', last, run', here, after⟩ :=
        leads_validate env ticks now there stored
      rw [same] at after
      exact ⟨call, labels ++ labels', last, run.append run', here, after⟩

end MarketingOS.ProposalRace
