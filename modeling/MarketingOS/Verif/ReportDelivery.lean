import MarketingOS.Base.ReceiptOnce
import MarketingOS.Services.ReportEmail

/-! # Daily reports are delivered once by runs that do not cross

The row of a delivered report is its receipt, written after the provider has accepted the report.
Runs that leave a report and its row together refine an effect whose receipt is written by the
only party inside, so the provider accepts one report at most. -/
namespace MarketingOS.ReportEmailService

/-- The row a run found. -/
def Run.found : Run → Option ReportEmailLog
  | .lookedUp existing => existing
  | .sending existing _ _ => existing
  | .recording existing _ => existing
  | _ => none

/-- Whether a run is between its look at the row and its end. -/
def Run.inFlight : Run → Bool
  | .lookedUp _ | .sending _ _ _ | .recording _ _ => true
  | _ => false

/-- Whether a run has a delivered report whose row is not written. -/
def Run.unrecorded : Run → Bool
  | .recording _ fields => fields.status = .sent
  | _ => false

/-- No run looks the row up while a delivered report is not recorded; the provider accepts a
report only of the single run in flight, and not in a call that raises; the row of a delivered
report goes where its run found it, or found none; and its run does not crash before. -/
def Alone : Machine.Guard World Label
  | w, .lookUp _ _ => ∀ run ∈ w.runs, run.unrecorded = false
  | _, .prepare _ _ => True
  | w, .call r _ (.delivered _) =>
    ∀ (other : Nat) (run : Run), w.runs[other]? = some run → other ≠ r → run.inFlight = false
  | _, .call _ _ reply => reply.accepted = false
  | w, .writeLog r _ => ∀ run, w.runs[r]? = some run → run.unrecorded = true →
    run.found = none → w.log = none
  | w, .crash r => ∀ run, w.runs[r]? = some run → run.unrecorded = false

/-! ## The view -/

/-- Where a run stands, seen as a party of an effect with a receipt. -/
def Run.party : Run → ReceiptOnce.Party
  | .idle => .outside
  | .lookedUp _ | .sending _ _ _ => .looked
  | .recording _ fields => if fields.status = .sent then .acted else .looked
  | .returned _ | .ended => .done

/-- Whether the row says that the report is delivered. -/
def received (log : Option ReportEmailLog) : Bool := log.any fun row => row.status = .sent

/-- The runs, seen as parties of an effect with a receipt. -/
def view (w : World) : ReceiptOnce.State Nat where
  receipt := received w.log
  party r := (w.runs[r]?.map Run.party).getD .outside
  effects := w.accepted

/-- A run with an unrecorded report is a party that has acted. -/
theorem Run.party_eq_acted (run : Run) : run.party = .acted ↔ run.unrecorded = true := by
  cases run with
  | recording existing fields =>
    by_cases sent : fields.status = .sent <;> simp [Run.party, Run.unrecorded, sent]
  | _ => simp [Run.party, Run.unrecorded]

/-- A run in flight is a party inside. -/
theorem Run.party_inside (run : Run) : run.party.inside = run.inFlight := by
  cases run with
  | recording existing fields =>
    by_cases sent : fields.status = .sent <;>
      simp [Run.party, Run.inFlight, ReceiptOnce.Party.inside, sent]
  | _ => rfl

/-- The party of a run. -/
theorem view_party {w : World} {r : Nat} {run : Run} (place : w.runs[r]? = some run) :
    (view w).party r = run.party := ReceiptOnce.parties_of_get place

/-- The view of a world whose run has moved. -/
theorem view_move {w : World} {r : Nat} {run : Run} (was : w.runs[r]? = some run) (run' : Run) :
    view (w.move r run') = (view w).move r run'.party := by
  apply ReceiptOnce.State.ext
  · rfl
  · exact ReceiptOnce.parties_set was run'
  · rfl

/-! ## Steps -/

/-- The rows the runs have found: none is delivered, and the table still has a row. -/
def Known (w : World) : Prop :=
  ∀ run ∈ w.runs, ∀ read, run.found = some read → read.status ≠ .sent ∧ w.log.isSome

/-- A run that moves knows what it knew, or what it has just found. -/
theorem Known.move {w : World} (known : Known w) (r : Nat) (run : Run)
    (knows : ∀ read, run.found = some read → read.status ≠ .sent ∧ w.log.isSome) :
    Known (w.move r run) := by
  intro other inside
  rcases List.mem_or_eq_of_mem_set inside with stays | rfl
  · exact known other stays
  · exact knows

/-- A run in flight with nothing to record is a party that has looked. -/
theorem Run.party_of_inFlight {run : Run} (inFlight : run.inFlight = true)
    (recorded : run.unrecorded = false) : run.party = .looked := by
  cases run with
  | lookedUp existing => rfl
  | sending existing recipients attempt => rfl
  | recording existing fields =>
    have undelivered : fields.status ≠ .sent := by simpa [Run.unrecorded] using recorded
    exact if_neg undelivered
  | _ => cases inFlight

/-- A row that is in the table stays there. -/
theorem Known.store {w : World} (known : Known w) {log : Option ReportEmailLog}
    (keeps : w.log.isSome → log.isSome) (accepted : Nat) : Known ⟨log, w.runs, accepted⟩ := by
  intro run inside read found
  obtain ⟨undelivered, present⟩ := known run inside read found
  exact ⟨undelivered, keeps present⟩

/-- A row that a run does not return is not delivered. -/
theorem not_sent_of_not_settled {now : Timestamp} {existing : ReportEmailLog}
    (unsettled : settled now existing = false) : existing.status ≠ .sent := by
  intro sent
  simp [settled, sent] at unsettled

/-- The row a run goes on with is in the table and not delivered. -/
theorem lookedUp_found {now : Timestamp} {log : Option ReportEmailLog} {read : ReportEmailLog}
    (found : (lookedUp now log).found = some read) : read.status ≠ .sent ∧ log.isSome := by
  cases log with
  | none => cases found
  | some existing =>
    simp only [lookedUp] at found
    split at found
    · cases found
    · rename_i unsettled
      obtain rfl := Option.some.inj found
      exact ⟨not_sent_of_not_settled (by simpa using unsettled), rfl⟩

/-- The columns written without a call are not those of a delivered report. -/
theorem prepare_not_sent {p : Preparation} {fields : LogFields}
    (prepared : prepare p = some fields) : fields.status ≠ .sent := by
  unfold prepare at prepared
  split at prepared
  · cases prepared
    simp
  · split at prepared
    · cases prepared
      simp
    · split at prepared
      · cases prepared
        simp
      · cases prepared

/-- A run found what it found before the call. -/
theorem called_found (existing : Option ReportEmailLog) (recipients : List (String × String))
    (attempt : Nat) (now : Timestamp) (reply : Reply) (read : ReportEmailLog)
    (found : (called existing recipients attempt now reply).found = some read) :
    existing = some read := by
  cases reply with
  | delivered messageId => exact found
  | sendError message retryable accepted =>
    simp only [called] at found
    split at found
    · exact found
    · exact found
  | otherError accepted => cases found

/-- The status a session leaves in a row it read. -/
theorem overwrite_status (read : ReportEmailLog) (fields : LogFields) (now : Timestamp)
    (stored : ReportEmailLog) :
    (overwrite read fields now stored).status =
      changed read.status fields.status stored.status := by
  unfold overwrite
  simp only
  split
  · rename_i same
    have unchanged : fields.status = read.status := congrArg ReportEmailLog.status same
    exact (if_pos unchanged).symm
  · rfl

/-- The row after the columns of an undelivered report are written is received only when it was. -/
theorem received_of_not_sent {existing : Option ReportEmailLog} {fields : LogFields}
    {now : Timestamp} {log : Option ReportEmailLog} (undelivered : fields.status ≠ .sent)
    (after : received (writeLog existing fields now log).1 = true) : received log = true := by
  cases log with
  | none =>
    cases existing with
    | none => simp [writeLog, received, LogFields.row, undelivered] at after
    | some read => simp [writeLog, received] at after
  | some stored =>
    cases existing with
    | none => exact after
    | some read =>
      simp only [writeLog, received, Option.any_some, decide_eq_true_eq,
        overwrite_status] at after ⊢
      by_cases same : fields.status = read.status
      · simpa only [changed, if_pos same] using after
      · exact absurd (by simpa only [changed, if_neg same] using after) undelivered

/-- The columns of a delivered report make the row received when it goes where its run found
one that was not delivered, or found none. -/
theorem received_of_sent {existing : Option ReportEmailLog} {fields : LogFields} {now : Timestamp}
    {log : Option ReportEmailLog} (delivered : fields.status = .sent)
    (fits : existing = none → log = none)
    (knows : ∀ read, existing = some read → read.status ≠ .sent ∧ log.isSome) :
    received (writeLog existing fields now log).1 = true := by
  cases existing with
  | none =>
    rw [fits rfl]
    simp [writeLog, received, LogFields.row, delivered]
  | some read =>
    obtain ⟨undelivered, present⟩ := knows read rfl
    obtain ⟨stored, rfl⟩ := Option.isSome_iff_exists.mp present
    have differs : fields.status ≠ read.status := fun same => undelivered (same ▸ delivered)
    simp only [writeLog, received, Option.any_some, decide_eq_true_eq, overwrite_status, changed,
      if_neg differs]
    exact delivered

/-- A row in the table is there after a write. -/
theorem writeLog_isSome {existing : Option ReportEmailLog} {fields : LogFields} {now : Timestamp}
    {log : Option ReportEmailLog} (present : log.isSome) :
    (writeLog existing fields now log).1.isSome := by
  obtain ⟨stored, rfl⟩ := Option.isSome_iff_exists.mp present
  cases existing with
  | none => rfl
  | some read => rfl

/-- A write is the end of its run. -/
theorem writeLog_run (existing : Option ReportEmailLog) (fields : LogFields) (now : Timestamp)
    (log : Option ReportEmailLog) :
    (writeLog existing fields now log).2.found = none ∧
      (writeLog existing fields now log).2.party = .done := by
  cases log <;> cases existing <;> exact ⟨rfl, rfl⟩

/-! ## The simulation -/

/-- What a step shows of itself: nothing, or a careful step of a party. -/
def Shows (w w' : World) : Prop :=
  view w' = view w ∨
    ∃ seen, ReceiptOnce.Careful (view w) seen ∧ ReceiptOnce.next (view w) seen = some (view w')

/-- A move to a place that looks the same shows nothing. -/
theorem shows_of_same_party {w : World} {r : Nat} {run run' : Run} (was : w.runs[r]? = some run)
    (same : run'.party = run.party) : Shows w (w.move r run') := by
  left
  rw [view_move was, same]
  exact ReceiptOnce.State.move_self (view_party was)

/-- A run with nothing to record that ends is a party that leaves. -/
theorem shows_leave {w : World} {r : Nat} {run run' : Run} (was : w.runs[r]? = some run)
    (looked : run.party = .looked) (ends : run'.party = .done) : Shows w (w.move r run') := by
  right
  have there : (view w).party r = .looked := (view_party was).trans looked
  refine ⟨.leave r false, ?_, ?_⟩
  · intro acted
    rw [there] at acted
    cases acted
  · simp [ReceiptOnce.next, there, ReceiptOnce.Party.inside, view_move was, ends,
      ReceiptOnce.State.move]

/-- The party of a run after its look. -/
theorem lookedUp_party (now : Timestamp) (log : Option ReportEmailLog) :
    (lookedUp now log).party =
      if received log || log.any (settled now) then .done else .looked := by
  cases log with
  | none => rfl
  | some existing =>
    by_cases past : settled now existing = true
    · simp [lookedUp, past, Run.party]
    · have unsettled : settled now existing = false := by simpa using past
      have undelivered := not_sent_of_not_settled unsettled
      simp [lookedUp, past, received, undelivered, Run.party]

/-- A look at the row is the look of a party. -/
theorem lookUp_shows {w : World} {r : Nat} {now : Timestamp} (meets : Alone w (.lookUp r now))
    (was : w.runs[r]? = some .idle) : Shows w (w.move r (lookedUp now w.log)) := by
  have there : (view w).party r = .outside := view_party was
  right
  refine ⟨.look r (!w.log.any (settled now)), ?_, ?_⟩
  · apply ReceiptOnce.parties_forall (· ≠ .acted) (by decide)
    intro other run stands acted
    have unrecorded := (Run.party_eq_acted run).mp acted
    rw [meets run (List.mem_of_getElem? stands)] at unrecorded
    cases unrecorded
  · simp only [ReceiptOnce.next, there, ↓reduceIte, Bool.not_not, Option.some.injEq]
    rw [view_move was, lookedUp_party]
    rfl

/-- A call that is answered is the act of a party, and one that raises shows nothing or ends. -/
theorem call_shows {w : World} {r : Nat} {now : Timestamp} {reply : Reply}
    {existing : Option ReportEmailLog} {recipients : List (String × String)} {attempt : Nat}
    (meets : Alone w (.call r now reply))
    (was : w.runs[r]? = some (.sending existing recipients attempt)) :
    Shows w { w.move r (called existing recipients attempt now reply) with
      accepted := w.accepted + if reply.accepted then 1 else 0 } := by
  cases reply with
  | delivered messageId =>
    have there : (view w).party r = .looked := view_party was
    right
    refine ⟨.act r, ?_, ?_⟩
    · intro other apart
      cases stands : w.runs[other]? with
      | none => simp [view, stands, ReceiptOnce.Party.inside]
      | some run =>
        rw [view_party stands, Run.party_inside]
        exact meets other run stands apart
    · have moved := view_move was (called existing recipients attempt now (.delivered messageId))
      simp only [ReceiptOnce.next, there, ↓reduceIte, Option.some.injEq]
      exact congrArg (fun s : ReceiptOnce.State Nat => { s with effects := w.accepted + 1 })
        moved.symm
  | sendError message retryable accepted =>
    have refused : accepted = false := meets
    subst refused
    have looked : (called existing recipients attempt now
        (.sendError message retryable false)).party = .looked := by
      simp only [called]
      split
      · rfl
      · rfl
    exact shows_of_same_party was looked
  | otherError accepted =>
    have refused : accepted = false := meets
    subst refused
    exact shows_leave was rfl rfl

/-- A write of the row is the receipt of a party, or a party that leaves. -/
theorem writeLog_shows {w : World} {r : Nat} {now : Timestamp}
    {existing : Option ReportEmailLog} {fields : LogFields} (known : Known w)
    (meets : Alone w (.writeLog r now)) (was : w.runs[r]? = some (.recording existing fields)) :
    Shows w { w.move r (writeLog existing fields now w.log).2 with
      log := (writeLog existing fields now w.log).1 } := by
  have moved := view_move was (writeLog existing fields now w.log).2
  rw [(writeLog_run existing fields now w.log).2] at moved
  have after : view { w.move r (writeLog existing fields now w.log).2 with
      log := (writeLog existing fields now w.log).1 } =
      { (view w).move r .done with
        receipt := received (writeLog existing fields now w.log).1 } :=
    congrArg (fun s : ReceiptOnce.State Nat =>
      { s with receipt := received (writeLog existing fields now w.log).1 }) moved
  right
  by_cases sent : fields.status = .sent
  · have unrecorded : (Run.recording existing fields).unrecorded = true := by
      simp [Run.unrecorded, sent]
    have there : (view w).party r = .acted :=
      (view_party was).trans ((Run.party_eq_acted _).mpr unrecorded)
    have receipt : received (writeLog existing fields now w.log).1 = true := by
      apply received_of_sent sent
      · exact meets _ was unrecorded
      · exact known _ (List.mem_of_getElem? was)
    refine ⟨.write r, trivial, ?_⟩
    rw [after, receipt]
    simp [ReceiptOnce.next, there, ReceiptOnce.Party.inside]
  · have there : (view w).party r = .looked := by
      rw [view_party was]
      simp [Run.party, sent]
    refine ⟨.leave r (!received (writeLog existing fields now w.log).1), ?_, ?_⟩
    · intro acted
      rw [there] at acted
      cases acted
    · have kept : received (writeLog existing fields now w.log).1 = true →
          received w.log = true := received_of_not_sent sent
      rw [after]
      simp only [ReceiptOnce.next, there, ReceiptOnce.Party.inside, ↓reduceIte, Bool.not_not,
        Option.some.injEq]
      congr 1
      cases left : received (writeLog existing fields now w.log).1 with
      | false => simp
      | true => simpa [view] using kept left

/-- The step lemma: a step of runs that do not cross keeps what is known of the rows they found,
and shows a careful step or nothing. -/
theorem next_simulates (w : World) (label : Label) (w' : World) (known : Known w)
    (meets : Alone w label) (taken : machine.next w label = some w') :
    Known w' ∧ Shows w w' := by
  cases label with
  | lookUp r now =>
    simp only [machine, next] at taken
    split at taken
    · rename_i was
      obtain rfl := Option.some.inj taken
      refine ⟨known.move r _ fun read found => ?_, lookUp_shows meets was⟩
      exact lookedUp_found found
    · cases taken
  | prepare r p =>
    simp only [machine, next] at taken
    split at taken
    · rename_i existing was
      have knows := known _ (List.mem_of_getElem? was)
      cases prepared : prepare p with
      | some fields =>
        simp only [prepared, Option.some.injEq] at taken
        subst taken
        refine ⟨known.move r _ knows, shows_of_same_party was ?_⟩
        simp [Run.party, prepare_not_sent prepared]
      | none =>
        simp only [prepared, Option.some.injEq] at taken
        subst taken
        exact ⟨known.move r _ knows, shows_of_same_party was rfl⟩
    · cases taken
  | call r now reply =>
    simp only [machine, next] at taken
    split at taken
    · rename_i existing recipients attempt was
      obtain rfl := Option.some.inj taken
      refine ⟨?_, call_shows meets was⟩
      apply Known.store (known.move r _ fun read found => ?_) id
      exact known _ (List.mem_of_getElem? was) read (called_found _ _ _ _ _ _ found)
    · cases taken
  | writeLog r now =>
    simp only [machine, next] at taken
    split at taken
    · rename_i existing fields was
      obtain rfl := Option.some.inj taken
      refine ⟨?_, writeLog_shows known meets was⟩
      apply Known.store (known.move r _ fun read found => ?_) writeLog_isSome
      rw [(writeLog_run existing fields now w.log).1] at found
      cases found
    · cases taken
  | crash r =>
    have ends {run : Run} (was : w.runs[r]? = some run) (inFlight : run.inFlight = true)
        (moved : w' = w.move r .ended) : Known w' ∧ Shows w w' := by
      subst moved
      refine ⟨known.move r _ (by simp [Run.found]), shows_leave was ?_ rfl⟩
      exact Run.party_of_inFlight inFlight (meets run was)
    simp only [machine, next] at taken
    split at taken
    · rename_i was
      exact ends was rfl (Option.some.inj taken).symm
    · rename_i was
      exact ends was rfl (Option.some.inj taken).symm
    · rename_i was
      exact ends was rfl (Option.some.inj taken).symm
    · cases taken

/-- Runs that do not cross refine an effect with a receipt. -/
def simulation : Machine.Simulation machine (ReceiptOnce.machine Nat) Alone
    ReceiptOnce.Careful where
  view := view
  invariant := Known
  start w first := by
    obtain ⟨unsent, idle⟩ := first
    refine ⟨⟨unsent, ?_⟩, ?_⟩
    · apply ReceiptOnce.parties_forall (· = .outside) rfl
      intro r run stands
      rw [idle run (List.mem_of_getElem? stands)]
      rfl
    · intro run inside read found
      rw [idle run inside] at found
      cases found
  step := next_simulates

/-- In every state that runs which do not cross lead to, the provider has accepted one report of
the client and the date at most. -/
theorem accepted_le_one {w : World} (reached : machine.Reachable Alone w) : w.accepted ≤ 1 :=
  ReceiptOnce.effects_le_one (simulation.reachable reached).1

/-- Two idle runs and no row. -/
def twoRuns : World := ⟨none, [.idle, .idle], 0⟩

/-- A report that is built, with one recipient. -/
def ready : Preparation := ⟨[("Ada", "ada@example.com")], true, .ok ()⟩

/-- The row of the report that is built, delivered at a time. -/
def readyLog (now : Timestamp) : ReportEmailLog :=
  ⟨.sent, 1, some ["ada@example.com"], some "id", none, 1, some now, now⟩

/-- Of two runs one after the other, the first delivers the report. -/
theorem accepted_le_one_twoRuns :
    machine.Run Alone twoRuns [.lookUp 0 1, .prepare 0 ready, .call 0 1 (.delivered "id"),
      .writeLog 0 1, .lookUp 1 2] ⟨some (readyLog 1), [.returned (readyLog 1),
        .returned (readyLog 1)], 1⟩ ∧
      World.accepted ⟨some (readyLog 1), [.returned (readyLog 1), .returned (readyLog 1)], 1⟩ ≤
        1 := by
  have run : machine.Run Alone twoRuns [.lookUp 0 1, .prepare 0 ready, .call 0 1 (.delivered "id"),
      .writeLog 0 1, .lookUp 1 2] ⟨some (readyLog 1), [.returned (readyLog 1),
        .returned (readyLog 1)], 1⟩ := by
    refine .cons ?_ rfl (.cons trivial rfl (.cons ?_ rfl (.cons ?_ rfl (.cons ?_ rfl (.nil _)))))
    · simp [Alone, twoRuns, Run.unrecorded]
    · intro other run stands apart
      match other, stands with
      | 0, _ => exact absurd rfl apart
      | 1, stands =>
        obtain rfl := Option.some.inj stands
        rfl
    · exact fun _ _ _ _ => rfl
    · simp [Alone, World.move, twoRuns, Run.unrecorded, writeLog]
  exact ⟨run, accepted_le_one ⟨twoRuns, _, ⟨rfl, by simp [twoRuns]⟩, run⟩⟩

/-- Two runs look the row up before either calls the provider. -/
def crossing : List Label :=
  [.lookUp 0 1, .lookUp 1 1, .prepare 0 ready, .prepare 1 ready, .call 0 2 (.delivered "id"),
    .call 1 2 (.delivered "other"), .writeLog 0 3, .writeLog 1 3]

/-- A run crashes after the provider has accepted its report and before its commit; the next tick
begins another run. -/
def crashing : List Label :=
  [.lookUp 0 1, .prepare 0 ready, .call 0 2 (.delivered "id"), .crash 0, .lookUp 1 600,
    .prepare 1 ready, .call 1 601 (.delivered "other"), .writeLog 1 602]

/-- The answer to an accepted report is lost, and the run calls again. -/
def lostAnswer : List Label :=
  [.lookUp 0 1, .prepare 0 ready, .call 0 2 (.sendError "timeout" true true),
    .call 0 3 (.delivered "id"), .writeLog 0 4]

/-- Runs that cross, a crash before the commit and a lost answer each deliver a report twice. -/
theorem accepted_twice : machine.start twoRuns ∧ ∀ labels ∈ [crossing, crashing, lostAnswer],
    ∃ w, machine.Run Machine.anyStep twoRuns labels w ∧ w.accepted = 2 := by
  refine ⟨⟨rfl, by simp [twoRuns]⟩, ?_⟩
  intro labels listed
  simp only [List.mem_cons, List.not_mem_nil, or_false] at listed
  rcases listed with rfl | rfl | rfl
  · exact ⟨_, Machine.run_of_play rfl, rfl⟩
  · exact ⟨_, Machine.run_of_play rfl, rfl⟩
  · exact ⟨_, Machine.run_of_play rfl, rfl⟩

end MarketingOS.ReportEmailService
