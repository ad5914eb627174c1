import MarketingOS.Ai.CommandAgent

/-!
# Streamed turns

A streamed turn ends in the result the same turn has at once, whatever the model and the tools do
and however the answers of the model are cut into deltas.
-/
namespace MarketingOS.CommandAgent

variable {σ : Type} (agent : Agent σ)

/-- A stream of deltas is an answer of the model cut up: the text and the calls of the answer in
order, or the exception it ends with. -/
def Splits (streaming : Streaming) : Except Raised Response → Prop
  | .error exc => streaming.raised = some exc
  | .ok response =>
    streaming.raised = none ∧
      String.join (streaming.deltas.filterMap StreamDelta.text) = response.content.getD "" ∧
      streaming.deltas.filterMap StreamDelta.toolCall = response.toolCalls

/-- The events of a stream end as a turn did: in its result and no other, or raised. -/
def Ends (events : List StreamEvent) (raised : Option Raised) : Except Raised TurnResult → Prop
  | .ok result =>
    raised = none ∧ ∃ before, events = before ++ [.result result] ∧ ∀ r, .result r ∉ before
  | .error exc => raised = some exc ∧ ∀ r, .result r ∉ events

/-! ## What the model is sent -/

/-- A message whose empty content counts as none. -/
def Message.blanked : Message → Message
  | .assistant content calls => .assistant (content.filter (· ≠ "")) calls
  | message => message

/-- A turn whose messages' empty contents count as none. -/
def Chat.blanked (chat : Chat σ) : Chat σ :=
  { chat with
    messages := chat.messages.map Message.blanked
    requests := chat.requests.map fun request =>
      { request with messages := request.messages.map Message.blanked } }

namespace Chat

variable (chat : Chat σ)

/-- Asking for a round. -/
theorem blanked_asked (tools : List String) :
    (chat.asked tools).blanked = chat.blanked.asked tools := by
  simp only [blanked, asked, List.map_append, List.map_cons, List.map_nil]

/-- Adding a message. -/
theorem blanked_say (message : Message) :
    (chat.say message).blanked = chat.blanked.say message.blanked := by
  simp only [blanked, say, List.map_append, List.map_cons, List.map_nil]

/-- Keeping the result of a call. -/
theorem blanked_take (call : Call) (result : Dispatched) :
    (chat.take call result).blanked = chat.blanked.take call result := by
  rcases result with fields | op | batch
  · exact blanked_say chat _
  · exact blanked_say { chat with staged := chat.staged ++ [op] } _
  · exact blanked_say { chat with staged := chat.staged ++ batch.operations } _

end Chat

/-- The calls of a round do not look at what is empty. -/
theorem answerCalls_blanked (calls : List Call) (chat : Chat σ) (clarification : Option String) :
    answerCalls agent calls chat.blanked clarification =
      ((answerCalls agent calls chat clarification).1.blanked,
        (answerCalls agent calls chat clarification).2) := by
  induction calls generalizing chat clarification with
  | nil => rfl
  | cons call rest ih =>
    simp only [answerCalls]
    split
    · rw [← ih, Chat.blanked_say]
      rfl
    · have same : chat.blanked.db = chat.db := rfl
      rw [same]
      rcases dispatch agent call.name call.arguments chat.db with ⟨exc | result, db⟩
      · rfl
      · dsimp only
        rw [← ih, Chat.blanked_take]
        rfl

/-- From states the model sees no difference between, the calls of a round go the same way. -/
theorem answerCalls_alike {chat chat' : Chat σ} (alike : chat'.blanked = chat.blanked)
    (calls : List Call) (clarification : Option String) :
    (answerCalls agent calls chat' clarification).1.blanked =
        (answerCalls agent calls chat clarification).1.blanked ∧
      (answerCalls agent calls chat' clarification).2 =
        (answerCalls agent calls chat clarification).2 := by
  have same := answerCalls_blanked agent calls chat' clarification
  rw [alike, answerCalls_blanked] at same
  obtain ⟨chats, outcomes⟩ := Prod.mk.inj same
  exact ⟨chats.symm, outcomes.symm⟩

/-- The answer of the model is told to it with its content or without an empty one. -/
theorem say_alike {chat chat' : Chat σ} (alike : chat'.blanked = chat.blanked)
    (content : Option String) (calls : List Call) :
    (chat'.say (.assistant (content.filter (· ≠ "")) calls)).blanked =
      (chat.say (.assistant content calls)).blanked := by
  rw [Chat.blanked_say, Chat.blanked_say, alike]
  simp only [Message.blanked, Option.filter_filter, Bool.and_self]

/-- The calls of a streamed round are those of the round at once, with events that are no
result. -/
theorem streamCalls_eq (calls : List Call) (chat : Chat σ) (clarification : Option String) :
    ∃ events, streamCalls agent calls chat clarification =
        (events, answerCalls agent calls chat clarification) ∧
      ∀ r, StreamEvent.result r ∉ events := by
  induction calls generalizing chat clarification with
  | nil => exact ⟨[], rfl, fun r => List.not_mem_nil⟩
  | cons call rest ih =>
    simp only [streamCalls, answerCalls]
    split
    · exact ih _ _
    · rcases dispatch agent call.name call.arguments chat.db with ⟨exc | result, db⟩
      · exact ⟨_, rfl, fun r inside => (by simp at inside)⟩
      · obtain ⟨events, same, free⟩ := ih ({ chat with db }.take call result) clarification
        dsimp only
        rw [same]
        refine ⟨_, rfl, fun r inside => ?_⟩
        rcases List.mem_cons.mp inside with progress | later
        · cases progress
        · exact free r later

/-! ## What the model answers -/

/-- The text shown of one delta is its text. -/
theorem join_shown (delta : StreamDelta) (parts : List String) :
    String.join (delta.shown.toList ++ parts) =
      String.join (delta.text.toList ++ parts) := by
  obtain ⟨text, call⟩ := delta
  cases text with
  | none => rfl
  | some text =>
    by_cases empty : text = ""
    · subst empty
      exact (String.empty_append).symm.trans (String.join_cons).symm
    · have shown : StreamDelta.shown ⟨some text, call⟩ = some text := by
        rw [StreamDelta.shown, Option.filter_some, if_pos (decide_eq_true empty)]
      rw [shown]

/-- What is heard of a stream: its text, its calls, and no result. -/
theorem listen_spec (deltas : List StreamDelta) :
    String.join (listen deltas).2.1 = String.join (deltas.filterMap StreamDelta.text) ∧
      (listen deltas).2.2 = deltas.filterMap StreamDelta.toolCall ∧
      ∀ r, StreamEvent.result r ∉ (listen deltas).1 := by
  induction deltas with
  | nil => exact ⟨rfl, rfl, fun r => List.not_mem_nil⟩
  | cons delta rest ih =>
    obtain ⟨texts, calls, free⟩ := ih
    refine ⟨?_, ?_, ?_⟩
    · change String.join (delta.shown.toList ++ (listen rest).2.1) = _
      rw [join_shown]
      cases text : delta.text with
      | none => rw [List.filterMap_cons_none text, ← texts]; rfl
      | some part =>
        rw [List.filterMap_cons_some text, String.join_cons, ← texts, ← String.join_cons]
        rfl
    · change delta.toolCall.toList ++ (listen rest).2.2 = _
      rw [calls]
      cases call : delta.toolCall with
      | none => rw [List.filterMap_cons_none call]; rfl
      | some one => rw [List.filterMap_cons_some call]; rfl
    · intro r inside
      rcases List.mem_append.mp inside with now | later
      · obtain ⟨text, -, other⟩ := List.mem_map.mp now
        cases other
      · exact free r later

/-- The text of a round, joined, is its content when that is not empty. -/
theorem joined_eq {parts : List String} {content : Option String}
    (same : String.join parts = content.getD "") : joined parts = content.filter (· ≠ "") := by
  rw [joined, same]
  cases content with
  | none => rfl
  | some text =>
    rw [Option.getD_some, Option.filter_some]
    by_cases empty : text = ""
    · rw [if_pos empty, if_neg (by simp [empty])]
    · rw [if_neg empty, if_pos (decide_eq_true empty)]

/-- An empty text counts as no content. -/
theorem getD_joined {parts : List String} {content : Option String}
    (same : String.join parts = content.getD "") : (joined parts).getD "" = content.getD "" := by
  rw [joined, same]
  split
  · next empty => rw [empty, Option.getD_none]
  · rfl

/-! ## The two loops -/

/-- Events that are no result, before those of a stream, change nothing of how it ends. -/
theorem Ends.after {events : List StreamEvent} {rest : Streamed σ}
    {outcome : Except Raised TurnResult} (ends : Ends rest.events rest.raised outcome)
    (free : ∀ r, .result r ∉ events) :
    Ends (rest.after events).events (rest.after events).raised outcome := by
  have clean {later : List StreamEvent} (none : ∀ r, .result r ∉ later) :
      ∀ r, .result r ∉ events ++ later := by
    intro r inside
    exact (List.mem_append.mp inside).elim (free r) (none r)
  cases outcome with
  | ok result =>
    obtain ⟨raised, before, same, earlier⟩ := ends
    refine ⟨raised, events ++ before, ?_, clean earlier⟩
    rw [Streamed.after, same, List.append_assoc]
  | error exc => exact ⟨ends.1, clean ends.2⟩

/-- A stream that closes with a result ends so. -/
theorem ends_result {events : List StreamEvent} (result : TurnResult)
    (free : ∀ r, .result r ∉ events) : Ends (events ++ [.result result]) none (.ok result) :=
  ⟨rfl, events, rfl, free⟩

/-- States the model sees no difference between have staged the same. -/
theorem staged_of_alike {chat chat' : Chat σ} (alike : chat'.blanked = chat.blanked) :
    chat'.staged = chat.staged := by
  have same : chat'.blanked.staged = chat.blanked.staged := congrArg Chat.staged alike
  exact same

/-- From states the model sees no difference between, a streamed turn goes as the turn at once. -/
theorem streamRounds_ends {script : Nat → Except Raised Response} {streaming : Nat → Streaming}
    (split : ∀ round, Splits (streaming round) (script round)) (left round : Nat)
    (chat chat' : Chat σ) (alike : chat'.blanked = chat.blanked) :
    (streamRounds agent streaming left round chat').chat.blanked =
        (rounds agent script left round chat).1.blanked ∧
      Ends (streamRounds agent streaming left round chat').events
        (streamRounds agent streaming left round chat').raised
        (rounds agent script left round chat).2 := by
  induction left generalizing round chat chat' with
  | zero =>
    rw [streamRounds, rounds, staged_of_alike alike]
    exact ⟨alike, ends_result _ fun r => List.not_mem_nil⟩
  | succ left ih =>
    have asked : (chat'.asked (openaiToolDefinitions (!isReadOnly agent))).blanked =
        (chat.asked (openaiToolDefinitions (!isReadOnly agent))).blanked := by
      rw [Chat.blanked_asked, Chat.blanked_asked, alike]
    have staged := staged_of_alike asked
    obtain ⟨text, named, free⟩ := listen_spec (streaming round).deltas
    have cut := split round
    simp only [streamRounds, rounds]
    cases answer : script round with
    | error exc =>
      rw [answer] at cut
      have fails : (streaming round).raised = some exc := cut
      rw [fails]
      cases exc with
      | app error =>
        dsimp only
        rw [staged]
        exact ⟨asked, ends_result _ free⟩
      | argument text => exact ⟨asked, rfl, free⟩
      | other text => exact ⟨asked, rfl, free⟩
    | ok response =>
      rw [answer] at cut
      obtain ⟨whole, joins, calls⟩ := cut
      have content := joined_eq (text.trans joins)
      rw [whole]
      dsimp only
      rw [named, calls]
      by_cases done : response.toolCalls.isEmpty = true
      · rw [if_pos done, if_pos done, staged, getD_joined (text.trans joins)]
        exact ⟨asked, ends_result _ free⟩
      · rw [if_neg done, if_neg done, content]
        have said := say_alike asked response.content response.toolCalls
        obtain ⟨events, same, clean⟩ := streamCalls_eq agent response.toolCalls
          ((chat'.asked (openaiToolDefinitions (!isReadOnly agent))).say
            (.assistant (response.content.filter (· ≠ "")) response.toolCalls)) none
        obtain ⟨after, outcome⟩ := answerCalls_alike agent said response.toolCalls none
        have quiet : ∀ r, StreamEvent.result r ∉ (listen (streaming round).deltas).1 ++ events :=
          fun r inside => (List.mem_append.mp inside).elim (free r) (clean r)
        rw [same]
        -- the round at once decides how the turn goes on
        generalize answerCalls agent response.toolCalls _ none = streamed at after outcome ⊢
        generalize answerCalls agent response.toolCalls _ none = plain at after outcome ⊢
        obtain ⟨last', result⟩ := streamed
        obtain ⟨last, other⟩ := plain
        obtain rfl : result = other := outcome
        cases result with
        | error exc => exact ⟨after, rfl, quiet⟩
        | ok clarification =>
          cases clarification with
          | some question => exact ⟨after, ends_result _ quiet⟩
          | none =>
            obtain ⟨chats, ends⟩ := ih (round + 1) last last' after
            exact ⟨chats, ends.after quiet⟩

/-! ## What a turn asks for and stages -/

/-- Whether an answer of the model calls `request_clarification`. -/
def Asks : Except Raised Response → Prop
  | .error _ => False
  | .ok response => ∃ call ∈ response.toolCalls, call.name = requestClarification

/-- Taking a result asks the model for nothing. -/
theorem requests_take (chat : Chat σ) (call : Call) (result : Dispatched) :
    (chat.take call result).requests = chat.requests := by
  rcases result with fields | op | batch <;> rfl

/-- The calls of a round ask the model for nothing. -/
theorem requests_answerCalls (calls : List Call) (chat : Chat σ) (clarification : Option String) :
    (answerCalls agent calls chat clarification).1.requests = chat.requests := by
  induction calls generalizing chat clarification with
  | nil => rfl
  | cons call rest ih =>
    simp only [answerCalls]
    split
    · exact ih _ _
    · rcases dispatch agent call.name call.arguments chat.db with ⟨exc | result, db⟩
      · rfl
      · exact (ih _ _).trans (requests_take _ _ _)

/-- A round that goes on asked for no clarification. -/
theorem answerCalls_goes_on (calls : List Call) (chat : Chat σ) (clarification : Option String)
    (goes : (answerCalls agent calls chat clarification).2 = .ok none) :
    clarification = none ∧ ∀ call ∈ calls, call.name ≠ requestClarification := by
  induction calls generalizing chat clarification with
  | nil => exact ⟨Except.ok.inj goes, fun call inside => absurd inside List.not_mem_nil⟩
  | cons call rest ih =>
    simp only [answerCalls] at goes
    split at goes
    · cases (ih _ _ goes).1
    next other =>
      rcases dispatched : dispatch agent call.name call.arguments chat.db with ⟨exc | result, db⟩
      · rw [dispatched] at goes
        cases goes
      · rw [dispatched] at goes
        obtain ⟨none, later⟩ := ih _ _ goes
        exact ⟨none, List.forall_mem_cons.mpr ⟨other, later⟩⟩

/-- The rounds made are counted, and one that asks for a clarification ends the turn without
operations. -/
theorem rounds_made (script : Nat → Except Raised Response) (left round : Nat) (chat : Chat σ) :
    ∃ made ≤ left,
      (rounds agent script left round chat).1.requests.length = chat.requests.length + made ∧
      ∀ result, (rounds agent script left round chat).2 = .ok result →
        ∀ k < made, Asks (script (round + k)) → result.operations = [] := by
  induction left generalizing round chat with
  | zero => exact ⟨0, Nat.le_refl 0, rfl, fun result _ k below => absurd below (Nat.not_lt_zero k)⟩
  | succ left ih =>
    have asked (tools : List String) :
        (chat.asked tools).requests.length = chat.requests.length + 1 := List.length_append
    simp only [rounds]
    cases answer : script round with
    | error exc =>
      have silent : ∀ k < 1, ¬Asks (script (round + k)) := by
        intro k below asks
        rw [Nat.lt_one_iff.mp below, Nat.add_zero, answer] at asks
        exact asks
      cases exc with
      | app _ => exact ⟨1, Nat.le_add_left 1 left, asked _, fun _ _ k below asks =>
          absurd asks (silent k below)⟩
      | argument _ => exact ⟨1, Nat.le_add_left 1 left, asked _, fun _ done => (by cases done)⟩
      | other _ => exact ⟨1, Nat.le_add_left 1 left, asked _, fun _ done => (by cases done)⟩
    | ok response =>
      dsimp only
      by_cases plain : response.toolCalls.isEmpty = true
      · rw [if_pos plain]
        refine ⟨1, Nat.le_add_left 1 left, asked _, fun _ _ k below asks => ?_⟩
        rw [Nat.lt_one_iff.mp below, Nat.add_zero, answer] at asks
        obtain ⟨call, inside, -⟩ := asks
        rw [List.isEmpty_iff.mp plain] at inside
        cases inside
      · rw [if_neg plain]
        have kept := requests_answerCalls agent response.toolCalls
          ((chat.asked (openaiToolDefinitions (!isReadOnly agent))).say
            (.assistant response.content response.toolCalls)) none
        have goes := answerCalls_goes_on agent response.toolCalls
          ((chat.asked (openaiToolDefinitions (!isReadOnly agent))).say
            (.assistant response.content response.toolCalls)) none
        generalize answerCalls agent response.toolCalls _ none = answered at kept goes ⊢
        obtain ⟨last, result⟩ := answered
        have count : last.requests.length = chat.requests.length + 1 :=
          (congrArg List.length kept).trans (asked _)
        cases result with
        | error exc => exact ⟨1, Nat.le_add_left 1 left, count, fun _ done => (by cases done)⟩
        | ok clarification =>
          cases clarification with
          | some question =>
            refine ⟨1, Nat.le_add_left 1 left, count, fun result done k _ _ => ?_⟩
            rw [← Except.ok.inj done]
          | none =>
            obtain ⟨made, within, total, later⟩ := ih (round + 1) last
            refine ⟨made + 1, Nat.succ_le_succ within, ?_, ?_⟩
            · dsimp only
              omega
            · intro result done k below asks
              cases k with
              | zero =>
                rw [Nat.add_zero, answer] at asks
                obtain ⟨call, inside, named⟩ := asks
                exact absurd named ((goes rfl).2 call inside)
              | succ k =>
                apply later result done k (Nat.lt_of_succ_lt_succ below)
                rwa [Nat.add_assoc, Nat.add_comm 1 k]

variable {agent}

/-- What an exception becomes is no draft. -/
theorem caught_payload {name : String} {exc : Raised} {result : Dispatched}
    (done : caught name exc = .ok result) : ∃ fields, result = .payload fields := by
  cases exc with
  | app error => exact ⟨_, (Except.ok.inj done).symm⟩
  | argument text => exact ⟨_, (Except.ok.inj done).symm⟩
  | other text => cases done

/-- A tool drafts nothing for a user who only reads. -/
theorem dispatch_readOnly (reads : isReadOnly agent = true) {name : String} {arguments : Arguments}
    {db : σ} {result : Dispatched} (done : (dispatch agent name arguments db).1 = .ok result) :
    ∃ fields, result = .payload fields := by
  unfold dispatch at done
  cases found : getTool name with
  | none =>
    rw [found] at done
    exact ⟨_, (Except.ok.inj done).symm⟩
  | some spec =>
    rw [found] at done
    dsimp only at done
    cases kind : spec.kind with
    | clarify =>
      rw [kind] at done
      exact ⟨_, (Except.ok.inj done).symm⟩
    | write =>
      rw [kind] at done
      simp only [reads, ↓reduceIte] at done
      exact ⟨_, (Except.ok.inj done).symm⟩
    | read =>
      rw [kind] at done
      dsimp only at done
      cases ran : agent.tools.read name arguments db with
      | mk outcome db =>
        rw [ran] at done
        cases outcome with
        | error exc => exact caught_payload done
        | ok fields => exact ⟨_, (Except.ok.inj done).symm⟩

/-- The calls of a round stage nothing for a user who only reads. -/
theorem answerCalls_readOnly (reads : isReadOnly agent = true) (calls : List Call) (chat : Chat σ)
    (clarification : Option String) :
    (answerCalls agent calls chat clarification).1.staged = chat.staged := by
  induction calls generalizing chat clarification with
  | nil => rfl
  | cons call rest ih =>
    simp only [answerCalls]
    split
    · exact ih _ _
    · cases ran : dispatch agent call.name call.arguments chat.db with
      | mk outcome db =>
        cases outcome with
        | error exc => rfl
        | ok result =>
          obtain ⟨fields, rfl⟩ := dispatch_readOnly reads (congrArg Prod.fst ran)
          exact ih _ _

/-- The rounds of a user who only reads stage nothing and return nothing staged. -/
theorem rounds_readOnly (reads : isReadOnly agent = true) (script : Nat → Except Raised Response)
    (left round : Nat) (chat : Chat σ) (clean : chat.staged = []) :
    (rounds agent script left round chat).1.staged = [] ∧
      ∀ result, (rounds agent script left round chat).2 = .ok result → result.operations = [] := by
  induction left generalizing round chat with
  | zero =>
    refine ⟨clean, fun result done => ?_⟩
    rw [← Except.ok.inj done]
    exact clean
  | succ left ih =>
    simp only [rounds]
    cases script round with
    | error exc =>
      cases exc with
      | app _ =>
        refine ⟨clean, fun result done => ?_⟩
        rw [← Except.ok.inj done]
        exact clean
      | argument _ => exact ⟨clean, fun _ done => (by cases done)⟩
      | other _ => exact ⟨clean, fun _ done => (by cases done)⟩
    | ok response =>
      dsimp only
      by_cases plain : response.toolCalls.isEmpty = true
      · rw [if_pos plain]
        refine ⟨clean, fun result done => ?_⟩
        rw [← Except.ok.inj done]
        exact clean
      · rw [if_neg plain]
        have kept := answerCalls_readOnly reads response.toolCalls
          ((chat.asked (openaiToolDefinitions (!isReadOnly agent))).say
            (.assistant response.content response.toolCalls)) none
        generalize answerCalls agent response.toolCalls _ none = answered at kept ⊢
        obtain ⟨last, result⟩ := answered
        have empty : last.staged = [] := kept.trans clean
        cases result with
        | error exc => exact ⟨empty, fun _ done => (by cases done)⟩
        | ok clarification =>
          cases clarification with
          | some question =>
            refine ⟨empty, fun result done => ?_⟩
            rw [← Except.ok.inj done]
          | none => exact ih (round + 1) last empty

/-! ## The turn -/

variable (agent)

/-- The streamed turn equals the plain one. Its events end in the result of the turn at once, and
in no other, or both raise the same; the same is staged, in the same order, and the model is sent
the same but for an empty content. At most six rounds are made; a turn with a round that asks for a
clarification yields no operations; and nothing is staged for a user who only reads. -/
theorem streamed_turn {script : Nat → Except Raised Response} {streaming : Nat → Streaming}
    (split : ∀ round, Splits (streaming round) (script round)) (db : σ) (content : String)
    (history : List (String × String)) :
    Ends (runTurnStream agent streaming db content history).events
        (runTurnStream agent streaming db content history).raised
        (runTurn agent script db content history).2 ∧
      (runTurnStream agent streaming db content history).chat.blanked =
        (runTurn agent script db content history).1.blanked ∧
      (runTurn agent script db content history).1.requests.length ≤ 6 ∧
      (runTurnStream agent streaming db content history).chat.requests.length ≤ 6 ∧
      (∀ result, (runTurn agent script db content history).2 = .ok result →
        ∀ round < (runTurn agent script db content history).1.requests.length,
          Asks (script round) → result.operations = []) ∧
      (agent.role = .user →
        (runTurn agent script db content history).1.staged = [] ∧
        (runTurnStream agent streaming db content history).chat.staged = [] ∧
        ∀ result, (runTurn agent script db content history).2 = .ok result →
          result.operations = []) := by
  by_cases unset : agent.isConfigured = false
  · rw [runTurn, runTurnStream, if_pos unset, if_pos unset]
    refine ⟨⟨rfl, [], rfl, fun r => List.not_mem_nil⟩, rfl, Nat.zero_le 6, Nat.zero_le 6, ?_,
      fun _ => ⟨rfl, rfl, ?_⟩⟩
    · exact fun _ _ round below => absurd below (Nat.not_lt_zero round)
    · intro result done
      rw [← Except.ok.inj done]
  · rw [runTurn, runTurnStream, if_neg unset, if_neg unset]
    obtain ⟨alike, ends⟩ := streamRounds_ends agent split maxRounds 0
      (opened agent db content history) (opened agent db content history) rfl
    obtain ⟨made, within, count, asked⟩ :=
      rounds_made agent script maxRounds 0 (opened agent db content history)
    have same := congrArg (fun chat => chat.requests.length) alike
    simp only [Chat.blanked, List.length_map] at same
    have total :
        (rounds agent script maxRounds 0 (opened agent db content history)).1.requests.length =
          made := count.trans (Nat.zero_add made)
    refine ⟨ends, alike, ?_, ?_, ?_, fun reads => ?_⟩
    · rw [total]
      exact within
    · rw [same, total]
      exact within
    · intro result done round below asks
      rw [total] at below
      exact asked result done round below ((Nat.zero_add round).symm ▸ asks)
    · have readOnly : isReadOnly agent = true := decide_eq_true reads
      obtain ⟨empty, none⟩ := rounds_readOnly readOnly script maxRounds 0
        (opened agent db content history) rfl
      exact ⟨empty, (staged_of_alike alike).trans empty, none⟩

/-! ## A sample -/

/-- The draft of an archived task. -/
def sampleDraft : StagedOperation where
  operationType := .update
  entityType := "plan_task"
  entityId := some 7
  entityLabel := some "Launch post"
  fieldChanges := none
  payload := []
  baseSnapshot := none
  requiredCapability := none
  requiresAdmin := false

/-- A manager whose write tools all draft that. -/
def sampleAgent : Agent Unit where
  role := .manager
  isConfigured := true
  template := "You assist a client."
  clientName := none
  today := "2026-01-05"
  str _ := "a value"
  tools := ⟨fun _ _ db => (.ok [], db), fun _ _ db => (.ok (.operation sampleDraft), db)⟩

/-- A call of a write tool. -/
def sampleCall : Call := ⟨"call-1", "propose_archive_plan_task", [("task_id", .str "7")]⟩

/-- A round that drafts, and rounds that reply. -/
def sampleScript : Nat → Except Raised Response
  | 0 => .ok ⟨some "One moment.", [sampleCall]⟩
  | _ => .ok ⟨some "Drafted.", []⟩

/-- The same answers in pieces. -/
def sampleStreaming : Nat → Streaming
  | 0 => ⟨[⟨some "One ", none⟩, ⟨none, some sampleCall⟩, ⟨some "", none⟩, ⟨some "moment.", none⟩],
      none⟩
  | _ => ⟨[⟨some "Draf", none⟩, ⟨some "ted.", none⟩], none⟩

/-- A streamed turn ends in the reply and the draft of the turn at once. -/
theorem sample_streamed : ∃ before,
    (runTurnStream sampleAgent sampleStreaming () "Archive the launch post." []).events =
      before ++ [.result ⟨"Drafted.", [sampleDraft]⟩] := by
  have split : ∀ round, Splits (sampleStreaming round) (sampleScript round) := by
    intro round
    cases round with
    | zero => exact ⟨rfl, by decide, rfl⟩
    | succ round => exact ⟨rfl, (by decide : String.join ["Draf", "ted."] = "Drafted."), rfl⟩
  have ends := (streamed_turn sampleAgent split () "Archive the launch post." []).1
  have plain : (runTurn sampleAgent sampleScript () "Archive the launch post." []).2 =
      .ok ⟨"Drafted.", [sampleDraft]⟩ := by decide
  rw [plain] at ends
  obtain ⟨-, before, same, -⟩ := ends
  exact ⟨before, same⟩

end MarketingOS.CommandAgent
