import MarketingOS.Core.Middleware

/-!
# What the application receives

Buffering the body of a request keeps every message for the application, in order, and what it
captures is the complete body unless it is over the cap or the client went away.
-/
namespace MarketingOS.AuditMiddleware

/-! ## Replay -/

/-- The next messages the application receives, up to a number of them. -/
def Replay.received : Nat → Replay → List ReceiveMessage
  | 0, _ => []
  | n + 1, r =>
    match r.receive with
    | none => []
    | some (message, later) => message :: later.received n

/-- A replay returns the buffered messages that are left, then those of the original. -/
theorem Replay.received_eq (n : Nat) (r : Replay) :
    r.received n = (r.messages.drop r.index ++ r.source).take n := by
  induction n generalizing r with
  | zero => rfl
  | succ n ih =>
    unfold Replay.received Replay.receive
    cases buffered : r.messages[r.index]? with
    | some message =>
      have front : r.messages.drop r.index = message :: r.messages.drop (r.index + 1) := by
        obtain ⟨bound, same⟩ := List.getElem?_eq_some_iff.mp buffered
        rw [List.drop_eq_getElem_cons bound, same]
      simp only [ih, front, List.cons_append, List.take_succ_cons]
    | none =>
      have done : r.messages.drop r.index = [] :=
        List.drop_eq_nil_of_le (List.getElem?_eq_none_iff.mp buffered)
      cases left : r.source with
      | nil => simp [done]
      | cons message rest =>
        simp only [ih, done, List.nil_append, List.take_succ_cons]

/-! ## The loop -/

/-- A message after which more of the body comes. -/
def Continues (message : ReceiveMessage) : Prop :=
  message.type = "http.request" ∧ message.moreBody = some true

instance (message : ReceiveMessage) : Decidable (Continues message) :=
  inferInstanceAs (Decidable (_ ∧ _))

/-- The complete body of a request: its chunks up to the first message that says no more comes. -/
def completeBody : List ReceiveMessage → Option (List UInt8)
  | [] => none
  | message :: rest =>
    if message.type ≠ "http.request" then none
    else if message.moreBody.getD false = false then some (chunk message)
    else (completeBody rest).map fun later => chunk message ++ later

variable {cap : Nat} {messages source : List ReceiveMessage} {body captured : List UInt8} {r : Replay}

/-- A message that ends the body says so, or says nothing. -/
theorem not_continues {message : ReceiveMessage} (request : message.type = "http.request") :
    ¬Continues message ↔ message.moreBody.getD false = false := by
  unfold Continues
  cases message.moreBody with
  | none => simp
  | some more => cases more <;> simp [request]

/-- The loop loses no message and puts none out of order. -/
theorem bufferLoop_messages (done : bufferLoop cap messages body source = some (captured, r)) :
    r.index = 0 ∧ r.messages ++ r.source = messages ++ source := by
  induction source generalizing messages body with
  | nil => cases done
  | cons message rest ih =>
    rw [bufferLoop] at done
    split at done
    · obtain ⟨-, rfl⟩ := Prod.mk.inj (Option.some.inj done)
      exact ⟨rfl, by simp⟩
    · split at done
      · obtain ⟨-, rfl⟩ := Prod.mk.inj (Option.some.inj done)
        exact ⟨rfl, by simp⟩
      · obtain ⟨start, same⟩ := ih done
        exact ⟨start, by simp [same]⟩

/-- What the loop captures: the rest of the body, more than the cap, or what came before a client
went away. -/
theorem bufferLoop_body (done : bufferLoop cap messages body source = some (captured, r)) :
    (completeBody source).map (body ++ ·) = some captured ∨ cap < captured.length ∨
      ∃ message ∈ r.messages, message.type ≠ "http.request" := by
  induction source generalizing messages body with
  | nil => cases done
  | cons message rest ih =>
    rw [bufferLoop] at done
    split at done
    · next gone =>
      obtain ⟨-, rfl⟩ := Prod.mk.inj (Option.some.inj done)
      exact .inr (.inr ⟨message, by simp, gone⟩)
    · next request =>
      split at done
      · next ends =>
        obtain ⟨rfl, rfl⟩ := Prod.mk.inj (Option.some.inj done)
        rcases ends with last | long
        · refine .inl ?_
          rw [completeBody, if_neg request, if_pos last, Option.map_some]
        · exact .inr (.inl long)
      · next goes =>
        have more : message.moreBody.getD false ≠ false := fun last => goes (.inl last)
        rcases ih done with whole | long | gone
        · refine .inl ?_
          rw [completeBody, if_neg request, if_neg more, Option.map_map, ← whole]
          congr 1
          funext later
          simp
        · exact .inr (.inl long)
        · exact .inr (.inr gone)

/-- The loop waits exactly while every message says more comes and they stay within the cap. -/
theorem bufferLoop_none (short : body.length ≤ cap) :
    bufferLoop cap messages body source = none ↔
      (∀ message ∈ source, Continues message) ∧ (body ++ source.flatMap chunk).length ≤ cap := by
  induction source generalizing messages body with
  | nil => simp [bufferLoop, short]
  | cons message rest ih =>
    rw [bufferLoop, List.flatMap_cons, ← List.append_assoc, List.forall_mem_cons]
    split
    · next gone =>
      have ends : ¬Continues message := fun more => gone more.1
      simp [ends]
    · next request =>
      rw [Decidable.not_not] at request
      split
      · next ends =>
        rcases ends with last | long
        · have ends : ¬Continues message := (not_continues request).mpr last
          simp [ends]
        · have longer : ¬(body ++ chunk message ++ rest.flatMap chunk).length ≤ cap := by
            rw [List.length_append]
            omega
          exact ⟨fun waits => (by cases waits), fun both => absurd both.2 longer⟩
      · next goes =>
        rw [not_or, Nat.not_lt] at goes
        have more : Continues message :=
          Decidable.not_not.mp fun ends => goes.1 ((not_continues request).mp ends)
        rw [ih goes.2]
        simp [more]

/-- What buffering captures, and what it leaves to receive. -/
theorem bufferRequestBody_some (done : bufferRequestBody cap source = some (captured, r)) :
    (∀ n, r.received n = source.take n) ∧
      (completeBody source = some captured ∨ cap < captured.length ∨
        ∃ message ∈ r.messages, message.type ≠ "http.request") := by
  obtain ⟨start, same⟩ := bufferLoop_messages done
  have body := bufferLoop_body done
  simp only [List.nil_append, Option.map_id'] at body
  refine ⟨fun n => ?_, body⟩
  rw [Replay.received_eq, start, List.drop_zero, same, List.nil_append]

/-- No diff is taken from a body that is over the cap. -/
theorem length_of_changesFromBody {Number : Type} {tables : TextTables} {body : RequestBody Number}
    (made : (changesFromBody tables body).isSome) : body.size ≤ maxRequestPeek := by
  rw [← Nat.not_lt]
  intro long
  rw [changesFromBody, if_pos (.inr long)] at made
  cases made

/-- **Buffering is invisible.** The buffer waits exactly while every message says more comes and
they stay within the cap. Once it is done, the application receives the original messages, each once
and in order, and what is captured is the complete body, is longer than the cap, or the client went
away; a diff is taken from a complete body or from one whose client went away. -/
theorem buffering_invisible (cap : Nat) (source : List ReceiveMessage) :
    (bufferRequestBody cap source = none ↔
      (∀ message ∈ source, Continues message) ∧ (source.flatMap chunk).length ≤ cap) ∧
    (∀ captured r, bufferRequestBody cap source = some (captured, r) →
      (∀ n, r.received n = source.take n) ∧
      (completeBody source = some captured ∨ cap < captured.length ∨
        ∃ message ∈ r.messages, message.type ≠ "http.request")) ∧
    ∀ method json captured r, appReceive method json source = some (captured, r) →
      (∀ n, r.received n = source.take n) ∧
      ∀ (Number : Type) (tables : TextTables) (decode : List UInt8 → Option (JsonTree Number)),
        (changesFromBody tables ⟨captured.length, decode captured⟩).isSome →
          completeBody source = some captured ∨
            ∃ message ∈ r.messages, message.type ≠ "http.request" := by
  refine ⟨bufferLoop_none (Nat.zero_le cap), fun captured r => bufferRequestBody_some, ?_⟩
  intro method json captured r chosen
  rw [appReceive] at chosen
  split at chosen
  · obtain ⟨received, body⟩ := bufferRequestBody_some chosen
    refine ⟨received, fun Number tables decode made => ?_⟩
    have short := length_of_changesFromBody made
    exact body.imp_right fun either => either.resolve_left (Nat.not_lt.mpr short)
  · obtain ⟨rfl, rfl⟩ := Prod.mk.inj (Option.some.inj chosen)
    refine ⟨fun n => Replay.received_eq n _, fun Number tables decode made => ?_⟩
    cases made

end MarketingOS.AuditMiddleware
