import MarketingOS.Services.Alert
import Mathlib.Data.List.Nodup

/-!
# Alert reconciliation

An evaluation is one rewrite of the alerts followed by the new ones: an alert that holds a key is
brought up to date with the finding of that key, or resolved when there is none. That is so while no
two live alerts of a client hold one key, which every step keeps except one that acknowledges a
resolved alert whose key has been opened anew.
-/
namespace MarketingOS.AlertService

variable {F : Type} {fl : Floats F}

/-! ## Loops over keyed entries -/

/-- A loop of which one turn at most concerns a value does what that turn does. -/
theorem foldl_single {ξ ρ κ : Type} [DecidableEq κ] {key : ξ → κ} (k : κ) (step : ρ → ξ → ρ)
    (mine : ρ → Prop) (keeps : ∀ row x, mine row → mine (step row x)) {entries : List ξ}
    (skips : ∀ x ∈ entries, ∀ row, mine row → key x ≠ k → step row x = row)
    (distinct : (entries.map key).Nodup) {row : ρ} (own : mine row) :
    entries.foldl step row =
      match entries.find? fun x => decide (key x = k) with
      | some x => step row x
      | none => row := by
  induction entries generalizing row with
  | nil => rfl
  | cons x rest ih =>
    obtain ⟨fresh, distinct⟩ := List.nodup_cons.mp distinct
    have later := ih (fun other inside => skips other (List.mem_cons_of_mem _ inside)) distinct
      (keeps row x own)
    rw [List.foldl_cons, later, List.find?_cons]
    by_cases same : key x = k
    · have absent : rest.find? (fun x => decide (key x = k)) = none := by
        rw [List.find?_eq_none]
        intro other inside hit
        exact fresh (same ▸ of_decide_eq_true hit ▸ List.mem_map_of_mem inside)
      rw [absent, decide_eq_true same]
    · rw [skips x List.mem_cons_self row own same, decide_eq_false same]

/-- A loop whose turns all leave a value alone. -/
theorem foldl_idle {ξ ρ : Type} {step : ρ → ξ → ρ} {entries : List ξ} {row : ρ}
    (idle : ∀ x ∈ entries, step row x = row) : entries.foldl step row = row := by
  induction entries with
  | nil => rfl
  | cons x rest ih =>
    rw [List.foldl_cons, idle x List.mem_cons_self]
    exact ih fun other inside => idle other (List.mem_cons_of_mem _ inside)

/-- Rewriting all rows turn by turn rewrites each row by all turns. -/
theorem foldl_map_rows {ξ ρ : Type} (step : ρ → ξ → ρ) (entries : List ξ) (rows : List ρ) :
    entries.foldl (fun rows x => rows.map fun row => step row x) rows =
      rows.map fun row => entries.foldl step row := by
  induction entries generalizing rows with
  | nil => simp
  | cons x rest ih =>
    rw [List.foldl_cons, ih, List.map_map]
    rfl

/-! ## What the tables hold -/

/-- An alert of a client that is live under a key. -/
def Alert.Holds (clientId : Uuid) (k : String) (a : Alert F) : Prop :=
  a.clientId = clientId ∧ a.Live ∧ a.key = some k

/-- Alerts have numbers of their own, below the next one, and no two live alerts of a client hold
one key. -/
structure Sound (s : World F) : Prop where
  distinct : (s.alerts.map Alert.id).Nodup
  fresh : ∀ a ∈ s.alerts, a.id < s.nextId
  single : ∀ a ∈ s.alerts, ∀ b ∈ s.alerts, ∀ clientId k,
    a.Holds clientId k → b.Holds clientId k → a = b

section Live

variable {s : World F} (sound : Sound s) {clientId : Uuid}

/-- What is listed in `live`. -/
theorem mem_pairs {k : String} {id : Nat} :
    (k, id) ∈ ((s.liveForClient clientId).filterMap fun a => a.key.map fun k => (k, a.id)) ↔
      ∃ a ∈ s.alerts, a.Holds clientId k ∧ a.id = id := by
  simp only [World.liveForClient, List.mem_filterMap, List.mem_filter, decide_eq_true_eq,
    Option.map_eq_some_iff, Prod.mk.injEq]
  constructor
  · rintro ⟨a, ⟨inside, own, live⟩, k', keyed, rfl, rfl⟩
    exact ⟨a, inside, ⟨own, live, keyed⟩, rfl⟩
  · rintro ⟨a, inside, ⟨own, live, keyed⟩, rfl⟩
    exact ⟨a, ⟨inside, own, live⟩, k, keyed, rfl, rfl⟩

include sound in
/-- The number under a key is that of the alert that holds it. -/
theorem live_get {k : String} {id : Nat} :
    (s.live clientId).get k = some id ↔ ∃ a ∈ s.alerts, a.Holds clientId k ∧ a.id = id := by
  constructor
  · intro found
    exact mem_pairs.mp (Dict.mem_of_get_ofList found)
  · rintro ⟨a, inside, holds, rfl⟩
    have listed := mem_pairs.mpr ⟨a, inside, holds, rfl⟩
    have known : k ∈ ((s.live clientId).entries.map Prod.fst) :=
      Dict.mem_keys_ofList.mpr (List.mem_map_of_mem listed)
    obtain ⟨found, lookup⟩ := Dict.mem_keys.mp known
    obtain ⟨b, there, also, same⟩ := mem_pairs.mp (Dict.mem_of_get_ofList lookup)
    rw [lookup, ← same, sound.single b there a inside clientId k also holds]

include sound in
/-- A stored alert is under a key exactly when it holds it. -/
theorem live_get_id {a : Alert F} (inside : a ∈ s.alerts) {k : String} :
    (s.live clientId).get k = some a.id ↔ a.Holds clientId k := by
  rw [live_get sound]
  constructor
  · rintro ⟨b, there, holds, same⟩
    rwa [← List.inj_on_of_nodup_map sound.distinct there inside same]
  · intro holds
    exact ⟨a, inside, holds, rfl⟩

include sound in
/-- A number that is not given out yet is under no key. -/
theorem live_get_fresh {k : String} {id : Nat} (unused : s.nextId ≤ id) :
    (s.live clientId).get k ≠ some id := by
  intro found
  obtain ⟨a, inside, -, rfl⟩ := (live_get sound).mp found
  exact absurd (sound.fresh a inside) (Nat.not_lt.mpr unused)

end Live

/-! ## The loops of an evaluation -/

/-- What a finding does to one alert. -/
def touch (live : Dict String Nat) (a : Alert F) (f : Finding F) : Alert F :=
  if live.get f.recKey = some a.id then a.update f else a

/-- The findings without a live alert. -/
def missing (live : Dict String Nat) (findings : List (Finding F)) : List (Finding F) :=
  findings.filter fun f => (live.get f.recKey).isNone

/-- New alerts, numbered from a number on. -/
def openFrom (clientId : Uuid) (start : Nat) (findings : List (Finding F)) : List (Alert F) :=
  (findings.zipIdx start).map fun place => place.1.alert clientId place.2

/-- The loop over the findings brings the alerts up to date and adds the new ones. -/
theorem foldl_take (clientId : Uuid) (live : Dict String Nat) (findings : List (Finding F))
    (rows late : List (Alert F)) {n : Nat} (opened updated : Nat)
    (unlisted : ∀ k id, n ≤ id → live.get k ≠ some id)
    (unlistedLate : ∀ a ∈ late, ∀ k, live.get k ≠ some a.id) :
    ∃ updated', findings.foldl (Pass.take clientId live) ⟨rows ++ late, n, opened, updated⟩ =
      ⟨rows.map (fun a => findings.foldl (touch live) a) ++
          (late ++ openFrom clientId n (missing live findings)),
        n + (missing live findings).length, opened + (missing live findings).length, updated'⟩ := by
  induction findings generalizing rows late n opened updated with
  | nil => exact ⟨updated, by simp [openFrom, missing]⟩
  | cons f rest ih =>
    rw [List.foldl_cons, Pass.take]
    cases found : live.get f.recKey with
    | some id =>
      have kept : missing live (f :: rest) = missing live rest := by simp [missing, found]
      have touched : Table.modify Alert.id id (Alert.update f) (rows ++ late) =
          (rows.map fun a => touch live a f) ++ late := by
        have lateIdle : ∀ a ∈ late, (if a.id = id then a.update f else a) = a := by
          intro a inside
          rw [if_neg]
          rintro rfl
          exact unlistedLate a inside _ found
        have each : (fun a : Alert F => if a.id = id then a.update f else a) =
            fun a => touch live a f := by
          funext a
          simp only [touch, found, Option.some.injEq, eq_comm]
        rw [Table.modify, List.map_append, List.map_congr_left lateIdle, List.map_id', each]
      obtain ⟨updated', loop⟩ :=
        ih (rows.map fun a => touch live a f) late opened (updated + 1) unlisted unlistedLate
      refine ⟨updated', ?_⟩
      simp only [touched, kept, loop, List.map_map]
      rfl
    | none =>
      have grown : missing live (f :: rest) = f :: missing live rest := by simp [missing, found]
      have untouched : ∀ a : Alert F, touch live a f = a := fun a => if_neg (by simp [found])
      obtain ⟨updated', loop⟩ := ih rows (late ++ [f.alert clientId n]) (opened + 1) updated
        (fun k id above => unlisted k id (Nat.le_of_succ_le above))
        (fun a inside k => by
          rcases List.mem_append.mp inside with old | new
          · exact unlistedLate a old k
          · rw [List.mem_singleton.mp new]
            exact unlisted k n (Nat.le_refl n))
      refine ⟨updated', ?_⟩
      have numbered : late ++ [f.alert clientId n] ++
          openFrom clientId (n + 1) (missing live rest) =
            late ++ openFrom clientId n (missing live (f :: rest)) := by
        rw [grown, openFrom, openFrom, List.zipIdx_cons, List.map_cons, List.append_assoc]
        rfl
      have folded : rows.map (fun a => (f :: rest).foldl (touch live) a) =
          rows.map fun a => rest.foldl (touch live) a :=
        List.map_congr_left fun a _ => by rw [List.foldl_cons, untouched]
      have more (m : Nat) : m + 1 + (missing live rest).length =
          m + (missing live (f :: rest)).length := by
        rw [grown, List.length_cons]
        omega
      simp only [List.append_assoc] at loop numbered ⊢
      rw [loop, numbered, folded, more, more]

/-- What an entry of `live` does to one alert after the findings. -/
def shut (findings : List (Finding F)) (a : Alert F) (entry : String × Nat) : Alert F :=
  if (findings.any fun f => decide (f.recKey = entry.1)) = false ∧ a.id = entry.2 then a.close
  else a

/-- The loop over the live alerts resolves those without a finding. -/
theorem foldl_autoResolve (findings : List (Finding F)) (entries : List (String × Nat))
    (rows : List (Alert F)) (n : Nat) :
    entries.foldl (autoResolve findings) (rows, n) =
      (rows.map (fun a => entries.foldl (shut findings) a),
        n + (entries.filter fun entry =>
          !(findings.any fun f => decide (f.recKey = entry.1))).length) := by
  induction entries generalizing rows n with
  | nil => simp
  | cons entry rest ih =>
    rw [List.foldl_cons, autoResolve]
    cases seen : findings.any fun f => decide (f.recKey = entry.1) with
    | true =>
      have idle : ∀ a : Alert F, shut findings a entry = a := fun a => if_neg (by simp [seen])
      rw [if_pos rfl, ih]
      simp [seen, idle]
    | false =>
      have each : (fun a : Alert F => if a.id = entry.2 then a.close else a) =
          fun a => shut findings a entry := by
        funext a
        simp [shut, seen]
      rw [if_neg (by simp), ih, Table.modify, each, List.map_map]
      simp [seen, Function.comp_def, Nat.add_assoc, Nat.add_comm 1]

/-! ## An evaluation as one rewrite -/

/-- The key an alert of a client holds, if it holds one. -/
def Alert.heldKey (clientId : Uuid) (a : Alert F) : Option String :=
  if a.clientId = clientId ∧ a.Live then a.key else none

/-- Holding a key, read off the key held. -/
theorem Alert.holds_iff {clientId : Uuid} {k : String} {a : Alert F} :
    a.Holds clientId k ↔ a.heldKey clientId = some k := by
  rw [heldKey]
  split
  · next both => exact ⟨fun holds => holds.2.2, fun keyed => ⟨both.1, both.2, keyed⟩⟩
  · next neither =>
    exact ⟨fun holds => absurd ⟨holds.1, holds.2.1⟩ neither, fun keyed => by cases keyed⟩

/-- What an evaluation makes of an alert. -/
def settle (clientId : Uuid) (findings : List (Finding F)) (a : Alert F) : Alert F :=
  match a.heldKey clientId with
  | none => a
  | some k =>
    match findings.find? fun f => decide (f.recKey = k) with
    | some f => a.update f
    | none => a.close

/-- A touched alert keeps its number. -/
theorem touch_id (live : Dict String Nat) (a : Alert F) (f : Finding F) :
    (touch live a f).id = a.id := by
  rw [touch]
  split <;> rfl

/-- A shut alert keeps its number. -/
theorem shut_id (findings : List (Finding F)) (a : Alert F) (entry : String × Nat) :
    (shut findings a entry).id = a.id := by
  rw [shut]
  split <;> rfl

/-- Both loops leave an alert alone whose number is not listed. -/
theorem loops_unlisted {live : Dict String Nat} (findings : List (Finding F)) {a : Alert F}
    (unlisted : ∀ k, live.get k ≠ some a.id) :
    live.entries.foldl (shut findings) (findings.foldl (touch live) a) = a := by
  have touched : findings.foldl (touch live) a = a :=
    foldl_idle fun f _ => if_neg (unlisted f.recKey)
  rw [touched]
  refine foldl_idle fun entry inside => if_neg fun both => ?_
  exact unlisted entry.1 (both.2 ▸ Dict.mem_entries.mp inside)

/-- Both loops settle a stored alert. -/
theorem loops_settle {s : World F} (sound : Sound s) {clientId : Uuid} {findings : List (Finding F)}
    (distinct : (findings.map Finding.recKey).Nodup) {a : Alert F} (inside : a ∈ s.alerts) :
    (s.live clientId).entries.foldl (shut findings)
        (findings.foldl (touch (s.live clientId)) a) = settle clientId findings a := by
  have listed (k : String) : (s.live clientId).get k = some a.id ↔ a.heldKey clientId = some k :=
    (live_get_id sound inside).trans Alert.holds_iff
  rw [settle]
  cases held : a.heldKey clientId with
  | none =>
    refine loops_unlisted findings fun k found => ?_
    rw [listed, held] at found
    cases found
  | some k =>
    have under : (s.live clientId).get k = some a.id := (listed k).mpr held
    have only {k' : String} (found : (s.live clientId).get k' = some a.id) : k' = k := by
      rw [listed, held] at found
      exact (Option.some.inj found).symm
    have touched := foldl_single k (touch (s.live clientId))
      (fun row => row.id = a.id) (fun row f own => (touch_id _ row f).trans own)
      (fun f _ row own apart => if_neg fun found => apart (only (own ▸ found))) distinct rfl
    have entry : (s.live clientId).entries.find? (fun entry => decide (entry.1 = k)) =
        some (k, a.id) := by
      obtain ⟨⟨k', id⟩, lookup, rfl⟩ := Option.map_eq_some_iff.mp under
      obtain rfl : k' = k := Table.get_key lookup
      exact lookup
    have shutAll (row : Alert F) (own : row.id = a.id) := foldl_single k (shut findings)
      (fun row => row.id = a.id)
      (fun row entry own => (shut_id _ row entry).trans own)
      (fun entry there row own apart => if_neg fun both => apart (only (by
        rw [← own, both.2]
        exact Dict.mem_entries.mp there))) (s.live clientId).distinct own
    rw [touched]
    dsimp only
    cases sought : findings.find? (fun f => decide (f.recKey = k)) with
    | some f =>
      have named : f.recKey = k := by simpa using List.find?_some sought
      have seen : (findings.any fun f => decide (f.recKey = k)) = true :=
        List.any_eq_true.mpr ⟨f, List.mem_of_find?_eq_some sought, decide_eq_true named⟩
      have updated : touch (s.live clientId) a f = a.update f := if_pos (named ▸ under)
      dsimp only
      rw [updated, shutAll (a.update f) rfl, entry]
      exact if_neg (by simp [seen])
    | none =>
      have unseen : (findings.any fun f => decide (f.recKey = k)) = false := by
        rw [List.any_eq_false]
        exact List.find?_eq_none.mp sought
      rw [shutAll a rfl, entry]
      show shut findings a (k, a.id) = a.close
      exact if_pos ⟨unseen, rfl⟩

/-- An evaluation settles the alerts and adds new ones for the findings without one. -/
theorem evaluate_eq {s : World F} (sound : Sound s) {clientId : Uuid}
    (distinct : ((s.findings fl clientId).map Finding.recKey).Nodup)
    (fits : ∀ f ∈ s.findings fl clientId, f.Fits fl) :
    ∃ result, s.evaluate fl clientId =
        .ok ({ s with
          alerts := s.alerts.map (settle clientId (s.findings fl clientId)) ++
            openFrom clientId s.nextId (missing (s.live clientId) (s.findings fl clientId))
          nextId := s.nextId + (missing (s.live clientId) (s.findings fl clientId)).length },
          result) ∧
      result.opened = (missing (s.live clientId) (s.findings fl clientId)).length ∧
      result.autoResolved = ((s.live clientId).entries.filter fun entry =>
        !((s.findings fl clientId).any fun f => decide (f.recKey = entry.1))).length := by
  obtain ⟨updated, loop⟩ := foldl_take clientId (s.live clientId) (s.findings fl clientId) s.alerts
    [] (n := s.nextId) 0 0 (fun k id above => live_get_fresh sound above)
    (fun a inside => absurd inside List.not_mem_nil)
  rw [List.append_nil, List.nil_append, Nat.zero_add] at loop
  have idle : ∀ a ∈ openFrom clientId s.nextId (missing (s.live clientId) (s.findings fl clientId)),
      (s.live clientId).entries.foldl (shut (s.findings fl clientId)) a = a := by
    intro a inside
    obtain ⟨⟨f, id⟩, placed, rfl⟩ := List.mem_map.mp inside
    refine foldl_idle fun entry there => if_neg fun both => ?_
    have above : s.nextId ≤ id := (List.mem_zipIdx placed).1
    have unlisted : (s.live clientId).get entry.1 ≠ some id := live_get_fresh sound above
    rw [Dict.mem_entries.mp there] at unlisted
    exact unlisted (congrArg some both.2.symm)
  have settled : (s.alerts.map fun a =>
      (s.findings fl clientId).foldl (touch (s.live clientId)) a).map (fun a =>
        (s.live clientId).entries.foldl (shut (s.findings fl clientId)) a) =
        s.alerts.map (settle clientId (s.findings fl clientId)) := by
    rw [List.map_map]
    exact List.map_congr_left fun a inside => loops_settle sound distinct inside
  rw [World.evaluate]
  simp only [loop, foldl_autoResolve, if_pos fits, List.map_append, settled,
    List.map_congr_left idle, List.map_id', Nat.zero_add]
  exact ⟨_, rfl, rfl, rfl⟩

/-! ## Keys of findings -/

/-- A key starts with the name of its check. -/
def checks : List String := ["cpl:", "ctr:", "budget:", "roas:"]

/-- Results of checks with the keys they are found under. -/
theorem keys_sublist {found : List (Option (Finding F) × String)}
    (named : ∀ check ∈ found, ∀ f, check.1 = some f → f.recKey = check.2) :
    (((found.map Prod.fst).filterMap id).map Finding.recKey).Sublist (found.map Prod.snd) := by
  induction found with
  | nil => exact .slnil
  | cons check rest ih =>
    have ih := ih fun other inside => named other (List.mem_cons_of_mem _ inside)
    obtain ⟨result, k⟩ := check
    cases result with
    | none => exact .cons _ ih
    | some f =>
      have key : f.recKey = k := named (some f, k) List.mem_cons_self f rfl
      rw [List.map_cons, List.filterMap_cons_some (by rfl), List.map_cons, List.map_cons, key]
      exact .cons_cons _ ih

/-- The keys of the findings of a campaign are some of those of its checks. -/
theorem keys_findingsFor (c : Campaign) :
    ((findingsFor fl c).map Finding.recKey).Sublist
      (checks.map fun check => check ++ Uuid.print c.id) := by
  have named : ∀ check ∈ [(cplFinding fl c, "cpl:" ++ Uuid.print c.id),
      (ctrFinding fl c, "ctr:" ++ Uuid.print c.id),
      (budgetFinding fl c, "budget:" ++ Uuid.print c.id),
      (roasFinding fl c, "roas:" ++ Uuid.print c.id)],
      ∀ f, check.1 = some f → f.recKey = check.2 := by
    simp only [List.forall_mem_cons, List.not_mem_nil, false_implies, implies_true, and_true]
    refine ⟨fun f found => ?_, fun f found => ?_, fun f found => ?_, fun f found => ?_⟩
    · simp only [cplFinding, Option.bind_eq_some_iff, Option.ite_none_left_eq_some,
        Option.ite_none_right_eq_some, Option.some.injEq] at found
      obtain ⟨target, -, -, -, rfl⟩ := found
      rfl
    · simp only [ctrFinding, Option.bind_eq_some_iff, Option.ite_none_left_eq_some,
        Option.ite_none_right_eq_some, Option.some.injEq] at found
      obtain ⟨target, -, -, -, rfl⟩ := found
      rfl
    · simp only [budgetFinding, Option.ite_none_left_eq_some, Option.ite_none_right_eq_some,
        Option.some.injEq] at found
      obtain ⟨-, -, rfl⟩ := found
      rfl
    · simp only [roasFinding, Option.ite_none_left_eq_some, Option.ite_none_right_eq_some,
        Option.some.injEq] at found
      obtain ⟨-, -, rfl⟩ := found
      rfl
  exact keys_sublist named

/-- Keys of two campaigns differ. -/
theorem id_of_key {left right : String} {a b : Uuid}
    (same : left ++ Uuid.print a = right ++ Uuid.print b) : a = b := by
  have chars := congrArg String.toList same
  rw [String.toList_append, String.toList_append] at chars
  have lengths : (Uuid.print a).toList.length = (Uuid.print b).toList.length := by
    simp [Uuid.print, Uuid.hyphenated]
  exact Uuid.print_injective (String.toList_inj.mp (List.append_inj_right' chars lengths))

/-- No two findings of a client have one key. -/
theorem nodup_keys (s : World F) (clientId : Uuid) :
    ((s.findings fl clientId).map Finding.recKey).Nodup := by
  have campaigns : ((s.campaignsOf clientId).map Campaign.id).Nodup := by
    rw [World.campaignsOf, List.map_reverse, List.nodup_reverse]
    exact (List.filter_sublist.map Campaign.id).nodup s.campaigns.distinct
  rw [World.findings, List.map_flatMap, List.nodup_flatMap]
  constructor
  · intro c _
    refine (keys_findingsFor c).nodup (List.Nodup.map ?_ (by decide))
    intro left right same
    exact String.append_left_inj _ |>.mp same
  · refine (List.pairwise_map.mp campaigns).imp fun {c d} apart => ?_
    intro k inC inD
    obtain ⟨left, -, rfl⟩ := List.mem_map.mp ((keys_findingsFor c).subset inC)
    obtain ⟨right, -, same⟩ := List.mem_map.mp ((keys_findingsFor d).subset inD)
    exact apart (id_of_key same).symm

/-- A finding has a key. -/
theorem key_filled {s : World F} {clientId : Uuid} {f : Finding F}
    (inside : f ∈ s.findings fl clientId) : f.recKey ≠ "" := by
  obtain ⟨c, -, found⟩ := List.mem_flatMap.mp inside
  obtain ⟨check, -, key⟩ := List.mem_map.mp
    ((keys_findingsFor c).subset (List.mem_map_of_mem found))
  rw [← key]
  intro blank
  have chars := congrArg (fun text : String => text.toList.length) blank
  simp [Uuid.print, Uuid.hyphenated] at chars

/-! ## After an evaluation -/

/-- The alerts after an evaluation, as the findings before it ask for. -/
structure Reconciled (fl : Floats F) (s : World F) (clientId : Uuid) (s' : World F) : Prop where
  /-- The keys held are those of the findings. -/
  keys : ∀ k, (∃ a ∈ s'.alerts, a.Holds clientId k) ↔ ∃ f ∈ s.findings fl clientId, f.recKey = k
  /-- One alert holds the key of a finding, with what the finding says. -/
  one : ∀ f ∈ s.findings fl clientId, ∃ a ∈ s'.alerts, a.Holds clientId f.recKey ∧
    a.severity = f.severity ∧ a.threshold = some f.threshold ∧ a.actual = some f.actual ∧
    ∀ b ∈ s'.alerts, b.Holds clientId f.recKey → b = a
  distinct : (s'.alerts.map Alert.id).Nodup
  /-- An acknowledged alert whose breach persists stays acknowledged. -/
  acknowledged : ∀ a ∈ s.alerts, a.status = .acknowledged → ∀ f ∈ s.findings fl clientId,
    a.Holds clientId f.recKey →
      ∃ a' ∈ s'.alerts, a'.id = a.id ∧ a'.Holds clientId f.recKey ∧ a'.status = .acknowledged
  /-- A key without a finding is resolved. -/
  resolved : ∀ a ∈ s.alerts, ∀ k, a.Holds clientId k →
    (∀ f ∈ s.findings fl clientId, f.recKey ≠ k) →
      ∃ a' ∈ s'.alerts, a'.id = a.id ∧ a'.status = .resolved
  /-- What was resolved before is left alone. -/
  untouched : ∀ a ∈ s.alerts, a.status = .resolved → a ∈ s'.alerts

/-- Settling keeps the number. -/
theorem settle_id (clientId : Uuid) (findings : List (Finding F)) (a : Alert F) :
    (settle clientId findings a).id = a.id := by
  rw [settle]
  split
  · rfl
  · split <;> rfl

/-- What holds a key after it is settled held it before. -/
theorem holds_of_settle {clientId other : Uuid} {findings : List (Finding F)} {a : Alert F}
    {k : String} (holds : (settle clientId findings a).Holds other k) : a.Holds other k := by
  rw [settle] at holds
  split at holds
  · exact holds
  · split at holds
    · exact holds
    · obtain ⟨-, live | live, -⟩ := holds <;> cases live

/-- An alert that holds the key of a finding is brought up to date. -/
theorem settle_of_finding {clientId : Uuid} {findings : List (Finding F)}
    (distinct : (findings.map Finding.recKey).Nodup) {f : Finding F} (inside : f ∈ findings)
    {a : Alert F} (holds : a.Holds clientId f.recKey) :
    settle clientId findings a = a.update f := by
  rw [settle, Alert.holds_iff.mp holds]
  dsimp only
  cases sought : findings.find? fun g => decide (g.recKey = f.recKey) with
  | none =>
    have none' := List.find?_eq_none.mp sought f inside
    simp at none'
  | some g =>
    have same : g.recKey = f.recKey := by simpa using List.find?_some sought
    rw [List.inj_on_of_nodup_map distinct (List.mem_of_find?_eq_some sought) inside same]

/-- An alert that holds a key without a finding is resolved. -/
theorem settle_of_none {clientId : Uuid} {findings : List (Finding F)} {a : Alert F} {k : String}
    (holds : a.Holds clientId k) (unfound : ∀ f ∈ findings, f.recKey ≠ k) :
    settle clientId findings a = a.close := by
  have none' : findings.find? (fun f => decide (f.recKey = k)) = none :=
    List.find?_eq_none.mpr fun f inside => by simpa using unfound f inside
  rw [settle, Alert.holds_iff.mp holds]
  simp only [none']

/-- A new alert. -/
theorem mem_openFrom {clientId : Uuid} {n : Nat} {findings : List (Finding F)} {a : Alert F}
    (inside : a ∈ openFrom clientId n findings) :
    ∃ f ∈ findings, ∃ id, n ≤ id ∧ id < n + findings.length ∧ a = f.alert clientId id := by
  obtain ⟨⟨f, id⟩, placed, rfl⟩ := List.mem_map.mp inside
  have bounds := List.mem_zipIdx placed
  refine ⟨f, ?_, id, bounds.1, bounds.2.1, rfl⟩
  rw [bounds.2.2]
  exact List.getElem_mem _

/-- The keys of new alerts are those of the findings. -/
theorem recKeys_openFrom (clientId : Uuid) (n : Nat) (findings : List (Finding F)) :
    (openFrom clientId n findings).map Alert.recKey = (findings.map Finding.recKey).map some := by
  have first : (findings.zipIdx n).map Prod.fst = findings := List.zipIdx_map_fst n findings
  rw [openFrom, List.map_map, List.map_map]
  conv_rhs => rw [← first, List.map_map]
  rfl

/-- The numbers of new alerts follow each other. -/
theorem ids_openFrom (clientId : Uuid) (n : Nat) (findings : List (Finding F)) :
    (openFrom clientId n findings).map Alert.id = List.range' n findings.length := by
  rw [openFrom, List.map_map, ← List.zipIdx_map_snd n findings]
  rfl

/-- The alerts after an evaluation. -/
def World.settled (fl : Floats F) (s : World F) (clientId : Uuid) : World F :=
  { s with
    alerts := s.alerts.map (settle clientId (s.findings fl clientId)) ++
      openFrom clientId s.nextId (missing (s.live clientId) (s.findings fl clientId))
    nextId := s.nextId + (missing (s.live clientId) (s.findings fl clientId)).length }

section Settled

variable {s : World F} (sound : Sound s) {clientId : Uuid}

/-- An alert after an evaluation is a settled one or a new one. -/
theorem mem_settled {a : Alert F} : a ∈ (s.settled fl clientId).alerts ↔
    (∃ old ∈ s.alerts, settle clientId (s.findings fl clientId) old = a) ∨
      a ∈ openFrom clientId s.nextId (missing (s.live clientId) (s.findings fl clientId)) := by
  rw [World.settled, List.mem_append, List.mem_map]

/-- A settled alert is there after an evaluation. -/
theorem settle_mem {a : Alert F} (inside : a ∈ s.alerts) :
    settle clientId (s.findings fl clientId) a ∈ (s.settled fl clientId).alerts :=
  mem_settled.mpr (.inl ⟨a, inside, rfl⟩)

/-- The key of a new alert. -/
theorem holds_alert {f : Finding F} (inside : f ∈ s.findings fl clientId) {id : Nat}
    {other : Uuid} {k : String} :
    (f.alert clientId id).Holds other k ↔ other = clientId ∧ k = f.recKey := by
  have keyed : (f.alert clientId id).key = some f.recKey := by
    simp [Alert.key, Finding.alert, key_filled inside]
  constructor
  · rintro ⟨own, -, held⟩
    exact ⟨own.symm, Option.some.inj (held.symm.trans keyed)⟩
  · rintro ⟨rfl, rfl⟩
    exact ⟨rfl, .inl rfl, keyed⟩

include sound in
/-- A finding has no live alert exactly when nothing holds its key. -/
theorem mem_missing {f : Finding F} :
    f ∈ missing (s.live clientId) (s.findings fl clientId) ↔
      f ∈ s.findings fl clientId ∧ ∀ a ∈ s.alerts, ¬a.Holds clientId f.recKey := by
  rw [missing, List.mem_filter, Option.isNone_iff_eq_none]
  refine and_congr_right fun inside => ⟨fun absent a there holds => ?_, fun unheld => ?_⟩
  · rw [(live_get_id sound there).mpr holds] at absent
    cases absent
  · cases found : (s.live clientId).get f.recKey with
    | none => rfl
    | some id =>
      obtain ⟨a, there, holds, -⟩ := (live_get sound).mp found
      exact absurd holds (unheld a there)

include sound in
/-- After an evaluation no two live alerts hold one key. -/
theorem sound_settled : Sound (s.settled fl clientId) := by
  have nodup : ((s.findings fl clientId).map Finding.recKey).Nodup := nodup_keys s clientId
  have newKeys : ((openFrom clientId s.nextId
      (missing (s.live clientId) (s.findings fl clientId))).map Alert.recKey).Nodup := by
    rw [recKeys_openFrom]
    exact ((List.filter_sublist.map Finding.recKey).nodup nodup).map fun _ _ => Option.some.inj
  have oldNew {a b : Alert F} {other : Uuid} {k : String} (inside : a ∈ s.alerts)
      (old : (settle clientId (s.findings fl clientId) a).Holds other k)
      (fresh : b ∈ openFrom clientId s.nextId
        (missing (s.live clientId) (s.findings fl clientId)))
      (new : b.Holds other k) : False := by
    obtain ⟨f, absent, id, -, -, rfl⟩ := mem_openFrom fresh
    obtain ⟨found, unheld⟩ := (mem_missing sound).mp absent
    obtain ⟨rfl, rfl⟩ := (holds_alert found).mp new
    exact unheld a inside (holds_of_settle old)
  refine ⟨?_, ?_, ?_⟩
  · have kept : (s.alerts.map (settle clientId (s.findings fl clientId))).map Alert.id =
        s.alerts.map Alert.id := by
      rw [List.map_map]
      exact List.map_congr_left fun a _ => settle_id _ _ a
    rw [World.settled, List.map_append, kept, ids_openFrom]
    refine sound.distinct.append List.nodup_range' fun id old new => ?_
    obtain ⟨a, inside, rfl⟩ := List.mem_map.mp old
    have above := (List.mem_range'_1.mp new).1
    have below := sound.fresh a inside
    omega
  · intro a inside
    rcases mem_settled.mp inside with ⟨old, there, rfl⟩ | new
    · rw [settle_id]
      exact Nat.lt_add_right _ (sound.fresh old there)
    · obtain ⟨f, -, id, -, below, rfl⟩ := mem_openFrom new
      exact below
  · intro a inA b inB other k holdsA holdsB
    rcases mem_settled.mp inA with ⟨old, there, rfl⟩ | new
    · rcases mem_settled.mp inB with ⟨old', there', rfl⟩ | new'
      · rw [sound.single old there old' there' other k (holds_of_settle holdsA)
          (holds_of_settle holdsB)]
      · exact (oldNew there holdsA new' holdsB).elim
    · rcases mem_settled.mp inB with ⟨old', there', rfl⟩ | new'
      · exact (oldNew there' holdsB new holdsA).elim
      · refine List.inj_on_of_nodup_map newKeys new new' ?_
        obtain ⟨f, absent, id, -, -, rfl⟩ := mem_openFrom new
        obtain ⟨g, absent', id', -, -, rfl⟩ := mem_openFrom new'
        have left := ((holds_alert ((mem_missing sound).mp absent).1).mp holdsA).2
        have right := ((holds_alert ((mem_missing sound).mp absent').1).mp holdsB).2
        exact congrArg some (left.symm.trans right)

include sound in
/-- After an evaluation the key of every finding is held, by an alert with what it says. -/
theorem held_settled {f : Finding F} (inside : f ∈ s.findings fl clientId) :
    ∃ a ∈ (s.settled fl clientId).alerts, a.Holds clientId f.recKey ∧
      a.severity = f.severity ∧ a.threshold = some f.threshold ∧ a.actual = some f.actual := by
  by_cases held : ∃ a ∈ s.alerts, a.Holds clientId f.recKey
  · obtain ⟨a, there, holds⟩ := held
    have updated := settle_of_finding (nodup_keys s clientId) inside holds
    exact ⟨a.update f, updated ▸ settle_mem there, holds, rfl, rfl, rfl⟩
  · have absent : f ∈ missing (s.live clientId) (s.findings fl clientId) :=
      (mem_missing sound).mpr ⟨inside, fun a there holds => held ⟨a, there, holds⟩⟩
    obtain ⟨place, bound, at'⟩ := List.mem_iff_getElem.mp absent
    refine ⟨f.alert clientId (s.nextId + place), mem_settled.mpr (.inr ?_),
      (holds_alert inside).mpr ⟨rfl, rfl⟩, rfl, rfl, rfl⟩
    refine List.mem_map.mpr ⟨(f, s.nextId + place), ?_, rfl⟩
    rw [List.mem_zipIdx_iff_le_and_getElem?_sub]
    refine ⟨Nat.le_add_right _ _, ?_⟩
    rw [Nat.add_sub_cancel_left, List.getElem?_eq_getElem bound, at']

include sound in
/-- An evaluation reconciles. -/
theorem reconciled_settled : Reconciled fl s clientId (s.settled fl clientId) := by
  have nodup : ((s.findings fl clientId).map Finding.recKey).Nodup := nodup_keys s clientId
  have after : Sound (s.settled fl clientId) := sound_settled sound
  refine ⟨fun k => ⟨?_, ?_⟩, fun f inside => ?_, after.distinct, ?_, ?_, ?_⟩
  · rintro ⟨a, inside, holds⟩
    rcases mem_settled.mp inside with ⟨old, there, rfl⟩ | new
    · have before := holds_of_settle holds
      by_contra unfound
      have unfound : ∀ f ∈ s.findings fl clientId, f.recKey ≠ k :=
        fun f inside same => unfound ⟨f, inside, same⟩
      rw [settle_of_none before unfound] at holds
      obtain ⟨-, live | live, -⟩ := holds <;> cases live
    · obtain ⟨f, absent, id, -, -, rfl⟩ := mem_openFrom new
      have found := ((mem_missing sound).mp absent).1
      exact ⟨f, found, ((holds_alert found).mp holds).2.symm⟩
  · rintro ⟨f, inside, rfl⟩
    obtain ⟨a, there, holds, -⟩ := held_settled sound inside
    exact ⟨a, there, holds⟩
  · obtain ⟨a, there, holds, severity, threshold, actual⟩ := held_settled sound inside
    exact ⟨a, there, holds, severity, threshold, actual,
      fun b thereB holdsB => after.single b thereB a there clientId _ holdsB holds⟩
  · intro a there status f inside holds
    have updated := settle_of_finding nodup inside holds
    exact ⟨a.update f, updated ▸ settle_mem there, rfl, holds, status⟩
  · intro a there k holds unfound
    exact ⟨a.close, settle_of_none holds unfound ▸ settle_mem there, rfl, rfl⟩
  · intro a there status
    have unheld : a.heldKey clientId = none := by
      refine if_neg fun both => ?_
      obtain live | live := both.2 <;> rw [status] at live <;> cases live
    have same : settle clientId (s.findings fl clientId) a = a := by rw [settle, unheld]
    exact same ▸ settle_mem there

include sound in
/-- What an evaluation does, and what it counts. -/
theorem evaluate_settled (fits : ∀ f ∈ s.findings fl clientId, f.Fits fl) :
    ∃ result, s.evaluate fl clientId = .ok (s.settled fl clientId, result) ∧
      result.opened = (missing (s.live clientId) (s.findings fl clientId)).length ∧
      result.autoResolved = ((s.live clientId).entries.filter fun entry =>
        !((s.findings fl clientId).any fun f => decide (f.recKey = entry.1))).length :=
  evaluate_eq sound (nodup_keys s clientId) fits

include sound in
/-- Evaluating again opens nothing and resolves nothing. -/
theorem evaluate_again (fits : ∀ f ∈ s.findings fl clientId, f.Fits fl) :
    ∃ s'' again, (s.settled fl clientId).evaluate fl clientId = .ok (s'', again) ∧
      again.opened = 0 ∧ again.autoResolved = 0 := by
  have after : Sound (s.settled fl clientId) := sound_settled sound
  have fits' : ∀ f ∈ (s.settled fl clientId).findings fl clientId, f.Fits fl := fits
  obtain ⟨again, evaluated, opened, resolved⟩ := evaluate_settled after fits'
  refine ⟨_, again, evaluated, opened.trans ?_, resolved.trans ?_⟩
  · rw [List.length_eq_zero_iff, List.eq_nil_iff_forall_not_mem]
    intro f absent
    obtain ⟨found, unheld⟩ := (mem_missing after).mp absent
    obtain ⟨a, there, holds, -⟩ := held_settled sound found
    exact unheld a there holds
  · rw [List.length_eq_zero_iff, List.filter_eq_nil_iff]
    rintro ⟨k, id⟩ inside
    obtain ⟨a, there, holds, -⟩ := (live_get after).mp (Dict.mem_entries.mp inside)
    obtain ⟨f, found, same⟩ := ((reconciled_settled sound).keys k).mp ⟨a, there, holds⟩
    have seen : ((s.findings fl clientId).any fun f => decide (f.recKey = k)) = true :=
      List.any_eq_true.mpr ⟨f, found, decide_eq_true same⟩
    have seen' : (((s.settled fl clientId).findings fl clientId).any fun f =>
        decide (f.recKey = k)) = true := seen
    simp [seen']

end Settled

/-! ## Runs -/

/-- An acknowledgement is of a live alert, or of one whose key no live alert of the client holds. -/
def Careful : Machine.Guard (World F) Step
  | s, .acknowledge clientId alertId _ =>
    ∀ a ∈ s.alerts, a.id = alertId → a.clientId = clientId →
      a.Live ∨ ∀ b ∈ s.alerts, b.clientId = clientId → b.Live → b.key = none ∨ b.key ≠ a.key
  | _, _ => True

/-- The alert a request is about. -/
theorem mem_of_getAlert {s : World F} {clientId : Uuid} {alertId : Nat} {a : Alert F}
    (found : s.getAlert clientId alertId = .ok a) :
    a ∈ s.alerts ∧ a.id = alertId ∧ a.clientId = clientId := by
  rw [World.getAlert] at found
  split at found
  · next found' sought =>
    obtain rfl := Except.ok.inj found
    have both : found'.id = alertId ∧ found'.clientId = clientId := by
      simpa using List.find?_some sought
    exact ⟨List.mem_of_find?_eq_some sought, both⟩
  · cases found

/-- A change of one alert's status keeps keys apart when the alert it makes live is alone. -/
theorem Sound.modify {s : World F} (sound : Sound s) {alertId : Nat} {change : Alert F → Alert F}
    (keeps : ∀ a, (change a).id = a.id)
    (alone : ∀ a ∈ s.alerts, a.id = alertId → ∀ clientId k, (change a).Holds clientId k →
      ∀ b ∈ s.alerts, b.Holds clientId k → b = a) :
    Sound { s with alerts := Table.modify Alert.id alertId change s.alerts } := by
  refine ⟨?_, ?_, ?_⟩
  · rw [Table.map_modify change Alert.id fun a _ => keeps a]
    exact sound.distinct
  · intro a inside
    rcases Table.mem_modify.mp inside with ⟨old, -⟩ | ⟨old, there, -, rfl⟩
    · exact sound.fresh a old
    · rw [keeps]
      exact sound.fresh old there
  · intro a inA b inB clientId k holdsA holdsB
    rcases Table.mem_modify.mp inA with ⟨oldA, apartA⟩ | ⟨oldA, thereA, sameA, rfl⟩
    · rcases Table.mem_modify.mp inB with ⟨oldB, -⟩ | ⟨oldB, thereB, sameB, rfl⟩
      · exact sound.single a oldA b oldB clientId k holdsA holdsB
      · have same := alone oldB thereB sameB clientId k holdsB a oldA holdsA
        exact absurd (same ▸ sameB) apartA
    · rcases Table.mem_modify.mp inB with ⟨oldB, apartB⟩ | ⟨oldB, thereB, sameB, rfl⟩
      · have same := alone oldA thereA sameA clientId k holdsA b oldB holdsB
        exact absurd (same ▸ sameA) apartB
      · rw [List.inj_on_of_nodup_map sound.distinct thereA thereB (sameA.trans sameB.symm)]

/-- Acknowledging keeps keys apart when it is careful. -/
theorem sound_acknowledge {s : World F} (sound : Sound s) {clientId actorId : Uuid} {alertId : Nat}
    (careful : Careful s (.acknowledge clientId alertId actorId)) :
    Sound (s.kept (s.acknowledge clientId alertId actorId)) := by
  rw [World.acknowledge]
  cases found : s.getAlert clientId alertId with
  | error exc => exact sound
  | ok a =>
    obtain ⟨inside, own, client⟩ := mem_of_getAlert found
    refine sound.modify (fun _ => rfl) fun a' there same other k holds b thereB holdsB => ?_
    obtain rfl := List.inj_on_of_nodup_map sound.distinct inside there (own.trans same.symm)
    obtain ⟨named, -, keyed⟩ := holds
    obtain rfl : clientId = other := client.symm.trans named
    rcases careful a inside own client with live | quiet
    · exact sound.single b thereB a inside clientId k holdsB ⟨named, live, keyed⟩
    · obtain ⟨namedB, liveB, keyedB⟩ := holdsB
      rcases quiet b thereB namedB liveB with unkeyed | apart
      · rw [unkeyed] at keyedB
        cases keyedB
      · exact absurd (keyedB.trans keyed.symm) apart

/-- Resolving keeps keys apart. -/
theorem sound_resolve {s : World F} (sound : Sound s) (clientId actorId : Uuid) (alertId : Nat) :
    Sound (s.kept (s.resolve clientId alertId actorId)) := by
  rw [World.resolve]
  cases s.getAlert clientId alertId with
  | error exc => exact sound
  | ok a =>
    refine sound.modify (fun _ => rfl) fun a' _ _ other k holds => ?_
    obtain ⟨-, live | live, -⟩ := holds <;> cases live

/-- An evaluation keeps keys apart. -/
theorem sound_evaluate {s : World F} (sound : Sound s) (clientId : Uuid) :
    Sound (s.kept ((s.evaluate fl clientId).map Prod.fst)) := by
  by_cases fits : ∀ f ∈ s.findings fl clientId, f.Fits fl
  · obtain ⟨result, evaluated, -⟩ := evaluate_settled sound fits
    rw [evaluated]
    exact sound_settled sound
  · have refused : s.evaluate fl clientId = .error (.other .dbapiError) := if_neg fits
    rw [refused]
    exact sound

/-- Deleting alerts keeps keys apart. -/
theorem Sound.filter {s : World F} (sound : Sound s) (campaigns : Campaigns)
    (keep : Alert F → Bool) : Sound { s with campaigns, alerts := s.alerts.filter keep } where
  distinct := (List.filter_sublist.map Alert.id).nodup sound.distinct
  fresh a inside := sound.fresh a (List.mem_of_mem_filter inside)
  single a inA b inB := sound.single a (List.mem_of_mem_filter inA) b (List.mem_of_mem_filter inB)

/-- A careful step keeps keys apart. -/
theorem sound_step {s s' : World F} {step : Step} (sound : Sound s) (careful : Careful s step)
    (taken : (machine fl).next s step = some s') : Sound s' := by
  cases step with
  | evaluate clientId =>
    obtain rfl := Option.some.inj taken
    exact sound_evaluate sound clientId
  | acknowledge clientId alertId actorId =>
    obtain rfl := Option.some.inj taken
    exact sound_acknowledge sound careful
  | resolve clientId alertId actorId =>
    obtain rfl := Option.some.inj taken
    exact sound_resolve sound clientId actorId alertId
  | edit campaigns =>
    obtain rfl := Option.some.inj taken
    exact sound.filter campaigns _

/-- Careful runs keep keys apart. -/
theorem sound_of_reachable {s : World F} (reached : (machine fl).Reachable Careful s) :
    Sound s := by
  refine reached.invariant Sound (fun s first => ?_) fun s step s' sound careful taken =>
    sound_step sound careful taken
  have none' : s.alerts = [] := first
  refine ⟨?_, ?_, ?_⟩
  all_goals rw [none']
  · exact List.nodup_nil
  · exact fun a inside => absurd inside List.not_mem_nil
  · exact fun a inside => absurd inside List.not_mem_nil

/-- **Evaluation reconciles.** After every run in which only live alerts are acknowledged, or
resolved ones whose key nothing live holds: an evaluation succeeds, reconciles the alerts of the
client and is idempotent exactly if what it finds fits the columns. -/
theorem reconciles_iff {s : World F} (reached : (machine fl).Reachable Careful s)
    (clientId : Uuid) :
    (∃ s' result, s.evaluate fl clientId = .ok (s', result) ∧ Reconciled fl s clientId s' ∧
      ∃ s'' again, s'.evaluate fl clientId = .ok (s'', again) ∧
        again.opened = 0 ∧ again.autoResolved = 0) ↔
      ∀ f ∈ s.findings fl clientId, f.Fits fl := by
  have sound := sound_of_reachable reached
  constructor
  · rintro ⟨s', result, evaluated, -⟩
    by_contra unfit
    have refused : s.evaluate fl clientId = .error (.other .dbapiError) := if_neg unfit
    rw [refused] at evaluated
    cases evaluated
  · intro fits
    obtain ⟨result, evaluated, -⟩ := evaluate_settled sound fits
    exact ⟨_, result, evaluated, reconciled_settled sound, evaluate_again sound fits⟩

/-! ## A sample -/

/-- Exact numbers, written as floats are when no digit is rounded. -/
def rational : Floats ℚ where
  ofDecimal q := q
  ofInt n := n
  quotient a b := (a : ℚ) / b
  sub a b := a - b
  mul a b := a * b
  div a b := a / b
  lt a b := decide (a < b)
  le a b := decide (a ≤ b)
  round2 q := ((q * 100).floor : ℚ) / 100
  format digits q :=
    let units := (q * (10 ^ digits : Nat)).floor
    if digits = 0 then toString units
    else
      let rest := toString (units % (10 ^ digits : Nat))
      toString (units / (10 ^ digits : Nat)) ++ "." ++
        String.ofList (List.replicate (digits - rest.length) '0') ++ rest
  fits q := decide (q < 10 ^ 10) && decide (-10 ^ 10 < q)

/-- A client with a campaign at twice its cost per lead. -/
def sampleCampaigns : Campaigns where
  rows := [{
    id := 7
    clientId := 1
    name := "Camp"
    budgetUsd := 0
    targetCpl := some 25
    targetCtr := none
    impressions := 0
    clicks := 0
    leads := 2
    spend := 100
    revenue := 0 }]
  distinct := List.nodup_singleton _

/-- The campaign is found too dear. -/
def sampleOpened : World ℚ :=
  let s : World ℚ := { campaigns := sampleCampaigns, alerts := [], nextId := 0 }
  s.kept ((s.evaluate rational 1).map Prod.fst)

/-- The alert is acknowledged. -/
def sampleAcknowledged : World ℚ := sampleOpened.kept (sampleOpened.acknowledge 1 0 9)

/-- An evaluation after the acknowledgement reconciles. -/
theorem sample_reconciles :
    ∃ s' result, sampleAcknowledged.evaluate rational 1 = .ok (s', result) ∧
      Reconciled rational sampleAcknowledged 1 s' ∧
      ∃ s'' again, s'.evaluate rational 1 = .ok (s'', again) ∧
        again.opened = 0 ∧ again.autoResolved = 0 := by
  have live : ∀ a ∈ sampleOpened.alerts, a.Live := by decide +kernel
  have careful : Careful sampleOpened (.acknowledge 1 0 9) :=
    fun a inside _ _ => .inl (live a inside)
  have reached : (machine rational).Reachable Careful sampleAcknowledged :=
    ⟨{ campaigns := sampleCampaigns, alerts := [], nextId := 0 }, [.evaluate 1, .acknowledge 1 0 9],
      rfl, .cons trivial rfl (.cons careful rfl (.nil _))⟩
  exact (reconciles_iff reached 1).mpr (by decide +kernel)

/-- The alert is resolved by a person, and opened anew by an evaluation. -/
def sampleReopened : World ℚ :=
  let s := sampleOpened.kept (sampleOpened.resolve 1 0 9)
  s.kept ((s.evaluate rational 1).map Prod.fst)

/-- The resolved alert is acknowledged: an evaluation leaves two live alerts under one key. -/
theorem acknowledged_twice :
    (machine rational).Reachable Machine.anyStep
        (sampleReopened.kept (sampleReopened.acknowledge 1 0 9)) ∧
      (((sampleReopened.kept (sampleReopened.acknowledge 1 0 9)).evaluate rational 1).map
        fun evaluated => evaluated.1.alerts.map fun a => (a.id, a.status, a.recKey)) =
          .ok [(0, .acknowledged, some ("cpl:" ++ Uuid.print 7)),
            (1, .opened, some ("cpl:" ++ Uuid.print 7))] := by
  constructor
  · exact ⟨{ campaigns := sampleCampaigns, alerts := [], nextId := 0 },
      [.evaluate 1, .resolve 1 0 9, .evaluate 1, .acknowledge 1 0 9], rfl,
      .cons trivial rfl (.cons trivial rfl (.cons trivial rfl (.cons trivial rfl (.nil _))))⟩
  · decide +kernel

end MarketingOS.AlertService
