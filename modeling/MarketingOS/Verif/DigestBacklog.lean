import MarketingOS.Base.Backlog
import MarketingOS.Services.NotificationEmail

/-!
# The notification digest and its backlog

A sweep in which every e-mail is sent is one round over the queue of pending notifications: it
serves those of its batch that may be e-mailed. The others are never marked, so they stay at the
head of the queue, and a notification behind as many of them as the batch is long is never reached.
-/
namespace MarketingOS.NotificationEmail

variable {brevo : BrevoClient} {directory : Directory} {table : Notifications}

/-- The recipient of a notification is active and has opted in, and its client is not muted. -/
def addressed (directory : Directory) (n : Notification) : Bool :=
  (directory.users.any fun user => user.id = n.userId ∧ user.isActive = true) &&
    directory.preferences.any fun pref =>
      pref.userId = n.userId ∧ pref.emailEnabled = true ∧ unmuted pref n = true

/-- A warning or critical notification that is not yet e-mailed and may be. -/
def Eligible (directory : Directory) (n : Notification) : Prop :=
  pendingEmail n = true ∧ addressed directory n = true

/-- The notifications of some e-mails. -/
def items (sent : List Digest) : List Notification := sent.flatMap Digest.items

/-! ## The queue -/

/-- The queue holds the pending rows. -/
theorem mem_queue {n : Notification} :
    n ∈ queue table ↔ n ∈ table.rows ∧ pendingEmail n = true := by
  rw [queue, StableSort.mem_sortBy, List.mem_filter]

/-- The queue holds no identifier twice. -/
theorem nodup_queue : ((queue table).map Notification.id).Nodup := by
  have kept : ((table.rows.filter pendingEmail).map Notification.id).Nodup :=
    table.distinct.sublist (List.filter_sublist.map _)
  exact (StableSort.sortBy_perm.map _).nodup_iff.mpr kept

/-- Two rows of the queue with one identifier are the same. -/
theorem eq_of_id {n m : Notification} (left : n ∈ queue table) (right : m ∈ queue table)
    (same : n.id = m.id) : n = m :=
  List.inj_on_of_nodup_map nodup_queue left right same

/-- Marking rows takes them off the queue. -/
theorem queue_mark (now : Timestamp) (marked : List Notification) :
    queue (table.mark now marked) =
      (queue table).filter fun n => n.id ∉ marked.map Notification.id := by
  have rows : (table.mark now marked).rows.filter pendingEmail =
      (table.rows.filter pendingEmail).filter fun n => n.id ∉ marked.map Notification.id := by
    rw [List.filter_filter]
    show (table.rows.map _).filter pendingEmail = _
    induction table.rows with
    | nil => rfl
    | cons n rest ih =>
      rw [List.map_cons, List.filter_cons, List.filter_cons, ih]
      by_cases hit : n.id ∈ marked.map Notification.id
      · simp [pendingEmail, hit]
      · simp [pendingEmail, hit]
  rw [queue, rows, StableSort.sortBy_filter]
  rfl

/-! ## One user -/

/-- What a part of a sweep does: it sends some notifications, each to its user, and takes them off
the queue. -/
structure Sends (before after : Swept) (chosen : List Notification) : Prop where
  sent : items after.sent = items before.sent ++ chosen
  left : queue after.table =
    (queue before.table).filter fun n => n.id ∉ chosen.map Notification.id
  own : ∀ digest ∈ after.sent, digest ∈ before.sent ∨ ∀ n ∈ digest.items, n.userId = digest.user.id

/-- Nothing is sent. -/
theorem Sends.nothing (done : Swept) : Sends done done [] where
  sent := (List.append_nil _).symm
  left := by simp
  own _ inside := .inl inside

/-- One part of a sweep after another. -/
theorem Sends.append {first second third : Swept} {chosen chosen' : List Notification}
    (one : Sends first second chosen) (two : Sends second third chosen') :
    Sends first third (chosen ++ chosen') where
  sent := by rw [two.sent, one.sent, List.append_assoc]
  left := by
    rw [two.left, one.left, List.filter_filter]
    refine List.filter_congr fun n _ => ?_
    simp only [List.map_append, List.mem_append, not_or, Bool.decide_and]
    exact Bool.and_comm _ _
  own digest inside := by
    rcases two.own digest inside with before | own
    · exact one.own digest before
    · exact .inr own

section turn

variable {prefs : Dict Uuid NotificationPreference} {users : Dict Uuid User} {userId : Uuid}

/-- Whom a notification is addressed to, by the dictionaries of a sweep. -/
theorem addressed_iff
    (prefsFound : ∀ pref, prefs.get userId = some pref ↔
      pref ∈ directory.preferences ∧ pref.userId = userId)
    (usersFound : ∀ user, users.get userId = some user ↔
      (user ∈ directory.users ∧ user.isActive = true) ∧ user.id = userId)
    {n : Notification} (own : n.userId = userId) :
    addressed directory n = true ↔
      (∃ user, users.get userId = some user) ∧
        ∃ pref, prefs.get userId = some pref ∧ pref.emailEnabled = true ∧
          unmuted pref n = true := by
  rw [addressed, Bool.and_eq_true, List.any_eq_true, List.any_eq_true, own]
  simp only [decide_eq_true_eq, usersFound, prefsFound]
  refine and_congr ⟨?_, ?_⟩ ⟨?_, ?_⟩
  · rintro ⟨user, listed, named, active⟩
    exact ⟨user, ⟨listed, active⟩, named⟩
  · rintro ⟨user, ⟨listed, active⟩, named⟩
    exact ⟨user, listed, named, active⟩
  · rintro ⟨pref, listed, named, rest⟩
    exact ⟨pref, ⟨listed, named⟩, rest⟩
  · rintro ⟨pref, ⟨listed, named⟩, rest⟩
    exact ⟨pref, listed, named, rest⟩

/-- A user's turn sends what is addressed to the user. -/
theorem sends_sweepUser (sendsAll : ∀ email, brevo.sends email = true) {clock : Uuid → Timestamp}
    {entry : Uuid × List Notification}
    (prefsFound : ∀ pref, prefs.get entry.1 = some pref ↔
      pref ∈ directory.preferences ∧ pref.userId = entry.1)
    (usersFound : ∀ user, users.get entry.1 = some user ↔
      (user ∈ directory.users ∧ user.isActive = true) ∧ user.id = entry.1)
    (own : ∀ n ∈ entry.2, n.userId = entry.1) (done : Swept) :
    Sends done (sweepUser brevo prefs users clock done entry)
      (entry.2.filter (addressed directory)) := by
  have reached {n : Notification} (inside : n ∈ entry.2) :=
    addressed_iff prefsFound usersFound (own n inside)
  have nobody (never : ∀ n ∈ entry.2, ¬addressed directory n = true) :
      Sends done done (entry.2.filter (addressed directory)) := by
    rw [List.filter_eq_nil_iff.mpr never]
    exact .nothing done
  unfold sweepUser
  cases foundPref : prefs.get entry.1 with
  | none =>
    refine nobody fun n inside may => ?_
    obtain ⟨-, pref, found, -⟩ := (reached inside).mp may
    rw [foundPref] at found
    cases found
  | some pref =>
    cases foundUser : users.get entry.1 with
    | none =>
      refine nobody fun n inside may => ?_
      obtain ⟨⟨user, found⟩, -⟩ := (reached inside).mp may
      rw [foundUser] at found
      cases found
    | some user =>
      by_cases enabled : pref.emailEnabled = false
      · show Sends done (if pref.emailEnabled = false then done else _) _
        rw [if_pos enabled]
        refine nobody fun n inside may => ?_
        obtain ⟨-, pref', found, on, -⟩ := (reached inside).mp may
        obtain rfl := Option.some.inj (foundPref.symm.trans found)
        rw [enabled] at on
        cases on
      · have chosen : entry.2.filter (addressed directory) = entry.2.filter (unmuted pref) := by
          refine List.filter_congr fun n inside => ?_
          rw [Bool.eq_iff_iff, reached inside]
          constructor
          · rintro ⟨-, pref', found, -, shown⟩
            obtain rfl := Option.some.inj (foundPref.symm.trans found)
            exact shown
          · exact fun shown => ⟨⟨user, foundUser⟩, pref, foundPref, by simpa using enabled, shown⟩
        rw [chosen]
        show Sends done (if pref.emailEnabled = false then done else
          if entry.2.filter (unmuted pref) = [] then done else
            if brevo.sends (Digest.email ⟨user, entry.2.filter (unmuted pref)⟩) then
              ⟨done.table.mark (clock entry.1) (entry.2.filter (unmuted pref)),
                done.sent ++ [⟨user, entry.2.filter (unmuted pref)⟩]⟩
            else done) _
        rw [if_neg enabled, if_pos (sendsAll _)]
        by_cases none : entry.2.filter (unmuted pref) = []
        · rw [if_pos none, none]
          exact .nothing done
        · rw [if_neg none]
          refine ⟨?_, queue_mark _ _, fun digest inside => ?_⟩
          · simp [items]
          · rcases List.mem_append.mp inside with before | new
            · exact .inl before
            · rw [List.mem_singleton.mp new]
              refine .inr fun n listed => ?_
              have named : user.id = entry.1 := ((usersFound user).mp foundUser).2
              rw [own n (List.mem_filter.mp listed).1]
              exact named.symm

end turn

/-! ## One sweep -/

/-- The notifications of a user, in the order they come. -/
theorem gather_append (list : List Notification) :
    Grouping.gather append list = if list = [] then none else some list := by
  induction list using List.reverseRecOn with
  | nil => rfl
  | append_singleton front n ih =>
    rw [Grouping.gather_concat, ih]
    by_cases empty : front = []
    · simp [append, empty]
    · simp [append, empty]

/-- A batch by user. -/
def byUser (pending : List Notification) : Dict Uuid (List Notification) :=
  pending.foldl (Grouping.file Notification.userId append) Dict.empty

/-- An entry holds the user's part of the batch. -/
theorem mem_byUser {pending : List Notification} {entry : Uuid × List Notification}
    (inside : entry ∈ (byUser pending).entries) :
    entry.2 = Grouping.ofKey Notification.userId entry.1 pending := by
  have found := Dict.mem_entries.mp inside
  rw [byUser, Grouping.get_foldl, gather_append] at found
  split at found
  · cases found
  · exact (Option.some.inj found).symm

/-- The parts that may be e-mailed are together what may be of the batch. -/
theorem perm_byUser {pending : List Notification} (distinct : pending.Nodup)
    (may : Notification → Bool) :
    ((byUser pending).entries.flatMap fun entry => entry.2.filter may).Perm
      (pending.filter may) := by
  have nodup : ((byUser pending).entries.flatMap fun entry => entry.2.filter may).Nodup := by
    rw [List.nodup_flatMap]
    refine ⟨fun entry inside => ?_, ?_⟩
    · rw [mem_byUser inside]
      exact (distinct.filter _).filter _
    · have keys := List.pairwise_map.mp (byUser pending).distinct
      refine keys.imp_of_mem fun {one two} left right apart n => ?_
      intro (first : n ∈ one.2.filter may) (second : n ∈ two.2.filter may)
      rw [mem_byUser left] at first
      rw [mem_byUser right] at second
      have user := of_decide_eq_true (List.mem_filter.mp (List.mem_filter.mp first).1).2
      have user' := of_decide_eq_true (List.mem_filter.mp (List.mem_filter.mp second).1).2
      exact apart (user.symm.trans user')
  rw [List.perm_ext_iff_of_nodup nodup (distinct.filter _)]
  intro n
  rw [List.mem_flatMap, List.mem_filter]
  constructor
  · rintro ⟨entry, inside, listed⟩
    rw [mem_byUser inside] at listed
    exact ⟨(List.mem_filter.mp (List.mem_filter.mp listed).1).1, (List.mem_filter.mp listed).2⟩
  · rintro ⟨listed, allowed⟩
    have own : n ∈ Grouping.ofKey Notification.userId n.userId pending :=
      List.mem_filter.mpr ⟨listed, decide_eq_true rfl⟩
    have found : (byUser pending).get n.userId =
        some (Grouping.ofKey Notification.userId n.userId pending) := by
      rw [byUser, Grouping.get_foldl, gather_append, if_neg (List.ne_nil_of_mem own)]
    exact ⟨_, Dict.mem_entries.mpr found, List.mem_filter.mpr ⟨own, allowed⟩⟩

/-- A dictionary of rows by a key finds the row of a key. -/
theorem get_ofList_rows {ρ : Type} {key : ρ → Uuid} {rows : List ρ} (keep : ρ → Bool)
    (distinct : (rows.map key).Nodup) (k : Uuid) (row : ρ) :
    (Dict.ofList ((rows.filter keep).map fun row => (key row, row))).get k = some row ↔
      (row ∈ rows ∧ keep row = true) ∧ key row = k := by
  constructor
  · intro found
    obtain ⟨other, listed, same⟩ := List.mem_map.mp (Dict.mem_of_get_ofList found)
    obtain ⟨rfl, rfl⟩ := Prod.mk.inj same
    exact ⟨List.mem_filter.mp listed, rfl⟩
  · rintro ⟨listed, rfl⟩
    refine Dict.get_ofList_of_mem ?_ (List.mem_map.mpr ⟨row, List.mem_filter.mpr listed, rfl⟩)
    rw [List.map_map]
    exact distinct.sublist (List.filter_sublist.map _)

/-- The turns of some users send what is addressed to them. -/
theorem sends_foldl {turn : Swept → Uuid × List Notification → Swept}
    {entries : List (Uuid × List Notification)} {may : Notification → Bool}
    (sends : ∀ entry ∈ entries, ∀ done, Sends done (turn done entry) (entry.2.filter may))
    (done : Swept) :
    Sends done (entries.foldl turn done) (entries.flatMap fun entry => entry.2.filter may) := by
  induction entries generalizing done with
  | nil => exact .nothing done
  | cons entry rest ih =>
    rw [List.foldl_cons, List.flatMap_cons]
    exact (sends entry List.mem_cons_self done).append
      (ih (fun other inside => sends other (List.mem_cons_of_mem _ inside)) _)

/-- A configured sweep sends what it may of its batch. -/
theorem sends_sendPendingEmails (sendsAll : ∀ email, brevo.sends email = true)
    (directory : Directory) (table : Notifications) (clock : Uuid → Timestamp) (limit : Nat) :
    ∃ chosen, chosen.Perm (Backlog.served (addressed directory) limit (queue table)) ∧
      Sends ⟨table, []⟩ (sendPendingEmails brevo directory clock table limit) chosen := by
  have configured : ¬brevo.isConfigured = false := fun off => by
    have refused := brevo.unconfigured off ⟨("", ""), "", ""⟩
    rw [sendsAll] at refused
    cases refused
  have distinct : (listPendingEmail table limit).Nodup :=
    (List.Nodup.of_map _ nodup_queue).sublist (List.take_sublist _ _)
  rw [sendPendingEmails, if_neg configured]
  by_cases empty : listPendingEmail table limit = []
  · refine ⟨[], ?_, ?_⟩
    · rw [Backlog.served, ← listPendingEmail, empty]
      exact .refl _
    · show Sends _ (if listPendingEmail table limit = [] then _ else _) _
      rw [if_pos empty]
      exact .nothing _
  · refine ⟨_, perm_byUser distinct (addressed directory), ?_⟩
    show Sends _ (if listPendingEmail table limit = [] then _ else _) _
    rw [if_neg empty]
    refine sends_foldl (fun entry inside done => ?_) _
    have listed : entry.1 ∈ (byUser (listPendingEmail table limit)).entries.map Prod.fst :=
      List.mem_map_of_mem inside
    refine sends_sweepUser sendsAll (fun pref => ?_) (fun user => ?_) (fun n own => ?_) done
    · rw [listForUsers, get_ofList_rows _ directory.preferencesDistinct]
      constructor
      · rintro ⟨⟨known, -⟩, named⟩
        exact ⟨known, named⟩
      · rintro ⟨known, named⟩
        exact ⟨⟨known, List.contains_iff_mem.mpr (named ▸ listed)⟩, named⟩
    · rw [get_ofList_rows _ directory.usersDistinct]
      constructor
      · rintro ⟨⟨known, kept⟩, named⟩
        exact ⟨⟨known, (of_decide_eq_true kept).2⟩, named⟩
      · rintro ⟨⟨known, active⟩, named⟩
        have there := List.contains_iff_mem.mpr (named ▸ listed)
        exact ⟨⟨known, decide_eq_true ⟨there, active⟩⟩, named⟩
    · rw [mem_byUser inside] at own
      exact of_decide_eq_true (List.mem_filter.mp own).2

/-- Taking off the queue what a round serves leaves what the round leaves. -/
theorem filter_queue_served {limit : Nat} {may : Notification → Bool} {chosen : List Notification}
    (same : chosen.Perm (Backlog.served may limit (queue table))) :
    (queue table).filter (fun n => n.id ∉ chosen.map Notification.id) =
      Backlog.left may limit (queue table) := by
  have marked {n : Notification} (inside : n ∈ queue table) :
      n.id ∈ chosen.map Notification.id ↔ n ∈ (queue table).take limit ∧ may n = true := by
    rw [List.mem_map]
    constructor
    · rintro ⟨m, listed, id⟩
      have found := List.mem_filter.mp (same.subset listed)
      obtain rfl := eq_of_id (List.mem_of_mem_take found.1) inside id
      exact found
    · exact fun found => ⟨n, same.symm.subset (List.mem_filter.mpr found), rfl⟩
  have distinct : (queue table).Nodup := List.Nodup.of_map _ nodup_queue
  rw [Backlog.left]
  conv_lhs => rw [← List.take_append_drop limit (queue table)]
  rw [List.filter_append]
  congr 1
  · refine List.filter_congr fun n inside => ?_
    have listed := List.mem_of_mem_take inside
    cases allowed : may n with
    | true => simpa using (marked listed).mpr ⟨inside, allowed⟩
    | false =>
      have unmarked : n.id ∉ chosen.map Notification.id := fun hit => by
        rw [((marked listed).mp hit).2] at allowed
        cases allowed
      exact decide_eq_true unmarked
  · rw [List.filter_eq_self]
    intro n inside
    refine decide_eq_true fun hit => ?_
    have front := ((marked (List.mem_of_mem_drop inside)).mp hit).1
    rw [← List.take_append_drop limit (queue table)] at distinct
    exact List.disjoint_of_nodup_append distinct front inside

/-! ## Sweeps -/

/-- Sweeps are rounds over the queue. -/
theorem sends_sweeps (sendsAll : ∀ email, brevo.sends email = true) (directory : Directory)
    (table : Notifications) (limit : Nat) (clocks : List (Uuid → Timestamp)) :
    (items (sweeps brevo directory limit clocks table).sent).Perm
        (Backlog.servedIn (addressed directory) limit (queue table) clocks.length) ∧
      ∀ digest ∈ (sweeps brevo directory limit clocks table).sent,
        ∀ n ∈ digest.items, n.userId = digest.user.id := by
  induction clocks generalizing table with
  | nil => exact ⟨.refl _, fun digest inside => absurd inside List.not_mem_nil⟩
  | cons clock clocks ih =>
    obtain ⟨chosen, same, sends⟩ := sends_sendPendingEmails sendsAll directory table clock limit
    have left := sends.left.trans (filter_queue_served same)
    obtain ⟨later, own⟩ := @ih (sendPendingEmails brevo directory clock table limit).table
    rw [left] at later
    constructor
    · have sent := sends.sent
      rw [sweeps, items, List.flatMap_append]
      exact (List.Perm.of_eq sent |>.trans same).append later
    · intro digest inside
      rcases List.mem_append.mp inside with now | after
      · exact (sends.own digest now).resolve_left List.not_mem_nil
      · exact own digest after

/-- A notification of the queue is in exactly one e-mail when the rounds serve it. -/
theorem emailed_once_iff (sendsAll : ∀ email, brevo.sends email = true) (limit : Nat)
    (clocks : List (Uuid → Timestamp)) {n : Notification} (inside : n ∈ queue table) :
    ((items (sweeps brevo directory limit clocks table).sent).map Notification.id).count n.id = 1 ↔
      n ∈ Backlog.servedIn (addressed directory) limit (queue table) clocks.length := by
  obtain ⟨same, -⟩ := sends_sweeps sendsAll directory table limit clocks
  have parted : (Backlog.servedIn (addressed directory) limit (queue table) clocks.length ++
      Backlog.leftAfter (addressed directory) limit (queue table) clocks.length).Perm
        (queue table) := Backlog.servedIn_append_leftAfter _
  have distinct := (parted.map Notification.id).nodup_iff.mpr nodup_queue
  rw [List.map_append] at distinct
  rw [(same.map Notification.id).count_eq]
  constructor
  · intro once
    have listed := List.count_pos_iff.mp (once ▸ Nat.one_pos)
    obtain ⟨m, served, id⟩ := List.mem_map.mp listed
    have standing := parted.subset (List.mem_append_left _ served)
    rwa [← eq_of_id standing inside id]
  · intro served
    exact List.count_eq_one_of_mem (List.Nodup.of_append_left distinct) (List.mem_map_of_mem served)

/-- The digest starves nobody: a sweep that e-mails nobody finds nobody to e-mail, and finitely many
sweeps e-mail every eligible notification to its user, each in exactly one e-mail. -/
structure StarvesNobody (brevo : BrevoClient) (directory : Directory) (table : Notifications)
    (limit : Nat) : Prop where
  idle : ∀ clock, (sendPendingEmails brevo directory clock table limit).sent = [] →
    ∀ n ∈ table.rows, ¬Eligible directory n
  drained : ∃ count, ∀ clocks, count ≤ clocks.length → ∀ n ∈ table.rows, Eligible directory n →
    ((items (sweeps brevo directory limit clocks table).sent).map Notification.id).count n.id = 1
  own : ∀ clocks, ∀ digest ∈ (sweeps brevo directory limit clocks table).sent,
    ∀ n ∈ digest.items, n.userId = digest.user.id

/-- When every e-mail is sent, the digest starves nobody exactly when before every eligible
notification of the queue there are fewer that may not be e-mailed than a batch is long. -/
theorem digest_starves_nobody (brevo : BrevoClient)
    (sendsAll : ∀ email, brevo.sends email = true) (directory : Directory) (table : Notifications)
    (limit : Nat) :
    StarvesNobody brevo directory table limit ↔
      ∀ before n after, queue table = before ++ n :: after → addressed directory n = true →
        (before.countP fun other => !addressed directory other) < limit := by
  have distinct : (queue table).Nodup := List.Nodup.of_map _ nodup_queue
  constructor
  · intro starves
    obtain ⟨count, drained⟩ := starves.drained
    let rounds := max count ((queue table).countP (addressed directory))
    let clocks : List (Uuid → Timestamp) := List.replicate rounds fun _ => 0
    have length : clocks.length = rounds := List.length_replicate
    have enough : (queue table).countP (addressed directory) ≤ rounds := Nat.le_max_right _ _
    refine (Backlog.served_iff_clear rounds enough distinct).mp fun n inside may => ?_
    obtain ⟨listed, pending⟩ := mem_queue.mp inside
    have once := drained clocks (length ▸ Nat.le_max_left _ _) n listed ⟨pending, may⟩
    rw [← length]
    exact (emailed_once_iff sendsAll limit clocks inside).mp once
  · intro clear
    refine ⟨fun clock idle n listed eligible => ?_,
      ⟨(queue table).countP (addressed directory), fun clocks enough n listed eligible => ?_⟩,
      fun clocks => (sends_sweeps sendsAll directory table limit clocks).2⟩
    · obtain ⟨chosen, same, sends⟩ :=
        sends_sendPendingEmails sendsAll directory table clock limit
      have inside : n ∈ queue table := mem_queue.mpr ⟨listed, eligible.1⟩
      have nobody : chosen = [] := by
        have sent := sends.sent
        rw [idle] at sent
        exact sent.symm
      rw [nobody] at same
      exact Backlog.served_ne_nil clear inside eligible.2 (List.nil_perm.mp same)
    · have inside : n ∈ queue table := mem_queue.mpr ⟨listed, eligible.1⟩
      refine (emailed_once_iff sendsAll limit clocks inside).mpr ?_
      exact (Backlog.served_iff_clear _ enough distinct).mpr clear n inside eligible.2

/-- A client that sends everything. -/
def sendingClient : BrevoClient := ⟨true, fun _ => true, nofun⟩

/-- Two active users, of whom the first has opted in. -/
def twoUsers : Directory where
  users := [⟨1, "one@example.com", "One", .admin, true, 0⟩,
    ⟨2, "two@example.com", "Two", .admin, true, 0⟩]
  preferences := [⟨1, true, []⟩]
  usersDistinct := by decide
  preferencesDistinct := by decide

/-- A warning to a user. -/
def warningTo (id userId : Uuid) (createdAt : Timestamp) : Notification :=
  ⟨id, userId, none, "warning", "Budget", none, createdAt, none⟩

/-- The first user's warning is the older one. -/
def reachedWarning : Notifications := ⟨[warningTo 10 1 0, warningTo 11 2 5], by decide⟩

/-- The first user's warning is the newer one. -/
def blockedWarning : Notifications := ⟨[warningTo 10 1 5, warningTo 11 2 0], by decide⟩

/-- In batches of one, a warning before that of a user without e-mails is sent. -/
theorem reached_warning_sent : StarvesNobody sendingClient twoUsers reachedWarning 1 := by
  refine (digest_starves_nobody sendingClient (fun _ => rfl) twoUsers reachedWarning 1).mpr ?_
  have waiting : queue reachedWarning = [warningTo 10 1 0, warningTo 11 2 5] := by decide +kernel
  show Backlog.Clear (addressed twoUsers) 1 (queue reachedWarning)
  rw [waiting, Backlog.clear_cons, if_pos (by decide +kernel), Backlog.clear_cons,
    if_neg (by decide +kernel)]
  exact ⟨Nat.one_pos, Backlog.clear_of_none fun n inside => absurd inside List.not_mem_nil⟩

/-- In batches of one, a warning behind that of a user without e-mails is never reached. -/
theorem blocked_warning_starves : ¬StarvesNobody sendingClient twoUsers blockedWarning 1 := by
  intro starves
  have idle : (sendPendingEmails sendingClient twoUsers (fun _ => 0) blockedWarning 1).sent = [] :=
    rfl
  have eligible : Eligible twoUsers (warningTo 10 1 5) := by constructor <;> decide +kernel
  exact starves.idle _ idle (warningTo 10 1 5) List.mem_cons_self eligible

end MarketingOS.NotificationEmail
