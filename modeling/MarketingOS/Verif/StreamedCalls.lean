import MarketingOS.Base.Grouping
import MarketingOS.Integrations.OpenRouter
import Mathlib.Data.List.Forall2

/-!
# Streamed tool calls

However the argument texts of a round's tool calls are cut into fragments and however the fragments
of different calls are interleaved, the stream yields the calls that the whole response has.
-/
namespace MarketingOS.OpenRouter

variable {α : Type}

/-- A tool call of a round, with the text of its arguments. -/
structure RoundCall where
  index : Int
  id : Option String
  name : String
  arguments : String
deriving DecidableEq

/-- A call as the whole response has it. -/
def RoundCall.raw (call : RoundCall) : RawCall :=
  ⟨call.id, some ⟨some call.name, some (.text call.arguments)⟩⟩

/-- The whole response of a round. -/
def unsplit (content : Option String) (calls : List RoundCall) : Body :=
  ⟨[some ⟨content, calls.map RoundCall.raw⟩]⟩

namespace Fragment

/-- The name a fragment carries. -/
def name (tc : Fragment) : Option String := (FunctionField.orEmpty tc.function).name

/-- The piece of the arguments a fragment carries; nothing when it carries something else. -/
def argumentText (tc : Fragment) : Option String :=
  match (FunctionField.orEmpty tc.function).arguments with
  | none | some (.other false) => some ""
  | some (.text text) => some text
  | some (.other true) => none

end Fragment

/-- Fragments of one call: the first carries its id and its name, no other does, and the pieces of
the arguments make their text. -/
def Pieces (call : RoundCall) (fragments : List Fragment) : Prop :=
  ∃ first later parts, fragments = first :: later ∧
    orBlank first.id = orBlank call.id ∧ first.name = some call.name ∧
    (∀ tc ∈ later, tc.id = none ∧ tc.name = none) ∧
    fragments.map Fragment.argumentText = parts.map some ∧ String.join parts = call.arguments

/-- Fragments are those of some calls with names, interleaved in any way in which the first ones of
the calls come in the order of the calls; so no two calls have one index. -/
structure Scatters (calls : List RoundCall) (fragments : List Fragment) : Prop where
  named : ∀ call ∈ calls, call.name ≠ ""
  inOrder : Grouping.firsts Fragment.key fragments = calls.map RoundCall.index
  pieces : ∀ call ∈ calls, Pieces call (Grouping.ofKey Fragment.key call.index fragments)

namespace Chunk

/-- The first choice of a chunk. -/
def choice (chunk : Chunk) : Choice := (chunk.choices.head?.join).getD ⟨none, none⟩

/-- The fragments of a chunk. -/
def fragments (chunk : Chunk) : List Fragment := (chunk.choice.delta.getD ⟨none, []⟩).toolCalls

/-- A chunk with a finish reason. -/
def Finishes (chunk : Chunk) : Prop := orBlank chunk.choice.finishReason ≠ ""

instance (chunk : Chunk) : Decidable chunk.Finishes :=
  inferInstanceAs (Decidable (orBlank chunk.choice.finishReason ≠ ""))

end Chunk

/-- The first finish reason of a stream is on the last chunk that carries a fragment, or later. -/
def Closes (chunks : List Chunk) : Prop :=
  ∃ before last after, chunks = before ++ last :: after ∧ (∀ chunk ∈ before, ¬chunk.Finishes) ∧
    last.Finishes ∧ ∀ chunk ∈ after, chunk.fragments = []

/-! ## One call -/

/-- A first value is taken as it is. -/
theorem orOld_blank (value : Option String) : orOld value "" = orBlank value := by
  rw [orOld]
  split
  · next blank => exact blank.symm
  · rfl

/-- A slot after a fragment of its index, when the fragment carries a piece of the arguments. -/
def Slot.join (slot : Option Slot) (tc : Fragment) : Slot :=
  let slot := slot.getD .blank
  ⟨orOld tc.id slot.id, orOld tc.name slot.name, slot.arguments ++ tc.argumentText.getD ""⟩

/-- Adding a fragment with a piece of the arguments. -/
theorem Slot.add_eq {slot : Option Slot} {tc : Fragment} (textual : tc.argumentText ≠ none) :
    (slot.getD .blank).add tc = .ok (Slot.join slot tc) := by
  unfold Fragment.argumentText at textual
  simp only [Slot.add, Slot.join, Fragment.name, Fragment.argumentText]
  split
  · next absent => simp [absent]
  · next falsy => simp [falsy]
  · next text carried => simp [carried]
  · next wrong =>
    rw [wrong] at textual
    exact absurd rfl textual

/-- The loop over fragments files each in the slot of its index. -/
theorem accumulate_all {fragments : List Fragment}
    (textual : ∀ tc ∈ fragments, tc.argumentText ≠ none) (accumulating : Dict Int Slot) :
    fragments.foldlM accumulate accumulating =
      .ok (fragments.foldl (Grouping.file Fragment.key Slot.join) accumulating) := by
  induction fragments generalizing accumulating with
  | nil => rfl
  | cons tc rest ih =>
    have filed : accumulate accumulating tc =
        .ok (Grouping.file Fragment.key Slot.join accumulating tc) := by
      rw [accumulate, Slot.add_eq (textual tc List.mem_cons_self)]
      rfl
    rw [List.foldlM_cons, filed, List.foldl_cons]
    exact ih (fun other inside => textual other (List.mem_cons_of_mem _ inside)) _

/-- The slot of a call whose fragments have all come. -/
def RoundCall.slot (call : RoundCall) : Slot := ⟨orBlank call.id, call.name, call.arguments⟩

/-- Fragments without an id and a name only add to the arguments. -/
theorem join_later {later : List Fragment} (silent : ∀ tc ∈ later, tc.id = none ∧ tc.name = none)
    (slot : Slot) :
    later.foldl (fun slot tc => some (Slot.join slot tc)) (some slot) =
      some { slot with
        arguments := slot.arguments ++
          String.join (later.map fun tc => tc.argumentText.getD "") } := by
  induction later generalizing slot with
  | nil => simp
  | cons tc rest ih =>
    obtain ⟨noId, noName⟩ := silent tc List.mem_cons_self
    have joined : Slot.join (some slot) tc =
        { slot with arguments := slot.arguments ++ tc.argumentText.getD "" } := by
      simp [Slot.join, noId, noName, orOld, orBlank]
    have others := fun other inside => silent other (List.mem_cons_of_mem _ inside)
    rw [List.foldl_cons, joined, ih others]
    simp [String.join_cons, String.append_assoc]

/-- The fragments of a call make its slot. -/
theorem gather_pieces {call : RoundCall} {fragments : List Fragment}
    (pieces : Pieces call fragments) : Grouping.gather Slot.join fragments = some call.slot := by
  obtain ⟨first, later, parts, rfl, firstId, firstName, silent, texts, joined⟩ := pieces
  have opened : Slot.join none first =
      ⟨orBlank call.id, call.name, first.argumentText.getD ""⟩ := by
    simp only [Slot.join, Option.getD_none, Slot.blank, firstName, orOld_blank, firstId,
      String.empty_append]
    rfl
  have carried : (first :: later).map (fun tc => tc.argumentText.getD "") = parts := by
    have read := congrArg (List.map fun text : Option String => text.getD "") texts
    simpa [List.map_map, Function.comp_def] using read
  rw [Grouping.gather, List.foldl_cons, opened, join_later silent, RoundCall.slot, ← joined,
    ← carried, List.map_cons, String.join_cons]

/-! ## The calls at once -/

/-- The slots after all fragments of a round are those of its calls, in order. -/
theorem values_scattered {calls : List RoundCall} {fragments : List Fragment}
    (scattered : Scatters calls fragments) :
    (fragments.foldl (Grouping.file Fragment.key Slot.join) Dict.empty).values =
      calls.map RoundCall.slot := by
  have gathered : (fragments.foldl (Grouping.file Fragment.key Slot.join) Dict.empty).values.map
      some = (calls.map RoundCall.slot).map some := by
    rw [Grouping.values_foldl, scattered.inOrder, List.map_map, List.map_map]
    exact List.map_congr_left fun call inside => gather_pieces (scattered.pieces call inside)
  exact (List.map_injective_iff.mpr (fun _ _ same => Option.some.inj same)) gathered

variable (json : Loads α)

/-- A whole response parses the arguments of a call as the stream does. -/
theorem argumentsOf_text (call : RoundCall) :
    argumentsOf json (some (.text call.arguments)) = call.slot.parsed json := by
  by_cases blank : call.arguments = ""
  · simp [argumentsOf, Slot.parsed, RoundCall.slot, blank, json.value_empty]
  · rw [Slot.parsed, RoundCall.slot, if_neg blank]
    cases parsed : json.value call.arguments with
    | ok value => simp [argumentsOf, parsed]
    | error failure =>
      cases failure with
      | jsonDecodeError text => simp [argumentsOf, parsed]
      | typeError text => exact absurd parsed (json.value_typed _ _)
      | other text => simp [argumentsOf, parsed]

/-- The call a slot with parsed arguments becomes. -/
def RoundCall.yield (call : RoundCall) (arguments : α) : ToolCall α :=
  ⟨orBlank call.id, call.name, arguments⟩

/-- A call in a whole response. -/
theorem toolCallOf_raw (call : RoundCall) :
    toolCallOf json call.raw = (call.slot.parsed json).map call.yield := by
  have named : orBlank (FunctionField.orEmpty call.raw.function).name = call.name := rfl
  have carried : (FunctionField.orEmpty call.raw.function).arguments =
      some (.text call.arguments) := rfl
  rw [toolCallOf, named, carried, argumentsOf_text]
  cases call.slot.parsed json <;> rfl

/-- The loop over the slots of some calls does what the loop over the raw calls does: it yields the
same calls, or raises the same exception. -/
theorem finish_slots {calls : List RoundCall} (named : ∀ call ∈ calls, call.name ≠ "") :
    match (calls.map RoundCall.raw).mapM (toolCallOf json) with
    | .ok got => finish json (calls.map RoundCall.slot) = (got, none)
    | .error failure => (finish json (calls.map RoundCall.slot)).2 = some failure := by
  induction calls with
  | nil => rfl
  | cons call rest ih =>
    have ih := ih fun other inside => named other (List.mem_cons_of_mem _ inside)
    have nonempty : call.slot.name ≠ "" := named call List.mem_cons_self
    rw [List.map_cons, List.map_cons, List.mapM_cons, toolCallOf_raw, finish, if_neg nonempty]
    cases parsed : call.slot.parsed json with
    | error failure => rfl
    | ok arguments =>
      cases later : (rest.map RoundCall.raw).mapM (toolCallOf json) with
      | error failure =>
        rw [later] at ih
        exact ih
      | ok got =>
        rw [later] at ih
        simp only [ih]
        rfl

/-! ## The stream -/

/-- The calls yielded so far. -/
def Reading.calls (r : Reading α) : List (ToolCall α) := r.yielded.filterMap StreamDelta.toolCall

/-- A reading before the text of a chunk. -/
def Reading.heard (r : Reading α) (chunk : Chunk) : Reading α :=
  (r.note chunk).yieldText (chunk.choice.delta.getD ⟨none, []⟩).content

/-- The text of a chunk yields no call. -/
@[simp] theorem calls_heard (r : Reading α) (chunk : Chunk) : (r.heard chunk).calls = r.calls := by
  rw [Reading.heard, Reading.yieldText]
  split
  · rfl
  · simp [Reading.calls, Reading.note]

/-- The text of a chunk adds to no slot. -/
@[simp] theorem accumulating_heard (r : Reading α) (chunk : Chunk) :
    (r.heard chunk).accumulating = r.accumulating := by
  rw [Reading.heard, Reading.yieldText]
  split <;> rfl

/-- Yielding calls. -/
@[simp] theorem calls_yieldCalls (r : Reading α) (calls : List (ToolCall α)) :
    (r.yieldCalls calls).calls = r.calls ++ calls := by
  simp [Reading.calls, Reading.yieldCalls, List.filterMap_map]

/-- A chunk with a piece of the arguments in each of its fragments. -/
def Chunk.Textual (chunk : Chunk) : Prop := ∀ tc ∈ chunk.fragments, tc.argumentText ≠ none

/-- The slots after a chunk. -/
def Chunk.filed (chunk : Chunk) (accumulating : Dict Int Slot) : Dict Int Slot :=
  chunk.fragments.foldl (Grouping.file Fragment.key Slot.join) accumulating

/-- A reading after a chunk, before its finish reason. -/
def Reading.filed (r : Reading α) (chunk : Chunk) : Reading α :=
  { r.heard chunk with accumulating := chunk.filed r.accumulating }

/-- A reading after a finish reason. -/
def Reading.emptied (r : Reading α) (calls : List (ToolCall α)) : Reading α :=
  { r.yieldCalls calls with accumulating := .empty }

/-- Filing fragments yields no call. -/
@[simp] theorem calls_filed (r : Reading α) (chunk : Chunk) : (r.filed chunk).calls = r.calls :=
  calls_heard r chunk

/-- A finish reason yields the calls. -/
@[simp] theorem calls_emptied (r : Reading α) (calls : List (ToolCall α)) :
    (r.emptied calls).calls = r.calls ++ calls := calls_yieldCalls r calls

/-- A chunk files its fragments, and yields the slots if it has a finish reason. -/
theorem readChunk_textual {chunk : Chunk} (textual : chunk.Textual) (r : Reading α) :
    readChunk json r chunk =
      if orBlank chunk.choice.finishReason = "" then (r.filed chunk, none)
      else
        match finish json (chunk.filed r.accumulating).values with
        | (calls, some failure) => ((r.filed chunk).yieldCalls calls, some failure)
        | (calls, none) => ((r.filed chunk).emptied calls, none) := by
  have filed : chunk.fragments.foldlM accumulate r.accumulating =
      .ok (chunk.filed r.accumulating) := accumulate_all textual _
  obtain ⟨id, usage, choices⟩ := chunk
  cases choices with
  | nil => rfl
  | cons choice rest =>
    have kept : (r.heard ⟨id, usage, choice :: rest⟩).accumulating = r.accumulating :=
      accumulating_heard r _
    have inner : (r.heard ⟨id, usage, choice :: rest⟩) =
        (r.note ⟨id, usage, choice :: rest⟩).yieldText
          ((choice.getD ⟨none, none⟩).delta.getD ⟨none, []⟩).content := rfl
    have filed : ((choice.getD ⟨none, none⟩).delta.getD ⟨none, []⟩).toolCalls.foldlM accumulate
        (r.heard ⟨id, usage, choice :: rest⟩).accumulating =
          .ok (Chunk.filed ⟨id, usage, choice :: rest⟩ r.accumulating) := kept ▸ filed
    simp only [readChunk, ← inner, filed]
    generalize finish json (Chunk.filed ⟨id, usage, choice :: rest⟩ r.accumulating).values = ended
    obtain ⟨calls, _ | failure⟩ := ended
    · rfl
    · rfl

/-- The loop over the data of the events. -/
def readChunks : List Chunk → Reading α → Reading α × Option Failure
  | [], r => (r, none)
  | chunk :: rest, r =>
    match readChunk json r chunk with
    | (r, some failure) => (r, some failure)
    | (r, none) => readChunks rest r

variable {json}

/-- Lines without data are passed over. -/
theorem readLines_eq {lines : List String} {chunks : List Chunk}
    (received : (lines.filterMap dataOf).map json.chunk = chunks.map .ok) (r : Reading α) :
    readLines json lines r = readChunks json chunks r := by
  induction lines generalizing chunks r with
  | nil =>
    obtain rfl : chunks = [] := by simpa using received.symm
    rfl
  | cons line rest ih =>
    rw [readLines]
    cases carried : dataOf line with
    | none => exact ih (by simpa [carried] using received) r
    | some data =>
      rw [List.filterMap_cons_some carried, List.map_cons] at received
      cases chunks with
      | nil => cases received
      | cons chunk others =>
        obtain ⟨parsed, received⟩ := List.cons.inj received
        simp only [parsed, readChunks]
        cases read : readChunk json r chunk with
        | mk r' raised =>
          cases raised with
          | some failure => rfl
          | none => exact ih received r'

/-- Chunks without a finish reason only add to the slots. -/
theorem readChunks_open {chunks : List Chunk} (unfinished : ∀ chunk ∈ chunks, ¬chunk.Finishes)
    (textual : ∀ chunk ∈ chunks, chunk.Textual) (after : List Chunk) (r : Reading α) :
    ∃ r' : Reading α, readChunks json (chunks ++ after) r = readChunks json after r' ∧
      r'.calls = r.calls ∧
      r'.accumulating = (chunks.flatMap Chunk.fragments).foldl
        (Grouping.file Fragment.key Slot.join) r.accumulating := by
  induction chunks generalizing r with
  | nil => exact ⟨r, rfl, rfl, rfl⟩
  | cons chunk rest ih =>
    have blank : orBlank chunk.choice.finishReason = "" :=
      not_not.mp (unfinished chunk List.mem_cons_self)
    obtain ⟨r', rest', calls, accumulating⟩ :=
      ih (fun other inside => unfinished other (List.mem_cons_of_mem _ inside))
        (fun other inside => textual other (List.mem_cons_of_mem _ inside))
        (r.filed chunk)
    refine ⟨r', ?_, calls.trans (calls_filed r chunk), ?_⟩
    · rw [List.cons_append, readChunks, readChunk_textual json (textual chunk List.mem_cons_self)]
      simp only [blank, if_true]
      exact rest'
    · rw [accumulating, List.flatMap_cons, List.foldl_append]
      rfl

/-- Chunks without a fragment yield no call once the slots are empty. -/
theorem readChunks_after {chunks : List Chunk} (bare : ∀ chunk ∈ chunks, chunk.fragments = [])
    {r : Reading α} (empty : r.accumulating = .empty) :
    (readChunks json chunks r).2 = none ∧ (readChunks json chunks r).1.calls = r.calls := by
  induction chunks generalizing r with
  | nil => exact ⟨rfl, rfl⟩
  | cons chunk rest ih =>
    have none' := bare chunk List.mem_cons_self
    have textual : chunk.Textual := fun tc inside => by
      rw [none'] at inside
      cases inside
    have unfiled : chunk.filed r.accumulating = .empty := by
      rw [Chunk.filed, none', empty]
      rfl
    have later := fun (r' : Reading α) (empty' : r'.accumulating = .empty) =>
      ih (fun other inside => bare other (List.mem_cons_of_mem _ inside)) empty'
    rw [readChunks, readChunk_textual json textual, unfiled]
    by_cases blank : orBlank chunk.choice.finishReason = ""
    · rw [if_pos blank]
      obtain ⟨quiet, calls⟩ := later (r.filed chunk) unfiled
      exact ⟨quiet, calls.trans (calls_filed r chunk)⟩
    · rw [if_neg blank]
      obtain ⟨quiet, calls⟩ := later ((r.filed chunk).emptied []) rfl
      refine ⟨quiet, calls.trans ?_⟩
      rw [calls_emptied, List.append_nil, calls_filed]

/-- The fragments of a round carry pieces of arguments. -/
theorem Scatters.textual {calls : List RoundCall} {fragments : List Fragment}
    (scattered : Scatters calls fragments) : ∀ tc ∈ fragments, tc.argumentText ≠ none := by
  intro tc inside
  have listed : tc.key ∈ calls.map RoundCall.index := by
    rw [← scattered.inOrder, Grouping.firsts, List.mem_eraseDups]
    exact List.mem_map_of_mem inside
  obtain ⟨call, there, same⟩ := List.mem_map.mp listed
  obtain ⟨first, later, parts, -, -, -, -, texts, -⟩ := scattered.pieces call there
  have own : tc ∈ Grouping.ofKey Fragment.key call.index fragments :=
    List.mem_filter.mpr ⟨inside, decide_eq_true same.symm⟩
  have read : tc.argumentText ∈ parts.map some := texts ▸ List.mem_map_of_mem own
  obtain ⟨part, -, made⟩ := List.mem_map.mp read
  rw [← made]
  exact Option.some_ne_none part

/-- A closed stream of a round yields what the loop over the slots of its calls yields. -/
theorem readChunks_closed {calls : List RoundCall} {chunks : List Chunk}
    (scattered : Scatters calls (chunks.flatMap Chunk.fragments)) (closes : Closes chunks) :
    (readChunks json chunks .start).2 = (finish json (calls.map RoundCall.slot)).2 ∧
      (readChunks json chunks .start).1.calls = (finish json (calls.map RoundCall.slot)).1 := by
  obtain ⟨before, last, after, rfl, unfinished, finished, bare⟩ := closes
  have textual : ∀ chunk ∈ before ++ last :: after, chunk.Textual := fun chunk inside tc carried =>
    scattered.textual tc (List.mem_flatMap.mpr ⟨chunk, inside, carried⟩)
  obtain ⟨r, opened, silent, accumulating⟩ := @readChunks_open α json before unfinished
    (fun chunk inside => textual chunk (List.mem_append_left _ inside)) (last :: after) .start
  have filed : last.filed r.accumulating = ((before ++ last :: after).flatMap
      Chunk.fragments).foldl (Grouping.file Fragment.key Slot.join) Dict.empty := by
    have nothing : after.flatMap Chunk.fragments = [] := List.flatMap_eq_nil_iff.mpr bare
    rw [Chunk.filed, accumulating, List.flatMap_append, List.flatMap_cons, nothing,
      List.append_nil, List.foldl_append]
    rfl
  have values : (last.filed r.accumulating).values = calls.map RoundCall.slot :=
    (congrArg Dict.values filed).trans (values_scattered scattered)
  have silent : (r.filed last).calls = [] := (calls_filed r last).trans silent
  rw [opened, readChunks, readChunk_textual json (textual last (by simp)), if_neg finished, values]
  cases ended : finish json (calls.map RoundCall.slot) with
  | mk got raised =>
    cases raised with
    | some failure =>
      have yielded := calls_yieldCalls (r.filed last) got
      rw [silent, List.nil_append] at yielded
      exact ⟨rfl, yielded⟩
    | none =>
      have yielded := calls_emptied (r.filed last) got
      rw [silent, List.nil_append] at yielded
      obtain ⟨quiet, later⟩ := @readChunks_after α json after bare ((r.filed last).emptied got) rfl
      exact ⟨quiet, later.trans yielded⟩

/-- The arguments a call is parsed to: an empty or malformed text gives the empty object. -/
def Parses (json : Loads α) (call : RoundCall) (arguments : α) : Prop :=
  if call.arguments = "" then arguments = json.empty
  else
    match json.value call.arguments with
    | .ok value => arguments = value
    | .error (.jsonDecodeError _) => arguments = json.empty
    | .error _ => False

/-- The arguments of a parsed call. -/
theorem parses_of_parsed {call : RoundCall} {arguments : α}
    (parsed : call.slot.parsed json = .ok arguments) : Parses json call arguments := by
  rw [Slot.parsed, RoundCall.slot] at parsed
  rw [Parses]
  split at parsed
  · next text malformed =>
    by_cases blank : call.arguments = ""
    · rw [if_pos blank]
      exact (Except.ok.inj parsed).symm
    · rw [if_neg blank] at malformed ⊢
      rw [malformed]
      exact (Except.ok.inj parsed).symm
  · by_cases blank : call.arguments = ""
    · rw [if_pos blank, json.value_empty] at parsed
      rw [if_pos blank]
      exact (Except.ok.inj parsed).symm
    · rw [if_neg blank] at parsed ⊢
      rw [parsed]

/-- The calls of a whole response, one for each call of the round. -/
theorem mapM_toolCallOf {calls : List RoundCall} {got : List (ToolCall α)}
    (read : (calls.map RoundCall.raw).mapM (toolCallOf json) = .ok got) :
    List.Forall₂ (fun call got => got.id = orBlank call.id ∧ got.name = call.name ∧
      Parses json call got.arguments) calls got := by
  induction calls generalizing got with
  | nil =>
    obtain rfl : got = [] := (Except.ok.inj read).symm
    exact .nil
  | cons call rest ih =>
    rw [List.map_cons, List.mapM_cons, toolCallOf_raw] at read
    cases parsed : call.slot.parsed json with
    | error failure =>
      rw [parsed] at read
      cases read
    | ok arguments =>
      rw [parsed] at read
      cases later : (rest.map RoundCall.raw).mapM (toolCallOf json) with
      | error failure =>
        rw [later] at read
        cases read
      | ok others =>
        rw [later] at read
        obtain rfl : got = call.yield arguments :: others := (Except.ok.inj read).symm
        exact .cons ⟨rfl, rfl, parses_of_parsed parsed⟩ (ih later)

/-- **Streamed calls reassemble.** For every round of named calls, every way of cutting the texts of
their arguments into fragments and of interleaving these, and any lines that carry the chunks: the
stream ends normally and yields the calls of the whole response, of which there is one for each call
of the round; where reading the whole response raises, the stream raises the same exception. -/
theorem calls_reassembled (json : Loads α) {model : String} (routed : model ≠ "")
    (content : Option String) {calls : List RoundCall} {chunks : List Chunk} {lines : List String}
    (scattered : Scatters calls (chunks.flatMap Chunk.fragments)) (closes : Closes chunks)
    (received : (lines.filterMap dataOf).map json.chunk = chunks.map .ok) :
    match toolResponseOf json (unsplit content calls) with
    | .ok response =>
      (streamWithTools json true (some model) ⟨lines, none⟩).raised = none ∧
      (streamWithTools json true (some model) ⟨lines, none⟩).yielded.filterMap
        StreamDelta.toolCall = response.toolCalls ∧
      List.Forall₂ (fun call got => got.id = orBlank call.id ∧ got.name = call.name ∧
        Parses json call got.arguments) calls response.toolCalls
    | .error failure =>
      (streamWithTools json true (some model) ⟨lines, none⟩).raised =
        some ("AI provider request failed: " ++ failure.text) := by
  have named : ¬orBlank (some model) = "" := routed
  obtain ⟨raised, yielded⟩ := @readChunks_closed α json calls chunks scattered closes
  rw [← readLines_eq received] at raised yielded
  have slots := finish_slots json scattered.named
  have whole : toolResponseOf json (unsplit content calls) =
      ((calls.map RoundCall.raw).mapM (toolCallOf json)).map fun got => ⟨content, got⟩ := by
    show ((calls.map RoundCall.raw).mapM (toolCallOf json) >>= _) = _
    cases (calls.map RoundCall.raw).mapM (toolCallOf json) <;> rfl
  cases read : readLines json lines .start with
  | mk r failed =>
    rw [read] at raised yielded
    rw [whole]
    simp only [streamWithTools, Bool.not_true, Bool.false_eq_true, if_false, named, readAnswer,
      read]
    cases one : (calls.map RoundCall.raw).mapM (toolCallOf json) with
    | error failure =>
      rw [one] at slots
      obtain rfl : failed = some failure := raised.trans slots
      rfl
    | ok got =>
      rw [one] at slots
      obtain rfl : failed = none := raised.trans (congrArg Prod.snd slots)
      exact ⟨rfl, yielded.trans (congrArg Prod.fst slots), mapM_toolCallOf one⟩

/-- The text of an object. -/
def object (fields : String) : String := "\x7b" ++ fields ++ "\x7d"

/-- A line carries the text of an object. -/
theorem dataOf_object (fields : String) :
    dataOf ("data: " ++ object fields) = some (object fields) := by
  have inner : (object fields).toList = '\x7b' :: (fields.toList ++ ['\x7d']) := by
    simp [object, String.toList_append]
  have carried : ("data: " ++ object fields).toList =
      "data:".toList ++ ' ' :: (object fields).toList := by
    rw [String.toList_append]
    rfl
  have bare : stripChars (' ' :: (object fields).toList) = (object fields).toList := by
    have left : isSpace '\x7b' = false := by decide
    have right : isSpace '\x7d' = false := by decide
    have blank : isSpace ' ' = true := by decide
    rw [inner, stripChars, List.dropWhile_cons_of_pos blank,
      List.dropWhile_cons_of_neg (by simp [left]), ← List.cons_append, List.rdropWhile_concat_neg _ _ _ (by simp [right])]
  have kept : strip (String.ofList (' ' :: (object fields).toList)) = object fields := by
    rw [strip, String.toList_ofList, bare, String.ofList_toList]
  have apart : ∀ other : String, other.toList.head? ≠ some '\x7b' → object fields ≠ other := by
    rintro other different rfl
    rw [inner] at different
    exact different rfl
  rw [dataOf, carried, if_pos (by simp), List.drop_left]
  simp only [kept, apart "" (by decide), apart "[DONE]" (by decide), or_self, if_false]

/-- Two calls, the first with arguments. -/
def sampleCalls : List RoundCall :=
  [⟨0, some "a", "search_users", "\x7b\"q\": 1\x7d"⟩, ⟨1, some "b", "get_client", ""⟩]

/-- The arguments of the first call are cut, with the second call in between. -/
def sampleFragments : List Fragment :=
  [⟨some 0, some "a", some ⟨some "search_users", some (.text "\x7b\"q\"")⟩⟩,
    ⟨some 1, some "b", some ⟨some "get_client", some (.text "")⟩⟩,
    ⟨some 0, none, some ⟨none, some (.text ": 1\x7d")⟩⟩]

/-- One chunk for each fragment, the last with the finish reason. -/
def sampleChunks : List Chunk :=
  sampleFragments.zipIdx.map fun place =>
    ⟨none, none, [some ⟨some ⟨none, [place.1]⟩, if place.2 = 2 then some "tool_calls" else none⟩]⟩

/-- The text of each chunk. -/
def sampleTexts : List String :=
  ["\"choices\":[\x7b\"delta\":\x7b\"tool_calls\":[\x7b\"index\":0,\"id\":\"a\"," ++
      "\"function\":\x7b\"name\":\"search_users\",\"arguments\":\"\x7b\\\"q\\\"\"" ++
      "\x7d\x7d]\x7d\x7d]",
    "\"choices\":[\x7b\"delta\":\x7b\"tool_calls\":[\x7b\"index\":1,\"id\":\"b\"," ++
      "\"function\":\x7b\"name\":\"get_client\",\"arguments\":\"\"\x7d\x7d]\x7d\x7d]",
    "\"choices\":[\x7b\"delta\":\x7b\"tool_calls\":[\x7b\"index\":0," ++
      "\"function\":\x7b\"arguments\":\": 1\x7d\"\x7d\x7d]\x7d," ++
      "\"finish_reason\":\"tool_calls\"\x7d]"].map object

/-- What is read from the sample texts. -/
def sampleLoads : Loads Json where
  chunk text := ((sampleTexts.zip sampleChunks).lookup text).elim
    (.error (.jsonDecodeError "Expecting value")) .ok
  value text :=
    if text = "\x7b\x7d" then .ok (.obj [])
    else if text = "\x7b\"q\": 1\x7d" then .ok (.obj [("q", .int 1)])
    else .error (.jsonDecodeError "Expecting value")
  empty := .obj []
  value_empty := rfl
  value_typed text raised := by
    split
    · simp
    · split <;> simp

/-- The lines of the sample stream. -/
def sampleLines : List String :=
  ": OPENROUTER PROCESSING" :: sampleTexts.map ("data: " ++ ·) ++ ["", "data: [DONE]"]

/-- The sample lines carry the sample texts. -/
theorem sample_data : sampleLines.filterMap dataOf = sampleTexts := by
  have carried : ∀ text ∈ sampleTexts, dataOf ("data: " ++ text) = some text := by
    intro text inside
    obtain ⟨fields, -, rfl⟩ := List.mem_map.mp inside
    exact dataOf_object fields
  have ends : ["", "data: [DONE]"].filterMap dataOf = [] := by decide +kernel
  have comment : dataOf ": OPENROUTER PROCESSING" = none := by decide +kernel
  rw [sampleLines, List.cons_append, List.filterMap_cons_none comment, List.filterMap_append, ends,
    List.filterMap_map, List.append_nil]
  exact (List.filterMap_congr carried).trans List.filterMap_some

/-- The fragments are those of the two calls. -/
theorem sample_scatters : Scatters sampleCalls (sampleChunks.flatMap Chunk.fragments) where
  named := by decide
  inOrder := by decide
  pieces := by
    intro call inside
    simp only [sampleCalls, List.mem_cons, List.not_mem_nil, or_false] at inside
    obtain rfl | rfl := inside
    · exact ⟨_, _, ["\x7b\"q\"", ": 1\x7d"], rfl, rfl, rfl, by decide, by decide, by decide⟩
    · exact ⟨_, _, [""], rfl, rfl, rfl, by decide, by decide, by decide⟩

/-- The two calls come out of the sample stream whole. -/
theorem sample_reassembled :
    (streamWithTools sampleLoads true (some "m") ⟨sampleLines, none⟩).yielded.filterMap
        StreamDelta.toolCall =
      [⟨"a", "search_users", .obj [("q", .int 1)]⟩, ⟨"b", "get_client", .obj []⟩] := by
  have read : toolResponseOf sampleLoads (unsplit none sampleCalls) =
      .ok ⟨none, [⟨"a", "search_users", .obj [("q", .int 1)]⟩, ⟨"b", "get_client", .obj []⟩]⟩ := by
    decide +kernel
  have closes : Closes sampleChunks :=
    ⟨sampleChunks.take 2, _, [], rfl, by decide, by decide, by decide⟩
  have received : (sampleLines.filterMap dataOf).map sampleLoads.chunk = sampleChunks.map .ok := by
    rw [sample_data]
    decide +kernel
  have whole := calls_reassembled sampleLoads (by decide : "m" ≠ "") none sample_scatters closes
    received
  rw [read] at whole
  exact whole.2.1

end MarketingOS.OpenRouter
