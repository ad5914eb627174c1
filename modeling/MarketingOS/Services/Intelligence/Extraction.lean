import MarketingOS.Services.Intelligence.Orchestrator

/-!
# Extraction

What a build makes of a client's inputs: the sources with their chunks, the corpus the agents see,
the directives after reconciliation and the review gate, and the capability flags. The model is a
function of the corpus.
-/
namespace MarketingOS.Intelligence

/-- The place of a source in the corpus: fields before documents. -/
def corpusPriority (src : KnowledgeSource) : Nat :=
  if (orText src.refKind "document") = "field" then 0 else 1

/-- The loop of `_assemble_corpus`, with the characters there are already. -/
def corpusBlocks (cap : Nat) : Nat → List KnowledgeSource → List String
  | _, [] => []
  | total, src :: rest =>
    let text := strip (src.extractedText.getD "")
    if text = "" then corpusBlocks cap total rest
    else
      let whole := s!"## {src.label}\n{text}"
      let block := if cap < total + whole.length then clip (cap - total) whole else whole
      if cap ≤ total + block.length then [block]
      else block :: corpusBlocks cap (total + block.length) rest

/-- `_assemble_corpus` -/
def assembleCorpus (cap : Nat) (synced : List SyncedSource) : String :=
  "\n\n".intercalate
    (corpusBlocks cap 0 (StableSort.sortBy corpusPriority (synced.map SyncedSource.source)))

/-- What a build calls besides its toolkit. -/
structure Extractor where
  tables : TextTables
  /-- Whether a model is configured. -/
  configured : Bool
  /-- The items of the model's reply for a corpus. -/
  answer : String → Option (List ReplyItem)
  /-- `max_corpus_chars` -/
  maxCorpusChars : Nat

/-- What a build leaves of a client's inputs. -/
structure Extracted where
  sources : List KnowledgeSource
  directives : List Reconciled
  capabilityFlags : Flags

/-- The stages of a build that read the client's inputs, given the approved keys. -/
def extraction (kit : Toolkit) (extractor : Extractor) (full : Bool) (reachable : String → Bool)
    (newId : Identity → Uuid) (approved : List DirectiveKey) (rows : List KnowledgeSource)
    (inputs : ClientInputs) : Extracted :=
  let (hidden, synced) := sync kit full reachable newId inputs rows
  let corpus := assembleCorpus extractor.maxCorpusChars synced
  let directives := extract extractor.tables extractor.configured corpus inputs
    (extractor.answer corpus)
  let reconciled := gateNewRestrictions extractor.tables approved
    (reconcile extractor.tables directives)
  { sources := hidden ++ synced.map (SyncedSource.embedded kit)
    directives := reconciled
    capabilityFlags := mergeCapabilityFlags reconciled }

end MarketingOS.Intelligence
