import PipelineRegistry.Proofs.DocumentIds
import PipelineRegistry.Proofs.Invariants
import PipelineRegistry.Proofs.Linearization
import PipelineRegistry.Proofs.Notices
import PipelineRegistry.Proofs.TokenReuse

/-!
# Removals of sources

A removal that succeeds is one write. What it writes is what the document that was read last before
it leaves without the source and, if the removal cascades, without all that is bound to the source.
The document that it replaces is the one that was read, unless the pipeline was deleted and created
again in the meantime and its versions have come back to the token that was read.
-/

namespace PipelineRegistry

open Registry

/-! ## What a removal leaves -/

/-- All that is bound to a source. -/
def PipelineDocument.bound (document : PipelineDocument) (id : String) :
    List (ExtractRuleRecord ⊕ ExtensionRecord) :=
  (document.extractRules.filter (·.extractSourceId == id)).map .inl ++
    (document.extensions.filter (·.extractSourceId == id)).map .inr

/-- No two sources of a document have the same id. -/
def PipelineDocument.HasUniqueSources (document : PipelineDocument) : Prop :=
  (document.extractSources.map (·.id)).Nodup

instance (document : PipelineDocument) : Decidable document.HasUniqueSources :=
  inferInstanceAs (Decidable (List.Nodup _))

/-- One document is what is left of another without a source. -/
structure Leaves (id : String) (mode : DeleteMode) (document written : PipelineDocument) :
    Prop where
  known : id ∈ document.extractSources.map (·.id)
  sources : written.extractSources = document.extractSources.filter (·.id != id)
  rules : written.extractRules =
    match mode with
    | .orphan => document.extractRules
    | .cascade => document.extractRules.filter (·.extractSourceId != id)
  extensions : written.extensions =
    match mode with
    | .orphan => document.extensions
    | .cascade => document.extensions.filter (·.extractSourceId != id)
  functions : written.transformFunctions = document.transformFunctions

section Leaves

variable {id : String} {mode : DeleteMode} {document written : PipelineDocument}

theorem Leaves.of_withoutSource
    (unique : document.HasUniqueSources)
    (found : ∃ removed, document.findSource? id = some removed) :
    Leaves id mode document (withoutSource id mode document) := by
  obtain ⟨removed, found⟩ := found
  have known : id ∈ document.extractSources.map (·.id) := by
    have same : removed.id = id := by simpa using List.find?_some found
    rw [← same]
    exact List.mem_map_of_mem (List.mem_of_find?_eq_some found)
  have sources : document.extractSources.eraseP (·.id == id) =
      document.extractSources.filter (·.id != id) := by
    rw [eraseP_eq_filter_of_nodup unique id]
    exact List.filter_congr fun source _ => by simp [bne, beq_eq_decide]
  cases mode with
  | orphan => exact ⟨known, sources, rfl, rfl, rfl⟩
  | cascade => exact ⟨known, sources, rfl, rfl, rfl⟩

theorem Leaves.bound_eq_nil (leaves : Leaves id .cascade document written) :
    written.bound id = [] := by
  unfold PipelineDocument.bound
  rw [leaves.rules, leaves.extensions, List.filter_filter, List.filter_filter]
  simp

theorem PipelineDocument.bound_empty (id : String) : ({} : PipelineDocument).bound id = [] :=
  rfl

end Leaves

/-! ## Additions -/

/-- What is stored for a pipeline has some property. -/
def Store.Shows (store : Store) (key : PipelineKey) (shown : PipelineDocument → Prop) : Prop :=
  ∃ stored, store.find? key = some stored ∧ shown stored.document

section Additions

variable {initial : Store} {before later : List Event} {key : PipelineKey} {caller : Nat}
  {shown : PipelineDocument → Prop}

/-- A document came to be stored that has a property which nothing stored for the pipeline had
right before, and it was not this caller that stored it. -/
inductive Added (initial : Store) (key : PipelineKey) (shown : PipelineDocument → Prop)
    (caller : Nat) (before later : List Event) : Prop
  | intro (front : List Event) (event : Event) (back : List Event)
      (document : PipelineDocument) (version : Version)
      (split : later = front ++ event :: back)
      (effect : event.effect? = some (.update key document version))
      (others : ∀ commit, event.commit? = some commit → commit.caller ≠ caller)
      (missing : ¬ (initial.replay (before ++ front)).Shows key shown)
      (held : shown document)

theorem Added.append (added : Added initial key shown caller before later) (last : List Event) :
    Added initial key shown caller before (later ++ last) := by
  obtain ⟨front, event, back, document, version, rfl, effect, others, missing, held⟩ := added
  exact ⟨front, event, back ++ last, document, version, by simp, effect, others, missing, held⟩

/-- What a pipeline comes to show is brought in by an update. -/
theorem Store.update_of_shows_after
    {store : Store} {call : StoreCall}
    (empty : ¬ shown {}) (missing : ¬ store.Shows key shown)
    (present : (store.after call).Shows key shown) :
    ∃ document version, call = .update key document version ∧ shown document := by
  obtain ⟨stored, found, held⟩ := present
  rcases store.find?_after_cases call key with
    same | ⟨document, former, rfl, -, became⟩ | ⟨-, -, became⟩ | ⟨-, became⟩
  · exact absurd ⟨stored, same ▸ found, held⟩ missing
  · rw [found] at became
    cases became
    exact ⟨document, former.version, rfl, held⟩
  · rw [found] at became
    cases became
    exact absurd held empty
  · rw [found] at became
    cases became

theorem added_of_shows
    (empty : ¬ shown {}) (missing : ¬ (initial.replay before).Shows key shown)
    (others : ∀ event ∈ later, ∀ commit, event.commit? = some commit → commit.caller ≠ caller)
    (present : (initial.replay (before ++ later)).Shows key shown) :
    Added initial key shown caller before later := by
  -- by induction on the last event, which brings it in unless it was shown before
  induction later using List.reverseRecOn with
  | nil =>
      rw [List.append_nil] at present
      exact absurd present missing
  | append_singleton later event inductionHypothesis =>
      by_cases already : (initial.replay (before ++ later)).Shows key shown
      · refine Added.append (inductionHypothesis ?_ already) [event]
        intro former member
        exact others former (List.mem_append_left _ member)
      · rw [← List.append_assoc] at present
        cases effect : event.effect? with
        | none =>
            rw [Store.replay_append_of_none _ _ effect] at present
            exact absurd present already
        | some call =>
            rw [Store.replay_append_of_some _ _ effect] at present
            obtain ⟨document, version, rfl, held⟩ :=
              Store.update_of_shows_after empty already present
            exact ⟨later, event, [], document, version, rfl, effect,
              others event (by simp), already, held⟩

end Additions

/-! ## Removals in runs -/

/-- The read and the write of a removal, and all that happens around them. -/
structure Removal where
  caller : Nat
  context : Context
  id : String
  mode : DeleteMode
  earlier : List Event
  read : PipelineDocument
  counter : Int
  between : List Event
  written : PipelineDocument
  behind : List Event

namespace Removal

def edit (removal : Removal) : Edit :=
  .deleteSource removal.id removal.mode

def load (removal : Removal) : Exchange :=
  .load removal.context (.ok (removal.read, .ofCounter removal.counter))

def write (removal : Removal) : Exchange :=
  .write removal.context removal.written (.ofCounter removal.counter)
    (.ok (.ofCounter (removal.counter + 1)))

def commit (removal : Removal) : Commit :=
  ⟨removal.caller, removal.context.key, removal.written, .ofCounter removal.counter⟩

/-- All that happens before the write. -/
def before (removal : Removal) : List Event :=
  removal.earlier ++ .exchanged removal.caller removal.load :: removal.between

/-- All that happens up to the write. -/
def through (removal : Removal) : List Event :=
  removal.before ++ [.exchanged removal.caller removal.write]

/-- The changes that others make to the pipeline between the read and the write. -/
def changes (removal : Removal) (initial : Store) : List StoreCall :=
  Store.changesOf removal.context.key (initial.replay removal.earlier)
    (removal.between.filterMap Event.effect?)

/-- What the pipeline has stored right before the write. -/
inductive Replaces (removal : Removal) (initial : Store) : Prop
  | read (unchanged : removal.changes initial = [])
      (current : (initial.replay removal.before).find? removal.context.key =
        some ⟨removal.read, removal.counter⟩)
  | recreated (former latter : List StoreCall) (replaced : PipelineDocument)
      (changed : removal.changes initial =
        former ++ .delete removal.context.key :: .create removal.context.key :: latter)
      (updates : ∀ call ∈ latter, call.isUpdate = true)
      (counted : removal.counter = 1 + latter.length)
      (current : (initial.replay removal.before).find? removal.context.key =
        some ⟨replaced, removal.counter⟩)

/-- How a removal that succeeds takes place in a run. -/
structure TakesPlace (removal : Removal) (initial : Store) (trace : List Event) : Prop where
  split : trace = removal.through ++ removal.behind
  during : During removal.caller removal.context (.edit removal.edit) removal.earlier
  idle : historyOf removal.caller removal.between = []
  current : (initial.replay removal.earlier).find? removal.context.key =
    some ⟨removal.read, removal.counter⟩
  leaves : Leaves removal.id removal.mode removal.read removal.written
  replaces : removal.Replaces initial
  stored : (initial.replay removal.through).find? removal.context.key =
    some ⟨removal.written, removal.counter + 1⟩
  once : ∀ front event back commit,
    trace = front ++ event :: back → event.commit? = some commit →
    commit.caller = removal.caller → front = removal.before ∧ commit = removal.commit
  complete : removal.mode = .cascade → ∀ later rest stored,
    removal.behind = later ++ rest →
    (initial.replay (removal.through ++ later)).find? removal.context.key = some stored →
    ∀ entity ∈ stored.document.bound removal.id,
      Added initial removal.context.key (entity ∈ ·.bound removal.id) removal.caller
        removal.through later

end Removal

section Removals

variable {reliability : Reliability} {initial : Store} {final : Database} {trace : List Event}
  {caller : Nat} {context : Context} {id : String} {mode : DeleteMode} {reply : Reply}

theorem Removal.replay_before (removal : Removal) (initial : Store) :
    initial.replay removal.before =
      (initial.replay removal.earlier).afterAll (removal.between.filterMap Event.effect?) := by
  rw [before, Store.replay_append]
  rfl

theorem Removal.replaces_of_commit
    (removal : Removal)
    (current : (initial.replay removal.earlier).find? removal.context.key =
      some ⟨removal.read, removal.counter⟩)
    {stored : Stored}
    (present : (initial.replay removal.before).find? removal.context.key = some stored)
    (expected : stored.version = .ofCounter removal.counter) :
    removal.Replaces initial := by
  obtain ⟨replaced, counter⟩ := stored
  have counted : counter = removal.counter := Version.ofCounter_inj.mp expected
  subst counted
  have read : (initial.replay removal.earlier).answer (.get removal.context.key) =
      .ok (removal.read, .ofCounter removal.counter) :=
    Store.answer_get_eq_ok_iff.mpr ⟨_, current, rfl⟩
  have accepted : (initial.replay removal.before).answer
      (.update removal.context.key removal.written (.ofCounter removal.counter)) =
      .ok (.ofCounter (removal.counter + 1)) :=
    Store.answer_update_eq_ok_iff.mpr ⟨_, present, rfl, rfl⟩
  rw [removal.replay_before] at accepted
  rcases Store.kept_or_recreated_of_accepted read accepted with
    ⟨unchanged, kept⟩ | ⟨former, latter, changed, updates, counted⟩
  · rw [← removal.replay_before] at kept
    obtain ⟨counter, found, same⟩ := Store.answer_get_eq_ok_iff.mp kept
    rw [← Version.ofCounter_inj.mp same] at found
    exact .read unchanged found
  · exact .recreated former latter replaced changed updates (Version.ofCounter_inj.mp counted)
      present

/-- A write that was stored has raised the version by one. -/
theorem Run.token_of_write
    {before behind : List Event} {written : PipelineDocument} {counter : Int} {token : Version}
    (run : Run reliability initial
      (before ++ .exchanged caller (.write context written (.ofCounter counter) (.ok token)) ::
        behind) final) :
    token = .ofCounter (counter + 1) := by
  obtain ⟨database, after, -, step⟩ := run.split
  cases step with
  | exchanged asked running leads answers =>
      obtain ⟨stored, -, current, rfl⟩ := Store.answer_update_eq_ok_iff.mp answers.of_ok.1
      rw [Version.ofCounter_inj.mp current]

/-- Behind a cascading removal, what is bound to its source has been added by others. -/
theorem Removal.complete_of_once
    {removal : Removal} {later rest : List Event} {stored : Stored}
    (cascades : removal.mode = .cascade)
    (leaves : Leaves removal.id removal.mode removal.read removal.written)
    (became : (initial.replay removal.through).find? removal.context.key =
      some ⟨removal.written, removal.counter + 1⟩)
    (once : ∀ front event back commit,
      removal.through ++ removal.behind = front ++ event :: back → event.commit? = some commit →
      commit.caller = removal.caller → front = removal.before ∧ commit = removal.commit)
    (split : removal.behind = later ++ rest)
    (found : (initial.replay (removal.through ++ later)).find? removal.context.key = some stored) :
    ∀ entity ∈ stored.document.bound removal.id,
      Added initial removal.context.key (entity ∈ ·.bound removal.id) removal.caller
        removal.through later := by
  intro entity member
  refine added_of_shows ?empty ?missing ?others ⟨stored, found, member⟩
  case empty => simp [PipelineDocument.bound_empty]
  case missing =>
    rintro ⟨present, current, bound⟩
    rw [became] at current
    cases current
    rw [cascades] at leaves
    rw [leaves.bound_eq_nil] at bound
    cases bound
  case others =>
    -- a commit of the caller behind its write would be its second one
    intro event member commit committed same
    obtain ⟨front, back, rfl⟩ := List.append_of_mem member
    obtain ⟨place, -⟩ := once (removal.through ++ front) event (back ++ rest) commit
      (by rw [split]; simp) committed same
    have longer := congrArg List.length place
    simp [through] at longer

/-- A removal that succeeds takes place as one write, whatever others do in the meantime, provided
that its caller has lost no answer to a write. -/
theorem removal_is_one_write
    (run : Run reliability initial trace final)
    (asked : .invoked caller context (.edit (.deleteSource id mode)) ∈ trace)
    (returned : .returned caller (.ok reply) ∈ trace)
    (told : ∀ exchange ∈ historyOf caller trace,
      exchange.mayStore = true → exchange.isStored = true)
    (unique : ∀ earlier stored, earlier <+: trace →
      (initial.replay earlier).find? context.key = some stored →
      stored.document.HasUniqueSources) :
    ∃ earlier read counter between written behind,
      Removal.TakesPlace
        ⟨caller, context, id, mode, earlier, read, counter, between, written, behind⟩
        initial trace := by
  obtain ⟨before, written, version, token, behind, rfl⟩ := run.write_of_ok asked returned told
  -- the draft of the write tells what was read, and that the caller did nothing since
  obtain ⟨_, _, -, draft⟩ := run.draft
  obtain ⟨rfl, same⟩ := run.asked_unique asked (List.mem_append_left _ draft.asked_before)
  cases same
  obtain ⟨given, read, counter, receipt, earlier, between, -, rfl, current, rfl, idle, changed,
    -, -⟩ := draft
  obtain rfl := run.token_of_write
  let removal : Removal :=
    ⟨caller, context, id, mode, earlier, read, counter, between, written, behind⟩
  have split :
      removal.before ++ .exchanged caller removal.write :: behind =
        removal.through ++ behind := by
    simp [Removal.through, removal]
  have committed : Event.commit? (.exchanged caller removal.write) = some removal.commit := rfl
  obtain ⟨stored, present, expected, became⟩ := run.find?_of_commit committed
  have counted : stored.counter = counter := Version.ofCounter_inj.mp expected
  rw [counted] at became
  have leaves : Leaves id mode read written := by
    rw [Edit.eq_outcome_of_change changed]
    exact Leaves.of_withoutSource (unique earlier _ (by simp) current)
      (Edit.fits_of_change changed)
  have once (front : List Event) (event : Event) (back : List Event) (commit : Commit)
      (place : removal.through ++ behind = front ++ event :: back)
      (again : event.commit? = some commit) (same : commit.caller = caller) :
      front = removal.before ∧ commit = removal.commit :=
    run.place_of_commit committed (split.trans place) again same
  refine ⟨earlier, read, counter, between, written, behind, ?_⟩
  exact {
    split := split
    during := by
      rw [List.append_assoc, List.cons_append] at run asked
      exact run.during_of_exchanged asked
    idle := idle
    current := current
    leaves := leaves
    replaces := removal.replaces_of_commit current present expected
    stored := became
    once := by
      intro front event back commit place
      exact once front event back commit (split.symm.trans place)
    complete := by
      intro cascades later rest stored behindSplit found
      exact Removal.complete_of_once cascades leaves became once behindSplit found }

/-- As long as the pipeline is not deleted between the read and the write, what is written is what
the document that is replaced leaves. -/
theorem Removal.TakesPlace.leaves_predecessor
    {removal : Removal} (takesPlace : removal.TakesPlace initial trace)
    (lasting : ∀ event ∈ removal.between,
      event.effect? ≠ some (.delete removal.context.key)) :
    ∃ predecessor,
      (initial.replay removal.before).find? removal.context.key = some predecessor ∧
      Leaves removal.id removal.mode predecessor.document removal.written := by
  cases takesPlace.replaces with
  | read unchanged current => exact ⟨_, current, takesPlace.leaves⟩
  | recreated former latter replaced changed updates counted current =>
      have deleted : .delete removal.context.key ∈ removal.changes initial := by
        rw [changed]
        simp
      obtain ⟨event, member, effect⟩ := List.mem_filterMap.mp (Store.mem_of_mem_changesOf deleted)
      exact absurd effect (lasting event member)

end Removals

/-! ## Sales without orders

A caller removes the source of orders. Others change the pipeline after it has read the document. -/

/-- What is stored in the course of events has unique sources if all that is written has. -/
theorem Store.hasUniqueSources_of_prefix
    {store : Store} {trace earlier : List Event}
    (all : store.All PipelineDocument.HasUniqueSources)
    (updates : ∀ key document version,
      .update key document version ∈ trace.filterMap Event.effect? → document.HasUniqueSources)
    (former : earlier <+: trace) :
    (store.replay earlier).All PipelineDocument.HasUniqueSources := by
  apply all.afterAll List.nodup_nil
  intro key document version member
  exact updates key document version ((former.sublist.filterMap _).subset member)

namespace OrdersRemoval

def context : Context :=
  ⟨{}, ⟨"default", "sales"⟩⟩

def source : ExtractSourceRecord :=
  { id := "s", name := "orders", path := "/o" }

def start : PipelineDocument :=
  { extractSources := [source] }

def edit : Edit :=
  .deleteSource "s" .cascade

def counted : Exchange :=
  .counted (.mutations .extractSource .delete)

def refreshed : Exchange :=
  ⟨.service context.settings.bound (.refreshSources context.key), .ok ()⟩

def terminated : Exchange :=
  ⟨.service context.settings.bound (.terminateWorkers context.key (workerSelector "orders")),
    .ok ()⟩

def receipt : Receipt :=
  ⟨"s", [Edit.refreshNotice context, Edit.terminateNotice context "orders"]⟩

theorem yields_of_attempts
    {attempts : List Exchange}
    (attempted : Attempts context edit.mutation (edit.change context "") 1
      (context.settings.retryPolicy.maxAttempts.toNat - 1) attempts (.ok receipt)) :
    Operation.Yields ((Command.edit edit).operation context)
      (attempts ++ [refreshed, terminated]) (.ok (.outcome ⟨"s", []⟩)) := by
  have notified : Operation.Yields (Edit.notifyAll context receipt.notices)
      [refreshed, terminated] (.ok []) := by
    refine Edit.yields_notifyAll_cons_iff.mpr ⟨[refreshed], [terminated], [], [], rfl, rfl,
      Registry.yields_notify_iff.mpr (Or.inl ⟨(), rfl, rfl⟩), ?_⟩
    refine Edit.yields_notifyAll_cons_iff.mpr ⟨[terminated], [], [], [], rfl, rfl,
      Registry.yields_notify_iff.mpr (Or.inl ⟨(), rfl, rfl⟩), ?_⟩
    exact Operation.yields_pure_iff.mpr ⟨rfl, rfl⟩
  have edited := Edit.yields_of_attempts rfl (.of_not_creation rfl) attempted notified
  exact Operation.yields_map_iff.mpr ⟨.ok ⟨"s", []⟩, edited, rfl⟩

end OrdersRemoval

namespace AddedExtension

open OrdersRemoval

def extension : Extension :=
  { extractSourceId := "s", name := "audit", path := "/a" }

def extended : PipelineDocument :=
  { start with extensions := [{ extension.record with id := "e" }] }

def initial : Store :=
  ⟨[(context.key, ⟨start, 1⟩)]⟩

def middle : Store :=
  initial.after (.update context.key extended (.ofCounter 1))

def final : Store :=
  middle.after (.update context.key {} (.ofCounter 2))

def failed : List Exchange :=
  [.load context (.ok (start, .ofCounter 1)),
    .write context {} (.ofCounter 1) (.error (.failed (.conflict context.key (.ofCounter 1)))),
    .counted .storeConflicts,
    .pause context 1 true]

def trace : List Event :=
  [.invoked 0 context (.edit edit),
    .exchanged 0 (.load context (.ok (start, .ofCounter 1))),
    .invoked 1 context (.edit (.createExtension extension)),
    .exchanged 1 ⟨.freshId, "e"⟩,
    .exchanged 1 (.load context (.ok (start, .ofCounter 1))),
    .exchanged 1 (.write context extended (.ofCounter 1) (.ok (.ofCounter 2))),
    .exchanged 0 (.write context {} (.ofCounter 1)
      (.error (.failed (.conflict context.key (.ofCounter 1))))),
    .exchanged 0 (.counted .storeConflicts),
    .exchanged 0 (.pause context 1 true),
    .exchanged 0 (.load context (.ok (extended, .ofCounter 2))),
    .exchanged 0 (.write context {} (.ofCounter 2) (.ok (.ofCounter 3))),
    .exchanged 0 counted,
    .exchanged 0 refreshed,
    .exchanged 0 terminated,
    .returned 0 (.ok (.outcome ⟨"s", []⟩))]

theorem find?_initial : initial.find? context.key = some ⟨start, 1⟩ :=
  rfl

theorem find?_middle : middle.find? context.key = some ⟨extended, 2⟩ := by
  have current : Stored.version ⟨start, 1⟩ = .ofCounter 1 := rfl
  rw [middle, Store.find?_after_update _ _ find?_initial current, if_pos rfl]
  rfl

theorem answer_extended :
    initial.answer (.update context.key extended (.ofCounter 1)) = .ok (.ofCounter 2) :=
  Store.answer_update_eq_ok_iff.mpr ⟨_, find?_initial, rfl, rfl⟩

theorem answer_stale :
    middle.answer (.update context.key {} (.ofCounter 1)) =
      .error (.failed (.conflict context.key (.ofCounter 1))) := by
  apply Store.answer_update_of_stale find?_middle
  intro same
  have impossible := Version.ofCounter_inj.mp same
  contradiction

theorem answer_reload :
    middle.answer (.get context.key) = .ok (extended, .ofCounter 2) :=
  Store.answer_get_eq_ok_iff.mpr ⟨2, find?_middle, rfl⟩

theorem answer_removed :
    middle.answer (.update context.key {} (.ofCounter 2)) = .ok (.ofCounter 3) :=
  Store.answer_update_eq_ok_iff.mpr ⟨_, find?_middle, rfl, rfl⟩

theorem yields_extension :
    Operation.Yields ((Command.edit (.createExtension extension)).operation context)
      [⟨.freshId, "e"⟩,
        .load context (.ok (start, .ofCounter 1)),
        .write context extended (.ofCounter 1) (.ok (.ofCounter 2)),
        .counted (.mutations .extension .create)]
      (.ok (.outcome ⟨"e", []⟩)) :=
  Operation.yields_map_iff.mpr ⟨.ok ⟨"e", []⟩,
    Edit.yields_without_notices (.createExtension extension) "e" rfl (.of_creation rfl "e")
      (Attempts.stored start (.ofCounter 1) (.ofCounter 2) rfl), rfl⟩

theorem yields_removal :
    Operation.Yields ((Command.edit edit).operation context)
      (failed ++
        [.load context (.ok (extended, .ofCounter 2)),
          .write context {} (.ofCounter 2) (.ok (.ofCounter 3)),
          counted] ++ [refreshed, terminated])
      (.ok (.outcome ⟨"s", []⟩)) :=
  yields_of_attempts (Attempts.again start (.ofCounter 1) context.key (.ofCounter 1) rfl
    (Attempts.stored extended (.ofCounter 2) (.ofCounter 3) rfl))

theorem run : Run .faultless initial trace { store := final } := by
  have asked : Run .faultless initial (trace.take 1) { store := initial } :=
    Run.start.step (Step.invoked 0 context (.edit edit) (by simp))
  have loaded : Run .faultless initial (trace.take 2) { store := initial } :=
    asked.then_exchange (by simp [trace]) (by simp [trace]) yields_removal
      (Answers.performed _ _)
  have asked : Run .faultless initial (trace.take 3) { store := initial } :=
    loaded.step (Step.invoked 1 context (.edit (.createExtension extension)) (by simp [trace]))
  have named : Run .faultless initial (trace.take 4) { store := initial } :=
    asked.then_exchange (by simp [trace]) (by simp [trace]) yields_extension (Answers.named _)
  have loaded : Run .faultless initial (trace.take 5) { store := initial } :=
    named.then_exchange (by simp [trace]) (by simp [trace]) yields_extension
      (Answers.performed _ _)
  have written : Run .faultless initial (trace.take 6) { store := middle } :=
    loaded.then_exchange (by simp [trace]) (by simp [trace]) yields_extension
      (Answers.succeeded answer_extended)
  have refused : Run .faultless initial (trace.take 7) { store := middle } :=
    written.then_exchange (by simp [trace]) (by simp [trace]) yields_removal
      (Answers.failed answer_stale)
  have noted : Run .faultless initial (trace.take 8) { store := middle } :=
    refused.then_exchange (by simp [trace]) (by simp [trace]) yields_removal (Answers.counted _)
  have paused : Run .faultless initial (trace.take 9) { store := middle } :=
    noted.then_exchange (by simp [trace]) (by simp [trace]) yields_removal
      (Answers.paused _ fun _ => rfl)
  have loaded : Run .faultless initial (trace.take 10) { store := middle } :=
    paused.then_exchange (by simp [trace]) (by simp [trace]) yields_removal
      (Answers.succeeded answer_reload)
  have written : Run .faultless initial (trace.take 11) { store := final } :=
    loaded.then_exchange (by simp [trace]) (by simp [trace]) yields_removal
      (Answers.succeeded answer_removed)
  have noted : Run .faultless initial (trace.take 12) { store := final } :=
    written.then_exchange (by simp [trace]) (by simp [trace]) yields_removal (Answers.counted _)
  have told : Run .faultless initial (trace.take 13) { store := final } :=
    noted.then_exchange (by simp [trace]) (by simp [trace]) yields_removal
      (Answers.served _ _ _)
  have told : Run .faultless initial (trace.take 14) { store := final } :=
    told.then_exchange (by simp [trace]) (by simp [trace]) yields_removal
      (Answers.served _ _ _)
  exact told.step (Step.returned (by simp [trace]) (by simp [trace]) yields_removal)

theorem hasUniqueSources
    (earlier : List Event) (stored : Stored) (former : earlier <+: trace)
    (found : (initial.replay earlier).find? context.key = some stored) :
    stored.document.HasUniqueSources := by
  refine Store.hasUniqueSources_of_prefix ?all ?updates former _ _ found
  case all =>
    intro key stored found
    rw [(Store.find?_of_single found).2]
    decide
  case updates =>
    intro key document version member
    have calls : trace.filterMap Event.effect? =
        [.get context.key, .get context.key,
          .update context.key extended (.ofCounter 1), .get context.key,
          .update context.key {} (.ofCounter 2)] :=
      rfl
    rw [calls] at member
    simp only [List.mem_cons, reduceCtorEq, StoreCall.update.injEq, List.not_mem_nil, or_false,
      false_or] at member
    rcases member with ⟨-, rfl, -⟩ | ⟨-, rfl, -⟩
    · decide
    · decide

end AddedExtension

theorem removal_is_one_write_addedExtension :
    (Run .faultless AddedExtension.initial AddedExtension.trace { store := AddedExtension.final } ∧
      .invoked 0 OrdersRemoval.context (.edit (.deleteSource "s" .cascade)) ∈
        AddedExtension.trace ∧
      .returned 0 (.ok (.outcome ⟨"s", []⟩)) ∈ AddedExtension.trace ∧
      (∀ exchange ∈ historyOf 0 AddedExtension.trace,
        exchange.mayStore = true → exchange.isStored = true) ∧
      ∀ earlier stored, earlier <+: AddedExtension.trace →
        (AddedExtension.initial.replay earlier).find? OrdersRemoval.context.key = some stored →
        stored.document.HasUniqueSources) ∧
    ∃ earlier read counter between written behind,
      Removal.TakesPlace
        ⟨0, OrdersRemoval.context, "s", .cascade, earlier, read, counter, between, written, behind⟩
        AddedExtension.initial AddedExtension.trace := by
  have asked : .invoked 0 OrdersRemoval.context (.edit (.deleteSource "s" .cascade)) ∈
      AddedExtension.trace :=
    List.mem_cons_self
  have returned : .returned 0 (.ok (.outcome ⟨"s", []⟩)) ∈ AddedExtension.trace := by
    simp [AddedExtension.trace]
  have told := AddedExtension.run.isStored_of_mayStore 0
  exact ⟨⟨AddedExtension.run, asked, returned, told, AddedExtension.hasUniqueSources⟩,
    removal_is_one_write AddedExtension.run asked returned told AddedExtension.hasUniqueSources⟩

namespace RecreatedPipeline

open OrdersRemoval

def function : TransformFunction :=
  { name := "trim", source := "x" }

def replaced : PipelineDocument :=
  { transformFunctions := [{ function.record with id := "f" }] }

def initial : Store :=
  ⟨[(context.key, ⟨start, 2⟩)]⟩

def removed : Store :=
  initial.after (.delete context.key)

def created : Store :=
  removed.after (.create context.key)

def middle : Store :=
  created.after (.update context.key replaced (.ofCounter 1))

def final : Store :=
  middle.after (.update context.key {} (.ofCounter 2))

def deletion : Exchange :=
  ⟨.store context.settings.bound (.delete context.key), .ok ()⟩

def creation : Exchange :=
  ⟨.store context.settings.bound (.create context.key), .ok (.ofCounter 1)⟩

/-- All that happens before the write of the removal. -/
def before : List Event :=
  [.invoked 0 context (.edit edit),
    .exchanged 0 (.load context (.ok (start, .ofCounter 2))),
    .invoked 1 context .deletePipeline,
    .exchanged 1 deletion,
    .invoked 2 context .createPipeline,
    .exchanged 2 creation,
    .invoked 3 context (.edit (.createFunction function)),
    .exchanged 3 ⟨.freshId, "f"⟩,
    .exchanged 3 (.load context (.ok ({}, .ofCounter 1))),
    .exchanged 3 (.write context replaced (.ofCounter 1) (.ok (.ofCounter 2)))]

def written : Exchange :=
  .write context {} (.ofCounter 2) (.ok (.ofCounter 3))

def trace : List Event :=
  before ++ .exchanged 0 written ::
    [.exchanged 0 counted,
      .exchanged 0 refreshed,
      .exchanged 0 terminated,
      .returned 0 (.ok (.outcome ⟨"s", []⟩))]

theorem find?_initial : initial.find? context.key = some ⟨start, 2⟩ :=
  rfl

theorem find?_removed : removed.find? context.key = none := by
  rw [removed, Store.find?_after_delete, if_pos rfl]

theorem find?_created : created.find? context.key = some .initial := by
  rw [created, Store.find?_after_create _ find?_removed, if_pos rfl]

theorem find?_middle : middle.find? context.key = some ⟨replaced, 2⟩ :=
  TokenReuse.find?_created_and_updated find?_removed

theorem answer_deletion : initial.answer (.delete context.key) = .ok () :=
  Store.answer_delete_eq_ok_iff.mpr ⟨_, find?_initial⟩

theorem answer_creation : removed.answer (.create context.key) = .ok (.ofCounter 1) :=
  Store.answer_create_eq_ok_iff.mpr ⟨find?_removed, rfl⟩

theorem answer_load : created.answer (.get context.key) = .ok ({}, .ofCounter 1) :=
  Store.answer_get_eq_ok_iff.mpr ⟨1, find?_created, rfl⟩

theorem answer_replaced :
    created.answer (.update context.key replaced (.ofCounter 1)) = .ok (.ofCounter 2) :=
  Store.answer_update_eq_ok_iff.mpr ⟨_, find?_created, rfl, rfl⟩

theorem answer_written :
    middle.answer (.update context.key {} (.ofCounter 2)) = .ok (.ofCounter 3) :=
  Store.answer_update_eq_ok_iff.mpr ⟨_, find?_middle, rfl, rfl⟩

theorem yields_deletion :
    Operation.Yields (Command.deletePipeline.operation context) [deletion] (.ok .deleted) := by
  have deleted : Operation.Yields (Registry.deletePipeline context) [deletion] (.ok ()) :=
    Operation.yields_request_bind_iff.mpr
      ⟨.ok (), [], rfl, Operation.yields_pure_iff.mpr ⟨rfl, rfl⟩⟩
  exact Operation.yields_map_iff.mpr ⟨.ok (), deleted, rfl⟩

theorem yields_creation :
    Operation.Yields (Command.createPipeline.operation context) [creation]
      (.ok (.pipeline (PipelineDocument.pipeline {} context.key (Version.ofCounter 1).token))) := by
  have created : Operation.Yields (Registry.createPipeline context) [creation]
      (.ok (PipelineDocument.pipeline {} context.key (Version.ofCounter 1).token)) :=
    Operation.yields_request_bind_iff.mpr
      ⟨.ok (.ofCounter 1), [], rfl, Operation.yields_pure_iff.mpr ⟨rfl, rfl⟩⟩
  exact Operation.yields_map_iff.mpr ⟨.ok _, created, rfl⟩

theorem yields_function :
    Operation.Yields ((Command.edit (.createFunction function)).operation context)
      [⟨.freshId, "f"⟩,
        .load context (.ok ({}, .ofCounter 1)),
        .write context replaced (.ofCounter 1) (.ok (.ofCounter 2)),
        .counted (.mutations .transformFunction .create)]
      (.ok (.outcome ⟨"f", []⟩)) :=
  Operation.yields_map_iff.mpr ⟨.ok ⟨"f", []⟩,
    Edit.yields_without_notices (.createFunction function) "f" rfl (.of_creation rfl "f")
      (Attempts.stored {} (.ofCounter 1) (.ofCounter 2) rfl), rfl⟩

theorem yields_removal :
    Operation.Yields ((Command.edit edit).operation context)
      ([.load context (.ok (start, .ofCounter 2)), written, counted] ++ [refreshed, terminated])
      (.ok (.outcome ⟨"s", []⟩)) :=
  yields_of_attempts (Attempts.stored start (.ofCounter 2) (.ofCounter 3) rfl)

theorem run_before : Run .faultless initial before { store := middle } := by
  have asked : Run .faultless initial (before.take 1) { store := initial } :=
    Run.start.step (Step.invoked 0 context (.edit edit) (by simp))
  have loaded : Run .faultless initial (before.take 2) { store := initial } :=
    asked.then_exchange (by simp [before]) (by simp [before]) yields_removal
      (Answers.performed _ _)
  have asked : Run .faultless initial (before.take 3) { store := initial } :=
    loaded.step (Step.invoked 1 context .deletePipeline (by simp [before]))
  have deleted : Run .faultless initial (before.take 4) { store := removed } :=
    asked.then_exchange (by simp [before]) (by simp [before]) yields_deletion
      (Answers.succeeded answer_deletion)
  have asked : Run .faultless initial (before.take 5) { store := removed } :=
    deleted.step (Step.invoked 2 context .createPipeline (by simp [before]))
  have created : Run .faultless initial (before.take 6) { store := created } :=
    asked.then_exchange (by simp [before]) (by simp [before]) yields_creation
      (Answers.succeeded answer_creation)
  have asked : Run .faultless initial (before.take 7) { store := RecreatedPipeline.created } :=
    created.step (Step.invoked 3 context (.edit (.createFunction function)) (by simp [before]))
  have named : Run .faultless initial (before.take 8) { store := RecreatedPipeline.created } :=
    asked.then_exchange (by simp [before]) (by simp [before]) yields_function (Answers.named _)
  have loaded : Run .faultless initial (before.take 9) { store := RecreatedPipeline.created } :=
    named.then_exchange (by simp [before]) (by simp [before]) yields_function
      (Answers.succeeded answer_load)
  exact loaded.then_exchange (by simp [before]) (by simp [before]) yields_function
    (Answers.succeeded answer_replaced)

theorem run : Run .faultless initial trace { store := final } := by
  have written : Run .faultless initial (trace.take 11) { store := final } :=
    run_before.then_exchange (by simp [before]) (by simp [before]) yields_removal
      (Answers.succeeded answer_written)
  have noted : Run .faultless initial (trace.take 12) { store := final } :=
    written.then_exchange (by simp [trace, before]) (by simp [trace, before]) yields_removal
      (Answers.counted _)
  have told : Run .faultless initial (trace.take 13) { store := final } :=
    noted.then_exchange (by simp [trace, before]) (by simp [trace, before]) yields_removal
      (Answers.served _ _ _)
  have told : Run .faultless initial (trace.take 14) { store := final } :=
    told.then_exchange (by simp [trace, before]) (by simp [trace, before]) yields_removal
      (Answers.served _ _ _)
  exact told.step (Step.returned (by simp [trace, before]) (by simp [trace, before])
    yields_removal)

theorem hasUniqueSources
    (earlier : List Event) (stored : Stored) (former : earlier <+: trace)
    (found : (initial.replay earlier).find? context.key = some stored) :
    stored.document.HasUniqueSources := by
  refine Store.hasUniqueSources_of_prefix ?all ?updates former _ _ found
  case all =>
    intro key stored found
    rw [(Store.find?_of_single found).2]
    decide
  case updates =>
    intro key document version member
    have calls : trace.filterMap Event.effect? =
        [.get context.key, .delete context.key, .create context.key, .get context.key,
          .update context.key replaced (.ofCounter 1),
          .update context.key {} (.ofCounter 2)] :=
      rfl
    rw [calls] at member
    simp only [List.mem_cons, reduceCtorEq, StoreCall.update.injEq, List.not_mem_nil, or_false,
      false_or] at member
    rcases member with ⟨-, rfl, -⟩ | ⟨-, rfl, -⟩
    · decide
    · decide

end RecreatedPipeline

/-- A removal does not always write what the document that it replaces leaves: the pipeline may
have been created again since it was read. -/
theorem removal_not_from_predecessor :
    ¬ ∀ (initial : Store) (final : Database) (trace : List Event) (caller : Nat)
        (context : Context) (id : String) (mode : DeleteMode) (reply : Reply),
        Run .faultless initial trace final →
        .invoked caller context (.edit (.deleteSource id mode)) ∈ trace →
        .returned caller (.ok reply) ∈ trace →
        (∀ earlier stored, earlier <+: trace →
          (initial.replay earlier).find? context.key = some stored →
          stored.document.HasUniqueSources) →
        ∃ before written version token behind predecessor,
          trace = before ++ .exchanged caller (.write context written version (.ok token)) ::
            behind ∧
          (initial.replay before).find? context.key = some predecessor ∧
          Leaves id mode predecessor.document written := by
  intro claimed
  obtain ⟨before, written, version, token, behind, predecessor, split, found, leaves⟩ :=
    claimed _ _ _ 0 OrdersRemoval.context "s" .cascade (.outcome ⟨"s", []⟩)
      RecreatedPipeline.run (by simp [RecreatedPipeline.trace, RecreatedPipeline.before,
        OrdersRemoval.edit]) (by simp [RecreatedPipeline.trace]) RecreatedPipeline.hasUniqueSources
  obtain ⟨rfl, same⟩ := RecreatedPipeline.run.place_of_commit rfl split rfl rfl
  rw [← RecreatedPipeline.run_before.store_eq, RecreatedPipeline.find?_middle] at found
  cases found
  cases same
  have lost := leaves.functions
  cases lost

end PipelineRegistry
