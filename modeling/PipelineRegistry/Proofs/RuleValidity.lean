import Mathlib.Data.List.Induction
import PipelineRegistry.Proofs.Creations
import PipelineRegistry.Proofs.Outcomes
import PipelineRegistry.Proofs.RuleChecks

/-!
# Rules stay valid

A rule passes its checks when it is written. From then on it stays valid in the course of all edits
but those of two kinds: updates of its source that change the scheme, and edits that rename or delete
a function with the name that it uses. For this it matters that ids are fresh: a source that comes
later under an id that a rule has mentioned already would not have been checked.
-/

namespace PipelineRegistry

/-! ## Turns of an order -/

/-- Something holds of every turn of an order, given the document that the turn
is applied to and the one it makes of it. -/
def EachTurn (holds : PipelineDocument → Turn → PipelineDocument → Prop)
    (start : PipelineDocument) (order : List Turn) : Prop :=
  ∀ earlier turn later document written,
    order = earlier ++ turn :: later → fold start earlier = .ok document →
    turn.apply document = .ok written → holds document turn written

section Turns

variable {holds : PipelineDocument → Turn → PipelineDocument → Prop}
  {start document written : PipelineDocument} {order later : List Turn} {turn : Turn}

namespace EachTurn

theorem of_append (each : EachTurn holds start (order ++ later)) : EachTurn holds start order := by
  intro earlier turn rest document written split
  exact each earlier turn (rest ++ later) document written (by simp [split])

theorem last
    (each : EachTurn holds start (order ++ [turn])) (folded : fold start order = .ok document)
    (applied : turn.apply document = .ok written) :
    holds document turn written :=
  each order turn [] document written rfl folded applied

theorem concat
    (each : EachTurn holds start order)
    (last : ∀ document written, fold start order = .ok document →
      turn.apply document = .ok written → holds document turn written) :
    EachTurn holds start (order ++ [turn]) := by
  intro earlier tested rest document written split folded applied
  rcases append_singleton_cases split with ⟨-, impossible⟩ | ⟨between, rfl, tail⟩
  · cases impossible
  · rcases cons_eq_append_cons tail with ⟨rfl, rfl⟩ | ⟨behind, rfl, -⟩
    · rw [List.append_nil] at last
      exact last document written folded applied
    · exact each earlier tested behind document written rfl folded applied

end EachTurn

end Turns

/-! ## What has happened since a rule was written -/

/-- The document in which a rule was written last, or the first one if it was
never written, and the turns since. -/
structure LastWritten (start : PipelineDocument) (order : List Turn) (id : String)
    (middle : PipelineDocument) (since : List Turn) : Prop where
  written : ∃ earlier,
    order = earlier ++ since ∧ fold start earlier = .ok middle ∧
      (earlier = [] ∨ ∃ before turn,
        earlier = before ++ [turn] ∧ turn.edit.WritesRule turn.newId id)
  untouched : ∀ turn ∈ since, ¬ turn.edit.WritesRule turn.newId id

/-- No update of a source changes its scheme. -/
def SchemeKept (id : String) : PipelineDocument → List Turn → Prop :=
  EachTurn fun document turn written =>
    turn.edit.UpdatesSource id → written.sourceScheme? id = document.sourceScheme? id

/-- No function with a name is renamed or deleted. -/
def FunctionKept (name : String) : PipelineDocument → List Turn → Prop :=
  EachTurn fun document turn _ => ¬ turn.edit.LosesFunction document name

/-- A new id is neither in the document nor mentioned by its rules. -/
def FreshTurns : PipelineDocument → List Turn → Prop :=
  EachTurn fun document turn _ =>
    turn.edit.isCreation = true →
      turn.newId ∉ document.ids ∧ ∀ rule ∈ document.extractRules, rule.extractSourceId ≠ turn.newId

/-- A rule is valid, unless what it was checked against has been changed since it
was written. -/
def ExtractRuleRecord.StaysValid (enforces : Bool) (start : PipelineDocument)
    (order : List Turn) (document : PipelineDocument) (rule : ExtractRuleRecord) : Prop :=
  ∃ middle since,
    LastWritten start order rule.id middle since ∧
      (document.HasSource rule.extractSourceId →
        SchemeKept rule.extractSourceId middle since → rule.PathFits document) ∧
      (enforces = true →
        FunctionKept rule.transformFunctionName middle since → rule.FunctionExists document)

/-- Both checks hold of every rule that a turn writes, in the document that it
writes. -/
def WrittenRulesChecked : PipelineDocument → List Turn → Prop :=
  EachTurn fun _ turn written =>
    ∀ id, turn.edit.WritesRule turn.newId id →
      (∃ rule ∈ written.extractRules, rule.id = id) ∧
      ∀ rule ∈ written.extractRules, rule.id = id →
        rule.PathFits written ∧
          (turn.context.settings.enforceFunctionReferences = true → rule.FunctionExists written)

section Orders

variable {enforces : Bool} {start document written middle : PipelineDocument}
  {order since : List Turn} {turn : Turn} {id : String} {rule : ExtractRuleRecord}

namespace LastWritten

theorem start_nil : LastWritten start [] id start [] where
  written := ⟨[], rfl, rfl, Or.inl rfl⟩
  untouched := by simp

theorem now
    (folded : fold start (order ++ [turn]) = .ok written)
    (writes : turn.edit.WritesRule turn.newId id) :
    LastWritten start (order ++ [turn]) id written [] where
  written := ⟨order ++ [turn], by simp, folded, Or.inr ⟨order, turn, rfl, writes⟩⟩
  untouched := by simp

theorem extend
    (last : LastWritten start order id middle since)
    (untouched : ¬ turn.edit.WritesRule turn.newId id) :
    LastWritten start (order ++ [turn]) id middle (since ++ [turn]) where
  written := by
    obtain ⟨earlier, rfl, folded, wrote⟩ := last.written
    exact ⟨earlier, by simp, folded, wrote⟩
  untouched := by
    intro tested member
    rcases List.mem_append.mp member with member | member
    · exact last.untouched tested member
    · rwa [List.mem_singleton.mp member]

theorem fold_since
    (last : LastWritten start order id middle since) (folded : fold start order = .ok document) :
    fold middle since = .ok document := by
  obtain ⟨earlier, rfl, former, -⟩ := last.written
  exact fold_of_append former folded

end LastWritten

/-! ## One turn -/

/-- A rule that a turn does not write stays valid. -/
theorem ExtractRuleRecord.StaysValid.extend
    (valid : rule.StaysValid enforces start order document)
    (uniqueSources : (document.extractSources.map (·.id)).Nodup)
    (folded : fold start order = .ok document) (applied : turn.apply document = .ok written)
    (unmentioned : turn.edit.isCreation = true → rule.extractSourceId ≠ turn.newId)
    (untouched : ¬ turn.edit.WritesRule turn.newId rule.id) :
    rule.StaysValid enforces start (order ++ [turn]) written := by
  obtain ⟨middle, since, last, path, function⟩ := valid
  obtain ⟨receipt, changed⟩ := Turn.apply_eq_ok_iff.mp applied
  have foldedSince := last.fold_since folded
  refine ⟨middle, since ++ [turn], last.extend untouched, ?path, ?function⟩
  case path =>
    intro present kept
    rcases Edit.source_of_change uniqueSources changed present with
      ⟨creates, same⟩ | ⟨presentBefore, unchanged⟩
    · exact absurd same.symm (unmentioned creates)
    · have fitted := path presentBefore (EachTurn.of_append kept)
      have sameScheme : written.sourceScheme? rule.extractSourceId =
          document.sourceScheme? rule.extractSourceId := by
        rcases unchanged with updates | same
        · exact EachTurn.last kept foldedSince applied updates
        · exact same
      unfold PathFits at fitted ⊢
      rw [sameScheme]
      exact fitted
  case function =>
    intro enforced kept named
    have existed := function enforced (EachTurn.of_append kept) named
    exact Edit.hasTransformFunction_of_change changed existed
      (EachTurn.last kept foldedSince applied)

/-- What is known of the rules when an order of edits has been applied. -/
structure RulesHold (enforces : Bool) (start : PipelineDocument) (order : List Turn)
    (document : PipelineDocument) : Prop where
  sourceIds : (document.extractSources.map (·.id)).Nodup
  ruleIds : (document.extractRules.map (·.id)).Nodup
  valid : ∀ rule ∈ document.extractRules, rule.StaysValid enforces start order document
  checked : WrittenRulesChecked start order

theorem RulesHold.extend
    (hold : RulesHold enforces start order document)
    (folded : fold start order = .ok document) (applied : turn.apply document = .ok written)
    (fresh : turn.edit.isCreation = true →
      turn.newId ∉ document.ids ∧ ∀ rule ∈ document.extractRules, rule.extractSourceId ≠ turn.newId)
    (enforced : enforces = true → turn.context.settings.enforceFunctionReferences = true) :
    RulesHold enforces start (order ++ [turn]) written := by
  obtain ⟨receipt, changed⟩ := Turn.apply_eq_ok_iff.mp applied
  have descends := Edit.descends changed
  have freshSource (creates : turn.edit.isCreation = true) :
      turn.newId ∉ document.extractSources.map (·.id) := fun member =>
    (fresh creates).1 (by simp only [PipelineDocument.ids, List.mem_append, member, true_or])
  have freshRule (creates : turn.edit.isCreation = true) :
      turn.newId ∉ document.extractRules.map (·.id) := fun member =>
    (fresh creates).1 (by simp only [PipelineDocument.ids, List.mem_append, member, true_or, or_true])
  have foldedNow := fold_concat_eq_ok_iff.mpr ⟨document, folded, applied⟩
  exact {
    sourceIds := descends.sources.nodup hold.sourceIds freshSource
    ruleIds := descends.rules.nodup hold.ruleIds freshRule
    valid := by
      intro rule member
      rcases Edit.rule_of_change hold.ruleIds freshRule changed member with
        ⟨old, untouched⟩ | ⟨writes, path, function⟩
      · exact (hold.valid rule old).extend hold.sourceIds folded applied
          (fun creates => (fresh creates).2 rule old) untouched
      · exact ⟨written, [], .now foldedNow writes, fun _ _ => path,
          fun isEnforced _ => function (enforced isEnforced)⟩
    checked := by
      refine EachTurn.concat hold.checked ?_
      intro latest made sameFold sameApply id writes
      rw [folded] at sameFold
      cases sameFold
      rw [applied] at sameApply
      cases sameApply
      refine ⟨Edit.exists_written_rule changed writes, ?_⟩
      rintro rule member rfl
      rcases Edit.rule_of_change hold.ruleIds freshRule changed member with
        ⟨-, untouched⟩ | ⟨-, checks⟩
      · exact absurd writes untouched
      · exact checks }

/-! ## Orders -/

/-- What must be known of the first document. -/
structure RulesSound (enforces : Bool) (document : PipelineDocument) : Prop where
  sourceIds : (document.extractSources.map (·.id)).Nodup
  ruleIds : (document.extractRules.map (·.id)).Nodup
  paths : ∀ rule ∈ document.extractRules,
    document.HasSource rule.extractSourceId → rule.PathFits document
  functions : enforces = true → ∀ rule ∈ document.extractRules, rule.FunctionExists document

theorem RulesHold.of_fold
    (sound : RulesSound enforces start) (folded : fold start order = .ok document)
    (fresh : FreshTurns start order)
    (enforced : ∀ turn ∈ order,
      enforces = true → turn.context.settings.enforceFunctionReferences = true) :
    RulesHold enforces start order document := by
  -- From the right, because what a rule was checked against is what the order has left so far.
  induction order using List.reverseRecOn generalizing document with
  | nil =>
      cases folded
      exact {
        sourceIds := sound.sourceIds
        ruleIds := sound.ruleIds
        valid := fun rule member => ⟨start, [], .start_nil, fun present _ =>
          sound.paths rule member present, fun isEnforced _ => sound.functions isEnforced rule member⟩
        checked := by
          intro earlier turn later document written impossible
          simp at impossible }
  | append_singleton order turn inductionHypothesis =>
      obtain ⟨former, formerFolded, applied⟩ := fold_concat_eq_ok_iff.mp folded
      have hold := inductionHypothesis formerFolded (EachTurn.of_append fresh) fun tested member =>
        enforced tested (List.mem_append_left _ member)
      exact hold.extend formerFolded applied (EachTurn.last fresh formerFolded applied)
        (enforced turn (by simp))

/-- A rule mentions a source because the first document had such a rule, or
because a rule was created so. -/
theorem mentioned_of_fold
    (folded : fold start order = .ok document) (member : rule ∈ document.extractRules) :
    (∃ former ∈ start.extractRules, former.extractSourceId = rule.extractSourceId) ∨
      ∃ turn ∈ order, ∃ payload,
        turn.edit = .createRule payload ∧ payload.extractSourceId = rule.extractSourceId := by
  induction order generalizing start with
  | nil =>
      cases folded
      exact Or.inl ⟨rule, member, rfl⟩
  | cons turn rest inductionHypothesis =>
      obtain ⟨middle, receipt, changed, folded⟩ := fold_cons_eq_ok_iff.mp folded
      rcases inductionHypothesis folded with ⟨former, inMiddle, same⟩ | ⟨later, inRest, found⟩
      · rw [← same]
        rcases Edit.sourceId_of_change changed inMiddle with old | created
        · exact Or.inl old
        · exact Or.inr ⟨turn, List.mem_cons_self, created⟩
      · exact Or.inr ⟨later, List.mem_cons_of_mem _ inRest, found⟩

end Orders

/-! ## Runs -/

/-- New ids are not used before they are known: the rules that are there at the
start do not mention them, and who creates a rule that mentions one does so when
the caller that it was given to has returned. If that caller was told a failure,
then nothing that it has asked for takes effect any more. -/
structure Unforeseen (key : PipelineKey) (start : PipelineDocument) (trace : List Event) :
    Prop where
  initially : ∀ rule ∈ start.extractRules, ∀ caller,
    .exchanged caller ⟨.freshId, rule.extractSourceId⟩ ∉ trace
  later : ∀ before caller context rule after other,
    trace = before ++ .invoked caller context (.edit (.createRule rule)) :: after →
    context.key = key → .exchanged other ⟨.freshId, rule.extractSourceId⟩ ∈ trace →
    ∃ result, .returned other result ∈ before ∧
      ∀ error, result = .error error → ∀ call, .landed other call ∉ after

section Runs

variable {reliability : Reliability} {initial : Store} {final : Database}
  {trace before after : List Event} {event : Event} {key : PipelineKey} {start : Stored}
  {order : List Turn} {enforces : Bool}

theorem Unforeseen.of_append
    {start : PipelineDocument} (unforeseen : Unforeseen key start (before ++ after)) :
    Unforeseen key start before where
  initially := fun rule member caller issued =>
    unforeseen.initially rule member caller (List.mem_append_left _ issued)
  later := by
    intro earlier caller context rule rest other split addressed issued
    obtain ⟨result, returned, quiet⟩ := unforeseen.later earlier caller context rule
      (rest ++ after) other (by simp [split]) addressed (List.mem_append_left _ issued)
    exact ⟨result, returned, fun error failed call member =>
      quiet error failed call (List.mem_append_left _ member)⟩

/-- A caller that commits a creation was not foreseen by those who have created
rules. -/
theorem Unforeseen.not_mentioned
    {commit : Commit} {start : PipelineDocument} {rule : ExtractRule} {caller : Nat}
    {context own : Context} {edit : Edit}
    (unforeseen : Unforeseen key start (trace ++ [event]))
    (run : Run reliability initial (trace ++ [event]) final) (fresh : FreshIds initial trace)
    (committed : event.commit? = some commit)
    (ownAsked : .invoked commit.caller own (.edit edit) ∈ trace)
    (creates : edit.isCreation = true)
    (asked : .invoked caller context (.edit (.createRule rule)) ∈ trace)
    (addressed : context.key = key) :
    .exchanged commit.caller ⟨.freshId, rule.extractSourceId⟩ ∉ trace := by
  intro issued
  obtain ⟨before, after, rfl⟩ := List.append_of_mem asked
  obtain ⟨result, returned, quiet⟩ := unforeseen.later before caller context rule
    (after ++ [event]) commit.caller (by simp) addressed (List.mem_append_left _ issued)
  have returnedBefore := List.mem_append_left
    (.invoked caller context (.edit (.createRule rule)) :: after) returned
  cases result with
  | ok reply =>
      exact run.caller_ne_of_returned_ok fresh ownAsked creates returnedBefore committed rfl
  | error error =>
      -- A caller that has returned makes no exchanges, and its lost calls do not land.
      rcases commit?_eq_some_iff.mp committed with ⟨bound, token, rfl⟩ | rfl
      · obtain ⟨_, _, -, step⟩ := run.split
        cases step with
        | exchanged _ running _ _ => exact running _ returnedBefore
      · exact quiet error rfl commit.call (by simp)

theorem Chronicle.freshTurns
    (chronicle : Chronicle key start.document trace order)
    (run : Run reliability initial trace final) (undisturbed : Undisturbed key trace)
    (known : initial.find? key = some start) (fresh : FreshIds initial trace)
    (unforeseen : Unforeseen key start.document trace) :
    FreshTurns start.document order := by
  induction chronicle generalizing final with
  | start =>
      intro earlier turn later document written impossible
      simp at impossible
  | idle event chronicle uncommitted inductionHypothesis =>
      obtain ⟨database, runBefore⟩ := run.exists_of_append
      exact inductionHypothesis runBefore undisturbed.of_append fresh.of_append unforeseen.of_append
  | @turn trace order event commit document turn chronicle committed addressed sameCaller sameKey
      asked named folded applied inductionHypothesis =>
      obtain ⟨database, runBefore⟩ := run.exists_of_append
      refine EachTurn.concat (inductionHypothesis runBefore undisturbed.of_append fresh.of_append
        unforeseen.of_append) ?_
      intro read written sameFold sameApply creates
      have issued := named creates
      rw [sameCaller] at issued
      constructor
      · intro member
        obtain ⟨current, currentFolded, found⟩ :=
          chronicle.reflects runBefore undisturbed.of_append known
        rw [sameFold] at currentFolded
        cases currentFolded
        exact run.not_holds_of_commit fresh committed issued ⟨key, _, found, member⟩
      · rintro rule member mentions
        rcases mentioned_of_fold sameFold member with
          ⟨former, inStart, same⟩ | ⟨other, inOrder, payload, created, same⟩
        · apply unforeseen.initially former inStart commit.caller
          rw [same, mentions]
          exact List.mem_append_left _ issued
        · obtain ⟨askedToo, sameKeyToo⟩ := chronicle.asked other inOrder
          rw [created] at askedToo
          rw [sameCaller] at asked
          apply unforeseen.not_mentioned run fresh.of_append committed asked creates askedToo
            sameKeyToo
          rw [same, mentions]
          exact issued

/-- In the course of a run, both checks hold of every rule in the document that
it is written in, and every stored rule stays valid until the scheme of its source
is changed or its function is renamed or deleted. -/
theorem rules_stay_valid
    (run : Run reliability initial trace final) (undisturbed : Undisturbed key trace)
    (known : initial.find? key = some start) (fresh : FreshIds initial trace)
    (unforeseen : Unforeseen key start.document trace)
    (sound : RulesSound enforces start.document)
    (enforced : enforces = true → ∀ caller context edit,
      .invoked caller context (.edit edit) ∈ trace → context.key = key →
      context.settings.enforceFunctionReferences = true) :
    ∃ order document,
      Chronicle key start.document trace order ∧
      fold start.document order = .ok document ∧
      final.store.find? key = some ⟨document, start.counter + order.length⟩ ∧
      WrittenRulesChecked start.document order ∧
      ∀ rule ∈ document.extractRules, rule.StaysValid enforces start.document order document := by
  obtain ⟨order, chronicle⟩ := Chronicle.exists_of_run run undisturbed known
  obtain ⟨document, folded, found⟩ := chronicle.reflects run undisturbed known
  have hold : RulesHold enforces start.document order document := by
    apply RulesHold.of_fold sound folded
      (chronicle.freshTurns run undisturbed known fresh unforeseen)
    intro turn member isEnforced
    obtain ⟨asked, addressed⟩ := chronicle.asked turn member
    exact enforced isEnforced turn.caller turn.context turn.edit asked addressed
  rw [← run.store_eq] at found
  exact ⟨order, document, chronicle, folded, found, hold.checked, hold.valid⟩

end Runs

/-! ## A rule that is created

The source delivers CSV, so the path is an index, and the function that the rule names exists. -/

namespace BoundRule

def context : Context :=
  ⟨{ enforceFunctionReferences := true }, ⟨"default", "sales"⟩⟩

def start : Stored :=
  ⟨{ extractSources := [{ id := "s", scheme := "CSV" }],
      transformFunctions := [{ id := "f", name := "trim" }] }, 1⟩

def payload : ExtractRule where
  extractSourceId := "s"
  columnName := "total"
  columnPath := "3"
  columnType := "number"
  transformFunctionName := "trim"

def edit : Edit :=
  .createRule payload

def written : PipelineDocument :=
  edit.outcome "1" start.document

def initial : Store :=
  ⟨[(context.key, start)]⟩

def final : Store :=
  initial.after (.update context.key written (.ofCounter 1))

def trace : List Event :=
  [.invoked 0 context (.edit edit),
    .exchanged 0 ⟨.freshId, "1"⟩,
    .exchanged 0 (.load context (.ok (start.document, .ofCounter 1))),
    .exchanged 0 (.write context written (.ofCounter 1) (.ok (.ofCounter 2))),
    .exchanged 0 (.counted (.mutations .extractRule .create)),
    .returned 0 (.ok (.outcome ⟨"1", []⟩))]

theorem find?_initial : initial.find? context.key = some start :=
  rfl

theorem answer_write :
    initial.answer (.update context.key written (.ofCounter 1)) = .ok (.ofCounter 2) :=
  Store.answer_update_eq_ok_iff.mpr ⟨start, find?_initial, rfl, rfl⟩

theorem find?_final : final.find? context.key = some ⟨written, 2⟩ := by
  have stored := Store.find?_after_update written context.key find?_initial rfl
  rw [if_pos rfl] at stored
  exact stored

theorem yields :
    Operation.Yields ((Command.edit edit).operation context)
      [⟨.freshId, "1"⟩,
        .load context (.ok (start.document, .ofCounter 1)),
        .write context written (.ofCounter 1) (.ok (.ofCounter 2)),
        .counted (.mutations .extractRule .create)]
      (.ok (.outcome ⟨"1", []⟩)) :=
  Operation.yields_map_iff.mpr ⟨.ok ⟨"1", []⟩,
    edit.yields_without_notices "1" rfl (.of_creation rfl "1")
      (Attempts.stored start.document (.ofCounter 1) (.ofCounter 2) rfl), rfl⟩

theorem run : Run .faultless initial trace { store := final } := by
  have asked : Run .faultless initial (trace.take 1) { store := initial } :=
    Run.start.step (Step.invoked 0 context (.edit edit) (by simp))
  have named : Run .faultless initial (trace.take 2) { store := initial } :=
    asked.then_exchange (by simp [trace]) (by simp [trace]) yields (Answers.named "1")
  have loaded : Run .faultless initial (trace.take 3) { store := initial } :=
    named.then_exchange (by simp [trace]) (by simp [trace]) yields (Answers.performed _ _)
  have stored : Run .faultless initial (trace.take 4) { store := final } :=
    loaded.then_exchange (by simp [trace]) (by simp [trace]) yields
      (Answers.succeeded answer_write)
  have counted : Run .faultless initial (trace.take 5) { store := final } :=
    stored.then_exchange (by simp [trace]) (by simp [trace]) yields (Answers.counted _)
  exact counted.step (Step.returned (by simp [trace]) (by simp [trace]) yields)

theorem undisturbed : Undisturbed context.key trace where
  kept := by
    intro event member
    simp only [trace, List.mem_cons, List.not_mem_nil, or_false] at member
    rcases member with rfl | rfl | rfl | rfl | rfl | rfl
    all_goals simp [Event.effect?, Exchange.load, Exchange.write, Exchange.counted]
  own := by
    intro document version member
    simp [trace] at member

theorem freshIds : FreshIds initial trace := by
  have single : FreshIds initial
      (trace.take 1 ++ .exchanged 0 ⟨.freshId, "1"⟩ :: trace.drop 2) := by
    refine FreshIds.of_one ?new ?unnamed ?own
    case new =>
      intro occurs
      obtain ⟨key, stored, found, member⟩ := occurs.holds_of_idle (by simp [trace, Event.effect?])
      obtain ⟨-, rfl⟩ := Store.find?_of_single found
      exact absurd member (by decide)
    case unnamed => simp [trace, Exchange.load, Exchange.write, Exchange.counted]
    case own => simp [trace]
  exact single

theorem unforeseen : Unforeseen context.key start.document trace where
  initially := by simp [start]
  later := by
    intro before caller asking rule after other split addressed issued
    have invoked : .invoked caller asking (.edit (.createRule rule)) ∈ trace := by
      rw [split]
      simp
    simp only [trace, List.mem_cons, Event.invoked.injEq, Command.edit.injEq, reduceCtorEq,
      List.not_mem_nil, or_false] at invoked
    obtain ⟨-, -, same⟩ := invoked
    cases same
    simp [trace, payload, Exchange.load, Exchange.write, Exchange.counted] at issued

theorem sound : RulesSound true start.document where
  sourceIds := by decide
  ruleIds := by decide
  paths := by simp [start]
  functions := by simp [start]

theorem enforced (caller : Nat) (asking : Context) (edit : Edit)
    (asked : .invoked caller asking (.edit edit) ∈ trace) :
    asking.settings.enforceFunctionReferences = true := by
  simp only [trace, List.mem_cons, Event.invoked.injEq, Command.edit.injEq, reduceCtorEq,
    List.not_mem_nil, or_false] at asked
  obtain ⟨-, rfl, -⟩ := asked
  rfl

end BoundRule

theorem rules_stay_valid_boundRule :
    (Run .faultless BoundRule.initial BoundRule.trace { store := BoundRule.final } ∧
      Undisturbed BoundRule.context.key BoundRule.trace ∧
      BoundRule.initial.find? BoundRule.context.key = some BoundRule.start ∧
      FreshIds BoundRule.initial BoundRule.trace ∧
      Unforeseen BoundRule.context.key BoundRule.start.document BoundRule.trace ∧
      RulesSound true BoundRule.start.document) ∧
    ∃ order,
      Chronicle BoundRule.context.key BoundRule.start.document BoundRule.trace order ∧
      fold BoundRule.start.document order = .ok BoundRule.written ∧
      WrittenRulesChecked BoundRule.start.document order ∧
      ∀ rule ∈ BoundRule.written.extractRules,
        rule.StaysValid true BoundRule.start.document order BoundRule.written := by
  refine ⟨⟨BoundRule.run, BoundRule.undisturbed, BoundRule.find?_initial, BoundRule.freshIds,
    BoundRule.unforeseen, BoundRule.sound⟩, ?_⟩
  obtain ⟨order, document, chronicle, folded, found, checked, valid⟩ :=
    rules_stay_valid BoundRule.run BoundRule.undisturbed BoundRule.find?_initial BoundRule.freshIds
      BoundRule.unforeseen BoundRule.sound fun _ caller asking edit asked _ =>
        BoundRule.enforced caller asking edit asked
  rw [BoundRule.find?_final] at found
  obtain rfl : BoundRule.written = document := congrArg Stored.document (Option.some.inj found)
  exact ⟨order, chronicle, folded, checked, valid⟩

end PipelineRegistry
