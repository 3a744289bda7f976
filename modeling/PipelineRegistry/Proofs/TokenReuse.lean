import Mathlib.Data.List.DropRight
import PipelineRegistry.Proofs.StoreLaws

/-!
# What a version token protects

A writer who presents the token that was read replaces what was read, as long as the pipeline is not
deleted in between. A pipeline that is created again counts its versions from one, so that an old
token becomes valid again after as many updates as it had cost at first. The token then admits a
write over a document that its writer has never seen.
-/

namespace PipelineRegistry

/-! ## Changes of one pipeline -/

def StoreCall.isUpdate : StoreCall → Bool
  | update _ _ _ => true
  | get _ | create _ | delete _ => false

/-- The call creates, replaces or removes the document of a pipeline, if it succeeds. -/
def StoreCall.isChangeOf (key : PipelineKey) : StoreCall → Bool
  | get _ => false
  | update changed _ _ | create changed | delete changed => changed == key

namespace Store

def changes (store : Store) (key : PipelineKey) (call : StoreCall) : Bool :=
  call.isChangeOf key && (store.answer call).isOk

/-- The calls that change what is stored for a pipeline, when they are made one after the other. -/
def changesOf (key : PipelineKey) : Store → List StoreCall → List StoreCall
  | _, [] => []
  | store, call :: calls =>
      if store.changes key call then call :: changesOf key (store.after call) calls
      else changesOf key (store.after call) calls

variable {store : Store} {key : PipelineKey} {call : StoreCall} {document : PipelineDocument}
  {version : Version}

theorem changesOf_append
    (store : Store) (key : PipelineKey) (earlier later : List StoreCall) :
    changesOf key store (earlier ++ later) =
      changesOf key store earlier ++ changesOf key (store.afterAll earlier) later := by
  induction earlier generalizing store with
  | nil => rfl
  | cons call calls inductionHypothesis =>
      have rest := inductionHypothesis (store.after call)
      by_cases changed : store.changes key call = true
      · simp only [List.cons_append, changesOf, if_pos changed]
        exact congrArg (call :: ·) rest
      · simp only [List.cons_append, changesOf, if_neg changed]
        exact rest

theorem mem_of_mem_changesOf
    {calls : List StoreCall}
    (member : call ∈ changesOf key store calls) :
    call ∈ calls := by
  induction calls generalizing store with
  | nil => cases member
  | cons first calls inductionHypothesis =>
      unfold changesOf at member
      split at member
      · rcases List.mem_cons.mp member with rfl | member
        · exact List.mem_cons_self
        · exact List.mem_cons_of_mem first (inductionHypothesis member)
      · exact List.mem_cons_of_mem first (inductionHypothesis member)

theorem changes_iff :
    store.changes key call = true ↔
      call.isChangeOf key = true ∧ ∃ answered, store.answer call = .ok answered := by
  rw [changes, Bool.and_eq_true]
  cases store.answer call with
  | error failure => simp [Except.isOk, Except.toBool]
  | ok answered => simp [Except.isOk, Except.toBool]

theorem changes_cases (changed : store.changes key call = true) :
    (∃ document stored,
      call = .update key document stored.version ∧ store.find? key = some stored ∧
      (store.after call).find? key = some ⟨document, stored.counter + 1⟩) ∨
    (call = .create key ∧ store.find? key = none ∧
      (store.after call).find? key = some .initial) ∨
    ∃ stored,
      call = .delete key ∧ store.find? key = some stored ∧
      (store.after call).find? key = none := by
  obtain ⟨concerns, answered, succeeded⟩ := changes_iff.mp changed
  cases call with
  | get addressed => cases concerns
  | update addressed document expected =>
      obtain rfl := eq_of_beq concerns
      obtain ⟨stored, known, rfl, -⟩ := answer_update_eq_ok_iff.mp succeeded
      have found := find?_after_update document addressed known rfl
      exact Or.inl ⟨document, stored, rfl, known, by rw [found, if_pos rfl]⟩
  | create addressed =>
      obtain rfl := eq_of_beq concerns
      obtain ⟨absent, -⟩ := answer_create_eq_ok_iff.mp succeeded
      have found := find?_after_create addressed absent
      exact Or.inr (Or.inl ⟨rfl, absent, by rw [found, if_pos rfl]⟩)
  | delete addressed =>
      obtain rfl := eq_of_beq concerns
      obtain ⟨stored, known⟩ := answer_delete_eq_ok_iff.mp succeeded
      have found := store.find?_after_delete addressed addressed
      exact Or.inr (Or.inr ⟨stored, rfl, known, by rw [found, if_pos rfl]⟩)

theorem find?_after_of_not_changes (unchanged : ¬ store.changes key call = true) :
    (store.after call).find? key = store.find? key := by
  cases succeeded : store.answer call with
  | error failure => rw [after_of_answer_error succeeded]
  | ok answered =>
      have elsewhere : ¬ call.isChangeOf key = true := by
        intro concerns
        exact unchanged (changes_iff.mpr ⟨concerns, answered, succeeded⟩)
      rcases store.find?_after_cases call key with
        same | ⟨document, stored, rfl, -, -⟩ | ⟨rfl, -, -⟩ | ⟨rfl, -⟩
      · exact same
      · exact absurd (beq_self_eq_true key) elsewhere
      · exact absurd (beq_self_eq_true key) elsewhere
      · exact absurd (beq_self_eq_true key) elsewhere

/-! ## What becomes of a document -/

/-- What has become of something stored for a pipeline, by the changes that were made since. -/
inductive Became (key : PipelineKey) (held : Stored) : List StoreCall → Option Stored → Prop
  | kept : Became key held [] (some held)
  | replaced (changes : List StoreCall) (document : PipelineDocument)
      (several : changes ≠ []) (updates : ∀ call ∈ changes, call.isUpdate = true) :
      Became key held changes (some ⟨document, held.counter + changes.length⟩)
  | removed (earlier : List StoreCall) :
      Became key held (earlier ++ [.delete key]) none
  | recreated (earlier later : List StoreCall) (document : PipelineDocument)
      (updates : ∀ call ∈ later, call.isUpdate = true) :
      Became key held (earlier ++ .delete key :: .create key :: later)
        (some ⟨document, 1 + later.length⟩)

theorem forall_isUpdate_concat
    {changes : List StoreCall} {expected : Version}
    (updates : ∀ call ∈ changes, call.isUpdate = true) :
    ∀ call ∈ changes ++ [.update key document expected], call.isUpdate = true := by
  intro call member
  rcases List.mem_append.mp member with former | last
  · exact updates call former
  · rw [List.mem_singleton.mp last]
    rfl

theorem Became.update
    {held stored : Stored} {changes : List StoreCall} {expected : Version}
    (became : Became key held changes (some stored)) :
    Became key held (changes ++ [.update key document expected])
      (some ⟨document, stored.counter + 1⟩) := by
  cases became with
  | kept =>
      exact .replaced [.update key document expected] document (List.cons_ne_nil _ _)
        (by simp [StoreCall.isUpdate])
  | replaced _ former several updates =>
      have again : Became key held (changes ++ [.update key document expected]) _ :=
        .replaced _ document (by simp) (forall_isUpdate_concat updates)
      rw [List.length_append, List.length_singleton, Int.natCast_add, Int.natCast_one,
        ← Int.add_assoc] at again
      exact again
  | recreated earlier later former updates =>
      have again : Became key held (earlier ++ .delete key :: .create key ::
          (later ++ [.update key document expected])) _ :=
        .recreated earlier _ document (forall_isUpdate_concat updates)
      rw [List.length_append, List.length_singleton, Int.natCast_add, Int.natCast_one,
        ← Int.add_assoc] at again
      rw [List.append_assoc]
      exact again

theorem Became.create
    {held : Stored} {changes : List StoreCall}
    (became : Became key held changes none) :
    Became key held (changes ++ [.create key]) (some .initial) := by
  cases became with
  | removed earlier =>
      rw [List.append_assoc]
      exact .recreated earlier [] {} (by simp)

/-- One call keeps account of what has become of a document. -/
theorem Became.after
    {held : Stored} {earlier : List StoreCall}
    (became : Became key held earlier (store.find? key)) (call : StoreCall) :
    Became key held (earlier ++ changesOf key store [call]) ((store.after call).find? key) := by
  by_cases changed : store.changes key call = true
  · simp only [changesOf, if_pos changed]
    rcases changes_cases changed with
      ⟨document, stored, rfl, known, found⟩ | ⟨rfl, absent, found⟩ | ⟨stored, rfl, -, found⟩
    · rw [known] at became
      rw [found]
      exact became.update
    · rw [absent] at became
      rw [found]
      exact became.create
    · rw [found]
      exact .removed earlier
  · simp only [changesOf, if_neg changed, List.append_nil]
    rw [find?_after_of_not_changes changed]
    exact became

/-- The changes that were made tell what has become of a document. -/
theorem became_afterAll
    {held : Stored}
    (known : store.find? key = some held) (calls : List StoreCall) :
    Became key held (changesOf key store calls) ((store.afterAll calls).find? key) := by
  induction calls using List.reverseRecOn with
  | nil =>
      have unchanged : Became key held [] (some held) := .kept
      rw [← known] at unchanged
      exact unchanged
  | append_singleton calls call inductionHypothesis =>
      rw [changesOf_append, afterAll_append]
      exact inductionHypothesis.after call

theorem rtakeWhile_isUpdate
    {later : List StoreCall} (earlier : List StoreCall)
    (bound : call.isUpdate = false) (updates : ∀ call ∈ later, call.isUpdate = true) :
    (earlier ++ call :: later).rtakeWhile StoreCall.isUpdate = later := by
  induction later using List.reverseRecOn with
  | nil => exact List.rtakeWhile_concat_neg _ _ _ (by simp [bound])
  | append_singleton later last inductionHypothesis =>
      have former := inductionHypothesis fun call member =>
        updates call (List.mem_append_left _ member)
      have final := updates last (List.mem_append_right _ (List.mem_singleton_self last))
      rw [← List.cons_append, ← List.append_assoc, List.rtakeWhile_concat_pos _ _ _ final, former]

theorem rtakeWhile_of_recreated
    {later : List StoreCall} (earlier : List StoreCall)
    (updates : ∀ call ∈ later, call.isUpdate = true) :
    (earlier ++ .delete key :: .create key :: later).rtakeWhile StoreCall.isUpdate = later := by
  rw [List.append_cons]
  exact rtakeWhile_isUpdate _ rfl updates

theorem Became.eq_of_recreated
    {held : Stored} {found : Option Stored} {earlier later : List StoreCall}
    (became : Became key held (earlier ++ .delete key :: .create key :: later) found)
    (updates : ∀ call ∈ later, call.isUpdate = true) :
    ∃ document, found = some ⟨document, 1 + later.length⟩ := by
  have last : (earlier ++ .delete key :: .create key :: later).rtakeWhile
      StoreCall.isUpdate = later :=
    rtakeWhile_of_recreated earlier updates
  generalize same : earlier ++ .delete key :: .create key :: later = changes at became last
  cases became with
  | kept => exact absurd same (by simp)
  | replaced _ document several allUpdates =>
      have member : StoreCall.delete key ∈ changes := by
        rw [← same]
        simp
      cases allUpdates _ member
  | removed former =>
      -- nothing follows the delete, so that the create before `later` has no place
      rw [rtakeWhile_isUpdate former rfl (by simp)] at last
      subst last
      have ends := congrArg List.getLast? same
      simp at ends
  | recreated former since document allUpdates =>
      rw [rtakeWhile_of_recreated former allUpdates] at last
      exact ⟨document, by rw [last]⟩

/-! ## When a token is accepted -/

variable {between : List StoreCall} {replacing : PipelineDocument} {token : Version}

theorem kept_or_recreated_of_accepted
    (read : store.answer (.get key) = .ok (document, version))
    (accepted :
      (store.afterAll between).answer (.update key replacing version) = .ok token) :
    (changesOf key store between = [] ∧
      (store.afterAll between).answer (.get key) = .ok (document, version)) ∨
    ∃ earlier later,
      changesOf key store between = earlier ++ .delete key :: .create key :: later ∧
      (∀ call ∈ later, call.isUpdate = true) ∧
      version = .ofCounter (1 + later.length) := by
  obtain ⟨counter, known, rfl⟩ := answer_get_eq_ok_iff.mp read
  obtain ⟨stored, found, current, -⟩ := answer_update_eq_ok_iff.mp accepted
  have counted : stored.counter = counter := Version.ofCounter_inj.mp current
  have became := became_afterAll known between
  rw [found] at became
  generalize made : changesOf key store between = changes at became
  cases became with
  | kept => exact Or.inl ⟨rfl, answer_get_eq_ok_iff.mpr ⟨counter, found, rfl⟩⟩
  | replaced _ latest several updates =>
      have positive := List.length_pos_iff.mpr several
      simp only at counted
      omega
  | recreated earlier later latest updates =>
      exact Or.inr ⟨earlier, later, rfl, updates, by rw [← counted]⟩

theorem accepted_of_recreated
    {earlier later : List StoreCall}
    (read : store.answer (.get key) = .ok (document, version))
    (made : changesOf key store between = earlier ++ .delete key :: .create key :: later)
    (updates : ∀ call ∈ later, call.isUpdate = true)
    (reached : version = .ofCounter (1 + later.length)) :
    ∃ token, (store.afterAll between).answer (.update key replacing version) = .ok token := by
  obtain ⟨counter, known, rfl⟩ := answer_get_eq_ok_iff.mp read
  have became := became_afterAll known between
  rw [made] at became
  obtain ⟨latest, found⟩ := became.eq_of_recreated updates
  exact ⟨_, answer_update_eq_ok_iff.mpr ⟨_, found, reached.symm, rfl⟩⟩

/-- As long as the pipeline is not deleted, a token that was read admits a write over the document
that it was read with, and over no other. -/
theorem kept_of_accepted_of_not_deleted
    (read : store.answer (.get key) = .ok (document, version))
    (lasting : .delete key ∉ changesOf key store between)
    (accepted :
      (store.afterAll between).answer (.update key replacing version) = .ok token) :
    changesOf key store between = [] ∧
      (store.afterAll between).answer (.get key) = .ok (document, version) := by
  rcases kept_or_recreated_of_accepted read accepted with kept | ⟨earlier, later, made, -, -⟩
  · exact kept
  · rw [made] at lasting
    exact absurd (List.mem_append_right earlier List.mem_cons_self) lasting

/-- A token that was read is accepted in two cases: nothing has changed since, and what is replaced
is what was read; or the pipeline was deleted, created again, and then replaced as often as the
token counts. -/
theorem token_accepted_iff
    (read : store.answer (.get key) = .ok (document, version)) :
    (∃ token, (store.afterAll between).answer (.update key replacing version) = .ok token) ↔
      (changesOf key store between = [] ∧
        (store.afterAll between).answer (.get key) = .ok (document, version)) ∨
      ∃ earlier later,
        changesOf key store between = earlier ++ .delete key :: .create key :: later ∧
        (∀ call ∈ later, call.isUpdate = true) ∧
        version = .ofCounter (1 + later.length) := by
  constructor
  · rintro ⟨token, accepted⟩
    exact kept_or_recreated_of_accepted read accepted
  · rintro (⟨-, unchanged⟩ | ⟨earlier, later, made, updates, reached⟩)
    · obtain ⟨same, found, current⟩ := answer_get_eq_ok_iff.mp unchanged
      exact ⟨_, answer_update_eq_ok_iff.mpr ⟨⟨document, same⟩, found, current.symm, rfl⟩⟩
    · exact accepted_of_recreated read made updates reached

end Store

namespace TokenReuse

/-! ## A token that is valid again -/

def key : PipelineKey :=
  ⟨"default", "sales"⟩

def first : PipelineDocument :=
  { transformFunctions := [{ id := "a", name := "a", source := "s" }] }

def second : PipelineDocument :=
  { transformFunctions := [{ id := "b", name := "b", source := "s" }] }

/-- The store in which the first document is read, at its second version. -/
def initial : Store :=
  Store.afterAll {} [.create key, .update key first (.ofCounter 1)]

/-- Others delete the pipeline, create it again and replace its document. -/
def between : List StoreCall :=
  [.delete key, .create key, .update key second (.ofCounter 1)]

theorem find?_created_and_updated
    {store : Store} {document : PipelineDocument} (absent : store.find? key = none) :
    ((store.after (.create key)).after (.update key document (.ofCounter 1))).find? key =
      some ⟨document, 2⟩ := by
  have created : (store.after (.create key)).find? key = some .initial := by
    rw [Store.find?_after_create _ absent, if_pos rfl]
  have updated := Store.find?_after_update document key created rfl
  rw [if_pos rfl] at updated
  exact updated

theorem find?_initial : initial.find? key = some ⟨first, 2⟩ :=
  find?_created_and_updated rfl

theorem find?_after_between : (initial.afterAll between).find? key = some ⟨second, 2⟩ :=
  find?_created_and_updated (by rw [Store.find?_after_delete, if_pos rfl])

theorem changesOf_between : Store.changesOf key initial between = between := by
  have removed : initial.changes key (.delete key) = true :=
    Store.changes_iff.mpr
      ⟨beq_self_eq_true key, (), Store.answer_delete_eq_ok_iff.mpr ⟨_, find?_initial⟩⟩
  have absent : (initial.after (.delete key)).find? key = none := by
    rw [Store.find?_after_delete, if_pos rfl]
  have created : (initial.after (.delete key)).changes key (.create key) = true :=
    Store.changes_iff.mpr
      ⟨beq_self_eq_true key, _, Store.answer_create_eq_ok_iff.mpr ⟨absent, rfl⟩⟩
  have found : ((initial.after (.delete key)).after (.create key)).find? key = some .initial := by
    rw [Store.find?_after_create _ absent, if_pos rfl]
  have replaced : ((initial.after (.delete key)).after (.create key)).changes key
      (.update key second (.ofCounter 1)) = true :=
    Store.changes_iff.mpr
      ⟨beq_self_eq_true key, _, Store.answer_update_eq_ok_iff.mpr ⟨_, found, rfl, rfl⟩⟩
  simp [between, Store.changesOf, removed, created, replaced]

theorem read_initial : initial.answer (.get key) = .ok (first, .ofCounter 2) :=
  Store.answer_get_eq_ok_iff.mpr ⟨2, find?_initial, rfl⟩

/-- The token of the first document admits a write over the second one. -/
theorem token_accepted :
    initial.answer (.get key) = .ok (first, .ofCounter 2) ∧
      Store.changesOf key initial between = between ∧
      ∃ token,
        (initial.afterAll between).answer (.update key {} (.ofCounter 2)) = .ok token := by
  have updates : ∀ call ∈ [StoreCall.update key second (.ofCounter 1)], call.isUpdate = true := by
    simp [StoreCall.isUpdate]
  exact ⟨read_initial, changesOf_between,
    (Store.token_accepted_iff read_initial).mpr
      (Or.inr ⟨[], [.update key second (.ofCounter 1)], changesOf_between, updates, rfl⟩)⟩

/-- A token does not protect what is written after the pipeline was created again. -/
theorem token_not_protected :
    ¬ ∀ (store : Store) (key : PipelineKey) (document replacing : PipelineDocument)
        (version token : Version) (between : List StoreCall),
        store.answer (.get key) = .ok (document, version) →
        (store.afterAll between).answer (.update key replacing version) = .ok token →
        Store.changesOf key store between = [] ∧
        (store.afterAll between).answer (.get key) = .ok (document, version) := by
  intro protects
  have accepted : (initial.afterAll between).answer (.update key {} (.ofCounter 2)) =
      .ok (.ofCounter 3) :=
    Store.answer_update_eq_ok_iff.mpr ⟨_, find?_after_between, rfl, rfl⟩
  obtain ⟨untouched, -⟩ := protects initial key first {} (.ofCounter 2) (.ofCounter 3) between
    read_initial accepted
  rw [changesOf_between] at untouched
  cases untouched

end TokenReuse

end PipelineRegistry
