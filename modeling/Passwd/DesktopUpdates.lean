import Passwd.DesktopActions
import Passwd.VaultSessions

namespace Passwd.Desktop

open Base64 Crypto Interaction Json OfflineVault

/-!
# Updates that overlapping actions keep or lose

Updates are kept in the runs in which an action writes only while the vault it
started from is still the shown one and no other action has a result to show,
and in which a write that fails leaves the file as it was.  Of two actions that
start together one is undone.
-/

section Runs

variable {crypto : Primitives} {kdf : DerivationFunctions}
  {actions : Nat → Action} {configuration : Acting} {password : String}

/-!
## Updates are kept
-/

/-- No action has a result to show, and the file opens to the shown vault. -/
def AtRest
    (crypto : Primitives)
    (kdf : DerivationFunctions)
    (password : String)
    (configuration : Acting) :
    Prop :=
  (∀ process,
    awaitsResult (configuration.trace.ofProcess process) = false) ∧
    openExistingVault crypto kdf configuration.state.files
      configuration.state.vault.path password =
        .ok configuration.state.vault

/-- One action has written the file from the shown vault, and no other has. -/
def Pending (configuration : Acting) : Prop :=
  ∃ process contents,
    configuration.trace.ofProcess process =
        [reads configuration.state.vault,
          writes configuration.state.vault.path contents (.ok ())] ∧
      configuration.state.files configuration.state.vault.path =
          some contents ∧
        ∀ other, other ≠ process →
          awaitsResult (configuration.trace.ofProcess other) = false

/-- The shown vault stands for the actions that succeeded. -/
structure Consistent
    (crypto : Primitives)
    (kdf : DerivationFunctions)
    (actions : Nat → Action)
    (items : List VaultItem)
    (password : String)
    (configuration : Acting) :
    Prop where
  items :
    configuration.state.vault.items =
      itemsAfter actions items (succeeded configuration.trace)
  spelled : configuration.state.vault.state.Spelled
  opens :
    configuration.state.vault.state.OpensWith crypto kdf
      (passwordAfter actions password (succeeded configuration.trace))
  file :
    AtRest crypto kdf
        (passwordAfter actions password (succeeded configuration.trace))
        configuration ∨
      Pending configuration

/-- Whether an action awaits its result shows in its last exchange. -/
theorem awaitsResult_append
    (history : History appCalls)
    (exchange : Exchange appCalls) :
    awaitsResult (history ++ [exchange]) = awaitsResult [exchange] := by
  simp [awaitsResult]

/-- The newest event is a success when it shows a result. -/
theorem succeeded_append
    (trace : Trace appCalls)
    (process : Nat)
    (exchange : Exchange appCalls) :
    succeeded (trace ++ [⟨process, exchange⟩]) =
      succeeded trace ++
        if Operation.isResult exchange.operation then [process] else [] := by
  rw [succeeded, List.filterMap_append]
  congr 1
  by_cases isResult : Operation.isResult exchange.operation = true
  · simp [isResult]
  · simp [isResult]

/-- After a call no other action awaits its result that did not before. -/
theorem awaitsResult_answered
    {process other : Nat}
    {exchange : Exchange appCalls}
    {next :
      appCalls.Answer exchange.operation →
        Program appCalls (Except Failure Unit)}
    {state : AppState}
    (quiet : awaitsResult [exchange] = false)
    (others :
      other ≠ process →
        awaitsResult (configuration.trace.ofProcess other) = false) :
    awaitsResult
        ((configuration.answered process exchange next state).trace.ofProcess
          other) = false := by
  by_cases same : other = process
  · subst same
    rw [Configuration.answered, Trace.ofProcess_append_same,
      awaitsResult_append]
    exact quiet
  · rw [Configuration.answered,
      Trace.ofProcess_append_other _ _ (Ne.symm same)]
    exact others same

namespace Consistent

variable {items : List VaultItem} {process : Nat} {result : WriteResult}

/-- A call that changes nothing keeps a run consistent. -/
theorem unchanged
    (consistent :
      Consistent crypto kdf actions items password configuration)
    {exchange : Exchange appCalls}
    {next :
      appCalls.Answer exchange.operation →
        Program appCalls (Except Failure Unit)}
    (noResult : Operation.isResult exchange.operation = false)
    (quiet : awaitsResult [exchange] = false)
    (idle :
      awaitsResult (configuration.trace.ofProcess process) = false) :
    Consistent crypto kdf actions items password
      (configuration.answered process exchange next configuration.state) := by
  have same :
      succeeded
          (configuration.answered process exchange next
            configuration.state).trace =
        succeeded configuration.trace := by
    rw [Configuration.answered, succeeded_append, noResult]
    exact List.append_nil _
  constructor
  · rw [same]
    exact consistent.items
  · exact consistent.spelled
  · rw [same]
    exact consistent.opens
  · rw [same]
    rcases consistent.file with ⟨none, opens⟩ | pending
    · left
      refine ⟨?_, opens⟩
      intro other
      exact awaitsResult_answered quiet fun _ => none other
    · obtain ⟨writer, contents, history, found, others⟩ := pending
      right
      have different : process ≠ writer := by
        rintro rfl
        rw [history] at idle
        cases idle
      refine ⟨writer, contents, ?_, found, ?_⟩
      · rw [Configuration.answered, Trace.ofProcess_append_other _ _ different]
        exact history
      · intro other notWriter
        exact awaitsResult_answered quiet fun _ => others other notWriter

/-- A write from the shown vault leaves one action with a result to show. -/
theorem written
    (consistent :
      Consistent crypto kdf actions items password configuration)
    {contents : String}
    {next :
      Except Failure Unit → Program appCalls (Except Failure Unit)}
    (history :
      configuration.trace.ofProcess process =
        [reads configuration.state.vault])
    (others :
      ∀ other, other ≠ process →
        awaitsResult (configuration.trace.ofProcess other) = false) :
    Consistent crypto kdf actions items password
      (configuration.answered process
        (writes configuration.state.vault.path contents (.ok ())) next
        { configuration.state with
          files :=
            Function.update configuration.state.files
              configuration.state.vault.path (some contents) }) := by
  have same :
      succeeded
          (configuration.trace ++
            [⟨process,
              writes configuration.state.vault.path contents (.ok ())⟩]) =
        succeeded configuration.trace := by
    rw [succeeded_append]
    exact List.append_nil _
  constructor
  · dsimp only [Configuration.answered]
    rw [same]
    exact consistent.items
  · exact consistent.spelled
  · dsimp only [Configuration.answered]
    rw [same]
    exact consistent.opens
  · right
    refine ⟨process, contents, ?_, Function.update_self _ _ _, ?_⟩
    · dsimp only [Configuration.answered]
      rw [Trace.ofProcess_append_same, history]
      rfl
    · intro other different
      dsimp only [Configuration.answered]
      rw [Trace.ofProcess_append_other _ _ (Ne.symm different)]
      exact others other different

/-- Showing the result of a write brings the run to rest. -/
theorem shown
    (authenticated : crypto.Authenticated)
    (consistent :
      Consistent crypto kdf actions items password configuration)
    {result : DesktopVault}
    {next : Unit → Program appCalls (Except Failure Unit)}
    (requested :
      (actions process).requests crypto kdf
        (configuration.trace.ofProcess process)
        (Operation.setVault result)) :
    Consistent crypto kdf actions items password
      (configuration.answered process (shows result) next
        { configuration.state with vault := result }) := by
  obtain ⟨shown, contents, history, prepared⟩ := requested
  have awaits :
      awaitsResult (configuration.trace.ofProcess process) = true := by
    rw [history]
    rfl
  rcases consistent.file with ⟨none, _⟩ | pending
  · rw [none process] at awaits
    cases awaits
  · obtain ⟨writer, written, isWriter, found, others⟩ := pending
    have same : process = writer := by
      by_contra different
      rw [others process different] at awaits
      cases awaits
    subst same
    rw [isWriter] at history
    cases history
    obtain ⟨applied, opened⟩ :=
      openExistingVault_of_prepare authenticated consistent.spelled
        consistent.opens prepared found
    obtain ⟨_, spelled, opens⟩ := opensWith_of_openExistingVault opened
    have newest :
        succeeded (configuration.trace ++ [⟨process, shows result⟩]) =
          succeeded configuration.trace ++ [process] :=
      succeeded_append _ _ _
    have newPassword :
        passwordAfter actions password
            (succeeded configuration.trace ++ [process]) =
          (actions process).passwordAfter
            (passwordAfter actions password
              (succeeded configuration.trace)) :=
      List.foldl_concat ..
    have newItems :
        itemsAfter actions items
            (succeeded configuration.trace ++ [process]) =
          (actions process).apply
            (itemsAfter actions items (succeeded configuration.trace)) :=
      List.foldl_concat ..
    constructor
    · dsimp only [Configuration.answered]
      rw [newest, newItems, ← consistent.items]
      exact applied
    · exact spelled
    · dsimp only [Configuration.answered]
      rw [newest, newPassword]
      exact opens
    · left
      dsimp only [Configuration.answered]
      rw [newest, newPassword]
      refine ⟨?_, opened⟩
      intro other
      exact
        @awaitsResult_answered configuration process other (shows result) next
          configuration.state rfl fun different => others other different

/-- Every call that keeps updates keeps a run consistent. -/
theorem step
    (authenticated : crypto.Authenticated)
    (consistent :
      Consistent crypto kdf actions items password configuration)
    {operation : Operation}
    {next :
      appCalls.Answer operation → Program appCalls (Except Failure Unit)}
    (shape : configuration.pool process = .perform operation next)
    (requested :
      (actions process).requests crypto kdf
        (configuration.trace.ofProcess process) operation)
    (permitted : keepsUpdates configuration process result) :
    Consistent crypto kdf actions items password
      (configuration.answered process
        ⟨operation, (execute result configuration.state operation).1⟩ next
        (execute result configuration.state operation).2) := by
  cases operation with
  | vault =>
      refine consistent.unchanged rfl rfl ?_
      rw [show configuration.trace.ofProcess process = [] from requested]
      rfl
  | writeFile path contents =>
      obtain ⟨started, prepared, history, _, isPath⟩ := requested
      have allowed :=
        permitted path contents (by rw [shape]; rfl)
      cases result with
      | written =>
          obtain ⟨isShown, others⟩ := allowed
          rw [history] at isShown
          cases isShown
          subst isPath
          exact consistent.written history others
      | refused left =>
          have unchangedFiles :
              (execute (.refused left) configuration.state
                (.writeFile path contents)).2 = configuration.state := by
            rw [allowed]
            simp [execute]
          rw [unchangedFiles]
          refine consistent.unchanged rfl rfl ?_
          rw [history]
          rfl
  | setVault shown =>
      exact consistent.shown authenticated requested

/-- An open vault is consistent before any action. -/
theorem initial
    {state : AppState}
    (opened :
      openExistingVault crypto kdf state.files state.vault.path password =
        .ok state.vault) :
    Consistent crypto kdf actions state.vault.items password
      (acting crypto kdf state actions) := by
  obtain ⟨_, spelled, opens⟩ := opensWith_of_openExistingVault opened
  exact
    { items := rfl
      spelled := spelled
      opens := opens
      file := Or.inl ⟨fun _ => rfl, opened⟩ }

/-- Every run that keeps updates is consistent. -/
theorem run
    (authenticated : crypto.Authenticated)
    {state : AppState}
    {final : Acting}
    (opened :
      openExistingVault crypto kdf state.files state.vault.path password =
        .ok state.vault)
    (reaches :
      Configuration.Reaches execute keepsUpdates
        (acting crypto kdf state actions) final) :
    Consistent crypto kdf actions state.vault.items password final := by
  refine reaches.invariant _ (Consistent.initial opened) ?_
  intro configuration process operation next result reached consistent shape
    permitted
  exact consistent.step authenticated shape
    (reached.request_of_perform (perform_obeys crypto kdf (actions process))
      shape)
    permitted

end Consistent

/--
The file and the shown vault agree, under the last password that was changed to
with success, and stand for every action that succeeded.
-/
structure UpdatesKept
    (crypto : Primitives)
    (kdf : DerivationFunctions)
    (actions : Nat → Action)
    (items : List VaultItem)
    (password : String)
    (final : Acting) :
    Prop where
  opens :
    openExistingVault crypto kdf final.state.files final.state.vault.path
        (passwordAfter actions password (succeeded final.trace)) =
      .ok final.state.vault
  items :
    final.state.vault.items =
      itemsAfter actions items (succeeded final.trace)
  reported :
    ∀ process,
      final.pool process = .done (.ok ()) →
        process ∈ succeeded final.trace

/-- The id of the item that an action saves or deletes. -/
def Action.target : Action → Option String
  | .saveItem item id _ => some (withId item id).id
  | .deleteItem item _ => some item.id
  | .changePassword _ _ _ _ _ => none

/-- A saved item is among the items. -/
theorem mem_savedItems
    (items : List VaultItem)
    (item : VaultItem)
    (id : Drawn 16) :
    withId item id ∈ savedItems items item id := by
  dsimp only [savedItems]
  split
  · rename_i isThere
    obtain ⟨old, member, same⟩ := List.any_eq_true.mp isThere
    exact List.mem_map.mpr ⟨old, member, if_pos (of_decide_eq_true same)⟩
  · simp

/-- An action leaves the items of every other id as they are. -/
theorem mem_apply_iff
    {action : Action}
    {items : List VaultItem}
    {item : VaultItem}
    (other : action.target ≠ some item.id) :
    item ∈ action.apply items ↔ item ∈ items := by
  cases action with
  | saveItem saved id nonce =>
      have different : item.id ≠ (withId saved id).id := by
        intro same
        exact other (congrArg some same.symm)
      have notSaved : item ≠ withId saved id := by
        intro same
        exact different (congrArg VaultItem.id same)
      dsimp only [Action.apply, savedItems]
      split
      · constructor
        · intro member
          obtain ⟨old, isOld, replaced⟩ := List.mem_map.mp member
          split at replaced
          · exact absurd replaced.symm notSaved
          · rw [← replaced]
            exact isOld
        · intro member
          exact List.mem_map.mpr ⟨item, member, if_neg different⟩
      · simp [notSaved]
  | deleteItem deleted nonce =>
      have different : item.id ≠ deleted.id := by
        intro same
        exact other (congrArg some same.symm)
      simp [Action.apply, remainingItems, different]
  | changePassword pw confirm salt keyNonce nonce =>
      rfl

/-- Actions on other ids leave an item as it is. -/
theorem mem_itemsAfter_iff
    {items : List VaultItem}
    {item : VaultItem}
    {processes : List Nat}
    (others :
      ∀ process ∈ processes, (actions process).target ≠ some item.id) :
    item ∈ itemsAfter actions items processes ↔ item ∈ items := by
  induction processes generalizing items with
  | nil =>
      rfl
  | cons process rest inductionHypothesis =>
      have first := @mem_apply_iff _ items item (others process (by simp))
      have later :=
        @inductionHypothesis ((actions process).apply items)
          fun other member => others other (List.mem_cons_of_mem _ member)
      exact later.trans first

/-- An item that was saved with success stands until its id is used again. -/
theorem UpdatesKept.mem_of_saved
    {items : List VaultItem}
    {final : Acting}
    (kept : UpdatesKept crypto kdf actions items password final)
    {earlier later : List Nat}
    {process : Nat}
    {item : VaultItem}
    {id : Drawn 16}
    {nonce : Drawn 12}
    (order : succeeded final.trace = earlier ++ process :: later)
    (isSave : actions process = .saveItem item id nonce)
    (untouched :
      ∀ other ∈ later,
        (actions other).target ≠ some (withId item id).id) :
    withId item id ∈ final.state.vault.items := by
  rw [kept.items, order, itemsAfter, List.foldl_append, List.foldl_cons,
    isSave]
  exact (mem_itemsAfter_iff untouched).mpr (mem_savedItems _ item id)

/-- An item that was deleted with success is gone until its id is used again. -/
theorem UpdatesKept.not_mem_of_deleted
    {items : List VaultItem}
    {final : Acting}
    (kept : UpdatesKept crypto kdf actions items password final)
    {earlier later : List Nat}
    {process : Nat}
    {item : VaultItem}
    {nonce : Drawn 12}
    (order : succeeded final.trace = earlier ++ process :: later)
    (isDelete : actions process = .deleteItem item nonce)
    (untouched :
      ∀ other ∈ later, (actions other).target ≠ some item.id) :
    ∀ left ∈ final.state.vault.items, left.id ≠ item.id := by
  intro left member same
  rw [kept.items, order, itemsAfter, List.foldl_append, List.foldl_cons,
    isDelete] at member
  rw [← same] at untouched
  have remains := (mem_itemsAfter_iff untouched).mp member
  simp [Action.apply, remainingItems, same] at remains

/-- No action of a settled run has a result to show. -/
theorem Settled.quiet
    {state : AppState}
    {final : Acting}
    {allowed : Acting → Nat → WriteResult → Prop}
    (settled : Settled final)
    (reaches :
      Configuration.Reaches execute allowed (acting crypto kdf state actions)
        final)
    (process : Nat) :
    awaitsResult (final.trace.ofProcess process) = false := by
  rcases settled process with ⟨result, finished⟩ | unstarted
  · exact
      (reaches.result_of_done (perform_obeys crypto kdf (actions process))
        finished).1
  · rw [unstarted]
    rfl

/-- An action that reports success has shown its result. -/
theorem mem_succeeded
    {state : AppState}
    {final : Acting}
    {allowed : Acting → Nat → WriteResult → Prop}
    (reaches :
      Configuration.Reaches execute allowed (acting crypto kdf state actions)
        final)
    {process : Nat}
    (finished : final.pool process = .done (.ok ())) :
    process ∈ succeeded final.trace := by
  obtain ⟨next, member⟩ :=
    (reaches.result_of_done (perform_obeys crypto kdf (actions process))
      finished).2 rfl
  exact List.mem_filterMap.mpr
    ⟨_, Trace.mem_ofProcess.mp member, rfl⟩

/--
In every run in which writes are made from the shown vault only, with no other
result to show, and failed writes change nothing, no update is lost: once every
action that started has finished, the file opens with the last password that was
changed to with success, to the vault in memory, whose items show every save and
deletion that succeeded.
-/
theorem updatesKept_of_settled
    (authenticated : crypto.Authenticated)
    {state : AppState}
    {final : Acting}
    (opened :
      openExistingVault crypto kdf state.files state.vault.path password =
        .ok state.vault)
    (reaches :
      Configuration.Reaches execute keepsUpdates
        (acting crypto kdf state actions) final)
    (settled : Settled final) :
    UpdatesKept crypto kdf actions state.vault.items password final := by
  have consistent := Consistent.run authenticated opened reaches
  constructor
  · rcases consistent.file with ⟨_, opens⟩ | ⟨writer, contents, history, _⟩
    · exact opens
    · have quiet := settled.quiet reaches writer
      rw [history] at quiet
      cases quiet
  · exact consistent.items
  · intro process finished
    exact mem_succeeded reaches finished

/-!
## Actions that overlap
-/

/-- One action from its start to its end. -/
def alone (process : Nat) : List (Nat × WriteResult) :=
  List.replicate 3 (process, .written)

/-- Two actions that start together and finish one after the other. -/
def overlapping (first second : Nat) : List (Nat × WriteResult) :=
  [(first, .written), (second, .written), (first, .written),
    (first, .written), (second, .written), (second, .written)]

/-- The program of an action that passes its check. -/
theorem pool_acting
    {state : AppState}
    {process : Nat}
    (checked : (actions process).check = .ok ()) :
    (acting crypto kdf state actions).pool process =
      @Program.perform appCalls _ Operation.vault fun shown =>
        writeResult shown
          ((actions process).prepare crypto kdf shown) := by
  change ((actions process).perform crypto kdf).run = _
  rw [perform_eq, checked]

/-- The first call of an action reads the shown vault. -/
theorem advance_start
    {process : Nat}
    {next : DesktopVault → Program appCalls (Except Failure Unit)}
    (shape :
      configuration.pool process =
        @Program.perform appCalls _ Operation.vault next) :
    configuration.advance execute process WriteResult.written =
      { state := configuration.state
        pool :=
          Function.update configuration.pool process
            (next configuration.state.vault)
        trace :=
          configuration.trace ++
            [⟨process, reads configuration.state.vault⟩] } :=
  Configuration.advance_of_perform shape WriteResult.written

/-- The second call of an action writes the file. -/
theorem advance_write
    {process : Nat}
    {started shown : DesktopVault}
    {contents : String}
    (shape :
      configuration.pool process =
        writeResult started (.ok (contents, shown))) :
    configuration.advance execute process WriteResult.written =
      { state :=
          { configuration.state with
            files :=
              Function.update configuration.state.files started.path
                (some contents) }
        pool :=
          Function.update configuration.pool process
            (showResult shown (.ok ()))
        trace :=
          configuration.trace ++
            [⟨process, writes started.path contents (.ok ())⟩] } :=
  Configuration.advance_of_perform shape WriteResult.written

/-- The last call of an action shows the result. -/
theorem advance_show
    {process : Nat}
    {shown : DesktopVault}
    (shape : configuration.pool process = showResult shown (.ok ())) :
    configuration.advance execute process WriteResult.written =
      { state := { configuration.state with vault := shown }
        pool := Function.update configuration.pool process (.done (.ok ()))
        trace := configuration.trace ++ [⟨process, shows shown⟩] } :=
  Configuration.advance_of_perform shape WriteResult.written

/-- The other calls of an action write the file and show the result. -/
theorem advance_finish
    {process : Nat}
    {started shown : DesktopVault}
    {contents : String}
    (shape :
      configuration.pool process =
        writeResult started (.ok (contents, shown))) :
    (configuration.advance execute process WriteResult.written).advance execute
        process WriteResult.written =
      { state :=
          { files :=
              Function.update configuration.state.files started.path
                (some contents)
            vault := shown }
        pool := Function.update configuration.pool process (.done (.ok ()))
        trace :=
          configuration.trace ++
            [⟨process, writes started.path contents (.ok ())⟩,
              ⟨process, shows shown⟩] } := by
  rw [advance_write shape, advance_show (Function.update_self _ _ _)]
  simp

/-- What two actions that start together leave behind. -/
theorem follow_overlapping
    {state : AppState}
    {first second : Nat}
    (different : first ≠ second)
    {contents otherContents : String}
    {shown otherShown : DesktopVault}
    (checked : (actions first).check = .ok ())
    (otherChecked : (actions second).check = .ok ())
    (prepared :
      (actions first).prepare crypto kdf state.vault = .ok (contents, shown))
    (otherPrepared :
      (actions second).prepare crypto kdf state.vault =
        .ok (otherContents, otherShown)) :
    ∃ earlier : Nat → Program appCalls (Except Failure Unit),
      (acting crypto kdf state actions).follow execute
          (overlapping first second) =
        { state :=
            { files :=
                Function.update state.files state.vault.path
                  (some otherContents)
              vault := otherShown }
          pool :=
            Function.update
              (Function.update earlier first (.done (.ok ()))) second
              (.done (.ok ()))
          trace :=
            [⟨first, reads state.vault⟩, ⟨second, reads state.vault⟩,
              ⟨first, writes state.vault.path contents (.ok ())⟩,
              ⟨first, shows shown⟩,
              ⟨second, writes state.vault.path otherContents (.ok ())⟩,
              ⟨second, shows otherShown⟩] } := by
  obtain ⟨one, isOne⟩ :
      ∃ one,
        (acting crypto kdf state actions).advance execute first
          WriteResult.written = one :=
    ⟨_, rfl⟩
  obtain ⟨two, isTwo⟩ :
      ∃ two, one.advance execute second WriteResult.written = two :=
    ⟨_, rfl⟩
  obtain ⟨three, isThree⟩ :
      ∃ three,
        (two.advance execute first WriteResult.written).advance execute first
          WriteResult.written = three :=
    ⟨_, rfl⟩
  have follow :
      (acting crypto kdf state actions).follow execute
          (overlapping first second) =
        (three.advance execute second WriteResult.written).advance execute
          second WriteResult.written := by
    rw [← isThree, ← isTwo, ← isOne]
    rfl
  rw [advance_start (pool_acting checked)] at isOne
  have startsSecond :
      one.pool second =
        @Program.perform appCalls _ Operation.vault fun shown =>
          writeResult shown
            ((actions second).prepare crypto kdf shown) := by
    rw [← isOne]
    exact
      (Function.update_of_ne (Ne.symm different) _ _).trans
        (pool_acting otherChecked)
  rw [advance_start startsSecond] at isTwo
  have finishesFirst :
      two.pool first = writeResult state.vault (.ok (contents, shown)) := by
    rw [← isTwo, ← isOne, ← prepared]
    exact
      (Function.update_of_ne different _ _).trans (Function.update_self _ _ _)
  rw [advance_finish finishesFirst] at isThree
  have finishesSecond :
      three.pool second =
        writeResult state.vault (.ok (otherContents, otherShown)) := by
    rw [← isThree, ← isTwo, ← isOne, ← otherPrepared]
    exact
      (Function.update_of_ne (Ne.symm different) _ _).trans
        (Function.update_self _ _ _)
  refine ⟨two.pool, ?_⟩
  rw [follow, advance_finish finishesSecond, ← isThree, ← isTwo, ← isOne]
  simp [acting, Configuration.initial]

/--
Of two actions that start together, the one that finishes first is undone
although both report success: the file and the vault in memory are as if only
the other one had run, with its items and its password.
-/
theorem overlapping_loses
    (authenticated : crypto.Authenticated)
    {state : AppState}
    {first second : Nat}
    (opened :
      openExistingVault crypto kdf state.files state.vault.path password =
        .ok state.vault)
    (different : first ≠ second)
    {contents otherContents : String}
    {shown otherShown : DesktopVault}
    (checked : (actions first).check = .ok ())
    (otherChecked : (actions second).check = .ok ())
    (prepared :
      (actions first).prepare crypto kdf state.vault = .ok (contents, shown))
    (otherPrepared :
      (actions second).prepare crypto kdf state.vault =
        .ok (otherContents, otherShown)) :
    ∃ final,
      Configuration.Reaches execute Configuration.anyStep
          (acting crypto kdf state actions) final ∧
        Settled final ∧
        final.pool first = .done (.ok ()) ∧
        final.pool second = .done (.ok ()) ∧
        succeeded final.trace = [first, second] ∧
        final.state.vault.items = (actions second).apply state.vault.items ∧
        openExistingVault crypto kdf final.state.files final.state.vault.path
            ((actions second).passwordAfter password) =
          .ok final.state.vault := by
  obtain ⟨earlier, follow⟩ :=
    follow_overlapping different checked otherChecked prepared otherPrepared
  obtain ⟨_, spelled, opens⟩ := opensWith_of_openExistingVault opened
  have result :=
    openExistingVault_of_prepare authenticated spelled opens otherPrepared
      (Function.update_self state.vault.path (some otherContents) state.files)
  refine ⟨_,
    Configuration.Reaches.of_follow (overlapping first second) _, ?_⟩
  rw [follow]
  refine ⟨?_, ?_, Function.update_self _ _ _, rfl, result⟩
  · intro process
    by_cases isFirst : process = first
    · left
      exact ⟨.ok (), by simp [isFirst, different]⟩
    · by_cases isSecond : process = second
      · left
        exact ⟨.ok (), by simp [isSecond]⟩
      · right
        simp [Trace.ofProcess, Ne.symm isFirst, Ne.symm isSecond]
  · exact
      (Function.update_of_ne different _ _).trans (Function.update_self _ _ _)

/-- An action that runs from its start to its end alone keeps updates. -/
theorem reaches_alone
    {process : Nat}
    {contents : String}
    {shown : DesktopVault}
    (shape :
      configuration.pool process =
        @Program.perform appCalls _ Operation.vault fun shown =>
          writeResult shown ((actions process).prepare crypto kdf shown))
    (fresh : configuration.trace.ofProcess process = [])
    (quiet :
      ∀ other,
        awaitsResult (configuration.trace.ofProcess other) = false)
    (prepared :
      (actions process).prepare crypto kdf configuration.state.vault =
        .ok (contents, shown)) :
    Configuration.Reaches execute keepsUpdates configuration
      { state :=
          { files :=
              Function.update configuration.state.files
                configuration.state.vault.path (some contents)
            vault := shown }
        pool := Function.update configuration.pool process (.done (.ok ()))
        trace :=
          configuration.trace ++
            [⟨process, reads configuration.state.vault⟩,
              ⟨process,
                writes configuration.state.vault.path contents (.ok ())⟩,
              ⟨process, shows shown⟩] } := by
  obtain ⟨one, isOne⟩ :
      ∃ one,
        configuration.advance execute process WriteResult.written = one :=
    ⟨_, rfl⟩
  obtain ⟨two, isTwo⟩ :
      ∃ two, one.advance execute process WriteResult.written = two :=
    ⟨_, rfl⟩
  have started :
      Configuration.Reaches execute keepsUpdates configuration one := by
    rw [← isOne]
    refine Configuration.Reaches.step _ _ .refl ?_
    intro path contents writing
    rw [shape] at writing
    cases writing
  rw [advance_start shape] at isOne
  have remains :
      one.pool process =
        writeResult configuration.state.vault (.ok (contents, shown)) := by
    rw [← isOne, ← prepared]
    exact Function.update_self _ _ _
  have wrote : Configuration.Reaches execute keepsUpdates configuration two := by
    rw [← isTwo]
    refine Configuration.Reaches.step _ _ started ?_
    intro path text _
    rw [← isOne]
    refine ⟨?_, ?_⟩
    · rw [Trace.ofProcess_append_same, fresh]
      rfl
    · intro other different
      rw [Trace.ofProcess_append_other _ _ (Ne.symm different)]
      exact quiet other
  have showed :
      Configuration.Reaches execute keepsUpdates configuration
        (two.advance execute process WriteResult.written) := by
    refine Configuration.Reaches.step _ _ wrote ?_
    intro path text writing
    have remainder : two.pool process = showResult shown (.ok ()) := by
      rw [← isTwo, advance_write remains]
      exact Function.update_self _ _ _
    rw [remainder] at writing
    cases writing
  rw [← isTwo, advance_finish remains, ← isOne] at showed
  simpa using showed

end Runs

/-!
## Runs with primitives that spell their inputs out
-/

/-- A new login of some name. -/
def loginNamed (name : String) : VaultItem where
  id := ""
  name := name
  username := ""
  password := ""
  url := ""
  notes := ""

/-- Two new logins, saved under two ids. -/
def saveLogins (process : Nat) : Action :=
  .saveItem (loginNamed (if process = 0 then "first" else "second"))
    ⟨List.replicate 16 (UInt8.ofNat process), List.length_replicate⟩
    (drawn 12)

/-- Some vault is open under the password `a`, and its items can be saved. -/
theorem exists_openVault :
    ∃ state : AppState,
      openExistingVault plainPrimitives plainFunctions state.files
          state.vault.path "a" = .ok state.vault ∧
        state.vault.items = [] := by
  obtain ⟨file, state, created⟩ :=
    @serializeUnder_plain "a" (encodePayload []) (drawn 16) (drawn 64).1
      (drawn 12) (drawn 12) (by decide)
  refine
    ⟨{ files := fun _ => some file
       vault := { path := "a.passwd", state := state, items := [] } }, ?_, rfl⟩
  exact openExistingVault_of_createVault authenticated_plainPrimitives rfl
    created

/-- Plain primitives write the items of every vault. -/
theorem prepare_saveLogins (shown : DesktopVault) (process : Nat) :
    ∃ contents,
      (saveLogins process).prepare plainPrimitives plainFunctions shown =
        .ok (contents,
          { shown with items := (saveLogins process).apply shown.items }) :=
  ⟨_, rfl⟩

/-- A login that is saved alone is in the file and in memory. -/
theorem savedAlone_kept :
    ∃ final : Acting,
      succeeded final.trace = [0] ∧
        UpdatesKept plainPrimitives plainFunctions saveLogins [] "a" final := by
  obtain ⟨state, opened, noItems⟩ := exists_openVault
  obtain ⟨contents, prepared⟩ := prepare_saveLogins state.vault 0
  have reaches :=
    @reaches_alone plainPrimitives plainFunctions saveLogins
      (acting plainPrimitives plainFunctions state saveLogins) 0 contents _
      (pool_acting (by decide)) rfl (fun _ => rfl) prepared
  have kept :=
    updatesKept_of_settled authenticated_plainPrimitives opened reaches
      (by
        intro process
        by_cases isFirst : process = 0
        · left
          subst isFirst
          exact ⟨.ok (), by simp⟩
        · right
          simp [Trace.ofProcess, Ne.symm isFirst, acting,
            Configuration.initial])
  rw [noItems] at kept
  exact ⟨_, rfl, kept⟩

/-- Of two logins that are saved at the same time, the first one is lost. -/
theorem savedLogin_lost :
    ∃ (state : AppState) (final : Acting),
      openExistingVault plainPrimitives plainFunctions state.files
          state.vault.path "a" = .ok state.vault ∧
        Configuration.Reaches execute Configuration.anyStep
          (acting plainPrimitives plainFunctions state saveLogins) final ∧
        Settled final ∧
        final.pool 0 = .done (.ok ()) ∧
        final.pool 1 = .done (.ok ()) ∧
        (∀ item ∈ final.state.vault.items, item.name ≠ "first") ∧
        ¬ UpdatesKept plainPrimitives plainFunctions saveLogins
          state.vault.items "a" final := by
  obtain ⟨state, opened, noItems⟩ := exists_openVault
  obtain ⟨contents, prepared⟩ := prepare_saveLogins state.vault 0
  obtain ⟨otherContents, otherPrepared⟩ := prepare_saveLogins state.vault 1
  obtain ⟨final, reaches, settled, finished, otherFinished, order, isItems,
      _⟩ :=
    overlapping_loses authenticated_plainPrimitives opened Nat.zero_ne_one
      (by decide) (by decide) prepared otherPrepared
  rw [noItems] at isItems
  refine ⟨state, final, opened, reaches, settled, finished, otherFinished, ?_,
    ?_⟩
  · rw [isItems]
    decide
  · intro kept
    have both := kept.items
    rw [order, isItems, noItems] at both
    revert both
    decide

end Passwd.Desktop
