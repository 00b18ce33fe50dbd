import ContractLint.Proofs.History.Alone
import ContractLint.Proofs.History.Files

/-!
# Locks of a session

In every state that a session can reach, at most one store keeps others from writing to a file, and
rows that wait to be committed are in such a store.  It follows that an action that fails changes no
database, whatever the stores hold of their files.
-/

namespace ContractLint

namespace Store

/-! ### Stores -/

/-- Rows wait to be committed only while others are kept from writing. -/
def IsGuarded (store : Store) : Prop :=
  store.uncommitted? ≠ none → store.lock.writes = true

theorem isGuarded_of_transaction {store : Store} (h : store.transaction = none) :
  store.IsGuarded
  := by
  intro huncommitted
  rw [uncommitted?, h] at huncommitted
  cases huncommitted rfl

/-- A store comes out of an action with its rows guarded, and keeps others from writing only if it
did before or no other store does. -/
structure Guards (rivals : Rivals) (before after : Store) : Prop where
  /-- Rows that wait to be committed are guarded. -/
  guarded : after.IsGuarded
  /-- At most one store writes. -/
  mayWrite : after.lock.writes = true → before.lock.writes = true ∨ rivals.writing = false

section
variable {rivals : Rivals} {store after : Store}

/-- A store that is kept stays guarded. -/
theorem Keeps.guards (h : Keeps rivals store after) (hguarded : store.IsGuarded) :
  Guards rivals store after
  where
  guarded := by
    intro huncommitted
    rw [h.uncommitted] at huncommitted
    apply h.stillWrites (hguarded huncommitted)
  mayWrite := h.mayWrite

/-- A store without a transaction holds no lock. -/
theorem guards_of_transaction (h : after.transaction = none) :
  Guards rivals store after
  where
  guarded := isGuarded_of_transaction h
  mayWrite := by
    intro hwrites
    rw [lock, h] at hwrites
    cases hwrites

/-- Every action leaves the rows of a store guarded. -/
theorem guards_run (hguarded : store.IsGuarded) (now : String) (action : StoreAction) :
  Guards rivals store (action.run rivals now store).1
  := by
  cases action with
  | initialise =>
    have hcases := initialising_initialise rivals store
    rw [StoreAction.run]
    generalize store.initialise rivals = result at hcases ⊢
    cases hcases with
    | refused hkeeps => apply hkeeps.guards hguarded
    | unmade _ _ htransaction => apply guards_of_transaction htransaction
    | made _ _ _ htransaction => apply guards_of_transaction htransaction
  | close => apply guards_of_transaction rfl
  | useOnce => apply guards_of_transaction rfl
  | save source findings user =>
    have hcases := saving_save rivals store (.ofJson source)
      (resultsText (findings.map Finding.toJson)) user.asName now
    rw [StoreAction.run]
    generalize store.save rivals _ _ _ _ = result at hcases ⊢
    cases hcases with
    | refused hkeeps => apply hkeeps.guards hguarded
    | waiting _ _ _ _ _ _ hlock _ hfree =>
      constructor
      · intro _
        rw [hlock]
        rfl
      · intro _
        apply hfree
    | committed _ _ _ _ _ htransaction => apply guards_of_transaction htransaction
  | list user => apply (keeps_history rivals store user.asName).guards hguarded

/-- An action that fails leaves the database as it was, if the store has no rival in writing. -/
theorem database_of_failed (hguarded : store.IsGuarded)
    (halone : store.lock.writes = true → rivals.writing = false ∧ rivals.waiting = false)
    {now : String} {action : StoreAction} {error : SessionError}
    (hfailed : (action.run rivals now store).2 = .failed error) :
  (action.run rivals now store).1.database = store.database
  ∧ (action.run rivals now store).1.isOpen = store.isOpen
  := by
  cases action with
  | initialise =>
    have hcases := initialising_initialise rivals store
    rw [StoreAction.run] at hfailed ⊢
    generalize store.initialise rivals = result at hcases hfailed ⊢
    cases hcases with
    | refused hkeeps => exact ⟨hkeeps.database, hkeeps.isOpen⟩
    | made => cases hfailed
    | unmade hdatabase hisOpen _ hother =>
      refine ⟨?_, hisOpen⟩
      rw [visible_eq] at hdatabase hother
      cases huncommitted : store.uncommitted? with
      | none =>
        rw [huncommitted] at hdatabase
        apply hdatabase
      | some table =>
        -- rows that wait are guarded, so that nothing stands in the way of the table
        have hwrites : store.lock.writes = true := by
          apply hguarded
          rw [huncommitted]
          exact Option.some_ne_none table
        obtain ⟨hwriting, hwaiting⟩ := halone hwrites
        rw [huncommitted, hwriting, hwaiting] at hother
        obtain hforeign | hwaits | hwrites := hother
        · cases hforeign
        · cases hwaits
        · cases hwrites
  | close => cases hfailed
  | useOnce => cases hfailed
  | save source findings user =>
    have hcases := saving_save rivals store (.ofJson source)
      (resultsText (findings.map Finding.toJson)) user.asName now
    rw [StoreAction.run] at hfailed ⊢
    generalize store.save rivals _ _ _ _ = result at hcases hfailed ⊢
    cases hcases with
    | refused hkeeps => exact ⟨hkeeps.database, hkeeps.isOpen⟩
    | waiting _ _ _ hdatabase hisOpen => exact ⟨hdatabase, hisOpen⟩
    | committed => cases hfailed
  | list user =>
    have hkeeps := keeps_history rivals store user.asName
    exact ⟨hkeeps.database, hkeeps.isOpen⟩

end

end Store

namespace Session

/-! ### Sessions -/

/-- Rows that wait to be committed are guarded, and at most one store keeps others from writing to a
file. -/
structure IsWellLocked (session : Session) : Prop where
  /-- Rows that wait to be committed are guarded. -/
  guarded : ∀ connection ∈ session.connections, connection.store.IsGuarded
  /-- Two stores on one file do not both write. -/
  exclusive : ∀ {index number : Nat} {other connection : Connection},
    session.connections[index]? = some other → session.connections[number]? = some connection →
    index ≠ number → other.place = connection.place → connection.place ≠ none →
    other.store.lock.writes = true → connection.store.lock.writes = false

section
variable {session : Session} {number : Nat} {connection : Connection}

/-- A session without stores is well locked. -/
theorem isWellLocked_of_connections (h : session.connections = []) :
  session.IsWellLocked
  where
  guarded := by
    intro connection hconnection
    rw [h] at hconnection
    cases hconnection
  exclusive := by
    intro index number other connection hother
    rw [h] at hother
    cases hother

theorem lock_storeOf (session : Session) (connection : Connection) :
  (session.storeOf connection).lock = connection.store.lock
  := by
  rw [storeOf]
  split <;> rfl

theorem uncommitted?_storeOf (session : Session) (connection : Connection) :
  (session.storeOf connection).uncommitted? = connection.store.uncommitted?
  := by
  rw [storeOf]
  split <;> rfl

/-- Every store of a well locked session is guarded. -/
theorem IsWellLocked.isGuarded_storeOf (h : session.IsWellLocked)
    (hconnection : session.connections[number]? = some connection) :
  (session.storeOf connection).IsGuarded
  := by
  rw [Store.IsGuarded, uncommitted?_storeOf, lock_storeOf]
  apply h.guarded connection (List.mem_of_getElem? hconnection)

/-- A store that writes has no rival that writes, or waits to. -/
theorem IsWellLocked.rivalsOf (h : session.IsWellLocked)
    (hconnection : session.connections[number]? = some connection)
    (hwrites : connection.store.lock.writes = true) :
  (session.rivalsOf number connection).writing = false
  ∧ (session.rivalsOf number connection).waiting = false
  := by
  have hnone : ∀ lock ∈ session.otherLocks number connection, lock.writes = false := by
    intro lock hlock
    obtain ⟨index, other, hother, hne, hplace, hfile, rfl⟩ := mem_otherLocks.mp hlock
    rw [← hplace] at hfile
    apply h.exclusive hconnection hother (Ne.symm hne) hplace.symm hfile hwrites
  rw [Session.rivalsOf]
  constructor
  · rw [List.any_eq_false]
    intro lock hlock
    rw [hnone lock hlock]
    exact Bool.false_ne_true
  · rw [List.any_eq_false]
    intro lock hlock hwaits
    have hpending : lock = .pending := eq_of_beq hwaits
    have hwrites := hnone lock hlock
    rw [hpending] at hwrites
    cases hwrites

/-- A store that comes out of an action does not write beside another store on its file. -/
theorem IsWellLocked.writes_eq_false (h : session.IsWellLocked)
    (hconnection : session.connections[number]? = some connection) {store : Store}
    (hstore : Store.Guards (session.rivalsOf number connection) (session.storeOf connection) store)
    {index : Nat} {other : Connection} (hother : session.connections[index]? = some other)
    (hne : index ≠ number) (hplace : other.place = connection.place)
    (hfile : connection.place ≠ none) (hwrites : store.lock.writes = true) :
  other.store.lock.writes = false
  := by
  obtain hbefore | hfree := hstore.mayWrite hwrites
  · rw [lock_storeOf] at hbefore
    rw [← hplace] at hfile
    apply h.exclusive hconnection hother (Ne.symm hne) hplace.symm hfile hbefore
  · rw [Session.rivalsOf, List.any_eq_false] at hfree
    rw [← Bool.not_eq_true]
    apply hfree
    exact mem_otherLocks.mpr ⟨index, other, hother, hne, hplace, hfile, rfl⟩

/-- A connection after a change is the changed one or another one. -/
theorem getElem?_set_cases {connections : List Connection} {changed found : Connection}
    {index : Nat} (h : (connections.set number changed)[index]? = some found) :
  index = number ∧ found = changed ∨ index ≠ number ∧ connections[index]? = some found
  := by
  by_cases hindex : index = number
  · left
    use hindex
    rw [hindex, List.getElem?_set_self'] at h
    obtain ⟨_, -, hfound⟩ := Option.map_eq_some_iff.mp h
    apply hfound.symm
  · right
    rw [List.getElem?_set_ne (Ne.symm hindex)] at h
    exact ⟨hindex, h⟩

/-- A store that comes out of an action guarded keeps a session well locked. -/
theorem IsWellLocked.withStore (h : session.IsWellLocked)
    (hconnection : session.connections[number]? = some connection) {store : Store}
    (hstore : Store.Guards (session.rivalsOf number connection) (session.storeOf connection)
      store) :
  (session.withStore number connection store).IsWellLocked
  where
  guarded := by
    intro other hother
    obtain hold | rfl := List.mem_or_eq_of_mem_set hother
    · apply h.guarded other hold
    · apply hstore.guarded
  exclusive := by
    intro index last other found hother hfound hne hplace hfile hwrites
    obtain ⟨rfl, rfl⟩ | ⟨-, hold⟩ := getElem?_set_cases hother
    · obtain ⟨rfl, -⟩ | ⟨-, hkept⟩ := getElem?_set_cases hfound
      · cases hne rfl
      · rw [← hplace] at hfile
        apply h.writes_eq_false hconnection hstore hkept (Ne.symm hne) hplace.symm hfile hwrites
    · obtain ⟨rfl, rfl⟩ | ⟨-, hkept⟩ := getElem?_set_cases hfound
      · rw [← Bool.not_eq_true]
        intro hboth
        rw [h.writes_eq_false hconnection hstore hold hne hplace hfile hboth] at hwrites
        cases hwrites
      · apply h.exclusive hold hkept hne hplace hfile hwrites

theorem getElem?_concat_cases {connections : List Connection} {added found : Connection}
    {index : Nat} (h : (connections ++ [added])[index]? = some found) :
  connections[index]? = some found ∨ found = added
  := by
  rw [List.getElem?_append] at h
  split at h
  · left
    apply h
  · right
    apply List.mem_singleton.mp (List.mem_of_getElem? h)

/-- Opening a store keeps a session well locked. -/
theorem IsWellLocked.openStore (h : session.IsWellLocked) (database : String) :
  (session.openStore database).1.IsWellLocked
  := by
  rw [Session.openStore]
  split
  · apply h
  · split
    · exact ⟨h.guarded, h.exclusive⟩
    · constructor
      · intro connection hconnection
        rw [List.mem_append, List.mem_singleton] at hconnection
        obtain hold | rfl := hconnection
        · apply h.guarded connection hold
        · apply Store.isGuarded_of_transaction rfl
      · intro index number other connection hother hconnection hne hplace hfile hwrites
        obtain hold | rfl := getElem?_concat_cases hother
        · obtain hkept | rfl := getElem?_concat_cases hconnection
          · apply h.exclusive hold hkept hne hplace hfile hwrites
          · rfl
        · cases hwrites

/-- Each step keeps a session well locked. -/
theorem IsWellLocked.step (h : session.IsWellLocked) (step : SessionStep) :
  (session.step step).1.IsWellLocked
  := by
  cases step with
  | openStore database => apply h.openStore
  | use number action =>
    rw [Session.step]
    split
    · next connection hconnection =>
      have hclock : { session with clock := action.clockAfter session.clock }.IsWellLocked :=
        ⟨h.guarded, h.exclusive⟩
      apply hclock.withStore hconnection
      apply Store.guards_run (h.isGuarded_storeOf hconnection)
    · apply h

/-- All steps keep a session well locked. -/
theorem IsWellLocked.run (h : session.IsWellLocked) (steps : List SessionStep) :
  (session.run steps).IsWellLocked
  := by
  induction steps generalizing session with
  | nil => apply h
  | cons step steps ih => apply ih (h.step step)

end

end Session

end ContractLint
