import Mathlib.Tactic.Use
import ContractLint.History.Store

/-!
# Transactions of a store

What an operation on a store can do beside other stores on the same file.  An operation that fails
leaves the database as it was, and may leave a transaction behind: `Saving` and `Initialising` say
which.

A store that has its file to itself is simpler: all that matters is the table that is committed,
and after each operation nothing waits to be committed.
-/

namespace ContractLint.Store

/-! ### What is not committed -/

/-- The table with the rows that are not committed, if there are any. -/
def uncommitted? (store : Store) : Option Table :=
  store.transaction.bind (·.changed)

theorem visible_eq (store : Store) :
  store.visible = (store.uncommitted?.map Database.table).getD store.database
  := by
  rw [visible, ← uncommitted?]
  cases store.uncommitted? <;> rfl

/-- A store goes on with its transaction, or with a new one, and sees what it saw. -/
structure Keeps (rivals : Rivals) (before after : Store) : Prop where
  /-- The database is the same. -/
  database : after.database = before.database
  /-- The store is as open as before. -/
  isOpen : after.isOpen = before.isOpen
  /-- The rows that wait to be committed are the same. -/
  uncommitted : after.uncommitted? = before.uncommitted?
  /-- Others that were kept from writing still are. -/
  stillWrites : before.lock.writes = true → after.lock.writes = true
  /-- Others are kept from writing only if no other writes. -/
  mayWrite : after.lock.writes = true → before.lock.writes = true ∨ rivals.writing = false

namespace Keeps

variable {rivals : Rivals} {a b c : Store}

theorem refl (rivals : Rivals) (store : Store) : Keeps rivals store store :=
  ⟨rfl, rfl, rfl, id, .inl⟩

theorem trans (hab : Keeps rivals a b) (hbc : Keeps rivals b c) :
  Keeps rivals a c
  where
  database := hbc.database.trans hab.database
  isOpen := hbc.isOpen.trans hab.isOpen
  uncommitted := hbc.uncommitted.trans hab.uncommitted
  stillWrites := hbc.stillWrites ∘ hab.stillWrites
  mayWrite := by
    intro hwrites
    obtain hwrites | hfree := hbc.mayWrite hwrites
    · apply hab.mayWrite hwrites
    · right
      apply hfree

theorem visible (h : Keeps rivals a b) : b.visible = a.visible := by
  rw [visible_eq, visible_eq, h.uncommitted, h.database]

end Keeps

/-! ### Parts of operations -/

section
variable (rivals : Rivals) (store : Store)

theorem keeps_seen (seen : Option Bool) : Keeps rivals store { store with seen } :=
  ⟨rfl, rfl, rfl, id, .inl⟩

/-- Looking for the table changes nothing but what was seen. -/
theorem keeps_prepare : Keeps rivals store (store.prepare rivals).1 := by
  rw [prepare]
  split
  · split
    · apply Keeps.refl
    · apply keeps_seen
    · split
      · split <;> apply Keeps.refl
      · apply keeps_seen
  · apply Keeps.refl

/-- The table that a store works on is the one that it sees. -/
theorem visible_of_prepare {table : Table} (h : (store.prepare rivals).2 = .ok table) :
  store.isOpen = true ∧ store.visible = .table table
  := by
  rw [prepare] at h
  split at h
  · next hopen =>
    use hopen
    split at h
    · cases h
    · cases h
    · next held hheld =>
      rw [hheld]
      split at h
      · split at h <;> cases h
        rfl
      · cases h
        rfl
  · cases h

theorem keeps_begin : Keeps rivals store store.begin := by
  obtain ⟨database, isOpen, seen, transaction⟩ := store
  cases transaction <;> exact ⟨rfl, rfl, rfl, id, .inl⟩

/-- A stronger lock is taken if no other store writes. -/
theorem keeps_withLock (lock : Lock) (hlock : store.lock.writes = true → lock.writes = true)
    (hfree : lock.writes = true → store.lock.writes = true ∨ rivals.writing = false) :
  Keeps rivals store (store.withLock lock)
  := by
  obtain ⟨database, isOpen, seen, transaction⟩ := store
  cases transaction with
  | none => exact ⟨rfl, rfl, rfl, id, .inl⟩
  | some transaction => exact ⟨rfl, rfl, rfl, hlock, hfree⟩

end

/-! ### Storing an analysis -/

/-- What storing an analysis can do: nothing is inserted, or a row is inserted that waits to be
committed, or one that is committed. -/
inductive Saving (rivals : Rivals) (store : Store) (insert : Table → String → String → Table) :
    Store × Except StoreError Nat → Prop
  /-- No row is inserted. -/
  | refused {after : Store} (hkeeps : Keeps rivals store after) (error : StoreError) :
    Saving rivals store insert (after, .error error)
  /-- Others read, so that the new row waits to be committed. -/
  | waiting {after : Store} {table : Table} (hvisible : store.visible = .table table)
    (source name : String) (hdatabase : after.database = store.database)
    (hisOpen : after.isOpen = store.isOpen)
    (huncommitted : after.uncommitted? = some (insert table source name))
    (hlock : after.lock = .pending) (hreading : rivals.reading = true)
    (hfree : store.lock.writes = true ∨ rivals.writing = false) (error : StoreError) :
    Saving rivals store insert (after, .error error)
  /-- The new row is committed. -/
  | committed {after : Store} {table : Table} (hvisible : store.visible = .table table)
    (source name : String) (hdatabase : after.database = .table (insert table source name))
    (hisOpen : after.isOpen = store.isOpen) (htransaction : after.transaction = none) :
    Saving rivals store insert (after, .ok (insert table source name).lastId)

section
variable (rivals : Rivals) (store : Store)

/-- A store in a transaction keeps others from writing, if no other store does. -/
theorem exists_keeps_writes (hbegun : store.transaction ≠ none)
    (hfree : store.lock.writes = true ∨ rivals.writing = false) :
  ∃ after, (if store.lock.writes then store else store.withLock .reserved) = after
    ∧ Keeps rivals store after ∧ after.transaction ≠ none ∧ after.lock.writes = true
  := by
  by_cases hwrites : store.lock.writes = true
  · exact ⟨store, if_pos hwrites, Keeps.refl rivals store, hbegun, hwrites⟩
  · have hkeeps := store.keeps_withLock rivals .reserved (fun _ => rfl) fun _ => hfree
    refine ⟨store.withLock .reserved, if_neg hwrites, hkeeps, ?_⟩
    obtain ⟨database, isOpen, seen, transaction⟩ := store
    cases transaction with
    | none => cases hbegun rfl
    | some transaction => exact ⟨Option.some_ne_none _, rfl⟩

/-- Inserting a row in a transaction is refused, or leaves the new row to be committed. -/
theorem insert_cases (hbegun : store.transaction ≠ none) (table : Table) (source : Option String)
    (results name createdAt : String) :
  (∃ after fault, store.insert rivals table source results name createdAt = (after, .error fault)
    ∧ Keeps rivals store after)
  ∨ ∃ after stored, store.insert rivals table source results name createdAt
      = (after.withTable (table.insert stored results name createdAt),
        .ok (table.insert stored results name createdAt))
    ∧ Keeps rivals store after ∧ after.transaction ≠ none ∧ after.lock.writes = true
  := by
  rw [insert]
  by_cases hlocked : (!store.lock.writes && rivals.writing) = true
  · left
    exact ⟨store, .locked, if_pos hlocked, Keeps.refl rivals store⟩
  · rw [if_neg hlocked]
    rw [Bool.not_eq_true, Bool.and_eq_false_iff, Bool.not_eq_false'] at hlocked
    obtain ⟨after, hafter, hkeeps, hbegun, hwrites⟩ :=
      store.exists_keeps_writes rivals hbegun hlocked
    simp only [hafter]
    cases source with
    | none =>
      left
      exact ⟨after, .missingSource, rfl, hkeeps⟩
    | some stored =>
      right
      exact ⟨after, stored, rfl, hkeeps, hbegun, hwrites⟩

theorem withTable_spec (hbegun : store.transaction ≠ none) (table : Table) :
  (store.withTable table).uncommitted? = some table
  ∧ (store.withTable table).lock = store.lock
  := by
  obtain ⟨database, isOpen, seen, transaction⟩ := store
  cases transaction with
  | none => cases hbegun rfl
  | some transaction => exact ⟨rfl, rfl⟩

/-- Storing an analysis does one of three things. -/
theorem saving_save (source : SourceText) (results : String) (user : RawText) (createdAt : String) :
  Saving rivals store (fun table source name => table.insert source results name createdAt)
    (store.save rivals source results user createdAt)
  := by
  have hkeeps := store.keeps_prepare rivals
  rw [save]
  rcases hprepare : store.prepare rivals with ⟨prepared, result⟩
  rw [hprepare] at hkeeps
  cases result with
  | error fault => apply Saving.refused hkeeps
  | ok table =>
    have hbegun := hkeeps.trans (prepared.keeps_begin rivals)
    obtain ⟨-, hvisible⟩ := store.visible_of_prepare rivals (congrArg Prod.snd hprepare)
    simp only
    cases source.bind user with
    | error error => apply Saving.refused hbegun
    | ok stored =>
      cases user.encode with
      | error message => apply Saving.refused hbegun
      | ok name =>
        simp only
        obtain ⟨after, fault, hinsert, hafter⟩ | ⟨after, stored, hinsert, hafter, hsome, hwrites⟩ :=
          prepared.begin.insert_cases rivals (Option.some_ne_none _) table stored results name
            createdAt
        · rw [hinsert]
          apply Saving.refused (hbegun.trans hafter)
        · have hkept := hbegun.trans hafter
          obtain ⟨huncommitted, hlock⟩ :=
            after.withTable_spec hsome (table.insert stored results name createdAt)
          rw [hinsert]
          simp only [commit, hlock, hwrites, Bool.true_and]
          by_cases hreading : rivals.reading = true
          · -- the transaction stays open with the new row
            rw [if_pos hreading]
            obtain ⟨database, isOpen, seen, transaction⟩ := after
            cases transaction with
            | none => cases hsome rfl
            | some transaction =>
              refine .waiting hvisible stored name ?_ ?_ rfl rfl hreading ?_ _
              · apply hkept.database
              · apply hkept.isOpen
              · apply hkept.mayWrite hwrites
          · rw [if_neg hreading]
            refine .committed hvisible stored name ?_ hkept.isOpen rfl
            rw [visible_eq, huncommitted]
            rfl

end

/-! ### Listing a history -/

/-- Listing a history changes nothing that a store sees. -/
theorem keeps_history (rivals : Rivals) (store : Store) (user : RawText) :
  Keeps rivals store (store.history rivals user).1
  := by
  have hkeeps := store.keeps_prepare rivals
  rw [history]
  rcases hprepare : store.prepare rivals with ⟨prepared, result⟩
  rw [hprepare] at hkeeps
  cases result with
  | error fault => apply hkeeps
  | ok table =>
    simp only
    cases user.encode with
    | error message => apply hkeeps
    | ok name =>
      simp only
      split
      · apply hkeeps
      · simp only
        split
        · apply hkeeps
        · next hreads =>
          apply hkeeps.trans
          apply keeps_withLock
          · intro hwrites
            cases hlock : prepared.lock <;> simp [hlock, Lock.reads, Lock.writes] at hreads hwrites
          · rintro ⟨⟩

/-! ### Making the table -/

/-- What making the table can do. -/
inductive Initialising (rivals : Rivals) (store : Store) : Store × Except StoreError Unit → Prop
  /-- The store is closed, or others read so that rows still wait to be committed. -/
  | refused {after : Store} (hkeeps : Keeps rivals store after) (fault : StoreFault) :
    Initialising rivals store (after, .error (.cannotInitialise fault))
  /-- What waited is committed, but the table cannot be made. -/
  | unmade {after : Store} (hdatabase : after.database = store.visible)
    (hisOpen : after.isOpen = store.isOpen) (htransaction : after.transaction = none)
    (hother : store.visible = .foreign ∨ rivals.waiting = true ∨ rivals.writing = true)
    (fault : StoreFault) :
    Initialising rivals store (after, .error (.cannotInitialise fault))
  /-- There is a table now. -/
  | made {after : Store} (hvisible : store.visible ≠ .foreign)
    (hdatabase : after.database = if store.visible = .empty then .table {} else store.visible)
    (hisOpen : after.isOpen = store.isOpen) (htransaction : after.transaction = none) :
    Initialising rivals store (after, .ok ())

/-- Making the table does one of three things. -/
theorem initialising_initialise (rivals : Rivals) (store : Store) :
  Initialising rivals store (store.initialise rivals)
  := by
  rw [initialise]
  split
  · rw [commit]
    by_cases hlocked : (store.lock.writes && rivals.reading) = true
    · rw [if_pos hlocked]
      apply Initialising.refused
      apply keeps_withLock
      · intro _
        rfl
      · intro _
        left
        apply ((Bool.and_eq_true _ _).mp hlocked).1
    · rw [if_neg hlocked]
      simp only
      split
      · next hforeign => 
        refine .unmade ?_ ?_ ?_ (.inl hforeign) _ <;> rfl
      · next hforeign =>
        split
        · next hother =>
          rw [Bool.or_eq_true] at hother
          refine .unmade ?_ ?_ ?_ (.inr (hother.imp_right ?_)) _
          · rfl
          · rfl
          · rfl
          · intro hboth
            apply ((Bool.and_eq_true _ _).mp hboth).2
        · refine .made hforeign ?_ ?_ ?_ <;> rfl
  · apply Initialising.refused (Keeps.refl rivals store)

end ContractLint.Store
