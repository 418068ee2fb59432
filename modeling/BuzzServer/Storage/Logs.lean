/-
This file models the log table of the store: appending an entry, and reading
the entries of an agent from a cursor on.

Rows are numbered in the order in which they are appended and keep their numbers.
An agent has no two rows of one cursor; a second one is dropped without an error.
Reading gives the rows that follow the one of the cursor, or all of them if there
is no such row, as many as the limit allows. Nothing bounds how long a message is.
-/

import BuzzServer.Handler

namespace BuzzServer

/-! ### The table -/

structure AgentLogRow where
  sequence : Nat
  agentId : AgentId
  entry : RedactedLogEntry

/-- The rows in the order of their numbers, the highest number given so far, and the key of
agent and cursor. -/
structure AgentLogTable where
  rows : List AgentLogRow
  lastSequence : Nat
  increasing : rows.Pairwise fun first second => first.sequence < second.sequence
  numbered : ∀ row ∈ rows, 0 < row.sequence ∧ row.sequence ≤ lastSequence
  distinct : rows.Pairwise fun first second =>
    first.agentId ≠ second.agentId ∨ first.entry.cursor ≠ second.entry.cursor

namespace AgentLogTable

def empty : AgentLogTable where
  rows := []
  lastSequence := 0
  increasing := .nil
  numbered := by simp
  distinct := .nil

/-- The row of an agent and a cursor. -/
def find (table : AgentLogTable) (agentId : AgentId) (cursor : String) : Option AgentLogRow :=
  table.rows.find? fun row => row.agentId == agentId && row.entry.cursor == cursor

theorem find_eq_none {table : AgentLogTable} {agentId : AgentId} {cursor : String}
    (absent : table.find agentId cursor = none) {row : AgentLogRow} (member : row ∈ table.rows) :
    row.agentId ≠ agentId ∨ row.entry.cursor ≠ cursor := by
  have other := List.find?_eq_none.mp absent row member
  simp only [Bool.and_eq_true, beq_iff_eq] at other
  exact not_and_or.mp other

/-- `INSERT OR IGNORE INTO agent_logs`. -/
def insertOrIgnore (table : AgentLogTable) (agentId : AgentId) (entry : RedactedLogEntry) :
    AgentLogTable :=
  if absent : table.find agentId entry.cursor = none then
    { rows := table.rows ++ [⟨table.lastSequence + 1, agentId, entry⟩]
      lastSequence := table.lastSequence + 1
      increasing := by
        refine List.pairwise_append.mpr ⟨table.increasing, List.pairwise_singleton _ _, ?_⟩
        intro row member added isAdded
        cases List.mem_singleton.mp isAdded
        exact Nat.lt_succ_of_le (table.numbered row member).2
      numbered := by
        intro row member
        rcases List.mem_append.mp member with earlier | isAdded
        · have bounds := table.numbered row earlier
          exact ⟨bounds.1, Nat.le_succ_of_le bounds.2⟩
        · cases List.mem_singleton.mp isAdded
          exact ⟨Nat.succ_pos _, Nat.le_refl _⟩
      distinct := by
        refine List.pairwise_append.mpr ⟨table.distinct, List.pairwise_singleton _ _, ?_⟩
        intro row member added isAdded
        cases List.mem_singleton.mp isAdded
        exact find_eq_none absent member }
  else table

end AgentLogTable

/-! ### The store -/

/-- The tables that reading logs looks into. -/
structure LogStore where
  database : Database
  logs : AgentLogTable

namespace LogStore

variable (agentId : AgentId)

def appendRedactedLog (entry : RedactedLogEntry) (store : LogStore) :
    Except StorageError LogStore :=
  if containsSecretMarker entry.redactedMessage then
    .error (.invalidData "log entry contains a credential-like marker")
  else if (store.database.agentSpecs.lookup agentId).isNone then .error constraintViolation
  else .ok { store with logs := store.logs.insertOrIgnore agentId entry }

variable (afterCursor : Option String)

/-- The number from which on rows are read: that of the row of the cursor. -/
def startOf (store : LogStore) : Nat :=
  match afterCursor with
  | none => 0
  | some cursor => ((store.logs.find agentId cursor).map AgentLogRow.sequence).getD 0

def agentLogs (limit : Nat) (store : LogStore) : List RedactedLogEntry :=
  ((store.logs.rows.filter fun row =>
      row.agentId == agentId && decide (store.startOf agentId afterCursor < row.sequence)).map
    AgentLogRow.entry).take limit

end LogStore

/-! ### The application -/

namespace Application

def existingCommunity (agentId : AgentId) (store : LogStore) :
    Except ApplicationError CommunityConfigId :=
  match store.database.agentSpecs.lookup agentId with
  | some agent => .ok agent.communityConfigId
  | none => .error .notFound

def agentLogs (request : AgentLogsRequest) (store : LogStore) :
    Except ApplicationError AgentLogsResource := do
  let _ ← existingCommunity request.agentId store
  let entries := store.agentLogs request.agentId request.afterCursor request.limit
  return ⟨entries, entries.getLast?.map RedactedLogEntry.cursor⟩

end Application

/-- An application whose logs are read from the store that is part of its state. -/
def LifecycleApplication.overLogs {State : Type} (application : LifecycleApplication State)
    (store : State → LogStore) : LifecycleApplication State :=
  { application with
    agentLogs := fun request state => (Application.agentLogs request (store state), state) }

end BuzzServer
