import ContractLint.Finding.Wire
import ContractLint.Json.Printer
import ContractLint.Json.Reader

/-!
# The history table

A history table holds one row per stored analysis, with the findings as a JSON text.  It counts the
rows that were ever stored, and a new row gets the next number.  `Table.history` lists the rows of
one user, the newest first, and reads their findings back.
-/

namespace ContractLint

/-- A stored analysis. -/
structure Row where
  /-- The number of the row. -/
  id : Nat
  /-- The text that was analysed. -/
  source : String
  /-- The JSON text of its findings. -/
  results : String
  /-- The user the analysis belongs to. -/
  user : String
  /-- When the analysis was stored. -/
  createdAt : String
  deriving DecidableEq

/-- A stored analysis as it is listed. -/
structure Record where
  /-- The number of the row. -/
  id : Nat
  /-- The text that was analysed. -/
  source : String
  /-- Its findings. -/
  findings : List Finding
  /-- The user the analysis belongs to. -/
  user : String
  /-- When the analysis was stored. -/
  createdAt : String
  deriving DecidableEq

/-- The wire form of a record, which leaves the user out. -/
def Record.toJson (record : Record) : Json :=
  .object [("id", .nat record.id), ("sourceCode", .string record.source),
    ("results", .array (record.findings.map Finding.toJson)),
    ("createdAt", .string record.createdAt)]

/-- Why the findings of a row cannot be read. -/
inductive RecordError where
  /-- The text is no JSON array. -/
  | malformed
  /-- One of the values is no finding. -/
  | finding (error : WireError)

/-- The text of an error. -/
def RecordError.message : RecordError → String
  | .malformed => "The stored results are not a JSON array"
  | .finding error => error.message

/-- The JSON text under which wire forms of findings are stored. -/
def resultsText {σ : Type} [RawString σ] (results : List (Json σ)) : String :=
  Json.render .line (.array results)

/-- The rows of a history, in the order in which they were stored. -/
structure Table where
  /-- The rows. -/
  rows : List Row := []
  /-- The number of the last row that was stored. -/
  lastId : Nat := 0
  deriving DecidableEq

namespace Table

/-- The table with one more row. -/
def insert (table : Table) (source results user createdAt : String) : Table where
  rows := table.rows ++ [⟨table.lastId + 1, source, results, user, createdAt⟩]
  lastId := table.lastId + 1

/-- Whether one row is listed before another: a later time first, and then a larger number. -/
def listedBefore (a b : Row) : Bool :=
  decide (b.createdAt < a.createdAt) || (a.createdAt == b.createdAt && decide (b.id ≤ a.id))

/-- The rows of a user, in the order in which they are listed. -/
def rowsOf (table : Table) (user : String) : List Row :=
  (table.rows.filter (·.user == user)).mergeSort listedBefore

/-- The findings that a JSON text holds. -/
def findingsOf (results : String) : Except RecordError (List Finding) :=
  match Json.parse? results.toList with
  | some (.array values) => (Finding.ofJsonList values).mapError .finding
  | _ => .error .malformed

/-- The record of a row, if its findings can be read. -/
def recordOf (row : Row) : Except RecordError Record :=
  match findingsOf row.results with
  | .ok findings => .ok ⟨row.id, row.source, findings, row.user, row.createdAt⟩
  | .error error => .error error

/-- The records of rows; the first row that cannot be read decides the error. -/
def recordsOf : List Row → Except RecordError (List Record)
  | [] => .ok []
  | row :: rest => do
    let record ← recordOf row
    let records ← recordsOf rest
    return record :: records

/-- The records of a user, the newest first. -/
def history (table : Table) (user : String) : Except RecordError (List Record) :=
  recordsOf (table.rowsOf user)

end Table

end ContractLint
