import ContractLint.History.Table

/-!
# Archived tables

A history table is kept in a file as a JSON text with one entry per row.  Reading gives back the
table that was written; a file that holds something else is no database.
-/

namespace ContractLint

/-- A row as a JSON value. -/
def Row.toJson (row : Row) : Json :=
  .object [("id", .nat row.id), ("source", .string row.source), ("results", .string row.results),
    ("user", .string row.user), ("createdAt", .string row.createdAt)]

/-- The row that a JSON value stands for. -/
def Row.ofJson? (value : Json) : Option Row :=
  match value.get? "id", value.get? "source", value.get? "results", value.get? "user",
      value.get? "createdAt" with
  | some (.number (.integer id)), some (.string source), some (.string results),
      some (.string user), some (.string createdAt) =>
    some ⟨id.toNat, source, results, user, createdAt⟩
  | _, _, _, _, _ => none

/-- A table as a JSON text. -/
def Table.archive (table : Table) : String :=
  Json.render .line (.object [("analysisResults", .array (table.rows.map Row.toJson)),
    ("lastId", .nat table.lastId)] : Json)

/-- The table that a text archives. -/
def Table.ofArchive? (text : Text) : Option Table := do
  let value ← Json.parse? text
  match value.get? "analysisResults", value.get? "lastId" with
  | some (.array rows), some (.number (.integer lastId)) =>
    return { rows := ← rows.mapM Row.ofJson?, lastId := lastId.toNat }
  | _, _ => none

end ContractLint
