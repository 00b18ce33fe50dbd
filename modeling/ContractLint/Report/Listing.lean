import ContractLint.Console.Grid
import ContractLint.Console.Screen
import ContractLint.History.Table
import ContractLint.Rule.Catalogue
import ContractLint.Text.Names

/-!
# Listings

The catalogue of rules and the history of a user as tables on the console.
-/

namespace ContractLint

open Console

/-- The table of some rules, numbered from one. -/
def Rule.grid (rules : List Rule) : Grid where
  title := some "Rule Catalog".toList
  columns :=
    [{ header := "#".toList, alignment := .right }, { header := "Rule".toList, noWrap := true },
      { header := "Severity".toList, width := some 8 }, { header := "Message".toList }]
  rows := rules.zipIdx.map fun (rule, index) =>
    [Text.ofInt (index + 1), rule.id.toList, rule.severity.label.toList, rule.message.toList]

/-- The table of some rules on a console of some width. -/
def Rule.screen (width : Nat) (rules : List Rule) : Screen :=
  .ofBlocks [.ok ((Rule.grid rules).lines width)]

namespace Record

/-- The identifiers of the rules that reported something, each once and in order. -/
def ruleIds (record : Record) : List String :=
  sortedNames (record.findings.map (·.ruleId))

/-- The row of a record, whose texts may hold markup. -/
def row (record : Record) : Except Markup.TagError (List Text) := do
  let createdAt ← Markup.render record.createdAt.toList
  let rules ← Markup.render (List.intercalate ", ".toList (record.ruleIds.map String.toList))
  return [Text.ofInt record.id, createdAt, Text.ofInt record.findings.length, rules]

/-- The table of the history of a user, whose name may hold markup. -/
def grid (user : String) (records : List Record) : Except Markup.TagError Grid := do
  let rows ← records.mapM row
  let title ← Markup.render ("History for ".toList ++ user.toList)
  return {
    title
    columns :=
      [{ header := "ID".toList, alignment := .right }, { header := "Created".toList },
        { header := "Findings".toList, alignment := .right },
        { header := "Rules".toList, noWrap := true }]
    rows }

/-- The history of a user on a console of some width. -/
def screen (width : Nat) (user : String) (records : List Record) : Screen :=
  if records.isEmpty then ⟨["No analyses recorded.".toList], none⟩
  else .ofBlocks [(grid user records).map (·.lines width)]

end Record

end ContractLint
