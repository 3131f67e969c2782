import NamedSql.Json.Draft.Field
import NamedSql.Operation
/-!
Operations as configuration writes them. Every field has a default, so the least configuration of
an operation is an empty object. The name is no field: it is the key that the configuration stands
under.
-/
namespace NamedSql.Operation

/-- The fields of a configured operation, in the order of a list of their values. -/
def configFields : List Json.Draft.Field :=
  [⟨"kind", []⟩, ⟨"sql", []⟩, ⟨"limit", []⟩, ⟨"builtin_filtering", ["builtinFiltering"]⟩,
    ⟨"filtering_columns", ["filteringColumns"]⟩, ⟨"comparison_binding", ["comparisonBinding"]⟩,
    ⟨"merge_policy", ["mergePolicy"]⟩]

/-- The kinds of operations by name. -/
def kinds : List (String × Kind) := [Kind.queryAll, .execute].map fun kind => (kind.name, kind)

/-- The bindings of comparisons by name. -/
def bindings : List (String × Filter.Binding) :=
  [Filter.Binding.exact, .legacyWildcard].map fun binding => (binding.name, binding)

/-- The merge policies by name. -/
def policies : List (String × MergePolicy) :=
  [MergePolicy.reject, .overwrite].map fun policy => (policy.name, policy)

/-- Reads a configured operation, still without its name. -/
def ofDraft? (d : Json.Draft) : Option Operation := do
  let found ← d.fields? configFields false
  let fallback := listing "" ""
  let kind ← Json.Draft.valueOf? found "kind" fallback.kind (Json.Draft.choice? kinds)
  let sql ← Json.Draft.valueOf? found "sql" fallback.sql Json.Draft.text?
  let limit ← Json.Draft.valueOf? found "limit" fallback.limit.toInt
    (Json.Draft.int? Int64.minValue.toInt Int64.maxValue.toInt)
  let filtering ← Json.Draft.valueOf? found "builtin_filtering" fallback.filtering
    Json.Draft.bool?
  let columns ← Json.Draft.valueOf? found "filtering_columns" fallback.columns
    Json.Draft.texts?
  let binding ← Json.Draft.valueOf? found "comparison_binding" fallback.binding
    (Json.Draft.choice? bindings)
  let policy ← Json.Draft.valueOf? found "merge_policy" fallback.policy
    (Json.Draft.choice? policies)
  return ⟨"", kind, sql, Int64.ofInt limit, filtering, columns, binding, policy⟩

end NamedSql.Operation
