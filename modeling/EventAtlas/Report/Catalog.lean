import EventAtlas.Api.Index
import EventAtlas.Text.Field

/-!
# The endpoint catalog

A flat table of the distinct endpoints of all indexed classes, in increasing order.
-/

namespace EventAtlas.Report

/-- The distinct endpoints of all indexed classes. -/
def catalogEndpoints (index : ApiIndex) : NameSet :=
  .ofList (index.values.flatMap (·.endpoints.names))

/-- The lines before the rows of the catalog. -/
def catalogHeader : List String :=
  ["# Mollie Magento 2: Auto-Generated API Calls",
    "",
    "Generated automatically from the Mollie Magento 2 plugin source.",
    "",
    "| Endpoint |",
    "|-----------|"]

/-- The row of an endpoint. -/
def catalogRow (endpoint : String) : String :=
  "| `" ++ endpoint ++ "` |"

/-- The row of a catalog without endpoints. -/
def emptyCatalogRow : String :=
  "| _No endpoints found (check module path or patterns)_ |"

/-- The rows of the catalog. -/
def catalogRows (index : ApiIndex) : List String :=
  match (catalogEndpoints index).sorted with
  | [] => [emptyCatalogRow]
  | endpoints => endpoints.map catalogRow

/-- The text of the catalog. -/
def catalog (index : ApiIndex) : String :=
  Text.join "\n" (catalogHeader ++ catalogRows index) ++ "\n"

end EventAtlas.Report
