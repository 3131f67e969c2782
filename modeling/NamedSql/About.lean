/-!
What the program is called and which version of it this is.
-/
namespace NamedSql.About

/-- The name as it is shown. -/
def title : String := "SqlGate"

/-- The name as it is typed. -/
def command : String := "sqlgate"

/-- The version of the program. -/
def version : String := "0.1.0"

end NamedSql.About
