import SqlDialects.Dialect.Style

/-!
# Aliases

The alias that a style writes has to be the alias that the same style recognises.
-/

set_option autoImplicit false

namespace SqlDialects

namespace QueryStyle

/-- The expression with an alias. -/
def withAlias (style : QueryStyle) (expression name : String) : Except SqlError String :=
  (style.wrap name).map fun wrapped => expression ++ style.aliasJoin ++ wrapped

/-- Names that are easily read wrongly: words that look like syntax, and closing marks. -/
def awkwardNames (style : QueryStyle) : List String :=
  let mark := String.singleton style.quotes.closeMark
  ["bob", "Bob Smith", "col_1", "as", "Bob as Smith", "x AS y", "odd" ++ mark ++ "name", mark]

/-- Checks one name: its alias reads back as the name.  There is no answer if it cannot be read. -/
def checkAlias (style : QueryStyle) (name : String) : ExceptT SqlError Option Unit := do
  let written ← ExceptT.mk (some (style.withAlias "MAX(x)" name))
  let recovered ← style.runtimeName? written
  if recovered = name then pure ()
  else throw (.config (.aliasNotRecovered style.dialect name written recovered))

/-- Checks the awkward names. -/
def checkAliases (style : QueryStyle) : ExceptT SqlError Option Unit :=
  style.awkwardNames.forM style.checkAlias

end QueryStyle

end SqlDialects
