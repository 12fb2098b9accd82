import FilterQuery.Lexer
import FilterQuery.Parser.Basic
import FilterQuery.Text.Blank

namespace FilterQuery

-- The query that a text holds; `none` for an empty one.
def parse (text : String) (context : Option Context := none) (config : Option Config := none) :
    Except ParseError (Option Expr) := do
  let tokens ← tokenize text
  (Parser.ofTokens { context, config } tokens).parse.1

-- Whether a filter lets everything through: none, a blank one, or the word `true` in any case.
def includesAll : Option String → Bool
  | none => true
  | some text =>
    let word := Text.trimChars text.toList
    word.isEmpty || word.map Char.toLower == ['t', 'r', 'u', 'e']

end FilterQuery
