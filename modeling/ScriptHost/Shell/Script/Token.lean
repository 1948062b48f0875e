import ScriptHost.Shell.Script

/-!
# Tokens of shell scripts

What the grammar of scripts is about: words, keywords, operators, redirections and line
ends; and what can be wrong with a script.

## Main definitions

* `Token` — a token, and `Token.description` for messages.
* `SyntaxProblem.message` — the words for what is wrong.
-/

namespace ScriptHost.Shell

/-- The keywords. -/
inductive Keyword where
  | negation
  | caseWord
  | doWord
  | doneWord
  | elifWord
  | elseWord
  | esacWord
  | fiWord
  | forWord
  | ifWord
  | inWord
  | thenWord
  | untilWord
  | whileWord
  | openBrace
  | closeBrace
  deriving DecidableEq, Repr

namespace Keyword

/-- The keywords and how they are written. -/
def table : List (Keyword × String) := [
  (.negation, "!"), (.caseWord, "case"), (.doWord, "do"), (.doneWord, "done"),
  (.elifWord, "elif"), (.elseWord, "else"), (.esacWord, "esac"), (.fiWord, "fi"),
  (.forWord, "for"), (.ifWord, "if"), (.inWord, "in"), (.thenWord, "then"),
  (.untilWord, "until"), (.whileWord, "while"), (.openBrace, "\x7b"), (.closeBrace, "\x7d")]

/-- How a keyword is written. -/
def text (k : Keyword) : String :=
  (table.lookup k).getD ""

/-- The keyword that is written so. -/
def ofText? (s : String) : Option Keyword :=
  (table.find? fun entry => entry.2 = s).map (·.1)

/-- A keyword that ends the list of commands before it. -/
def isCloser : Keyword → Bool
  | .doWord | .doneWord | .elifWord | .elseWord | .esacWord | .fiWord | .thenWord
  | .closeBrace => true
  | _ => false

end Keyword

/-- The operator of a redirection. -/
inductive RedirectOperator where
  | file (use : FileUse)
  | duplicate
  /-- A text of the script, without the tabs at the start of its lines if told so. -/
  | document (dropTabs : Bool)
  deriving DecidableEq, Repr

/-- A token. -/
inductive Token where
  | endOfInput
  | lineEnd
  | semicolon
  | ampersand
  | andAnd
  | orOr
  | pipe
  | openParen
  | closeParen
  | armEnd
  | redirect (stream : Nat) (operator : RedirectOperator)
  | keyword (k : Keyword)
  | word (w : Word)

namespace Token

/-- What a message calls a token. -/
def description : Token → String
  | .endOfInput => "end of file"
  | .lineEnd => "newline"
  | .semicolon => "\";\""
  | .ampersand => "\"&\""
  | .andAnd => "\"&&\""
  | .orOr => "\"||\""
  | .pipe => "\"|\""
  | .openParen => "\"(\""
  | .closeParen => "\")\""
  | .armEnd => "\";;\""
  | .redirect .. => "redirection"
  | .keyword k => "\"" ++ k.text ++ "\""
  | .word _ => "word"

/-- A token that ends the list of commands before it. -/
def isCloser : Token → Bool
  | .endOfInput | .closeParen | .armEnd => true
  | .keyword k => k.isCloser
  | _ => false

end Token

/-- What is wrong with a script. -/
inductive SyntaxProblem where
  | unexpected (found : String) (expected : Option String)
  | openQuote
  | openBraces
  | openArithmetic
  | openBackquotes
  | loopVariable
  | functionName
  | streamNumber

namespace SyntaxProblem

/-- The words for what is wrong. -/
def message : SyntaxProblem → String
  | .unexpected found none => found ++ " unexpected"
  | .unexpected found (some expected) => found ++ " unexpected (expecting " ++ expected ++ ")"
  | .openQuote => "Unterminated quoted string"
  | .openBraces => "Missing '\x7d'"
  | .openArithmetic => "Missing '))'"
  | .openBackquotes => "EOF in backquote substitution"
  | .loopVariable => "Bad for loop variable"
  | .functionName => "Bad function name"
  | .streamNumber => "Bad fd number"

end SyntaxProblem

/-- A problem and the line where it was noticed. -/
structure SyntaxError where
  line : Nat
  problem : SyntaxProblem

/-- The words for an error in a script. -/
def SyntaxError.message (e : SyntaxError) : String :=
  "Syntax error: " ++ e.problem.message

end ScriptHost.Shell
