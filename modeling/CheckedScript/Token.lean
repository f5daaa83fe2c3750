/-!
# Tokens

A token is a lexeme together with its kind, the place where it starts and, for
number and text literals, the constant it denotes.  Kinds are punctuation,
reserved words, the three open classes, and the two markers for the end of the
input and for a lexeme that belongs to no class.
-/

namespace CheckedScript

/-- Punctuation and operators. -/
inductive Symbol where
  | leftParen
  | rightParen
  | leftBrace
  | rightBrace
  | comma
  | colon
  | semicolon
  | dotDot
  | minus
  | plus
  | slash
  | star
  | bang
  | bangEqual
  | equal
  | equalEqual
  | greater
  | greaterEqual
  | less
  | lessEqual
  deriving DecidableEq, Repr

namespace Symbol

/-- How a symbol is written. -/
def spelling : Symbol → String
  | leftParen => "("
  | rightParen => ")"
  | leftBrace => "\x7b"
  | rightBrace => "\x7d"
  | comma => ","
  | colon => ":"
  | semicolon => ";"
  | dotDot => ".."
  | minus => "-"
  | plus => "+"
  | slash => "/"
  | star => "*"
  | bang => "!"
  | bangEqual => "!="
  | equal => "="
  | equalEqual => "=="
  | greater => ">"
  | greaterEqual => ">="
  | less => "<"
  | lessEqual => "<="

end Symbol

/-- Reserved words. -/
inductive Keyword where
  | andWord
  | orWord
  | trueWord
  | falseWord
  | letWord
  | funWord
  | returnWord
  | ifWord
  | elseWord
  | whileWord
  | forWord
  | inWord
  | numberWord
  | textWord
  | boolWord
  deriving DecidableEq, Repr

namespace Keyword

/-- How a reserved word is written. -/
def spelling : Keyword → String
  | andWord => "and"
  | orWord => "or"
  | trueWord => "true"
  | falseWord => "false"
  | letWord => "let"
  | funWord => "fun"
  | returnWord => "return"
  | ifWord => "if"
  | elseWord => "else"
  | whileWord => "while"
  | forWord => "for"
  | inWord => "in"
  | numberWord => "number"
  | textWord => "text"
  | boolWord => "bool"

/-- Every reserved word. -/
def all : List Keyword :=
  [andWord, orWord, trueWord, falseWord, letWord, funWord, returnWord, ifWord,
    elseWord, whileWord, forWord, inWord, numberWord, textWord, boolWord]

theorem mem_all (keyword : Keyword) : keyword ∈ all := by
  cases keyword <;> decide

/-- The reserved word with a given spelling. -/
def ofSpelling? (word : String) : Option Keyword :=
  all.find? fun keyword => keyword.spelling == word

end Keyword

/-- The class a lexeme belongs to. -/
inductive Kind where
  | symbol (mark : Symbol)
  | keyword (word : Keyword)
  | number
  | text
  | identifier
  | endOfInput
  | unknown
  deriving DecidableEq, Repr

namespace Kind

/-- How a kind is named in messages. -/
def name : Kind → String
  | symbol mark => mark.spelling
  | keyword word => word.spelling
  | number => "number literal"
  | text => "string literal"
  | identifier => "identifier"
  | endOfInput => "end of file"
  | unknown => "unknown"

/-- Kinds that begin a statement or close a block; reading resumes at them
after a fault. -/
def startsStatement : Kind → Bool
  | keyword .letWord | keyword .funWord | keyword .ifWord | keyword .whileWord
  | keyword .forWord | keyword .returnWord => true
  | symbol .leftBrace | symbol .rightBrace => true
  | _ => false

end Kind

/-- A place in a source text: lines and clusters within the line, from zero. -/
structure Position where
  line : Int
  column : Int
  deriving DecidableEq, Repr

namespace Position

/-- The start of a text. -/
def origin : Position where
  line := 0
  column := 0

/-- Places are shown counting from one. -/
def text (position : Position) : String :=
  toString (position.line + 1) ++ ":" ++ toString (position.column + 1)

end Position

/-- The constant that a literal token carries. -/
inductive Payload where
  | number (value : Float)
  | text (value : String)

/-- A lexeme with its kind, place and payload. -/
structure Token where
  kind : Kind
  lexeme : String
  position : Position
  payload : Option Payload := none

/-- Tokens, and the end marker behind them. -/
structure TokenStream where
  body : List Token
  last : Token

namespace TokenStream

/-- All tokens of a stream, the end marker included. -/
def toList (stream : TokenStream) : List Token :=
  stream.body ++ [stream.last]

/-- View a token sequence as a stream.  The sequence has to end with an end
marker; it may hold others before that one. -/
def ofList? (tokens : List Token) : Option TokenStream :=
  match tokens.getLast? with
  | none => none
  | some last =>
      if last.kind = .endOfInput then
        some { body := tokens.dropLast, last := last }
      else
        none

end TokenStream

end CheckedScript
