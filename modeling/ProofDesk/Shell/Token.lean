import ProofDesk.Shell.Script

namespace ProofDesk.Shell

/-- The words that have a meaning of their own where a command is expected. -/
inductive Keyword where
  | not
  | opening
  | closing
  | ifWord
  | thenWord
  | elifWord
  | elseWord
  | fiWord
  | forWord
  | whileWord
  | untilWord
  | doWord
  | doneWord
  | caseWord
  | inWord
  | esacWord
deriving DecidableEq, Repr

namespace Keyword

def text : Keyword → Text
  | not => ['!']
  | opening => ['\x7b']
  | closing => ['\x7d']
  | ifWord => "if".toList
  | thenWord => "then".toList
  | elifWord => "elif".toList
  | elseWord => "else".toList
  | fiWord => "fi".toList
  | forWord => "for".toList
  | whileWord => "while".toList
  | untilWord => "until".toList
  | doWord => "do".toList
  | doneWord => "done".toList
  | caseWord => "case".toList
  | inWord => "in".toList
  | esacWord => "esac".toList

def all : List Keyword :=
  [not, opening, closing, ifWord, thenWord, elifWord, elseWord, fiWord, forWord, whileWord,
    untilWord, doWord, doneWord, caseWord, inWord, esacWord]

def ofText? (s : Text) : Option Keyword :=
  all.find? fun k => k.text == s

end Keyword

/-- The redirection that a sign asks for, before its target is read. -/
inductive RedirectionSign where
  | file (opening : Opening)
  | copy
  | document (dropsTabs : Bool)
deriving DecidableEq, Repr

inductive Token where
  | stop
  | newline
  | redirection (descriptor : Nat) (sign : RedirectionSign)
  | word (w : Word)
  | semicolon
  | ampersand
  | both
  | either
  | pipe
  | opening
  | closing
  | caseEnd
  | keyword (k : Keyword)

namespace Token

def describe : Token → Text
  | stop => "end of file".toList
  | newline => "newline".toList
  | redirection .. => "redirection".toList
  | word _ => "word".toList
  | semicolon => "\";\"".toList
  | ampersand => "\"&\"".toList
  | both => "\"&&\"".toList
  | either => "\"||\"".toList
  | pipe => "\"|\"".toList
  | opening => "\"(\"".toList
  | closing => "\")\"".toList
  | caseEnd => "\";;\"".toList
  | keyword k => '"' :: k.text ++ ['"']

def promote : Token → Token
  | word [.text s false] =>
    match Keyword.ofText? s with
    | some k => keyword k
    | none => word [.text s false]
  | t => t

def isKeyword (t : Token) (k : Keyword) : Bool :=
  match t with
  | keyword k' => k' == k
  | _ => false

def endsList : Token → Bool
  | stop | closing | caseEnd => true
  | keyword k => [.closing, .thenWord, .elifWord, .elseWord, .fiWord, .doWord, .doneWord,
      .esacWord].contains k
  | _ => false

end Token

/-- What is wrong with a script. -/
inductive Misreading where
  | openQuote
  | openBrace
  | openArithmetic
  | openBackquote
  | unexpected (found : Text) (wanted : Option Text)
  | badLoopVariable
  | badFunctionName
  | tooDeep
deriving DecidableEq, Repr

def Misreading.message (m : Misreading) : Text :=
  "Syntax error: ".toList ++ match m with
    | openQuote => "Unterminated quoted string".toList
    | openBrace => "Missing '\x7d'".toList
    | openArithmetic => "Missing '))'".toList
    | openBackquote => "EOF in backquote substitution".toList
    | unexpected found none => found ++ " unexpected".toList
    | unexpected found (some wanted) =>
      found ++ " unexpected (expecting ".toList ++ wanted ++ [')']
    | badLoopVariable => "Bad for loop variable".toList
    | badFunctionName => "Bad function name".toList
    | tooDeep => "nested too deeply".toList

end ProofDesk.Shell
