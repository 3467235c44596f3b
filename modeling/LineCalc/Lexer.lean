import LineCalc.Token

/-!
# The tokens of a line

A line is cut into the texts of its tokens, and each text is classified.  Spaces and
tabs separate tokens; a parenthesis is a token of its own wherever it stands.

There are three definitions of the cutting.

* `tokenTexts` puts spaces around every parenthesis and takes the words of the result.
* `splitTexts` goes over the line four times: for the left parentheses, for the right ones,
  for the gaps at the ends and for the runs of gaps between tokens.
* `scanTexts` reads the line once from left to right and keeps the token that it is
  in.
-/

namespace LineCalc

open Text

/-- Whether a character is a parenthesis. -/
def isParen (c : Char) : Bool :=
  c == '(' || c == ')'

/-- The line with a space on either side of every parenthesis. -/
def padParens (line : Text) : Text :=
  line.flatMap fun c => if isParen c then [' ', c, ' '] else [c]

def tokenTexts (line : Text) : List Text :=
  words isGap (padParens line)

/-- The texts of the tokens of a line, pass by pass. -/
def splitTexts (line : Text) : List Text :=
  let spaced := substitute ')' [' ', ')', ' '] (substitute '(' [' ', '(', ' '] line)
  let trimmed := trim isGap spaced
  if trimmed.isEmpty then [] else splitRuns isGap trimmed

/-- The token being read, if there is one, before what follows it. -/
def closeToken (current : Text) (rest : List Text) : List Text :=
  if current.isEmpty then rest else current :: rest

/-- The texts of the tokens of a line that is read from inside the token `current`. -/
def scanFrom (current : Text) : Text → List Text
  | [] => closeToken current []
  | c :: rest =>
    if isGap c then closeToken current (scanFrom [] rest)
    else if isParen c then closeToken current ([c] :: scanFrom [] rest)
    else scanFrom (current ++ [c]) rest

/-- The texts of the tokens of a line, by reading it once. -/
def scanTexts (line : Text) : List Text :=
  scanFrom [] line

/-- The tokens of a list of texts, or the first text that is none. -/
def classifyAll (texts : List Text) : Except Rejection (List Token) :=
  texts.mapM classify

def lex (line : Text) : Except Rejection (List Token) :=
  classifyAll (tokenTexts line)

/-- The tokens of a line, for a reader to whom a rejection is one fault among others. -/
def lexLine (line : Text) : Except Fault (List Token) :=
  (lex line).mapError .rejected

end LineCalc
