import AxSsh.ForStd.FindIter
import AxSsh.ForStd.TextLines
import AxSsh.Native.UploadPublication

/-!
# Terminal targets

The recognition of URLs and remote paths in the text of a terminal, `app/terminal_targets.rs`.  A
text is the list of its characters.

The URL pattern is `(?i:https?://)` and a run of characters of one class; `parses` stands for
`Url::parse` with the test that the scheme is `http` or `https` and that there is a host.
-/

namespace AxSsh

open TextLines FindIter

def maxTargetLineChars : Nat := 2048
def maxTargetChars : Nat := 1024

/-! ## The URL pattern -/

/-- What the class of `URL_PATTERN` leaves out besides white space and control characters. -/
def urlDelimiters : List Char :=
  "<>\x22\x27\x60\x7b\x7d|\\^⟨⟩「」『』（）［］｛｝〈〉《》【】、。，；：！？“”‘’«»‹›".toList

def isUrlChar (c : Char) : Bool := !(TextLines.isWhitespace c || isControl c || urlDelimiters.contains c)

/-- The characters that `http` matches when case is ignored. -/
def httpClasses : List (List Char) := [['h', 'H'], ['t', 'T'], ['t', 'T'], ['p', 'P']]

def separatorClasses : List (List Char) := [[':'], ['/'], ['/']]

/-- `s` without its case, with the long s, which folds to it. -/
def secureClass : List Char := ['s', 'S', 'ſ']

def matchesClasses : List (List Char) → List Char → Bool
  | [], _ => true
  | _ :: _, [] => false
  | cls :: classes, c :: text => cls.contains c && matchesClasses classes text

/-- How much of a text `(?i:https?://)` matches. -/
def schemeLength (text : List Char) : Option Nat :=
  if matchesClasses (httpClasses ++ [secureClass] ++ separatorClasses) text then some 8
  else if matchesClasses (httpClasses ++ separatorClasses) text then some 7
  else none

/-- How much of a text `URL_PATTERN` matches. -/
def matchUrl (text : List Char) : Option Nat := do
  let scheme ← schemeLength text
  let rest := (text.drop scheme).takeWhile isUrlChar
  if rest = [] then none else some (scheme + rest.length)

/-! ## Trimming -/

def unmatchedClosing (candidate : List Char) (opening closing : Char) : Bool :=
  candidate.count opening < candidate.count closing

/-- The characters that `trim_terminal_punctuation` removes from the end of any candidate. -/
def isSentencePunctuation (c : Char) : Bool := ['.', ',', ';', ':', '!'].contains c

/-- The test of `trim_terminal_punctuation` on the last character of a candidate. -/
def removesLast (candidate : List Char) (last : Char) : Bool :=
  isSentencePunctuation last ||
    (last == ')' && unmatchedClosing candidate '(' ')') ||
    (last == ']' && unmatchedClosing candidate '[' ']') ||
    (last == '\x7d' && unmatchedClosing candidate '\x7b' '\x7d')

/-- The loop of `trim_terminal_punctuation`, on the candidate from its last character on. -/
def trimPunctuationRev : List Char → List Char
  | [] => []
  | last :: before =>
    if removesLast (last :: before) last then trimPunctuationRev before else last :: before

def trimTerminalPunctuation (candidate : List Char) : List Char :=
  (trimPunctuationRev candidate.reverse).reverse

/-- The number of open brackets of one kind after a character. -/
def countOpen (opening closing c : Char) (count : Nat) : Nat :=
  if c = opening then count + 1 else if c = closing then count - 1 else count

/-- What stands before the first closing bracket that nothing opened, the loop of
    `trim_url_candidate`. -/
def balancedPrefix : List Char → Nat → Nat → List Char
  | [], _, _ => []
  | c :: text, parentheses, brackets =>
    if (c = ')' ∧ parentheses = 0) ∨ (c = ']' ∧ brackets = 0) then []
    else c :: balancedPrefix text (countOpen '(' ')' c parentheses) (countOpen '[' ']' c brackets)

def trimUrlCandidate (candidate : List Char) : List Char :=
  trimTerminalPunctuation (balancedPrefix candidate 0 0)

def isDecimal (value : List Char) : Bool := value ≠ [] && value.all fun c => '0' ≤ c && c ≤ '9'

def trimLocationSuffix (candidate : List Char) : List Char :=
  match rsplitOnce ':' candidate with
  | none => candidate
  | some (beforeColumn, column) =>
    if isDecimal column then
      match rsplitOnce ':' beforeColumn with
      | some (path, line) => if isDecimal line then path else beforeColumn
      | none => beforeColumn
    else candidate

/-! ## Targets -/

inductive TerminalTarget where
  | url (url : List Char)
  | remotePath (path : List Char)
deriving DecidableEq

structure TerminalTargetSpan where
  target : TerminalTarget
  start : Nat
  «end» : Nat
deriving DecidableEq

structure TerminalTargetSegment where
  row : Nat
  start : Nat
  «end» : Nat
deriving DecidableEq

structure TerminalTargetMatch where
  target : TerminalTarget
  segments : List TerminalTargetSegment
deriving DecidableEq

/-- The body of the loop of `find_url_target`. -/
def urlSpan (parses : List Char → Bool) (column : Nat) (matched : Nat × List Char) :
    Option TerminalTargetSpan :=
  let candidate := trimUrlCandidate matched.2
  let start := matched.1
  let stop := start + candidate.length
  if maxTargetChars < candidate.length ∨ ¬(start ≤ column ∧ column < stop) then none
  else if parses candidate then some ⟨.url candidate, start, stop⟩
  else none

def findUrlTarget (parses : List Char → Bool) (text : List Char) (column : Nat) :
    Option TerminalTargetSpan :=
  (findIter matchUrl text).findSome? (urlSpan parses column)

def isTokenBoundary (c : Char) : Bool :=
  TextLines.isWhitespace c || ['\x27', '\x22', '<', '>', '\x60', '|', '(', '[', '\x7b'].contains c

/-- `token_bounds`, for a column inside the text: the loops go over what stands before and after
    the character. -/
def tokenBounds (characters : List Char) (column : Nat) : Option (Nat × Nat) :=
  match characters.drop column with
  | [] => none
  | c :: after =>
    if isTokenBoundary c then none
    else some
      (column - ((characters.take column).reverse.takeWhile (!isTokenBoundary ·)).length,
        column + 1 + (after.takeWhile (!isTokenBoundary ·)).length)

def matchesRemotePath (candidate : List Char) : Bool :=
  (['/'].isPrefixOf candidate || ['.', '/'].isPrefixOf candidate ||
    ['.', '.', '/'].isPrefixOf candidate) && !candidate.any isControl

def findRemotePathTarget (token : List Char) (tokenStart column : Nat) :
    Option TerminalTargetSpan :=
  let candidate := trimLocationSuffix (trimTerminalPunctuation token)
  if candidate.length = 0 ∨ maxTargetChars < candidate.length ∨ column < tokenStart ∨
      tokenStart + candidate.length ≤ column ∨ ¬matchesRemotePath candidate then none
  else some ⟨.remotePath candidate, tokenStart, tokenStart + candidate.length⟩

/-- The second part of `terminal_target_span_at_cell`. -/
def remotePathSpan (characters : List Char) (column : Nat) : Option TerminalTargetSpan := do
  let (start, stop) ← tokenBounds characters column
  findRemotePathTarget ((characters.drop start).take (stop - start)) start column

def terminalTargetSpanAtCell (parses : List Char → Bool) (text : List Char) (column : Nat) :
    Option TerminalTargetSpan :=
  if text.any isControl then none
  else if maxTargetLineChars < text.length ∨ text.length ≤ column then none
  else (findUrlTarget parses text column).or (remotePathSpan text column)

/-! ## Rows -/

structure TerminalTargetRow where
  row : Nat
  text : List Char
deriving DecidableEq

structure TerminalTargetContext where
  rows : List TerminalTargetRow
  clickedRow : Nat
  clickedCharacter : Nat
  startsMidLogicalLine : Bool
  endsMidLogicalLine : Bool
deriving DecidableEq

/-- The text of joined rows. -/
def rowsText (rows : List TerminalTargetRow) : List Char := rows.flatMap (·.text)

/-- Each row with where its text starts and ends in the text of all. -/
def rowOffsets : List TerminalTargetRow → Nat → List (Nat × Nat × Nat)
  | [], _ => []
  | row :: rows, start =>
    (row.row, start, start + row.text.length) :: rowOffsets rows (start + row.text.length)

/-- The part of a span in one row. -/
def rowSegment (span : TerminalTargetSpan) (offsets : Nat × Nat × Nat) :
    Option TerminalTargetSegment :=
  let (row, rowStart, rowEnd) := offsets
  let segmentStart := max span.start rowStart - rowStart
  let segmentEnd := min span.end rowEnd - rowStart
  if segmentStart < segmentEnd then some ⟨row, segmentStart, segmentEnd⟩ else none

/-- The end of `terminal_target_match_at_context`, for the span of the clicked character. -/
def spanMatch (context : TerminalTargetContext) (span : TerminalTargetSpan) :
    Option TerminalTargetMatch :=
  let totalCharacters := (rowsText context.rows).length
  if (context.startsMidLogicalLine ∧ span.start = 0) ∨
      (context.endsMidLogicalLine ∧ span.end = totalCharacters) then none
  else
    let segments := (rowOffsets context.rows 0).filterMap (rowSegment span)
    if segments = [] then none else some ⟨span.target, segments⟩

def terminalTargetMatchAtContext (parses : List Char → Bool) (context : TerminalTargetContext) :
    Option TerminalTargetMatch := do
  let text := rowsText context.rows
  if context.rows = [] then none
  else if ¬(context.rows.any (·.row == context.clickedRow)) ∨
      text.length ≤ context.clickedCharacter then none
  else (terminalTargetSpanAtCell parses text context.clickedCharacter).bind (spanMatch context)

end AxSsh
