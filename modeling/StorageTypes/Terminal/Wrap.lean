import StorageTypes.Text.Blank
import StorageTypes.Text.Lines
import StorageTypes.Text.Width

namespace StorageTypes.Terminal

open Text (isBlank charWidth)

def columns : Nat := 80

/-- Controls that a terminal would act on: bell, backspace, vertical tab, form feed and carriage
return. -/
def isDevice (c : Char) : Bool :=
  let n := c.toNat
  n == 7 || n == 8 || n == 11 || n == 12 || n == 13

def shown (text : String) : List Char :=
  text.toList.filter (!isDevice ·)

def expandTabs (column : Nat) : List Char → List Char
  | [] => []
  | c :: rest =>
    if c = '\t' then
      let blanks := 8 - column % 8
      List.replicate blanks ' ' ++ expandTabs (column + blanks) rest
    else c :: expandTabs (column + charWidth c) rest

/-- The next word with the blanks around it, and the rest; blanks alone make no word. -/
def takeWord (text : List Char) : Option (List Char × List Char) :=
  let before := text.takeWhile isBlank
  let afterBefore := text.dropWhile isBlank
  let word := afterBefore.takeWhile (!isBlank ·)
  let afterWord := afterBefore.dropWhile (!isBlank ·)
  if word.isEmpty then none
  else some (before ++ word ++ afterWord.takeWhile isBlank, afterWord.dropWhile isBlank)

def wordsOf : Nat → List Char → List (List Char)
  | 0, _ => []
  | fuel + 1, text =>
    match takeWord text with
    | none => []
    | some (word, rest) => word :: wordsOf fuel rest

def chop (limit used : Nat) (piece : List Char) : List Char → List (List Char)
  | [] => [piece.reverse]
  | c :: rest =>
    if limit < used + charWidth c then piece.reverse :: chop limit (charWidth c) [c] rest
    else chop limit (used + charWidth c) (c :: piece) rest

/-- Lines under way: those that are finished, latest first, the current one, and its columns. -/
structure Flow where
  finished : List (List Char) := []
  current : List Char := []
  used : Nat := 0

namespace Flow

def started (flow : Flow) : Bool :=
  !flow.finished.isEmpty || !flow.current.isEmpty

def startLine (flow : Flow) (piece : List Char) : Flow :=
  if flow.started then ⟨flow.current :: flow.finished, piece, Text.width piece⟩
  else ⟨[], piece, Text.width piece⟩

/-- Adds a word: to the current line if it fits without the blanks after it, else on a new one. -/
def addWord (limit : Nat) (fold : Bool) (flow : Flow) (word : List Char) : Flow :=
  let needed := Text.width (Text.dropBlanksRight word)
  if flow.used + needed ≤ limit then
    { flow with current := flow.current ++ word, used := flow.used + Text.width word }
  else if limit < needed && fold then (chop limit 0 [] word).foldl startLine flow
  else flow.startLine word

def lines (flow : Flow) : List (List Char) :=
  (flow.current :: flow.finished).reverse

end Flow

/-- A line broken between words; blanks that make no word stay where they are. -/
def breakLine (limit : Nat) (fold : Bool) (line : List Char) : List (List Char) :=
  let words := wordsOf (line.length + 1) line
  if words.isEmpty then [line] else ((words.foldl (Flow.addWord limit fold) {}).lines)

def trimEnd (limit : Nat) (line : List Char) : List Char :=
  let blanks := line.length - (Text.dropBlanksRight line).length
  line.take (line.length - min blanks (line.length - limit))

/-- The part of a line that fits a width; a wide character that would stick out becomes a blank. -/
def crop (limit : Nat) : List Char → List Char
  | [] => []
  | c :: rest =>
    if charWidth c ≤ limit then c :: crop (limit - charWidth c) rest
    else List.replicate limit ' '

inductive Overflow where
  | fold
  | ellipsis
  deriving DecidableEq, Repr

def fit (overflow : Overflow) (limit : Nat) (line : List Char) : List Char :=
  if Text.width line ≤ limit then line
  else
    match overflow with
    | .fold => crop limit line
    | .ellipsis => crop (limit - 1) line ++ ['…']

def wrap (overflow : Overflow) (limit : Nat) (text : List Char) : List (List Char) :=
  (Text.pieces '\n' text).flatMap fun line =>
    (breakLine limit (overflow == .fold) (expandTabs 0 line)).map fun part =>
      fit overflow limit (trimEnd limit part)

def pad (limit : Nat) (line : List Char) : List Char :=
  line ++ List.replicate (limit - Text.width line) ' '

def unlines (lines : List (List Char)) : String :=
  String.ofList (lines.flatMap (· ++ ['\n']))

def print (text : String) : String :=
  unlines (wrap .fold columns (shown text))

end StorageTypes.Terminal
