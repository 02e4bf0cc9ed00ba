import StorageTypes.Text.Blank
import StorageTypes.Text.Quoted

namespace StorageTypes.Terminal

open Text (strip)

/-- What the terminal makes of a text in which tags may stand: the text without them, or the reason why
it cannot be read. -/
class Markup where
  read : String → Except String String

/-- A tag in brackets: its name, and what follows the first equals sign. -/
structure Tag where
  name : List Char
  argument : Option (List Char) := none
  deriving DecidableEq, Repr

def Tag.ofInside (inside : List Char) : Tag :=
  ⟨inside.takeWhile (· != '='), (inside.dropWhile (· != '=')).tail?⟩

def Tag.text (tag : Tag) : String :=
  "[" ++ String.ofList (tag.name ++ tag.argument.elim [] ('=' :: ·)) ++ "]"

/-- A piece of a text: characters that stand for themselves, or a tag with its place in the text. -/
inductive Piece where
  | plain (content : List Char)
  | tag (place : Nat) (itself : Tag)
  deriving DecidableEq, Repr

def startsTag (c : Char) : Bool :=
  ('a' ≤ c && c ≤ 'z') || c == '#' || c == '/' || c == '@'

def tagAfter? (text : List Char) : Option (List Char × List Char) :=
  if text.head?.any startsTag then
    match text.dropWhile fun c => c != '[' && c != ']' with
    | ']' :: rest => some (text.takeWhile fun c => c != '[' && c != ']', rest)
    | _ => none
  else none

/-- The pieces of a text from a place on. Two backslashes before a tag stand for one, and one more keeps
the tag as characters. Every step takes a character, so the length of the text is fuel enough. -/
def piecesOf : Nat → Nat → List Char → List Piece
  | 0, _, _ => []
  | fuel + 1, place, text =>
    let slashes := (text.takeWhile (· == '\\')).length
    match text.drop slashes with
    | [] => [.plain text]
    | '[' :: rest =>
      match tagAfter? rest with
      | some (inside, after) =>
        let behind := piecesOf fuel (place + slashes + inside.length + 2) after
        .plain (List.replicate (slashes / 2) '\\')
          :: (if slashes % 2 = 1 then .plain ('[' :: inside ++ [']'])
            else .tag (place + slashes) (Tag.ofInside inside)) :: behind
      | none =>
        .plain (List.replicate (slashes - 1) '\\' ++ ['['])
          :: piecesOf fuel (place + slashes + 1) rest
    | c :: rest =>
      .plain (List.replicate slashes '\\' ++ [c]) :: piecesOf fuel (place + slashes + 1) rest

def openBracket? (opened : List Char) : List Char → Option Char
  | [] => opened.head?
  | c :: rest =>
    if c = '(' || c = '\x7b' then openBracket? (c :: opened) rest
    else if c = ')' || c = '\x7d' then openBracket? opened.tail rest
    else openBracket? opened rest

/-- Closing a tag reads its argument where it names a handler. -/
def Tag.closed (tag : Tag) : Except String Unit :=
  match tag.name, tag.argument with
  | '@' :: _, some argument =>
    match openBracket? [] argument with
    | some bracket =>
      .error ("error parsing " ++ Text.quoted (String.ofList (strip argument)) ++ " in "
        ++ Text.quoted (String.ofList argument) ++ "; '" ++ String.singleton bracket
        ++ "' was never closed")
    | none => .ok ()
  | _, _ => .ok ()

def styleName (name : List Char) : List Char :=
  (strip name).map Char.toLower

/-- The tag that a closing tag closes, and the others. A closing tag without a name closes the last one. -/
def closeTag (opened : List Tag) (place : Nat) (closing : Tag) : Except String (Tag × List Tag) :=
  let name := strip closing.name.tail
  if name.isEmpty then
    match opened with
    | [] => .error ("closing tag '[/]' at position " ++ toString place ++ " has nothing to close")
    | last :: others => .ok (last, others)
  else
    match opened.find? (·.name == styleName name) with
    | some tag => .ok (tag, opened.erase tag)
    | none =>
      .error ("closing tag '" ++ closing.text ++ "' at position " ++ toString place
        ++ " doesn't match any open tag")

def plainOf (opened : List Tag) : List Piece → Except String (List Char)
  | [] => .ok []
  | .plain content :: rest => (plainOf opened rest).map (content ++ ·)
  | .tag place tag :: rest =>
    if tag.name.head? = some '/' then do
      let (last, others) ← closeTag opened place tag
      last.closed
      plainOf others rest
    else plainOf (⟨styleName tag.name, tag.argument⟩ :: opened) rest

/-- Markup with styles and handlers in tags. Of the arguments of a handler only the brackets are
looked at. -/
@[reducible] def Markup.tags : Markup where
  read text :=
    (plainOf [] (piecesOf (text.length + 1) 0 text.toList)).map String.ofList

end StorageTypes.Terminal
