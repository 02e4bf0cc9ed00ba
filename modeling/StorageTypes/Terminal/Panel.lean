import StorageTypes.Terminal.Wrap
import StorageTypes.Log

namespace StorageTypes.Terminal

def panel (title text : String) : String :=
  let inner := columns - 2
  let label := ' ' :: title.toList ++ [' ']
  let free := inner - Text.width label
  let top := '╭' :: List.replicate (free / 2) '─' ++ label
    ++ List.replicate (free - free / 2) '─' ++ ['╮']
  let bottom := '╰' :: List.replicate inner '─' ++ ['╯']
  let rows := (wrap .fold (inner - 2) (shown text)).map fun line =>
    '│' :: ' ' :: pad (inner - 2) line ++ [' ', '│']
  unlines (top :: rows ++ [bottom])

def levelWidth : Nat := 8

/-- A log entry: the level before the first line of the message, all lines padded. -/
def logText (entry : LogEntry) : String :=
  let limit := columns - levelWidth - 1
  let lines := wrap .fold limit (shown entry.message)
  let before := fun index =>
    pad (levelWidth + 1) (if index = 0 then entry.level.name.toList else [])
  unlines ((List.range lines.length).zip lines |>.map fun (index, line) =>
    before index ++ pad limit line)

/-- The entries of a log that matter enough at a verbosity: warnings at zero, all entries from two
on. -/
def logFor (verbosity : Nat) (log : List LogEntry) : String :=
  let least := Level.warning.rank - min verbosity Level.warning.rank
  Text.join "" ((log.filter fun entry => least ≤ entry.level.rank).map logText)

end StorageTypes.Terminal
