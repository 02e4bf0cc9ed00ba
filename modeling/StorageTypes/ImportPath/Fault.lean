import StorageTypes.ImportPath.Host
import StorageTypes.Text.Quoted

namespace StorageTypes.ImportPath

/-- Why the layout after a colon cannot be used for a text. -/
inductive LayoutFault where
  | numberTooLong
  | placesMissing
  | commaAndUnderscore
  | separator (mark code : Char)
  | unreadable (layout : String)
  | unknownCode (code : Char)
  | blankSign
  | sign
  | negativeZero
  | alternate
  | signAware
  | tooWide
  deriving DecidableEq, Repr

def shownCode (c : Char) : String :=
  if 32 < c.toNat && c.toNat < 128 then String.singleton c
  else "\\x" ++ String.ofList (Nat.toDigits 16 c.toNat)

def LayoutFault.message : LayoutFault → String
  | .numberTooLong => "Too many decimal digits in format string"
  | .placesMissing => "Format specifier missing precision"
  | .commaAndUnderscore => "Cannot specify both ',' and '_'."
  | .separator mark code =>
    "Cannot specify '" ++ String.singleton mark ++ "' with '" ++ shownCode code ++ "'."
  | .unreadable layout => "Invalid format specifier '" ++ layout ++ "' for object of type 'str'"
  | .unknownCode code => "Unknown format code '" ++ shownCode code ++ "' for object of type 'str'"
  | .blankSign => "Space not allowed in string format specifier"
  | .sign => "Sign not allowed in string format specifier"
  | .negativeZero => "Negative zero coercion (z) not allowed in string format specifier"
  | .alternate => "Alternate form (#) not allowed in string format specifier"
  | .signAware => "'=' alignment not allowed in string format specifier"
  | .tooWide => ""

/-- Why a template cannot be filled in. -/
inductive Fault where
  | loneOpen
  | loneClose
  | braceInName
  | fieldUnclosed
  | conversionMissing
  | conversionTail
  | layoutUnclosed
  | unknownConversion (code : Char)
  | emptyStep
  | indexUnclosed
  | indexTail
  | numberTooLong
  | nestedTooDeep
  | layout (fault : LayoutFault)
  | unknownPosition (index : Nat)
  | unknownName (name : String)
  | outOfRange
  | indexByName
  | host (fault : HostFault)
  deriving DecidableEq, Repr

def Fault.message : Fault → String
  | .loneOpen => "Single '\x7b' encountered in format string"
  | .loneClose => "Single '\x7d' encountered in format string"
  | .braceInName => "unexpected '\x7b' in field name"
  | .fieldUnclosed => "expected '\x7d' before end of string"
  | .conversionMissing => "end of string while looking for conversion specifier"
  | .conversionTail => "expected ':' after conversion specifier"
  | .layoutUnclosed => "unmatched '\x7b' in format spec"
  | .unknownConversion code =>
    "Unknown conversion specifier "
      ++ if 32 < code.toNat && code.toNat < 127 then String.singleton code
        else "\\x" ++ String.ofList (Nat.toDigits 16 code.toNat)
  | .emptyStep => "Empty attribute in format string"
  | .indexUnclosed => "Missing ']' in format string"
  | .indexTail => "Only '.' or '[' may follow ']' in format field specifier"
  | .numberTooLong => "Too many decimal digits in format string"
  | .nestedTooDeep => "Max string recursion exceeded"
  | .layout fault => fault.message
  | .unknownPosition index =>
    "Replacement index " ++ toString index ++ " out of range for positional args tuple"
  | .unknownName name => Text.quoted name
  | .outOfRange => "string index out of range"
  | .indexByName => "string indices must be integers, not 'str'"
  | .host fault => fault.message

end StorageTypes.ImportPath
