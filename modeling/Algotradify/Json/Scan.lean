/-
Writing values as JSON text, the way `json.dumps` lays it out.

Characters above the ASCII range stay as they are unless the layout escapes them; the
control characters, the quote and the backslash are always escaped.

Reading JSON text: `json.loads`.

A lone surrogate escape is no character of a text here, so such a text does not decode.
The scanner recurses with fuel; the length of the text is always enough of it.
-/

import Algotradify.Py.Text
import Mathlib.Data.List.Sort

namespace Algotradify.Json

open Py

def quoteMark : Char := Char.ofNat 34
def backslash : Char := Char.ofNat 92
def openBrace : Char := Char.ofNat 123
def closeBrace : Char := Char.ofNat 125

/-- What the keyword arguments of `json.dumps` ask for. -/
structure Layout where
  afterComma : Nat
  afterColon : Nat
  indent : Option Nat
  ensureAscii : Bool

/-- `separators=(",", ":"), ensure_ascii=False`. -/
def compact : Layout :=
  { afterComma := 0, afterColon := 0, indent := none, ensureAscii := false }

/-- `separators=(",", ":")`: everything outside ASCII is escaped. -/
def compactAscii : Layout :=
  { afterComma := 0, afterColon := 0, indent := none, ensureAscii := true }

/-- `indent=2, ensure_ascii=False`. -/
def indented : Layout :=
  { afterComma := 0, afterColon := 1, indent := some 2, ensureAscii := false }

def Layout.newline (layout : Layout) (level : Nat) : List Char :=
  match layout.indent with
  | none => []
  | some width => '\n' :: List.replicate (width * level) ' '

/-! ### Strings and numbers -/

def hexDigits : List Char :=
  "0123456789abcdef".toList

def hexDigit (value : Nat) : Char :=
  hexDigits.getD value '0'

def unicodeEscape (code : Nat) : List Char :=
  [backslash, 'u', hexDigit (code / 4096 % 16), hexDigit (code / 256 % 16),
    hexDigit (code / 16 % 16), hexDigit (code % 16)]

/-- The characters with an escape of their own, by their code, and its letter. -/
def shortEscapes : List (Nat × Char) :=
  [(8, 'b'), (9, 't'), (10, 'n'), (12, 'f'), (13, 'r'), (34, quoteMark), (92, backslash)]

def escapeChar (ensureAscii : Bool) (char : Char) : List Char :=
  match shortEscapes.lookup char.toNat with
  | some letter => [backslash, letter]
  | none =>
      if char.toNat < 32 then unicodeEscape char.toNat
      else if ensureAscii && 126 < char.toNat then
        if char.toNat < 0x10000 then unicodeEscape char.toNat
        else
          unicodeEscape (0xd800 + (char.toNat - 0x10000) / 1024) ++
            unicodeEscape (0xdc00 + (char.toNat - 0x10000) % 1024)
      else [char]

def writeString (ensureAscii : Bool) (text : String) : List Char :=
  quoteMark :: (text.toList.flatMap (escapeChar ensureAscii) ++ [quoteMark])

def writeFloat : PyFloat → List Char
  | .nan => "NaN".toList
  | .posInf => "Infinity".toList
  | .negInf => "-Infinity".toList
  | .finite value => (printFloat (.finite value)).toList

/-! ### Values -/

mutual

def write (layout : Layout) (level : Nat) : PyValue → List Char
  | .none => "null".toList
  | .bool flag => if flag then "true".toList else "false".toList
  | .int value => (printInt value).toList
  | .float value => writeFloat value
  | .str text => writeString layout.ensureAscii text
  | .list [] => "[]".toList
  | .list (item :: rest) =>
      '[' :: (layout.newline (level + 1) ++
        (write layout (level + 1) item ++ writeItems layout level rest))
  | .dict [] => [openBrace, closeBrace]
  | .dict ((key, value) :: rest) =>
      openBrace :: (layout.newline (level + 1) ++ (writeString layout.ensureAscii key ++
        ':' :: (List.replicate layout.afterColon ' ' ++
          (write layout (level + 1) value ++ writeEntries layout level rest))))

def writeItems (layout : Layout) (level : Nat) : List PyValue → List Char
  | [] => layout.newline level ++ [']']
  | item :: rest =>
      ',' :: (List.replicate layout.afterComma ' ' ++ (layout.newline (level + 1) ++
        (write layout (level + 1) item ++ writeItems layout level rest)))

def writeEntries (layout : Layout) (level : Nat) : List (String × PyValue) → List Char
  | [] => layout.newline level ++ [closeBrace]
  | (key, value) :: rest =>
      ',' :: (List.replicate layout.afterComma ' ' ++ (layout.newline (level + 1) ++
        (writeString layout.ensureAscii key ++ ':' :: (List.replicate layout.afterColon ' ' ++
          (write layout (level + 1) value ++ writeEntries layout level rest)))))

end

abbrev keyLe (first second : String × PyValue) : Prop :=
  first.1 ≤ second.1

mutual

/-- `sort_keys=True`: every dictionary lists its keys in order. -/
def sortKeys : PyValue → PyValue
  | .none => .none
  | .bool flag => .bool flag
  | .int value => .int value
  | .float value => .float value
  | .str text => .str text
  | .list items => .list (sortItems items)
  | .dict entries => .dict (sortEntries entries)

def sortItems : List PyValue → List PyValue
  | [] => []
  | item :: rest => sortKeys item :: sortItems rest

def sortEntries : List (String × PyValue) → List (String × PyValue)
  | [] => []
  | (key, value) :: rest =>
      List.orderedInsert keyLe (key, sortKeys value) (sortEntries rest)

end

/-- `json.dumps(value, sort_keys=True, ...)`. -/
def jsonDumps (layout : Layout) (value : PyValue) : String :=
  String.ofList (write layout 0 (sortKeys value))

example : jsonDumps compact (.dict [("b", .list [.int (-3), .none]), ("a", .bool true)]) =
    String.ofList (openBrace :: quoteMark :: 'a' :: quoteMark :: ":true,".toList ++
      quoteMark :: 'b' :: quoteMark :: ":[-3,null]".toList ++ [closeBrace]) := by
  decide

/-! ### Scanning -/

def isJsonSpace (char : Char) : Bool :=
  [' ', '\t', '\n', '\r'].contains char

def skipSpace (chars : List Char) : List Char :=
  chars.dropWhile isJsonSpace

/-! ### Strings -/

def hexValue? (char : Char) : Option Nat :=
  if char.isDigit then some (char.toNat - '0'.toNat)
  else if 'a' ≤ char ∧ char ≤ 'f' then some (char.toNat - 'a'.toNat + 10)
  else if 'A' ≤ char ∧ char ≤ 'F' then some (char.toNat - 'A'.toNat + 10)
  else none

/-- The four digits after `\u`. -/
def scanHexFour : List Char → Option (Nat × List Char)
  | first :: second :: third :: fourth :: rest => do
      let high ← hexValue? first
      let upper ← hexValue? second
      let lower ← hexValue? third
      let low ← hexValue? fourth
      pure (high * 4096 + upper * 256 + lower * 16 + low, rest)
  | _ => none

def charOfCode? (code : Nat) : Option Char :=
  if code.isValidChar then some (Char.ofNat code) else none

/-- The character that an escape after `\u` stands for. -/
def scanUnicode (chars : List Char) : Option (Char × List Char) := do
  let (code, rest) ← scanHexFour chars
  if 0xd800 ≤ code ∧ code ≤ 0xdbff then
    match rest with
    | mark :: letter :: after =>
        if mark = backslash ∧ letter = 'u' then do
          let (second, after) ← scanHexFour after
          if 0xdc00 ≤ second ∧ second ≤ 0xdfff then
            let char ← charOfCode? (0x10000 + (code - 0xd800) * 1024 + (second - 0xdc00))
            pure (char, after)
          else none
        else none
    | _ => none
  else do
    let char ← charOfCode? code
    pure (char, rest)

def escapeLetters : List (Char × Char) :=
  [(quoteMark, quoteMark), (backslash, backslash), ('/', '/'), ('b', Char.ofNat 8),
    ('f', Char.ofNat 12), ('n', '\n'), ('r', '\r'), ('t', '\t')]

def scanChar : List Char → Option (Char × List Char)
  | [] => none
  | char :: rest =>
      if char = backslash then
        match rest with
        | [] => none
        | letter :: after =>
            if letter = 'u' then scanUnicode after
            else (escapeLetters.lookup letter).map fun found => (found, after)
      else if char.toNat < 32 then none
      else some (char, rest)

def scanString : Nat → List Char → List Char → Option (String × List Char)
  | 0, _, _ => none
  | fuel + 1, read, chars =>
      match chars with
      | [] => none
      | char :: rest =>
          if char = quoteMark then some (String.ofList read, rest)
          else do
            let (found, after) ← scanChar (char :: rest)
            scanString fuel (read ++ [found]) after

/-! ### Numbers -/

def takeRun (chars : List Char) : List Char × List Char :=
  (chars.takeWhile Char.isDigit, chars.dropWhile Char.isDigit)

def scanSign : List Char → List Char × List Char
  | '-' :: rest => (['-'], rest)
  | chars => ([], chars)

/-- `0|[1-9][0-9]*`. -/
def scanWhole : List Char → Option (List Char × List Char)
  | [] => none
  | char :: rest =>
      if char = '0' then some (['0'], rest)
      else if char.isDigit then some (takeRun (char :: rest))
      else none

/-- `(\.[0-9]+)?`. -/
def scanFraction : List Char → List Char × List Char
  | '.' :: rest =>
      if (takeRun rest).1 = [] then ([], '.' :: rest)
      else ('.' :: (takeRun rest).1, (takeRun rest).2)
  | chars => ([], chars)

/-- `[-+]?`. -/
def scanExponentSign : List Char → List Char × List Char
  | '-' :: rest => (['-'], rest)
  | '+' :: rest => (['+'], rest)
  | chars => ([], chars)

/-- `([eE][-+]?[0-9]+)?`. -/
def scanExponent : List Char → List Char × List Char
  | [] => ([], [])
  | mark :: rest =>
      if mark = 'e' ∨ mark = 'E' then
        let (sign, after) := scanExponentSign rest
        if (takeRun after).1 = [] then ([], mark :: rest)
        else (mark :: (sign ++ (takeRun after).1), (takeRun after).2)
      else ([], mark :: rest)

def scanNumber (chars : List Char) : Option (PyValue × List Char) := do
  let (sign, unsigned) := scanSign chars
  let (whole, afterWhole) ← scanWhole unsigned
  let (fraction, afterFraction) := scanFraction afterWhole
  let (exponent, rest) := scanExponent afterFraction
  if fraction = [] ∧ exponent = [] then
    let value ← parseInt? (String.ofList (sign ++ whole))
    pure (.int value, rest)
  else
    let value ← parseFloat? (String.ofList (sign ++ (whole ++ (fraction ++ exponent))))
    pure (.float value, rest)

/-! ### Values -/

def constants : List (List Char × PyValue) :=
  [("null".toList, .none), ("true".toList, .bool true), ("false".toList, .bool false),
    ("NaN".toList, .float .nan), ("Infinity".toList, .float .posInf),
    ("-Infinity".toList, .float .negInf)]

def scanConstant (chars : List Char) : Option (PyValue × List Char) :=
  constants.findSome? fun constant =>
    if constant.1.isPrefixOf chars then some (constant.2, chars.drop constant.1.length) else none

mutual

def scanValue : Nat → List Char → Option (PyValue × List Char)
  | 0, _ => none
  | _ + 1, [] => none
  | fuel + 1, char :: rest =>
      if char = quoteMark then
        (scanString fuel [] rest).map fun found => (.str found.1, found.2)
      else if char = openBrace then
        match skipSpace rest with
        | [] => none
        | next :: after =>
            if next = closeBrace then some (.dict [], after)
            else scanMembers fuel [] (next :: after)
      else if char = '[' then
        match skipSpace rest with
        | [] => none
        | next :: after =>
            if next = ']' then some (.list [], after) else scanItems fuel [] (next :: after)
      else
        match scanConstant (char :: rest) with
        | some found => some found
        | none => scanNumber (char :: rest)

def scanItems : Nat → List PyValue → List Char → Option (PyValue × List Char)
  | 0, _, _ => none
  | fuel + 1, read, chars =>
      match scanValue fuel chars with
      | none => none
      | some (item, after) =>
          match skipSpace after with
          | [] => none
          | next :: rest =>
              if next = ']' then some (.list (read ++ [item]), rest)
              else if next = ',' then scanItems fuel (read ++ [item]) (skipSpace rest)
              else none

/-- The members of an object, of which some are read. A later value of a key
replaces an earlier one. -/
def scanMembers : Nat → PyDict → List Char → Option (PyValue × List Char)
  | 0, _, _ => none
  | _ + 1, _, [] => none
  | fuel + 1, read, char :: chars =>
      if char = quoteMark then
        match scanString fuel [] chars with
        | none => none
        | some (key, afterKey) =>
            match skipSpace afterKey with
            | [] => none
            | mark :: afterMark =>
                if mark = ':' then
                  match scanValue fuel (skipSpace afterMark) with
                  | none => none
                  | some (value, after) =>
                      match skipSpace after with
                      | [] => none
                      | next :: rest =>
                          if next = closeBrace then some (.dict (PyDict.set read key value), rest)
                          else if next = ',' then
                            scanMembers fuel (PyDict.set read key value) (skipSpace rest)
                          else none
                else none
      else none

end

/-- `json.loads(text)`, without a value where it raises JSONDecodeError. -/
def jsonLoads (text : String) : Option PyValue :=
  let chars := skipSpace text.toList
  match scanValue (chars.length + 1) chars with
  | none => none
  | some (value, rest) => if skipSpace rest = [] then some value else none

example : (jsonLoads "[1, [-2.50e1, null] ]").map printRepr = some "[1, [-25.0, None]]" := by
  decide +kernel

end Algotradify.Json
