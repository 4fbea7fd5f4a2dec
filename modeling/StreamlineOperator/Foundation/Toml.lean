/- source: general support, no source file
   digest: Reading a TOML 1.0 document: lines, keys, values, and the tables they build. -/

import Mathlib.Data.List.TakeDrop
import StreamlineOperator.Foundation.Text

set_option autoImplicit false
set_option relaxedAutoImplicit false

namespace StreamlineOperator.Foundation

/-- How a table came about. Nothing can be added to an inline one. -/
inductive TomlOrigin where
  | implicit
  | header
  | dotted
  | inline
  deriving DecidableEq, Repr

/-- A TOML value. Floats and dates are kept as their text. An array of tables keeps
the element that is open apart from the earlier ones. -/
inductive Toml where
  | string (value : String)
  | integer (value : Int)
  | float (text : String)
  | boolean (value : Bool)
  | datetime (text : String)
  | array (items : List Toml)
  | table (origin : TomlOrigin) (members : List (String × Toml))
  | tables (latest : List (String × Toml)) (earlier : List (List (String × Toml)))
  deriving Repr

namespace Toml

abbrev Members := List (String × Toml)

def isBlank (c : Char) : Bool := c = ' ' || c = '\t'

def skipBlanks (input : List Char) : List Char := input.dropWhile isBlank

/-- The characters that no string and no comment may contain. -/
def isControl (c : Char) : Bool := (c.toNat < 0x20 && c != '\t') || c.toNat = 0x7F

/-! Line ends and comments. -/

/-- The rest of a comment, to the end of its line. -/
def comment : List Char → Option (List Char)
  | [] => some []
  | '\n' :: rest => some rest
  | '\r' :: '\n' :: rest => some rest
  | c :: rest => if isControl c then none else comment rest

/-- The end of a line, with what may stand in front of it. -/
def lineEnd (input : List Char) : Option (List Char) :=
  match skipBlanks input with
  | [] => some []
  | '\n' :: rest => some rest
  | '\r' :: '\n' :: rest => some rest
  | '#' :: rest => comment rest
  | _ => none

/-- The lines between the items of an array. -/
def skipLines : Nat → List Char → Option (List Char)
  | 0, _ => none
  | fuel + 1, input =>
    match skipBlanks input with
    | '#' :: rest => (comment rest).bind (skipLines fuel)
    | '\n' :: rest => skipLines fuel rest
    | '\r' :: '\n' :: rest => skipLines fuel rest
    | rest => some rest

/-! Strings. -/

def escaped : Char → Option Char
  | 'b' => some '\x08'
  | 't' => some '\t'
  | 'n' => some '\n'
  | 'f' => some '\x0c'
  | 'r' => some '\r'
  | '"' => some '"'
  | '\\' => some '\\'
  | _ => none

/-- The number of hexadecimal digits behind the character of an escape. -/
def escapeWidth (c : Char) : Nat := if c = 'u' then 4 else if c = 'U' then 8 else 0

/-- What follows a backslash. -/
def escapeSequence : Parser Char
  | [] => none
  | c :: rest =>
    if escapeWidth c = 0 then (escaped c).map (·, rest)
    else if (rest.take (escapeWidth c)).length < escapeWidth c then none
    else ((hexNumber (rest.take (escapeWidth c))).bind scalar).map (·, rest.drop (escapeWidth c))

/-- What follows the opening quote of a basic string. -/
def basicTail : Nat → Parser (List Char)
  | 0, _ => none
  | _ + 1, [] => none
  | fuel + 1, c :: rest =>
    if c = '"' then some ([], rest)
    else if c = '\\' then do
      let (char, rest) ← escapeSequence rest
      let (tail, rest) ← basicTail fuel rest
      some (char :: tail, rest)
    else if isControl c then none
    else (basicTail fuel rest).map (fun r => (c :: r.1, r.2))

/-- What follows the opening quote of a literal string. -/
def literalTail : Parser (List Char)
  | [] => none
  | c :: rest =>
    if c = '\'' then some ([], rest)
    else if isControl c then none
    else (literalTail rest).map (fun r => (c :: r.1, r.2))

/-- The number of these quotes at the front. -/
def quoteRun (quote : Char) (input : List Char) : Nat := (input.takeWhile (· = quote)).length

/-- Three closing quotes, with up to two more in front of them. -/
def closing (quote : Char) (input : List Char) : Option (List Char × List Char) :=
  if quoteRun quote input < 3 then none
  else
    some (List.replicate (min (quoteRun quote input - 3) 2) quote,
      input.drop (min (quoteRun quote input - 3) 2 + 3))

/-- The white space behind a backslash that ends its line. -/
def trimLines : List Char → List Char
  | [] => []
  | '\r' :: '\n' :: rest => trimLines rest
  | c :: rest => if isBlank c || c = '\n' then trimLines rest else c :: rest

def endsLine (input : List Char) : Bool :=
  match skipBlanks input with
  | '\n' :: _ => true
  | '\r' :: '\n' :: _ => true
  | _ => false

/-- A line break inside a string over several lines. -/
def breakAt : Parser (List Char)
  | '\n' :: rest => some (['\n'], rest)
  | '\r' :: '\n' :: rest => some (['\r', '\n'], rest)
  | _ => none

/-- One piece of a string over several lines: a line break or a character. -/
def pieceAt (input : List Char) : Option (List Char × List Char) :=
  match breakAt input, input with
  | some r, _ => some r
  | none, [] => none
  | none, c :: rest => if isControl c then none else some ([c], rest)

/-- What follows the opening quotes of a basic string over several lines. -/
def multiTail : Nat → Parser (List Char)
  | 0, _ => none
  | fuel + 1, input =>
    match closing '"' input with
    | some r => some r
    | none =>
      if input.head? = some '\\' then
        if endsLine input.tail then multiTail fuel (trimLines input.tail)
        else do
          let (char, rest) ← escapeSequence input.tail
          let (tail, rest) ← multiTail fuel rest
          some (char :: tail, rest)
      else do
        let (piece, rest) ← pieceAt input
        let (tail, rest) ← multiTail fuel rest
        some (piece ++ tail, rest)

/-- What follows the opening quotes of a literal string over several lines. -/
def multiLiteralTail : Nat → Parser (List Char)
  | 0, _ => none
  | fuel + 1, input =>
    match closing '\'' input with
    | some r => some r
    | none => do
      let (piece, rest) ← pieceAt input
      let (tail, rest) ← multiLiteralTail fuel rest
      some (piece ++ tail, rest)

/-- A line break right behind the opening quotes does not count. -/
def dropBreak (input : List Char) : List Char :=
  match breakAt input with
  | some (_, rest) => rest
  | none => input

def opens (quote : Char) (input : List Char) : Bool := [quote, quote, quote].isPrefixOf input

def stringValue (input : List Char) : Option (List Char × List Char) :=
  if opens '"' input then multiTail input.length (dropBreak (input.drop 3))
  else if opens '\'' input then multiLiteralTail input.length (dropBreak (input.drop 3))
  else
    match input with
    | '"' :: rest => basicTail input.length rest
    | '\'' :: rest => literalTail rest
    | _ => none

/-! Numbers, booleans and dates: the values that are one word. -/

/-- Digits with single underscores between them. -/
def grouped (digit : Char → Bool) (text : List Char) : Option (List Char) :=
  let groups := text.splitOn '_'
  if groups.all (fun group => !group.isEmpty && group.all digit) then some groups.flatten else none

def natOf (base : Nat) (digits : List Char) : Nat :=
  digits.foldl (fun n c => base * n + (hexValue c).getD 0) 0

def decimal (text : List Char) : Option Nat := do
  let digits ← grouped isDigit text
  if digits.length > 1 && digits.head? = some '0' then none else some (natOf 10 digits)

def radix (base : Nat) (text : List Char) : Option Nat :=
  (grouped (fun c => (hexValue c).any (· < base)) text).map (natOf base)

def integerOf : List Char → Option Int
  | '+' :: text => (decimal text).map (fun n => (n : Int))
  | '-' :: text => (decimal text).map (fun n => -(n : Int))
  | '0' :: 'x' :: text => (radix 16 text).map (fun n => (n : Int))
  | '0' :: 'o' :: text => (radix 8 text).map (fun n => (n : Int))
  | '0' :: 'b' :: text => (radix 2 text).map (fun n => (n : Int))
  | text => (decimal text).map (fun n => (n : Int))

def unsign : List Char → List Char
  | '+' :: text => text
  | '-' :: text => text
  | text => text

def isFloat (text : List Char) : Bool :=
  let text := unsign text
  if text = ['i', 'n', 'f'] || text = ['n', 'a', 'n'] then true
  else
    let (mantissa, exponent) := text.span (fun c => c != 'e' && c != 'E')
    let (whole, fraction) := mantissa.span (· != '.')
    (decimal whole).isSome &&
      (if fraction.isEmpty then !exponent.isEmpty else (grouped isDigit fraction.tail).isSome) &&
      (exponent.isEmpty || (grouped isDigit (unsign exponent.tail)).isSome)

def daysIn (year month : Nat) : Nat :=
  if month = 2 then
    if year % 4 = 0 && (year % 100 != 0 || year % 400 = 0) then 29 else 28
  else if month = 4 || month = 6 || month = 9 || month = 11 then 30
  else 31

def isDate : List Char → Bool
  | [a, b, c, d, '-', e, f, '-', g, h] =>
    let year := natOf 10 [a, b, c, d]
    let month := natOf 10 [e, f]
    let day := natOf 10 [g, h]
    [a, b, c, d, e, f, g, h].all isDigit && 1 ≤ month && month ≤ 12 && 1 ≤ day &&
      day ≤ daysIn year month
  | _ => false

def isTime : List Char → Bool
  | a :: b :: ':' :: c :: d :: ':' :: e :: f :: fraction =>
    [a, b, c, d, e, f].all isDigit && natOf 10 [a, b] ≤ 23 && natOf 10 [c, d] ≤ 59 &&
      natOf 10 [e, f] ≤ 60 &&
      (fraction.isEmpty ||
        (fraction.head? = some '.' && !fraction.tail.isEmpty && fraction.tail.all isDigit))
  | _ => false

def isOffset : List Char → Bool
  | [c] => c = 'Z' || c = 'z'
  | [sign, a, b, ':', c, d] =>
    (sign = '+' || sign = '-') && [a, b, c, d].all isDigit && natOf 10 [a, b] ≤ 23 &&
      natOf 10 [c, d] ≤ 59
  | _ => false

/-- A date, a time, or both, in the last case possibly with an offset. -/
def isDatetime (text : List Char) : Bool :=
  let (time, offset) := (text.drop 11).span (fun c => isDigit c || c = ':' || c = '.')
  isDate text || isTime text ||
    (isDate (text.take 10) && (text.drop 10).head?.any ['T', 't', ' '].contains && isTime time &&
      (offset.isEmpty || isOffset offset))

def isWordChar (c : Char) : Bool :=
  isDigit c || ('a' ≤ c && c ≤ 'z') || ('A' ≤ c && c ≤ 'Z') ||
    ['+', '-', '_', '.', ':'].contains c

/-- The word at the front. A space may stand between a date and a time. -/
def wordAt (input : List Char) : List Char × List Char :=
  let (front, rest) := input.span isWordChar
  match rest with
  | ' ' :: c :: rest' =>
    if isDate front && isDigit c then
      let (time, rest'') := (c :: rest').span isWordChar
      (front ++ ' ' :: time, rest'')
    else (front, rest)
  | _ => (front, rest)

def wordValue (text : List Char) : Option Toml :=
  if text = ['t', 'r', 'u', 'e'] then some (.boolean true)
  else if text = ['f', 'a', 'l', 's', 'e'] then some (.boolean false)
  else
    match integerOf text with
    | some n =>
      if -9223372036854775808 ≤ n ∧ n ≤ 9223372036854775807 then some (.integer n) else none
    | none =>
      if isFloat text then some (.float (String.ofList text))
      else if isDatetime text then some (.datetime (String.ofList text))
      else none

/-! Keys. -/

def isBareKeyChar (c : Char) : Bool :=
  isDigit c || ('a' ≤ c && c ≤ 'z') || ('A' ≤ c && c ≤ 'Z') || c = '_' || c = '-'

def simpleKey : Parser String
  | '"' :: rest => (basicTail (rest.length + 1) rest).map (fun r => (String.ofList r.1, r.2))
  | '\'' :: rest => (literalTail rest).map (fun r => (String.ofList r.1, r.2))
  | input =>
    match input.span isBareKeyChar with
    | ([], _) => none
    | (front, rest) => some (String.ofList front, rest)

/-- A key with the keys that dots join to it. -/
def key : Nat → Parser (List String)
  | 0, _ => none
  | fuel + 1, input => do
    let (first, rest) ← simpleKey input
    match skipBlanks rest with
    | '.' :: rest => (key fuel (skipBlanks rest)).map (fun r => (first :: r.1, r.2))
    | _ => some ([first], rest)

/-! Tables. -/

def lookup (name : String) (ms : Members) : Option Toml := List.lookup name ms

/-- The value under a name, in place of the one there is or behind the others. -/
def put : Members → String → Toml → Members
  | [], name, v => [(name, v)]
  | (k, w) :: ms, name, v => if k = name then (name, v) :: ms else (k, w) :: put ms name v

/-- A value under a dotted key. Of the tables on the way only those that no header
has defined can take it. -/
def addKey (v : Toml) : List String → Members → Option Members
  | [], _ => none
  | [name], ms => if (lookup name ms).isNone then some (put ms name v) else none
  | name :: path, ms =>
    match lookup name ms with
    | none => (addKey v path []).map (fun inner => put ms name (.table .dotted inner))
    | some (.table .implicit inner) =>
      (addKey v path inner).map (fun inner => put ms name (.table .dotted inner))
    | some (.table .dotted inner) =>
      (addKey v path inner).map (fun inner => put ms name (.table .dotted inner))
    | some _ => none

/-- What a table header does to its last name: a table is defined once. -/
def openTable (name : String) (ms : Members) : Option Members :=
  match lookup name ms with
  | none => some (put ms name (.table .header []))
  | some (.table .implicit inner) => some (put ms name (.table .header inner))
  | some _ => none

/-- What the header of an array element does to its last name. -/
def openElement (name : String) (ms : Members) : Option Members :=
  match lookup name ms with
  | none => some (put ms name (.tables [] []))
  | some (.tables latest earlier) => some (put ms name (.tables [] (latest :: earlier)))
  | some _ => none

/-- A header, from the table its path starts in. -/
def alongHeader (last : String → Members → Option Members) :
    List String → Members → Option Members
  | [], _ => none
  | [name], ms => last name ms
  | name :: path, ms =>
    match lookup name ms with
    | none => (alongHeader last path []).map (fun inner => put ms name (.table .implicit inner))
    | some (.table .inline _) => none
    | some (.table origin inner) =>
      (alongHeader last path inner).map (fun inner => put ms name (.table origin inner))
    | some (.tables latest earlier) =>
      (alongHeader last path latest).map (fun latest => put ms name (.tables latest earlier))
    | some _ => none

/-- A change of the table that a header has opened. -/
def inTable (change : Members → Option Members) : List String → Members → Option Members
  | [], ms => change ms
  | name :: path, ms =>
    match lookup name ms with
    | some (.table origin inner) =>
      (inTable change path inner).map (fun inner => put ms name (.table origin inner))
    | some (.tables latest earlier) =>
      (inTable change path latest).map (fun latest => put ms name (.tables latest earlier))
    | _ => none

/-! Values and lines. -/

/-- A key and its value, for a way to read the value. -/
def keyValue (readValue : Parser Toml) (fuel : Nat) (input : List Char) :
    Option ((List String × Toml) × List Char) := do
  let (path, rest) ← key fuel input
  match skipBlanks rest with
  | '=' :: rest => (readValue (skipBlanks rest)).map (fun r => ((path, r.1), r.2))
  | _ => none

mutual
def value : Nat → Parser Toml
  | 0, _ => none
  | fuel + 1, input =>
    match input with
    | '"' :: _ => (stringValue input).map (fun r => (.string (String.ofList r.1), r.2))
    | '\'' :: _ => (stringValue input).map (fun r => (.string (String.ofList r.1), r.2))
    | '[' :: rest => (items fuel rest).map (fun r => (.array r.1, r.2))
    | '{' :: rest =>
      match skipBlanks rest with
      | '}' :: rest => some (.table .inline [], rest)
      | rest => (inlineMembers fuel [] rest).map (fun r => (.table .inline r.1, r.2))
    | _ => (wordValue (wordAt input).1).map (·, (wordAt input).2)

/-- The items up to the closing bracket. -/
def items : Nat → Parser (List Toml)
  | 0, _ => none
  | fuel + 1, input => do
    let input ← skipLines (input.length + 1) input
    match input with
    | ']' :: rest => some ([], rest)
    | _ => do
      let (item, rest) ← value fuel input
      match ← skipLines (rest.length + 1) rest with
      | ',' :: rest => (items fuel rest).map (fun r => (item :: r.1, r.2))
      | ']' :: rest => some ([item], rest)
      | _ => none

/-- The members of an inline table up to the closing brace. -/
def inlineMembers : Nat → Members → Parser Members
  | 0, _, _ => none
  | fuel + 1, ms, input => do
    let ((path, v), rest) ← keyValue (value fuel) fuel (skipBlanks input)
    let ms ← addKey v path ms
    match skipBlanks rest with
    | ',' :: rest => inlineMembers fuel ms rest
    | '}' :: rest => some (ms, rest)
    | _ => none
end

/-- What a line can say. -/
inductive Line where
  | keyValue (path : List String) (v : Toml)
  | tableHeader (path : List String)
  | elementHeader (path : List String)

/-- A header or a key with its value, at the front of the input. -/
def line (fuel : Nat) (input : List Char) : Option (Line × List Char) :=
  match input with
  | '[' :: '[' :: rest => do
    let (path, rest) ← key fuel (skipBlanks rest)
    match skipBlanks rest with
    | ']' :: ']' :: rest => some (.elementHeader path, rest)
    | _ => none
  | '[' :: rest => do
    let (path, rest) ← key fuel (skipBlanks rest)
    match skipBlanks rest with
    | ']' :: rest => some (.tableHeader path, rest)
    | _ => none
  | _ => (keyValue (value fuel) fuel input).map (fun r => (.keyValue r.1.1 r.1.2, r.2))

/-- The lines of the document, without those that say nothing. -/
def lines (words : Nat) : Nat → List Char → Option (List Line)
  | 0, _ => none
  | fuel + 1, input =>
    match skipBlanks input with
    | [] => some []
    | c :: rest =>
      if c = '#' || c = '\n' || c = '\r' then (lineEnd (c :: rest)).bind (lines words fuel)
      else do
        let (first, rest) ← line words (c :: rest)
        let rest ← lineEnd rest
        (lines words fuel rest).map (first :: ·)

/-- The document so far and the path of the table that is open. -/
structure State where
  root : Members := []
  current : List String := []

def State.step (self : State) : Line → Option State
  | .keyValue path v =>
    (inTable (addKey v path) self.current self.root).map (fun root => { self with root })
  | .tableHeader path => (alongHeader openTable path self.root).map (fun root => ⟨root, path⟩)
  | .elementHeader path => (alongHeader openElement path self.root).map (fun root => ⟨root, path⟩)

/-- The document a text is, if it is one. -/
def parse (text : String) : Option Members := do
  let lines ← lines (2 * text.length + 2) (text.length + 1) text.toList
  let final ← lines.foldlM State.step {}
  some final.root

example : parse "[a.b]\nx = [1, 'y', { z = true }] # kept\n[[c]]\n" =
    some [("a", .table .implicit [("b", .table .header
        [("x", .array [.integer 1, .string "y", .table .inline [("z", .boolean true)]])])]),
      ("c", .tables [] [])] := by
  cbv

-- a quote in the text ends the string, and a table is not opened twice
example : parse "level = \"info\"\nroot = \"/tmp\"\n" =
    some [("level", .string "info"), ("root", .string "/tmp")] := by
  cbv

example : parse "[server]\nlevel = \"info\"\n[server]\n" = none := by
  cbv

end Toml

end StreamlineOperator.Foundation
