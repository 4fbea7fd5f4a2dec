/- source: general support, no source file
   digest: Reading a JSON text: strings with their escapes, numbers, arrays and objects. -/

import StreamlineOperator.Foundation.Json

set_option autoImplicit false
set_option relaxedAutoImplicit false

namespace StreamlineOperator.Foundation

namespace Json

def skipSpace (input : List Char) : List Char :=
  input.dropWhile (fun c => c = ' ' || c = '\t' || c = '\n' || c = '\r')

def escaped : Char → Option Char
  | '"' => some '"'
  | '\\' => some '\\'
  | '/' => some '/'
  | 'b' => some '\x08'
  | 'f' => some '\x0c'
  | 'n' => some '\n'
  | 'r' => some '\r'
  | 't' => some '\t'
  | _ => none

/-- What follows the opening quote of a string. A character beyond the basic plane
is written as two surrogates. -/
def stringTail : Parser (List Char)
  | [] => none
  | '"' :: rest => some ([], rest)
  | '\\' :: 'u' :: a :: b :: c :: d :: '\\' :: 'u' :: a' :: b' :: c' :: d' :: rest => do
    let high ← hexNumber [a, b, c, d]
    if 0xD800 ≤ high ∧ high < 0xDC00 then
      let low ← hexNumber [a', b', c', d']
      if 0xDC00 ≤ low ∧ low < 0xE000 then
        let char ← scalar (0x10000 + (high - 0xD800) * 0x400 + (low - 0xDC00))
        let (tail, rest) ← stringTail rest
        some (char :: tail, rest)
      else none
    else
      let char ← scalar high
      let (tail, rest) ← stringTail ('\\' :: 'u' :: a' :: b' :: c' :: d' :: rest)
      some (char :: tail, rest)
  | '\\' :: 'u' :: a :: b :: c :: d :: rest => do
    let char ← scalar (← hexNumber [a, b, c, d])
    let (tail, rest) ← stringTail rest
    some (char :: tail, rest)
  | '\\' :: c :: rest => do
    let char ← escaped c
    let (tail, rest) ← stringTail rest
    some (char :: tail, rest)
  | c :: rest => do
    if c.toNat < 0x20 then none
    else
      let (tail, rest) ← stringTail rest
      some (c :: tail, rest)

/-- The digits at the front, of which there has to be one. -/
def digits (input : List Char) : Option (List Char × List Char) :=
  match input.span isDigit with
  | ([], _) => none
  | (front, rest) => some (front, rest)

/-- The fraction or the exponent at the front, if there is one. -/
def fraction : Parser (List Char)
  | '.' :: rest => do
    let (front, rest) ← digits rest
    some ('.' :: front, rest)
  | rest => some ([], rest)

def exponent : Parser (List Char)
  | e :: rest =>
    if e = 'e' ∨ e = 'E' then do
      let (sign, rest) := match rest with
        | '+' :: rest => (['+'], rest)
        | '-' :: rest => (['-'], rest)
        | rest => ([], rest)
      let (front, rest) ← digits rest
      some (e :: sign ++ front, rest)
    else some ([], e :: rest)
  | [] => some ([], [])

/-- An unsigned number: an integer unless it has a fraction or an exponent. -/
def unsigned (negative : Bool) (input : List Char) : Option (JsonNumber × List Char) := do
  let (integer, rest) ← digits input
  if integer.head? = some '0' ∧ integer ≠ ['0'] then none
  else
    let (fractional, rest) ← fraction rest
    let (power, rest) ← exponent rest
    let magnitude := integer.foldl (fun n c => 10 * n + (c.toNat - '0'.toNat)) 0
    let text := String.ofList (integer ++ fractional ++ power)
    if fractional.isEmpty && power.isEmpty && !(negative && magnitude = 0) then
      some (.int (if negative then -(magnitude : Int) else magnitude), rest)
    else some (.other (if negative then "-" ++ text else text), rest)

def number : Parser JsonNumber
  | '-' :: rest => unsigned true rest
  | rest => unsigned false rest

/-- A member in front of others. Of two members with one name the later one counts. -/
def addMember (name : String) (value : Json) (rest : Members) : Members :=
  if (rest.lookup name).isSome then rest else (name, value) :: rest

mutual
/-- A value. The fuel bounds the values and separators ahead. -/
def value : Nat → Parser Json
  | 0, _ => none
  | fuel + 1, input =>
    match skipSpace input with
    | 'n' :: 'u' :: 'l' :: 'l' :: rest => some (.null, rest)
    | 't' :: 'r' :: 'u' :: 'e' :: rest => some (.bool true, rest)
    | 'f' :: 'a' :: 'l' :: 's' :: 'e' :: rest => some (.bool false, rest)
    | '"' :: rest => (stringTail rest).map (fun r => (.str (String.ofList r.1), r.2))
    | '[' :: rest =>
      match skipSpace rest with
      | ']' :: rest => some (.arr [], rest)
      | rest => (items fuel rest).map (fun r => (.arr r.1, r.2))
    | '{' :: rest =>
      match skipSpace rest with
      | '}' :: rest => some (.obj [], rest)
      | rest => (objectMembers fuel rest).map (fun r => (.obj r.1, r.2))
    | rest => (number rest).map (fun r => (.num r.1, r.2))

/-- The items up to the closing bracket. -/
def items : Nat → Parser (List Json)
  | 0, _ => none
  | fuel + 1, input => do
    let (item, rest) ← value fuel input
    match skipSpace rest with
    | ',' :: rest => (items fuel rest).map (fun r => (item :: r.1, r.2))
    | ']' :: rest => some ([item], rest)
    | _ => none

/-- The members up to the closing brace. -/
def objectMembers : Nat → Parser Members
  | 0, _ => none
  | fuel + 1, input =>
    match skipSpace input with
    | '"' :: rest => do
      let (name, rest) ← stringTail rest
      match skipSpace rest with
      | ':' :: rest => do
        let (item, rest) ← value fuel rest
        match skipSpace rest with
        | ',' :: rest =>
          (objectMembers fuel rest).map (fun r => (addMember (String.ofList name) item r.1, r.2))
        | '}' :: rest => some ([(String.ofList name, item)], rest)
        | _ => none
      | _ => none
    | _ => none
end

/-- The document a text is, if it is one. -/
def parse (text : String) : Option Json :=
  match value (text.length + 1) text.toList with
  | some (document, rest) => if (skipSpace rest).isEmpty then some document else none
  | none => none

end Json

end StreamlineOperator.Foundation
