import RepeatScan.Text.Decimal
import RepeatScan.Text.Hex
import RepeatScan.Text.Utf8

set_option autoImplicit false

/-! The tokens of a JSON text. Where the text is not JSON the last token says how it breaks off, both
for a reader that needs the value and for one that only skips it: skipping does not care about
escapes that stand for half a character, nor where the digits of a number break off. -/

namespace RepeatScan.Json

/-- Why a text breaks off: it ends too early, or it is no JSON. -/
inductive Cause where
  | early
  | wrong
  deriving DecidableEq, Repr

/-- Why a text breaks off, for a reader that needs the value and for one that skips it. -/
structure Break where
  strict : Cause
  lenient : Cause
  deriving DecidableEq, Repr

/-- A number as it is written; an exponent says whether it is negative. -/
structure Numeral where
  negative : Bool
  whole : Text
  fraction : Option Text
  exponent : Option (Bool × Text)
  deriving DecidableEq, Repr

/-- A token. A string has no content when it holds half a character, and a broken token says whether
it started as a string. -/
inductive Token where
  | openArray
  | closeArray
  | openObject
  | closeObject
  | colon
  | comma
  | null
  | bool (value : Bool)
  | number (numeral : Numeral)
  | string (content : Option Text)
  | broken (asString : Bool) (cause : Break)
  deriving DecidableEq, Repr

/-- A string that is being read: its characters (last one first), the first half of a character that
waits for the second, and whether all escapes so far stand for whole characters. -/
structure OpenString where
  content : Text
  half : Option Nat
  whole : Bool
  deriving DecidableEq, Repr

/-- What a text is in the middle of. -/
inductive Reading where
  | between
  | word (left : Text) (token : Token)
  | sign
  | whole (negative : Bool) (digits : Text)
  | point (negative : Bool) (whole : Text)
  | fraction (negative : Bool) (whole digits : Text)
  | mark (numeral : Numeral)
  | markSign (numeral : Numeral) (negative : Bool)
  | power (numeral : Numeral) (negative : Bool) (digits : Text)
  | string (content : OpenString)
  | escape (content : OpenString)
  | hex (content : OpenString) (count value : Nat)
  | stopped
  deriving DecidableEq, Repr

namespace OpenString

def start : OpenString := ⟨[], none, true⟩

/-- The string with one more character; a half that waits stays alone. -/
def add (open_ : OpenString) (character : Char) : OpenString :=
  ⟨character :: open_.content, none, open_.whole && open_.half.isNone⟩

/-- The string with one more escape by a unit of 16 bits. -/
def addUnit (open_ : OpenString) (unit : Nat) : OpenString :=
  let isFirst := 0xD800 ≤ unit && unit ≤ 0xDBFF
  let isSecond := 0xDC00 ≤ unit && unit ≤ 0xDFFF
  match open_.half with
  | some first =>
      if isSecond then
        ⟨Char.ofNat (0x10000 + (first - 0xD800) * 0x400 + (unit - 0xDC00)) :: open_.content, none,
          open_.whole⟩
      else ⟨open_.content, none, false⟩
  | none =>
      if isFirst then ⟨open_.content, some unit, open_.whole⟩
      else if isSecond then ⟨open_.content, none, false⟩
      else open_.add (Char.ofNat unit)

def token (open_ : OpenString) : Token :=
  .string (if open_.whole && open_.half.isNone then some open_.content.reverse else none)

/-- How a string breaks off: half a character before that place goes first when the value is
needed. -/
def breakOff (open_ : OpenString) (cause : Cause) : Token :=
  .broken true ⟨if open_.whole then cause else .wrong, cause⟩

end OpenString

def stray : Token := .broken false ⟨.wrong, .wrong⟩

def shortEscape? (character : Char) : Option Char :=
  if character = '"' ∨ character = '\\' ∨ character = '/' then some character
  else if character = 'b' then some '\x08'
  else if character = 'f' then some '\x0c'
  else if character = 'n' then some '\n'
  else if character = 'r' then some '\r'
  else if character = 't' then some '\t'
  else none

def isBlank (character : Char) : Bool :=
  character = ' ' || character = '\n' || character = '\t' || character = '\r'

/-- What a character starts, behind the tokens already read (last one first). -/
def begin (tokens : List Token) (character : Char) : Reading × List Token :=
  if isBlank character then (.between, tokens)
  else if character = '[' then (.between, .openArray :: tokens)
  else if character = ']' then (.between, .closeArray :: tokens)
  else if character = '{' then (.between, .openObject :: tokens)
  else if character = '}' then (.between, .closeObject :: tokens)
  else if character = ':' then (.between, .colon :: tokens)
  else if character = ',' then (.between, .comma :: tokens)
  else if character = '"' then (.string .start, tokens)
  else if character = '-' then (.sign, tokens)
  else if character.isDigit then (.whole false [character], tokens)
  else if character = 'n' then (.word ['u', 'l', 'l'] .null, tokens)
  else if character = 't' then (.word ['r', 'u', 'e'] (.bool true), tokens)
  else if character = 'f' then (.word ['a', 'l', 's', 'e'] (.bool false), tokens)
  else (.stopped, stray :: tokens)

/-- What a number is followed by: an exponent, or whatever the next character starts. -/
def afterNumber (tokens : List Token) (numeral : Numeral) (character : Char) :
    Reading × List Token :=
  if character = 'e' ∨ character = 'E' then (.mark numeral, tokens)
  else begin (.number numeral :: tokens) character

/-- The number of bytes of the next four characters, at least four if there are as many. -/
def bytesAhead (rest : Text) : Nat :=
  Utf8.byteLength (rest.take 4)

/-- Goes on by a character, with what follows it in sight. -/
def advance (tokens : List Token) (character : Char) (rest : Text) : Reading → Reading × List Token
  | .between => begin tokens character
  | .word left token =>
      if left.head? = some character then
        if left.tail.isEmpty then (.between, token :: tokens) else (.word left.tail token, tokens)
      else (.stopped, stray :: tokens)
  | .sign =>
      if character.isDigit then (.whole true [character], tokens) else (.stopped, stray :: tokens)
  | .whole negative digits =>
      if character.isDigit then
        if digits = ['0'] then (.stopped, stray :: tokens)
        else (.whole negative (character :: digits), tokens)
      else if character = '.' then (.point negative digits.reverse, tokens)
      else afterNumber tokens ⟨negative, digits.reverse, none, none⟩ character
  | .point negative whole =>
      if character.isDigit then (.fraction negative whole [character], tokens)
      else (.stopped, stray :: tokens)
  | .fraction negative whole digits =>
      if character.isDigit then (.fraction negative whole (character :: digits), tokens)
      else afterNumber tokens ⟨negative, whole, some digits.reverse, none⟩ character
  | .mark numeral =>
      if character = '+' then (.markSign numeral false, tokens)
      else if character = '-' then (.markSign numeral true, tokens)
      else if character.isDigit then (.power numeral false [character], tokens)
      else (.stopped, stray :: tokens)
  | .markSign numeral negative =>
      if character.isDigit then (.power numeral negative [character], tokens)
      else (.stopped, stray :: tokens)
  | .power numeral negative digits =>
      if character.isDigit then (.power numeral negative (character :: digits), tokens)
      else begin (.number { numeral with exponent := some (negative, digits.reverse) } :: tokens)
        character
  | .string content =>
      if character = '"' then (.between, content.token :: tokens)
      else if character = '\\' then (.escape content, tokens)
      else if character.toNat < 0x20 then (.stopped, content.breakOff .wrong :: tokens)
      else (.string (content.add character), tokens)
  | .escape content =>
      if character = 'u' then
        if bytesAhead rest < 4 then (.stopped, content.breakOff .early :: tokens)
        else (.hex content 0 0, tokens)
      else match shortEscape? character with
        | some meant => (.string (content.add meant), tokens)
        | none => (.stopped, content.breakOff .wrong :: tokens)
  | .hex content count value =>
      match Text.hexValue? character with
      | none => (.stopped, content.breakOff .wrong :: tokens)
      | some digit =>
          if count = 3 then (.string (content.addUnit (value * 16 + digit)), tokens)
          else (.hex content (count + 1) (value * 16 + digit), tokens)
  | .stopped => (.stopped, tokens)

def finish (tokens : List Token) : Reading → List Token
  | .between => tokens.reverse
  | .word _ _ => (.broken false ⟨.early, .early⟩ :: tokens).reverse
  | .sign => (.broken false ⟨.early, .wrong⟩ :: tokens).reverse
  | .whole negative digits => (.number ⟨negative, digits.reverse, none, none⟩ :: tokens).reverse
  | .point _ _ => (.broken false ⟨.early, .wrong⟩ :: tokens).reverse
  | .fraction negative whole digits =>
      (.number ⟨negative, whole, some digits.reverse, none⟩ :: tokens).reverse
  | .mark _ => (.broken false ⟨.early, .wrong⟩ :: tokens).reverse
  | .markSign _ _ => (.broken false ⟨.early, .wrong⟩ :: tokens).reverse
  | .power numeral negative digits =>
      (.number { numeral with exponent := some (negative, digits.reverse) } :: tokens).reverse
  | .string content => (content.breakOff .early :: tokens).reverse
  | .escape content => (content.breakOff .early :: tokens).reverse
  | .hex content _ _ => (content.breakOff .early :: tokens).reverse
  | .stopped => tokens.reverse

/-- The tokens from here on, behind those already read (last one first). -/
def tokensFrom (reading : Reading) (tokens : List Token) : Text → List Token
  | [] => finish tokens reading
  | character :: rest =>
      let next := advance tokens character rest reading
      tokensFrom next.1 next.2 rest

def tokens (text : Text) : List Token :=
  tokensFrom .between [] text

namespace Numeral

/-- The number that is written, if it is a natural number of 64 bits without sign, fraction and
exponent. -/
def natural? (numeral : Numeral) : Option Nat :=
  if numeral.negative || numeral.fraction.isSome || numeral.exponent.isSome then none
  else
    let value := Text.digitsFrom 0 numeral.whole
    if value < UInt64.size then some value else none

end Numeral

end RepeatScan.Json
