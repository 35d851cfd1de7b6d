import LineCalculator.Text.Hidden

/-!
# Quoted text in diagnostics

A diagnostic shows a line between double quotes and a single character between
single quotes.  The backslash, the enclosing quote and a few control characters
are written as a backslash and one character more.  Every other character that
would be hidden is written by its number.
-/

namespace LineCalculator

def escapeMark : Char := '\\'

/-- The character behind the backslash, if one stands for `c` there. -/
def escapeLetter? (quote c : Char) : Option Char :=
  if c = quote ∨ c = escapeMark then some c
  else if c = '\x00' then some '0'
  else if c = '\t' then some 't'
  else if c = '\n' then some 'n'
  else if c = '\r' then some 'r'
  else none

/-- A character by its number, in hexadecimal between braces. -/
def numericEscape (c : Char) : List Char :=
  escapeMark :: 'u' :: '\x7b' :: Nat.toDigits 16 c.toNat ++ ['\x7d']

/-- How `c` is written between two copies of `quote`. -/
def escaped (quote c : Char) : List Char :=
  match escapeLetter? quote c with
  | some letter => [escapeMark, letter]
  | none => if isHidden c then numericEscape c else [c]

def quoted (quote : Char) (text : List Char) : String :=
  String.ofList (quote :: text.flatMap (escaped quote) ++ [quote])

def quotedText (text : String) : String :=
  quoted '"' text.toList

def quotedChar (c : Char) : String :=
  quoted '\'' [c]

end LineCalculator
