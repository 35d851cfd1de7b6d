import LineCalculator.Text.CodePoint

/-!
# Printable text

A diagnostic repeats what the user typed on the command line, and that may
hold characters which a terminal obeys instead of showing.  `printable` keeps
what a terminal would show: it drops control characters that lay out nothing,
and the escape sequences, which run from an escape character to their own end.

A layout character may stand inside a sequence.  It is shown, and so is the
text right behind it; the sequence goes on at the next character that is not
shown.  A character beyond ASCII in such text ends the sequence.
-/

namespace LineCalculator

/-- Where a reader of terminal text stands: in plain text, behind an escape
character, behind an escape character and intermediate characters, in a
control sequence, in an operating system command, in one of the three parts
of a device header, or in a message. -/
inductive TerminalMode where
  | plain
  | escape
  | intermediate
  | control
  | command
  | device
  | deviceParameters
  | deviceIntermediate
  | message
  deriving DecidableEq, Repr

/-- The control characters that lay out text. -/
def isLayout (c : Char) : Bool :=
  c == '\t' || c == '\n' || c == '\x0c' || c == '\r'

/-- The byte that ends a message.  It counts as a byte: the encoding of some
other character may hold it. -/
def messageEnd : UInt8 := 0x9C

namespace TerminalMode

/-- The mode behind a character that follows an escape character. -/
def afterEscape (c : Char) : TerminalMode :=
  if c = '[' then .control
  else if c = ']' then .command
  else if c = 'P' then .device
  else if c = 'X' ∨ c = '^' ∨ c = '_' then .message
  else if isWithin 0x20 0x2F c then .intermediate
  else if isWithin 0x30 0x7E c then .plain
  else .escape

/-- The mode behind a character that is not shown.  An escape character starts
a new sequence from any mode, and the characters cancel and substitute end
every sequence. -/
def next (mode : TerminalMode) (c : Char) : TerminalMode :=
  if c = '\x1b' then .escape
  else if c = '\x18' ∨ c = '\x1a' then .plain
  else match mode with
    | .plain => .plain
    | .escape => afterEscape c
    | .intermediate => if isWithin 0x30 0x7E c then .plain else .intermediate
    | .control => if isWithin 0x40 0x7E c then .plain else .control
    | .command => if c = '\x07' then .plain else .command
    | .device =>
        if isWithin 0x20 0x2F c then .deviceIntermediate
        else if isWithin 0x30 0x3F c then .deviceParameters
        else if isWithin 0x40 0x7E c then .message
        else .device
    | .deviceParameters =>
        if isWithin 0x20 0x2F c then .deviceIntermediate
        else if isWithin 0x3C 0x7E c then .message
        else .deviceParameters
    | .deviceIntermediate =>
        if isWithin 0x30 0x7E c then .message else .deviceIntermediate
    | .message =>
        if messageEnd ∈ String.utf8EncodeChar c then .plain else .message

def shows (mode : TerminalMode) (c : Char) : Bool :=
  match mode with
  | .plain => isLayout c || isWithin 0x20 0x7E c || !isAscii c
  | .escape | .intermediate | .control => isLayout c
  | .command | .device | .deviceParameters | .deviceIntermediate | .message =>
      false

end TerminalMode

/-- What is shown of a text that is read from `mode` on; `continued` says that
the character in front of it was shown. -/
def printableFrom (mode : TerminalMode) (continued : Bool) :
    List Char → List Char
  | [] => []
  | c :: rest =>
      let reader := if continued then .plain else mode
      if reader.shows c then
        c :: printableFrom (if isAscii c then mode else .plain) true rest
      else printableFrom (mode.next c) false rest

def printable (text : String) : String :=
  String.ofList (printableFrom .plain false text.toList)

end LineCalculator
