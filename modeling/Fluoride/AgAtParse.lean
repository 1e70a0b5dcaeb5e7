import Mathlib.Data.List.Basic

/-!
# The audio gateway's AT command parser

`bta_ag_at_parse` (`bta/ag/bta_ag_at.cc`) collects the characters a hands-free
unit sends into a command buffer of `cmd_max_len` bytes, across calls. A
carriage return or line feed ends a line; a line of more than two characters
that starts with `AT` is handed, after the `AT`, to `bta_ag_process_at`, which
looks the command up in the AT table (`utl_strucmp`, a case-insensitive prefix
match), classifies its argument and checks an integer argument against the
table's range (`utl_str2int`). The abort characters `0x1A` and `0x1B` report
the buffer as an error.

Parsing is a left fold over the characters, so the callbacks depend only on the
byte stream and not on how it is cut into calls (`btaAgAtParse_append`). When
a line reaches `cmd_max_len - 1` characters before its end, the parser starts
the buffer again and goes on from the middle of the line: the tail of an
over-long line is parsed as a command of its own
(`atParse_overlongLineTail`).

Characters are the bytes the unit sends. The model returns none for a
`cmd_max_len` below 2, for which the loop never ends.
-/

namespace Fluoride.AgAtParse

/-! ## The table and the callbacks -/

/-- The argument types of a table entry and of a command (`BTA_AG_AT_*`). -/
def btaAgAtNone : Nat := 0x01
def btaAgAtSet : Nat := 0x02
def btaAgAtRead : Nat := 0x04
def btaAgAtTest : Nat := 0x08
def btaAgAtFree : Nat := 0x10

/-- The argument formats. -/
def btaAgAtStr : Nat := 0
def btaAgAtInt : Nat := 1

/-- `tBTA_AG_AT_CMD`: the command text, the id handed to the callback, the
argument types it takes, the format, and the range of an integer argument
(`uint8_t min`, `int16_t max`). -/
structure AtCmd where
  pCmd : List Char
  commandId : Nat
  argType : Nat
  fmt : Nat
  min : Nat
  max : Int
  deriving DecidableEq, Repr

/-- A callback of the parser: `p_cmd_cback` with the command id, the argument
type, the argument text and the integer argument; or `p_err_cback` with whether
the command is unknown and the text it is given (empty for `nullptr`). -/
inductive AtEvent
  | cmd (commandId argType : Nat) (arg : List Char) (intArg : Int)
  | err (unknown : Bool) (text : List Char)
  deriving DecidableEq, Repr

def btaAgSpkEvt : Nat := 7
def btaAgMicEvt : Nat := 8
def btaAgAtCkpdEvt : Nat := 9

/-- `bta_ag_hsp_cmd`, the table of the headset profile (without its end
marker). -/
def btaAgHspCmd : List AtCmd :=
  [⟨"+CKPD".toList, btaAgAtCkpdEvt, btaAgAtSet, btaAgAtInt, 200, 200⟩,
    ⟨"+VGS".toList, btaAgSpkEvt, btaAgAtSet, btaAgAtInt, 0, 15⟩,
    ⟨"+VGM".toList, btaAgMicEvt, btaAgAtSet, btaAgAtInt, 0, 15⟩]

/-- `BTA_AG_CMD_MAX`, the `cmd_max_len` of the audio gateway. -/
def btaAgCmdMax : Nat := 512

/-! ## `utl_strucmp` and `utl_str2int` -/

/-- The upper case of a lower-case letter, as `c -= 0x20`. -/
def toUpper (c : Char) : Char :=
  if 'a' ≤ c ∧ c ≤ 'z' then Char.ofNat (c.toNat - 0x20) else c

/-- `utl_strucmp(p_s, p_t)`: 0 when `p_s` ends first or both end together with
every character of `p_s` equal to the upper case of `p_t`'s; -1 at the first
difference; 1 when `p_t` ends first. -/
def utlStrucmp : List Char → List Char → Int
  | s :: ss, t :: ts => if s ≠ toUpper t then -1 else utlStrucmp ss ts
  | [], _ => 0
  | _ :: _, [] => 1

/-- The digit loop of `utl_str2int`: -1 at a character that is no digit or once
the value passes 32767. -/
def str2intDigits (value : Int) : List Char → Int
  | [] => value
  | c :: cs =>
    if c < '0' ∨ c > '9' then -1
    else
      let value := value + (c.toNat - '0'.toNat)
      if value > 32767 then -1
      else if cs = [] then value
      else str2intDigits (value * 10) cs

/-- `utl_str2int`: leading spaces skipped, -1 for nothing left. -/
def utlStr2int (text : List Char) : Int :=
  match text.dropWhile (· = ' ') with
  | [] => -1
  | digits => str2intDigits 0 digits

/-! ## `bta_ag_process_at` -/

/-- The argument type of the text after a command, and the argument passed:
none, `?` (read), `=?` (test), `=` and more (set, after the `=`), or free. -/
def classifyArg (arg : List Char) : Nat × List Char :=
  match arg with
  | [] => (btaAgAtNone, arg)
  | ['?'] => (btaAgAtRead, arg)
  | '=' :: rest@(_ :: _) => if rest = ['?'] then (btaAgAtTest, arg) else (btaAgAtSet, rest)
  | _ => (btaAgAtFree, arg)

/-- The cast `(int16_t)` of a table's `uint8_t` minimum. -/
def int16OfUint8 (value : Nat) : Int := value % 256

/-- `bta_ag_process_at` on the command after `AT`, up to its terminating NUL:
the first table entry that is a prefix of it, then the argument checks. The
check `p_arg > p_end` never fires: the entry is a prefix of the command. -/
def btaAgProcessAt (tbl : List AtCmd) (cmd : List Char) : List AtEvent :=
  match tbl.find? (fun entry => utlStrucmp entry.pCmd cmd = 0) with
  | none => [.err true cmd]
  | some entry =>
    let (argType, arg) := classifyArg (cmd.drop entry.pCmd.length)
    if argType &&& entry.argType ≠ 0 then
      if argType = btaAgAtSet ∧ entry.fmt = btaAgAtInt then
        let intArg := utlStr2int arg
        if intArg < int16OfUint8 entry.min ∨ intArg > entry.max then [.err false []]
        else [.cmd entry.commandId argType arg intArg]
      else [.cmd entry.commandId argType arg 0]
    else [.err false []]

/-! ## `bta_ag_at_parse` -/

/-- The C string in the command buffer: the characters up to the first NUL. -/
def cString (buffer : List Char) : List Char :=
  buffer.takeWhile (· ≠ '\x00')

/-- A line ends at a carriage return or a line feed. -/
def isLineEnd (c : Char) : Bool :=
  c = '\r' || c = '\n'

/-- What one character does to the buffer `p_cmd_buf[0 .. cmd_pos)`: the
callbacks, and the buffer after it. A NUL before the first character is
skipped; a line end dispatches an `AT` line; an abort character reports the
buffer. -/
def atChar (tbl : List AtCmd) (buffer : List Char) (c : Char) : List AtEvent × List Char :=
  if buffer = [] ∧ c = '\x00' then ([], buffer)
  else if isLineEnd c then
    match buffer with
    | first :: second :: rest@(_ :: _) =>
      if (first = 'A' ∨ first = 'a') ∧ (second = 'T' ∨ second = 't') then
        (btaAgProcessAt tbl (cString rest), [])
      else ([], [])
    | _ => ([], [])
  else if c = '\x1A' ∨ c = '\x1B' then ([.err true (cString (buffer ++ [c]))], [])
  else ([], buffer ++ [c])

/-- The loops of `bta_ag_at_parse` over the characters of one call, from the
buffer the last call left. A full buffer (`cmd_pos == cmd_max_len - 1`) with
characters left is started again (`if (i < len) p_cb->cmd_pos = 0`). -/
def atParseLoop (tbl : List AtCmd) (cmdMaxLen : Nat) : List Char → List Char → List AtEvent × List Char
  | [], buffer => ([], buffer)
  | c :: rest, buffer =>
    let buffer := if buffer.length < cmdMaxLen - 1 then buffer else []
    let (now, buffer) := atChar tbl buffer c
    let (later, buffer) := atParseLoop tbl cmdMaxLen rest buffer
    (now ++ later, buffer)

/-- `bta_ag_at_parse(p_cb, p_buf, len)`: the callbacks and the buffer left. None
where the loop never ends. -/
def btaAgAtParse (tbl : List AtCmd) (cmdMaxLen : Nat) (buffer chunk : List Char) :
    Option (List AtEvent × List Char) :=
  if cmdMaxLen < 2 ∧ chunk ≠ [] then none else some (atParseLoop tbl cmdMaxLen chunk buffer)

/-! ## Chunks -/

/-- **The parser is a fold over the characters.** Parsing two pieces one after
the other gives the callbacks of parsing them in one call. -/
theorem atParseLoop_append (tbl : List AtCmd) (cmdMaxLen : Nat) (first second buffer : List Char) :
    atParseLoop tbl cmdMaxLen (first ++ second) buffer =
      ((atParseLoop tbl cmdMaxLen first buffer).1 ++
          (atParseLoop tbl cmdMaxLen second (atParseLoop tbl cmdMaxLen first buffer).2).1,
        (atParseLoop tbl cmdMaxLen second (atParseLoop tbl cmdMaxLen first buffer).2).2) := by
  induction first generalizing buffer with
  | nil => rfl
  | cons c rest inductionHypothesis =>
    simp only [List.cons_append, atParseLoop, inductionHypothesis, List.append_assoc]

/-- **The callbacks depend on the byte stream only.** For a buffer length of 2
or more, two calls on the pieces of a stream give the callbacks and the buffer
of one call on the whole stream. -/
theorem btaAgAtParse_append (tbl : List AtCmd) (cmdMaxLen : Nat) (roomy : 2 ≤ cmdMaxLen)
    (buffer first second : List Char) (firstEvents secondEvents : List AtEvent) (middle last : List Char)
    (parsedFirst : btaAgAtParse tbl cmdMaxLen buffer first = some (firstEvents, middle))
    (parsedSecond : btaAgAtParse tbl cmdMaxLen middle second = some (secondEvents, last)) :
    btaAgAtParse tbl cmdMaxLen buffer (first ++ second) = some (firstEvents ++ secondEvents, last) := by
  have terminates : ¬(cmdMaxLen < 2 ∧ first ++ second ≠ []) := fun short => absurd short.1 (by omega)
  simp only [btaAgAtParse, show ¬(cmdMaxLen < 2) by omega, false_and, if_false, Option.some.injEq]
    at parsedFirst parsedSecond
  rw [btaAgAtParse, if_neg terminates, atParseLoop_append, parsedFirst, parsedSecond]

/-! ## An over-long line -/

/-- **The tail of an over-long line is a command.** With the audio gateway's
buffer of 512 bytes, one line of 511 characters `X` followed by `AT+VGS=5` is
longer than any line the buffer holds, yet the parser sets the speaker volume
to 5 from its tail. -/
theorem atParse_overlongLineTail :
    btaAgAtParse btaAgHspCmd btaAgCmdMax [] (List.replicate 511 'X' ++ "AT+VGS=5\r".toList) =
      some ([.cmd btaAgSpkEvt btaAgAtSet ['5'] 5], []) := by
  decide +kernel

end Fluoride.AgAtParse
