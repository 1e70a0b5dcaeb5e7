import Mathlib

/-!
# Hexadecimal text in the C library

The conversions a C program uses to print and read hexadecimal numbers, over a
string as its characters, one byte each.

* `formatHex width value` is `printf("%0<width>x", value)`: lower-case digits,
  padded with zeros to `width`, never cut.
* `strtol16` is `strtol(text, &end, 16)`: white space, an optional sign, an
  optional `0x` before a digit, and as many digits as there are; it gives the
  value and how far `end` got.
* `scanHex width` is a `%<width>hhx` directive of `sscanf` (C11 7.21.6.2): white
  space is skipped, and the input item is the longest prefix of at most `width`
  characters that is, or begins, an optionally signed hexadecimal number; the
  directive fails unless the item is a whole number.
* `getlineTokens` is the tokens a `std::getline` loop reads.

Both readers accept more than the printer writes: a sign, leading white space
and, where the width allows it, a `0x`. What is proved here is the other
direction: printed digits read back as the value they print (`strtol16_hexDigits`,
`scanHex_hexDigits_append`), and pieces joined by a separator are read back as
themselves by a `getline` loop (`getlineTokens_intercalate`).
-/

namespace CText

/-- `isspace` in the C locale, and the ASCII white space of the base library. -/
def isSpace (c : Char) : Bool :=
  c == ' ' || c == '\t' || c == '\n' || c == '\x0B' || c == '\x0C' || c == '\r'

/-- The value of a hexadecimal digit of either case. -/
def hexValue? (c : Char) : Option Nat :=
  if '0' ≤ c ∧ c ≤ '9' then some (c.toNat - '0'.toNat)
  else if 'a' ≤ c ∧ c ≤ 'f' then some (c.toNat - 'a'.toNat + 10)
  else if 'A' ≤ c ∧ c ≤ 'F' then some (c.toNat - 'A'.toNat + 10)
  else none

/-- Whether a character is a hexadecimal digit. -/
def isHexDigit (c : Char) : Bool :=
  (hexValue? c).isSome

/-- The number that hexadecimal digits spell, most significant first. -/
def hexNumber (digits : List Char) : Nat :=
  digits.foldl (fun value digit => 16 * value + (hexValue? digit).getD 0) 0

/-- The lower-case digit `printf` writes for a value below 16. -/
def hexDigitChar (value : Nat) : Char :=
  if value < 10 then Char.ofNat ('0'.toNat + value) else Char.ofNat ('a'.toNat + value - 10)

/-- The low `width` hexadecimal digits of `value`, most significant first. -/
def hexDigits : Nat → Nat → List Char
  | 0, _ => []
  | width + 1, value => hexDigits width (value / 16) ++ [hexDigitChar (value % 16)]

/-- `printf("%0<width>x", value)`: the digits of `value`, at least one, padded
with zeros to `width`. -/
def formatHex (width value : Nat) : List Char :=
  hexDigits (max width (Nat.log 16 value + 1)) value

/-- Whether characters start with `0x` or `0X`. -/
def hasHexPrefix (text : List Char) : Bool :=
  text.take 2 == ['0', 'x'] || text.take 2 == ['0', 'X']

/-- `strtol(text, &end, 16)`: the value, clamped to a 64-bit `long`, and the
number of characters before `end`. With no digit nothing is consumed and the
value is 0. -/
def strtol16 (text : List Char) : Int × Nat :=
  let spaces := (text.takeWhile isSpace).length
  let signed := text.drop spaces
  let (negative, signLength) : Bool × Nat :=
    if signed.head? = some '-' then (true, 1)
    else if signed.head? = some '+' then (false, 1)
    else (false, 0)
  let unsigned := signed.drop signLength
  -- `0x` counts only before a digit; otherwise the `0` is the number
  let prefixLength :=
    if hasHexPrefix unsigned && ((unsigned.drop 2).head?.map isHexDigit == some true) then 2 else 0
  let digits := (unsigned.drop prefixLength).takeWhile isHexDigit
  if digits = [] then (0, 0)
  else
    let value : Int := if negative then -(hexNumber digits : Int) else hexNumber digits
    (max (-2 ^ 63) (min value (2 ^ 63 - 1)), spaces + signLength + prefixLength + digits.length)

/-- The characters after an optional sign. -/
def unsignedPart (item : List Char) : List Char :=
  if item.head? = some '-' ∨ item.head? = some '+' then item.tail else item

/-- Whether characters begin an optionally signed hexadecimal number with an
optional `0x`: the prefixes of what `%x` matches. -/
def isHexItemPrefix (item : List Char) : Bool :=
  let unsigned := unsignedPart item
  if hasHexPrefix unsigned then (unsigned.drop 2).all isHexDigit else unsigned.all isHexDigit

/-- The digits of an optionally signed hexadecimal number with an optional
`0x`, when the characters are one. -/
def hexItemDigits? (item : List Char) : Option (List Char) :=
  let unsigned := unsignedPart item
  let digits := if hasHexPrefix unsigned then unsigned.drop 2 else unsigned
  if digits ≠ [] ∧ digits.all isHexDigit then some digits else none

/-- A `%<width>hhx` directive of `sscanf`: the value, stored to an
`unsigned char`, and the input after the item. -/
def scanHex (width : Nat) (input : List Char) : Option (UInt8 × List Char) :=
  let text := input.dropWhile isSpace
  -- the longest prefix within the width that begins a number
  let length := ((List.range (width + 1)).filter fun count => isHexItemPrefix (text.take count)).foldl max 0
  let item := text.take length
  match hexItemDigits? item with
  | none => none
  | some digits =>
    let value : Int := if item.head? = some '-' then -(hexNumber digits : Int) else hexNumber digits
    some (UInt8.ofNat (value % 256).toNat, text.drop item.length)

/-- The tokens of `while (getline(stream, token, separator))`: the pieces
between separators, except a last empty one, which `getline` does not read. -/
def getlineTokens (separator : Char) (text : List Char) : List (List Char) :=
  let pieces := text.splitOn separator
  if pieces.getLast? = some [] then pieces.dropLast else pieces

/-- The C string `c_str()` gives for a `std::string`: its characters up to the
first NUL, where a C function reading it stops. -/
def cString (text : List Char) : List Char :=
  text.takeWhile (· != '\x00')

/-- `strtol(text.c_str(), &end, 16)` checked by `*end != '\0'`: the value, when
`strtol` stopped at the end of the C string. -/
def strtolWhole (text : List Char) : Option Int :=
  let (value, consumed) := strtol16 (cString text)
  if consumed = (cString text).length then some value else none

/-- A directive of the `printf` and `sscanf` formats used here: a hexadecimal
conversion of a field width (`%0<width>x` printing, `%<width>hhx` scanning), or
an ordinary character. -/
inductive Directive
  | hex (width : Nat)
  | literal (c : Char)
  deriving DecidableEq, Repr

/-- Whether a directive is an ordinary character. -/
def Directive.isLiteral : Directive → Bool
  | .hex _ => false
  | .literal _ => true

/-- `printf` with a format and its arguments, one for each conversion. -/
def printFormat : List Directive → List Nat → List Char
  | [], _ => []
  | .literal c :: format, args => c :: printFormat format args
  | .hex width :: format, arg :: args => formatHex width arg ++ printFormat format args
  -- no format printed here has a conversion without its argument
  | .hex _ :: _, [] => []

/-- `sscanf(input, format, ...)`: the values assigned, in order, and the input
left when every directive matched, up to which a final `%n` counts. -/
def scanFormat : List Directive → List Char → List UInt8 × Option (List Char)
  | [], input => ([], some input)
  | .literal c :: format, input =>
    if input.head? = some c then scanFormat format input.tail else ([], none)
  | .hex width :: format, input =>
    match scanHex width input with
    | none => ([], none)
    | some (value, rest) =>
      let scanned := scanFormat format rest
      (value :: scanned.1, scanned.2)

/-- The number of conversions of a format. -/
def conversions : List Directive → Nat
  | [] => 0
  | .hex _ :: format => conversions format + 1
  | .literal _ :: format => conversions format

/-- Arguments a format prints in full: one for each conversion, each with no
more digits than its width. -/
def Fits : List Directive → List Nat → Prop
  | [], args => args = []
  | .literal _ :: format, args => Fits format args
  | .hex width :: format, arg :: args => 0 < width ∧ arg < 16 ^ width ∧ Fits format args
  | .hex _ :: _, [] => False

/-- The number of characters a format prints when its arguments fit. -/
def formatLength : List Directive → Nat
  | [] => 0
  | .hex width :: format => width + formatLength format
  | .literal _ :: format => formatLength format + 1

/-- A format of `count` conversions of one width separated by a character, as
`"%02x:%02x:%02x"`. -/
def separatedFormat (separator : Char) (width count : Nat) : List Directive :=
  [.literal separator].intercalate (List.replicate count [.hex width])

/-! ### Printed digits -/

theorem hexValue?_hexDigitChar : ∀ value < 16, hexValue? (hexDigitChar value) = some value := by
  decide

theorem isSpace_hexDigitChar : ∀ value < 16, isSpace (hexDigitChar value) = false := by
  decide

/-- No digit is a separator, a sign, the `x` of a prefix or a NUL. -/
theorem hexDigitChar_not_mem : ∀ value < 16, hexDigitChar value ∉ [':', '-', '+', 'x', 'X', '\x00'] := by
  decide

@[simp] theorem length_hexDigits (width value : Nat) : (hexDigits width value).length = width := by
  induction width generalizing value with
  | zero => rfl
  | succ width inductionHypothesis =>
    rw [hexDigits, List.length_append, inductionHypothesis, List.length_singleton]

/-- Every printed character is a digit. -/
theorem mem_hexDigits (width value : Nat) (c : Char) (printed : c ∈ hexDigits width value) :
    ∃ digit < 16, c = hexDigitChar digit := by
  induction width generalizing value with
  | zero => exact absurd printed List.not_mem_nil
  | succ width inductionHypothesis =>
    rw [hexDigits, List.mem_append, List.mem_singleton] at printed
    rcases printed with earlier | last
    · exact inductionHypothesis _ earlier
    · exact ⟨value % 16, Nat.mod_lt _ (by decide), last⟩

theorem hexNumber_append (first second : List Char) :
    hexNumber (first ++ second) =
      second.foldl (fun value digit => 16 * value + (hexValue? digit).getD 0) (hexNumber first) := by
  rw [hexNumber, List.foldl_append]
  rfl

/-- Printed digits read back as the value modulo the width. -/
theorem hexNumber_hexDigits (width value : Nat) :
    hexNumber (hexDigits width value) = value % 16 ^ width := by
  induction width generalizing value with
  | zero => rw [hexDigits, Nat.pow_zero, Nat.mod_one]; rfl
  | succ width inductionHypothesis =>
    have lastDigit := hexValue?_hexDigitChar (value % 16) (Nat.mod_lt _ (by decide))
    have split : value % 16 ^ (width + 1) = value % 16 + 16 * (value / 16 % 16 ^ width) := by
      rw [Nat.pow_succ', Nat.mod_mul]
    rw [hexDigits, hexNumber_append, inductionHypothesis, List.foldl_cons, List.foldl_nil, lastDigit,
      Option.getD_some, split]
    omega

/-- A value that fits is printed in exactly `width` digits. -/
theorem formatHex_of_lt (width value : Nat) (positive : 0 < width) (fits : value < 16 ^ width) :
    formatHex width value = hexDigits width value := by
  have short : Nat.log 16 value + 1 ≤ width := by
    by_cases zero : value = 0
    · rw [zero, Nat.log_zero_right]
      exact positive
    · exact Nat.log_lt_of_lt_pow zero fits
  rw [formatHex, Nat.max_eq_left short]

/-! ### Reading printed digits back -/

/-- Characters that are all digits `printf` writes. -/
def Printed (text : List Char) : Prop :=
  ∀ c ∈ text, ∃ digit < 16, c = hexDigitChar digit

theorem printed_hexDigits (width value : Nat) : Printed (hexDigits width value) :=
  mem_hexDigits width value

theorem Printed.take {text : List Char} (printed : Printed text) (count : Nat) :
    Printed (text.take count) :=
  fun c inside => printed c (List.mem_of_mem_take inside)

theorem Printed.not_mem {text : List Char} (printed : Printed text) (c : Char)
    (marker : c ∈ [':', '-', '+', 'x', 'X', '\x00']) : c ∉ text := by
  intro inside
  obtain ⟨digit, small, rfl⟩ := printed c inside
  exact hexDigitChar_not_mem digit small marker

theorem Printed.head?_ne {text : List Char} (printed : Printed text) (c : Char)
    (marker : c ∈ [':', '-', '+', 'x', 'X', '\x00']) : text.head? ≠ some c :=
  fun first => printed.not_mem c marker (List.mem_of_mem_head? first)

theorem Printed.not_isSpace {text : List Char} (printed : Printed text) :
    ∀ c ∈ text, isSpace c = false := by
  intro c inside
  obtain ⟨digit, small, rfl⟩ := printed c inside
  exact isSpace_hexDigitChar digit small

theorem Printed.all_isHexDigit {text : List Char} (printed : Printed text) :
    ∀ c ∈ text, isHexDigit c = true := by
  intro c inside
  obtain ⟨digit, small, rfl⟩ := printed c inside
  rw [isHexDigit, hexValue?_hexDigitChar digit small]
  rfl

/-- Printed digits never start with `0x`: their second character is a digit. -/
theorem Printed.hasHexPrefix {text : List Char} (printed : Printed text) :
    hasHexPrefix text = false := by
  have notLower : text.take 2 ≠ ['0', 'x'] := by
    intro start
    have inside : 'x' ∈ text.take 2 := by rw [start]; decide
    exact printed.not_mem 'x' (by decide) (List.mem_of_mem_take inside)
  have notUpper : text.take 2 ≠ ['0', 'X'] := by
    intro start
    have inside : 'X' ∈ text.take 2 := by rw [start]; decide
    exact printed.not_mem 'X' (by decide) (List.mem_of_mem_take inside)
  rw [CText.hasHexPrefix, beq_false_of_ne notLower, beq_false_of_ne notUpper, Bool.or_false]

theorem Printed.unsignedPart {text : List Char} (printed : Printed text) :
    unsignedPart text = text := by
  have unsigned : ¬ (text.head? = some '-' ∨ text.head? = some '+') := by
    rintro (minus | plus)
    · exact printed.head?_ne '-' (by decide) minus
    · exact printed.head?_ne '+' (by decide) plus
  rw [CText.unsignedPart, if_neg unsigned]

theorem Printed.isHexItemPrefix {text : List Char} (printed : Printed text) :
    isHexItemPrefix text = true := by
  rw [CText.isHexItemPrefix, printed.unsignedPart, printed.hasHexPrefix, if_neg Bool.false_ne_true,
    List.all_eq_true]
  exact printed.all_isHexDigit

theorem Printed.hexItemDigits? {text : List Char} (printed : Printed text) (nonEmpty : text ≠ []) :
    hexItemDigits? text = some text := by
  have whole : text ≠ [] ∧ text.all isHexDigit = true :=
    ⟨nonEmpty, List.all_eq_true.mpr printed.all_isHexDigit⟩
  rw [CText.hexItemDigits?, printed.unsignedPart, printed.hasHexPrefix, if_neg Bool.false_ne_true,
    if_pos whole]

theorem hexDigits_ne_nil (width value : Nat) (positive : 0 < width) : hexDigits width value ≠ [] := by
  intro empty
  have counted := congrArg List.length empty
  rw [length_hexDigits, List.length_nil] at counted
  omega

/-- **`strtol` reads printed digits to their end**, as the value they print. -/
theorem strtol16_hexDigits (width value : Nat) (positive : 0 < width) (short : width ≤ 15)
    (fits : value < 16 ^ width) :
    strtol16 (hexDigits width value) = ((value : Int), width) := by
  have printed := printed_hexDigits width value
  have noSpace : (hexDigits width value).takeWhile isSpace = [] := by
    rw [List.takeWhile_eq_nil_iff]
    intro nonEmpty
    rw [printed.not_isSpace _ (List.get_mem _ _)]
    decide
  have allDigits : (hexDigits width value).takeWhile isHexDigit = hexDigits width value :=
    List.takeWhile_eq_self_iff.mpr printed.all_isHexDigit
  have read : hexNumber (hexDigits width value) = value := by
    rw [hexNumber_hexDigits, Nat.mod_eq_of_lt fits]
  have small : value < 2 ^ 60 :=
    calc value < 16 ^ width := fits
      _ ≤ 16 ^ 15 := Nat.pow_le_pow_right (by decide) short
      _ = 2 ^ 60 := rfl
  have unclamped : max (-2 ^ 63) (min (value : Int) (2 ^ 63 - 1)) = value := by
    have inRange : (value : Int) < 2 ^ 60 := by exact_mod_cast small
    rw [min_eq_left (by omega), max_eq_right (by omega)]
  simp only [strtol16, noSpace, List.length_nil, List.drop_zero,
    if_neg (printed.head?_ne '-' (by decide)), if_neg (printed.head?_ne '+' (by decide)),
    printed.hasHexPrefix, Bool.false_and, Bool.false_eq_true, if_false, allDigits,
    if_neg (hexDigits_ne_nil width value positive), read, unclamped, length_hexDigits, Nat.zero_add]

theorem foldl_max_range (count : Nat) : (List.range (count + 1)).foldl max 0 = count := by
  induction count with
  | zero => rfl
  | succ count inductionHypothesis =>
    rw [List.range_succ, List.foldl_append, inductionHypothesis, List.foldl_cons, List.foldl_nil,
      Nat.max_eq_right (Nat.le_succ count)]

/-- **`%<width>hhx` reads printed digits back**: the item is all `width` of
them, whatever follows. -/
theorem scanHex_hexDigits_append (width value : Nat) (rest : List Char) (positive : 0 < width)
    (fits : value < 16 ^ width) :
    scanHex width (hexDigits width value ++ rest) = some (UInt8.ofNat value, rest) := by
  have printed := printed_hexDigits width value
  have nonEmpty := hexDigits_ne_nil width value positive
  have noSpace : (hexDigits width value ++ rest).dropWhile isSpace = hexDigits width value ++ rest := by
    obtain ⟨c, tail, split⟩ := List.exists_cons_of_ne_nil nonEmpty
    have notSpace : isSpace c = false := printed.not_isSpace c (by rw [split]; exact List.mem_cons_self)
    rw [split, List.cons_append, List.dropWhile_cons_of_neg (by rw [notSpace]; decide)]
  -- every prefix within the width lies in the printed digits
  have prefixes : ∀ count ∈ List.range (width + 1),
      isHexItemPrefix ((hexDigits width value ++ rest).take count) = true := by
    intro count inRange
    have within : count ≤ (hexDigits width value).length := by
      rw [length_hexDigits]
      exact Nat.lt_succ_iff.mp (List.mem_range.mp inRange)
    rw [List.take_append_of_le_length within]
    exact (printed.take count).isHexItemPrefix
  have longest : ((List.range (width + 1)).filter fun count =>
      isHexItemPrefix ((hexDigits width value ++ rest).take count)).foldl max 0 = width := by
    rw [List.filter_eq_self.mpr prefixes, foldl_max_range]
  have item : (hexDigits width value ++ rest).take width = hexDigits width value :=
    List.take_left' (length_hexDigits width value)
  have read : ((hexNumber (hexDigits width value) : Int) % 256).toNat = value % 256 := by
    rw [hexNumber_hexDigits, Nat.mod_eq_of_lt fits]
    omega
  simp only [scanHex, noSpace, longest, item, printed.hexItemDigits? nonEmpty,
    if_neg (printed.head?_ne '-' (by decide)), read, UInt8.ofNat_mod_size', List.drop_left]

/-! ### Splitting joined pieces -/

/-- Pieces with no separator in them, joined by it, are read back as themselves
by a `getline` loop, when the last piece is not empty. -/
theorem getlineTokens_intercalate (separator : Char) (pieces : List (List Char))
    (free : ∀ piece ∈ pieces, separator ∉ piece) (lastFull : pieces.getLast? ≠ some []) :
    getlineTokens separator ([separator].intercalate pieces) = pieces := by
  by_cases empty : pieces = []
  · subst empty
    rfl
  · simp only [getlineTokens, List.splitOn_intercalate separator free empty, if_neg lastFull]

/-! ### The C string of printed digits -/

theorem cString_of_printed {text : List Char} (printed : Printed text) : cString text = text := by
  rw [cString, List.takeWhile_eq_self_iff]
  intro c inside
  have notNul : c ≠ '\x00' := fun nul => printed.not_mem '\x00' (by decide) (nul ▸ inside)
  exact bne_iff_ne.mpr notNul

/-- **`strtol` reads printed digits whole**, as the value they print. -/
theorem strtolWhole_hexDigits (width value : Nat) (positive : 0 < width) (short : width ≤ 15)
    (fits : value < 16 ^ width) : strtolWhole (hexDigits width value) = some (value : Int) := by
  simp only [strtolWhole, cString_of_printed (printed_hexDigits width value),
    strtol16_hexDigits width value positive short fits, length_hexDigits, if_true]

/-! ### Formats -/

/-- **`sscanf` reads back what `printf` wrote** with the same format, whatever
follows it. -/
theorem scanFormat_printFormat (format : List Directive) (args : List Nat) (rest : List Char)
    (fits : Fits format args) :
    scanFormat format (printFormat format args ++ rest) = (args.map UInt8.ofNat, some rest) := by
  induction format generalizing args with
  | nil =>
    rw [Fits] at fits
    subst fits
    rfl
  | cons directive format inductionHypothesis =>
    cases directive with
    | literal c =>
      rw [Fits] at fits
      rw [printFormat, List.cons_append, scanFormat, List.head?_cons, if_pos rfl, List.tail_cons]
      exact inductionHypothesis args fits
    | hex width =>
      cases args with
      | nil => exact fits.elim
      | cons arg args =>
        obtain ⟨positive, small, fitsRest⟩ := fits
        rw [printFormat, formatHex_of_lt width arg positive small, List.append_assoc, scanFormat,
          scanHex_hexDigits_append width arg _ positive small]
        simp only [inductionHypothesis args fitsRest, List.map_cons]

/-- Octets fit a format of two-digit conversions, one for each octet. -/
theorem fits_octets (format : List Directive) (octets : List UInt8)
    (twoDigits : ∀ directive ∈ format, directive = .hex 2 ∨ directive.isLiteral = true)
    (counted : conversions format = octets.length) : Fits format (octets.map UInt8.toNat) := by
  induction format generalizing octets with
  | nil =>
    rw [conversions] at counted
    rw [List.eq_nil_of_length_eq_zero counted.symm]
    rfl
  | cons directive format inductionHypothesis =>
    have later : ∀ directive ∈ format, directive = .hex 2 ∨ directive.isLiteral = true :=
      fun directive inside => twoDigits directive (List.mem_cons_of_mem _ inside)
    cases directive with
    | literal c => exact inductionHypothesis octets later counted
    | hex width =>
      cases octets with
      | nil =>
        rw [conversions, List.length_nil] at counted
        omega
      | cons octet octets =>
        have wide : Directive.hex width = .hex 2 := by
          rcases twoDigits _ List.mem_cons_self with same | literal
          · exact same
          · exact absurd literal Bool.false_ne_true
        cases wide
        rw [conversions, List.length_cons] at counted
        exact ⟨by decide, octet.toNat_lt, inductionHypothesis octets later (by omega)⟩

/-- A separated format prints its arguments joined by the separator. -/
theorem printFormat_separatedFormat (separator : Char) (width : Nat) (args : List Nat) :
    printFormat (separatedFormat separator width args.length) args =
      [separator].intercalate (args.map (formatHex width)) := by
  induction args with
  | nil => rfl
  | cons arg args inductionHypothesis =>
    cases args with
    | nil => rw [separatedFormat, List.length_singleton, List.replicate_one]; rfl
    | cons next args =>
      have unfolded : separatedFormat separator width (arg :: next :: args).length =
          .hex width :: .literal separator :: separatedFormat separator width (next :: args).length := by
        simp only [separatedFormat, List.length_cons, List.replicate_succ, List.intercalate_cons_cons,
          List.cons_append, List.nil_append]
      rw [unfolded, printFormat, printFormat, inductionHypothesis]
      simp only [List.map_cons, List.intercalate_cons_cons, List.append_assoc, List.singleton_append]

/-- Printed arguments that fit take the format's length. -/
theorem length_printFormat (format : List Directive) (args : List Nat) (fits : Fits format args) :
    (printFormat format args).length = formatLength format := by
  induction format generalizing args with
  | nil => rfl
  | cons directive format inductionHypothesis =>
    cases directive with
    | literal c =>
      rw [Fits] at fits
      rw [printFormat, List.length_cons, formatLength, inductionHypothesis args fits]
    | hex width =>
      cases args with
      | nil => exact fits.elim
      | cons arg args =>
        obtain ⟨positive, small, fitsRest⟩ := fits
        rw [printFormat, formatHex_of_lt width arg positive small, List.length_append, length_hexDigits,
          inductionHypothesis args fitsRest, formatLength]

/-- An ordinary character of a format is printed where the directives before it
end. -/
theorem getElem?_printFormat_literal (format : List Directive) (args : List Nat) (fits : Fits format args)
    (position : Nat) (c : Char) (literal : format[position]? = some (.literal c)) :
    (printFormat format args)[formatLength (format.take position)]? = some c := by
  induction format generalizing args position with
  | nil =>
    rw [List.getElem?_nil] at literal
    exact absurd literal (Option.some_ne_none _).symm
  | cons directive format inductionHypothesis =>
    cases position with
    | zero =>
      rw [List.getElem?_cons_zero, Option.some.injEq] at literal
      subst literal
      rw [printFormat, List.take_zero, formatLength, List.getElem?_cons_zero]
    | succ position =>
      rw [List.getElem?_cons_succ] at literal
      cases directive with
      | literal d =>
        rw [Fits] at fits
        rw [printFormat, List.take_succ_cons, formatLength, List.getElem?_cons_succ]
        exact inductionHypothesis args fits position literal
      | hex width =>
        cases args with
        | nil => exact fits.elim
        | cons arg args =>
          obtain ⟨positive, small, fitsRest⟩ := fits
          have past : (hexDigits width arg).length ≤ width + formatLength (format.take position) := by
            rw [length_hexDigits]
            exact Nat.le_add_right width _
          rw [printFormat, formatHex_of_lt width arg positive small, List.take_succ_cons, formatLength,
            List.getElem?_append_right past, length_hexDigits, Nat.add_sub_cancel_left]
          exact inductionHypothesis args fitsRest position literal

/-- A printed character is a digit or an ordinary character of the format. -/
theorem mem_printFormat (format : List Directive) (args : List Nat) (c : Char)
    (printed : c ∈ printFormat format args) :
    (∃ digit < 16, c = hexDigitChar digit) ∨ Directive.literal c ∈ format := by
  induction format generalizing args with
  | nil => exact absurd printed List.not_mem_nil
  | cons directive format inductionHypothesis =>
    cases directive with
    | literal d =>
      rw [printFormat, List.mem_cons] at printed
      rcases printed with same | later
      · exact Or.inr (same ▸ List.mem_cons_self)
      · exact (inductionHypothesis args later).imp id (List.mem_cons_of_mem _)
    | hex width =>
      cases args with
      | nil => exact absurd printed List.not_mem_nil
      | cons arg args =>
        rw [printFormat, List.mem_append, formatHex] at printed
        rcases printed with digit | later
        · exact Or.inl (mem_hexDigits _ arg c digit)
        · exact (inductionHypothesis args later).imp id (List.mem_cons_of_mem _)

/-- A format with no NUL prints a whole C string. -/
theorem cString_printFormat (format : List Directive) (args : List Nat)
    (noNul : Directive.literal '\x00' ∉ format) :
    cString (printFormat format args) = printFormat format args := by
  rw [cString, List.takeWhile_eq_self_iff]
  intro c inside
  rcases mem_printFormat format args c inside with ⟨digit, small, rfl⟩ | literal
  · have nulMarker : '\x00' ∈ [':', '-', '+', 'x', 'X', '\x00'] := by decide
    exact bne_iff_ne.mpr fun nul => hexDigitChar_not_mem digit small (nul ▸ nulMarker)
  · exact bne_iff_ne.mpr fun nul => noNul (nul ▸ literal)

end CText
