import Fluoride.CText

/-!
# Textual identifiers

`RawAddress` (`types/raw_address.cc`), the gd stack's `Address` and
`ClassOfDevice` (`gd/common/address.cc`, `gd/common/class_of_device.cc`) and
`Uuid` (`types/bluetooth/uuid.cc`) are printed with a `printf` format and read
back from text. Each reader checks the length of the text, takes it apart at
its separators (`base::SplitString`, a `getline` loop, the ordinary characters
of a `sscanf` format) and hands every field to `strtol` or to
`sscanf("%02hhx")`. `base::SplitString` belongs to libchrome, not to the
source: `RawAddress.fromString` takes it as a parameter, and what is proved of
it holds for every splitter with the one law it is relied on for
(`SplitStringLaws`).

Every identifier reads back from its own text (`RawAddress.fromString_toString`,
`Address.fromString_toString`, `ClassOfDevice.fromString_toString`,
`Uuid.fromString_toString`). The readers accept more than that: the C
conversions take a sign and leading white space, so each of them reads text no
identifier prints, and prints something else for it.
-/

namespace Fluoride.TextIds

open CText

/-- The conversion of a `long` to `uint8_t`, modulo `2 ^ 8`. -/
def wrapOctet (value : Int) : UInt8 :=
  UInt8.ofNat (value % 256).toNat

/-- The conversion of a `long` to `uint16_t`, modulo `2 ^ 16`. -/
def wrapUint16 (value : Int) : Nat :=
  (value % 65536).toNat

/-- A token of `width` characters that `strtol` reads whole; none where the
readers return false. -/
def readField (width : Nat) (token : List Char) : Option Int :=
  if token.length ≠ width then none else strtolWhole token

/-! ### `RawAddress` -/

/-- `RawAddress`: six octets, in the order they are printed. -/
structure RawAddress where
  address : List UInt8
  length_address : address.length = 6
  deriving DecidableEq, Repr

/-- `RawAddress::ToString`: `"%02x:%02x:%02x:%02x:%02x:%02x"` of `address[0]`
to `address[5]`. -/
def RawAddress.toString (addr : RawAddress) : List Char :=
  printFormat (separatedFormat ':' 2 6) (addr.address.map UInt8.toNat)

/-- The loop of `RawAddress::FromString` over its byte tokens: none at the
first that is not two characters `strtol` reads whole. -/
def readByteTokens : List (List Char) → Option (List UInt8)
  | [] => some []
  | token :: rest => do
    let value ← readField 2 token
    let octets ← readByteTokens rest
    pure (wrapOctet value :: octets)

theorem length_readByteTokens (tokens : List (List Char)) (octets : List UInt8)
    (read : readByteTokens tokens = some octets) : octets.length = tokens.length := by
  induction tokens generalizing octets with
  | nil =>
    rw [readByteTokens, Option.some.injEq] at read
    rw [← read]
    rfl
  | cons token rest inductionHypothesis =>
    simp only [readByteTokens, Option.bind_eq_bind, Option.bind_eq_some_iff, Option.pure_def,
      Option.some.injEq] at read
    obtain ⟨value, -, others, readRest, stored⟩ := read
    rw [← stored, List.length_cons, List.length_cons, inductionHypothesis others readRest]

/-- What the readers rely on of libchrome's `base::SplitString(text, separator,
base::TRIM_WHITESPACE, base::SPLIT_WANT_ALL)`: pieces that are not empty and hold
neither the separator nor white space, joined by the separator, split back into
those pieces, since every piece is kept and trimming finds nothing to trim. -/
structure SplitStringLaws (splitString : Char → List Char → List (List Char)) : Prop where
  split_intercalate : ∀ (separator : Char) (pieces : List (List Char)), pieces ≠ [] →
    (∀ piece ∈ pieces, piece ≠ [] ∧ separator ∉ piece ∧ piece.any isSpace = false) →
    splitString separator ([separator].intercalate pieces) = pieces

/-- `List.splitOn` keeps the law. -/
theorem splitStringLaws_splitOn : SplitStringLaws fun separator text => text.splitOn separator :=
  ⟨fun separator _ nonEmpty clean =>
    List.splitOn_intercalate separator (fun piece inside => (clean piece inside).2.1) nonEmpty⟩

/-- The end of `RawAddress::FromString` once the text is split: six tokens,
each read by the loop. -/
def RawAddress.fromTokens (byteTokens : List (List Char)) : Option RawAddress :=
  if sized : byteTokens.length = 6 then
    match read : readByteTokens byteTokens with
    | some octets => some ⟨octets, (length_readByteTokens byteTokens octets read).trans sized⟩
    | none => none
  else none

/-- `RawAddress::FromString`, with `splitString` its call of
`base::SplitString(from, ":", base::TRIM_WHITESPACE, base::SPLIT_WANT_ALL)`: none
where it returns false. -/
def RawAddress.fromString (splitString : Char → List Char → List (List Char)) (text : List Char) :
    Option RawAddress :=
  if text.length ≠ 17 then none
  else RawAddress.fromTokens (splitString ':' text)

/-! ### `Address` and `ClassOfDevice` of the gd stack -/

/-- The `getline` loop of the gd readers: at most `count` tokens, the one at
`index` of `width index` characters read whole by `strtol`. The values come in
token order; none where the loop returns false. -/
def readTokens (count : Nat) (width : Nat → Nat) : Nat → List (List Char) → Option (List Int)
  | _, [] => some []
  | index, token :: rest =>
    if index ≥ count then none
    else do
      let value ← readField (width index) token
      let values ← readTokens count width (index + 1) rest
      pure (value :: values)

/-- `common::Address`: six octets, `address[5]` printed first. -/
structure Address where
  address : List UInt8
  length_address : address.length = 6
  deriving DecidableEq, Repr

/-- `Address::ToString`: `"%02x:%02x:%02x:%02x:%02x:%02x"` of `address[5]` down
to `address[0]`. -/
def Address.toString (addr : Address) : List Char :=
  printFormat (separatedFormat ':' 2 6) (addr.address.reverse.map UInt8.toNat)

/-- `Address::FromString`: none where it returns false. -/
def Address.fromString (text : List Char) : Option Address :=
  if text.length ≠ 17 then none
  else
    match readTokens 6 (fun _ => 2) 0 (getlineTokens ':' text) with
    | none => none
    | some values =>
      -- `index != 6`; the token at `index` goes to `address[5 - index]`
      if read : values.length = 6 then
        some ⟨(values.map wrapOctet).reverse, by rw [List.length_reverse, List.length_map, read]⟩
      else none

/-- `ClassOfDevice`: three octets, `cod[0]` the lowest. -/
structure ClassOfDevice where
  cod : List UInt8
  length_cod : cod.length = 3
  deriving DecidableEq, Repr

/-- The format of `ClassOfDevice::ToString`, `"%03x-%01x-%02x"`. -/
def codFormat : List Directive :=
  [.hex 3, .literal '-', .hex 1, .literal '-', .hex 2]

/-- `ClassOfDevice::ToString`: the upper twelve bits, the next four and the
lowest eight. -/
def ClassOfDevice.toString (device : ClassOfDevice) : List Char :=
  have sized := device.length_cod
  printFormat codFormat
    [device.cod[2].toNat <<< 4 ||| device.cod[1].toNat >>> 4, device.cod[1].toNat &&& 0x0f,
      device.cod[0].toNat]

/-- The lengths `ClassOfDevice::FromString` requires of its three tokens. -/
def codTokenWidth : Nat → Nat
  | 0 => 3
  | 1 => 1
  -- the loop returns false before a fourth token is measured
  | _ => 2

/-- `ClassOfDevice::FromString`: none where it returns false. -/
def ClassOfDevice.fromString (text : List Char) : Option ClassOfDevice :=
  if text.length ≠ 8 then none
  else
    match readTokens 3 codTokenWidth 0 (getlineTokens '-' text) with
    | some [first, second, third] =>
      -- `values` is `uint16_t values[3]`
      some ⟨[UInt8.ofNat (wrapUint16 third),
        UInt8.ofNat (wrapUint16 second ||| (wrapUint16 first &&& 0xf) <<< 4),
        UInt8.ofNat (wrapUint16 first >>> 4)], rfl⟩
    -- `index != 3`
    | _ => none

/-! ### `Uuid` -/

/-- `Uuid`: sixteen octets, big endian. -/
structure Uuid where
  uu : List UInt8
  length_uu : uu.length = 16
  deriving DecidableEq, Repr

/-- `kBase`, the Bluetooth base UUID. -/
def kBase : Uuid :=
  ⟨[0x00, 0x00, 0x00, 0x00, 0x00, 0x00, 0x10, 0x00, 0x80, 0x00, 0x00, 0x80, 0x5f, 0x9b, 0x34, 0xfb],
    rfl⟩

def kString128BitLen : Nat := 36

/-- The format of `Uuid::ToString`, and of the 128-bit `sscanf` of
`Uuid::FromString` before its `%n`. -/
def uuidFormat : List Directive :=
  [.hex 2, .hex 2, .hex 2, .hex 2, .literal '-', .hex 2, .hex 2, .literal '-', .hex 2, .hex 2,
    .literal '-', .hex 2, .hex 2, .literal '-', .hex 2, .hex 2, .hex 2, .hex 2, .hex 2, .hex 2]

/-- `Uuid::ToString`. -/
def Uuid.toString (uuid : Uuid) : List Char :=
  printFormat uuidFormat (uuid.uu.map UInt8.toNat)

/-- `Uuid::From16Bit`: the base UUID with the value in octets 2 and 3. -/
def Uuid.from16Bit (uuid16 : UInt16) : Uuid :=
  ⟨(kBase.uu.set 2 ((0xFF00 &&& uuid16) >>> 8).toUInt8).set 3 (0x00FF &&& uuid16).toUInt8, rfl⟩

/-- The stores `p[start + i] = values[i]` of `sscanf`. -/
def storeOctets : List UInt8 → Nat → List UInt8 → List UInt8
  | uu, _, [] => uu
  | uu, start, value :: values => storeOctets (uu.set start value) (start + 1) values

@[simp] theorem length_storeOctets (uu : List UInt8) (start : Nat) (values : List UInt8) :
    (storeOctets uu start values).length = uu.length := by
  induction values generalizing uu start with
  | nil => rfl
  | cons value values inductionHypothesis =>
    rw [storeOctets, inductionHypothesis, List.length_set]

/-- One `sscanf` of `Uuid::FromString`: the octets it assigns are stored from
`p[start]` on in the base UUID, and the text is valid when all `count`
conversions were assigned and `%n` counted all of it. -/
def scanUuid (uuid : List Char) (format : List Directive) (start count : Nat) : Uuid × Bool :=
  let (values, rest) := scanFormat format (cString uuid)
  (⟨storeOctets kBase.uu start values, by rw [length_storeOctets]; rfl⟩,
    values.length == count && rest.map (fun left => (cString uuid).length - left.length) == some uuid.length)

/-- `Uuid::FromString`: the UUID and what it sets `*is_valid` to. -/
def Uuid.fromString (uuid : List Char) : Uuid × Bool :=
  if uuid = [] then (kBase, false)
  else if uuid.length = kString128BitLen then
    if uuid[8]? ≠ some '-' ∨ uuid[13]? ≠ some '-' ∨ uuid[18]? ≠ some '-' ∨ uuid[23]? ≠ some '-' then
      (kBase, false)
    else scanUuid uuid uuidFormat 0 16
  else if uuid.length = 8 then scanUuid uuid [.hex 2, .hex 2, .hex 2, .hex 2] 0 4
  else if uuid.length = 4 then scanUuid uuid [.hex 2, .hex 2] 2 2
  else (kBase, false)

/-! ### Reading printed fields back -/

/-- The two-digit texts of octets, as `%02x` prints them. -/
def octetTexts (octets : List UInt8) : List (List Char) :=
  octets.map fun octet => hexDigits 2 octet.toNat

theorem wrapOctet_natCast (value : Nat) : wrapOctet value = UInt8.ofNat value := by
  have reduced : ((value : Int) % 256).toNat = value % 256 := by omega
  rw [wrapOctet, reduced, UInt8.ofNat_mod_size']

theorem wrapUint16_natCast (value : Nat) (fits : value < 65536) : wrapUint16 value = value := by
  rw [wrapUint16]
  omega

theorem readField_hexDigits (width value : Nat) (positive : 0 < width) (short : width ≤ 15)
    (fits : value < 16 ^ width) : readField width (hexDigits width value) = some (value : Int) := by
  have sized : ¬ (hexDigits width value).length ≠ width := not_not.mpr (length_hexDigits width value)
  rw [readField, if_neg sized, strtolWhole_hexDigits width value positive short fits]

theorem readField_octet (octet : UInt8) :
    readField 2 (hexDigits 2 octet.toNat) = some (octet.toNat : Int) :=
  readField_hexDigits 2 octet.toNat (by decide) (by decide) octet.toNat_lt

theorem printed_octetTexts (octets : List UInt8) : ∀ piece ∈ octetTexts octets, Printed piece := by
  intro piece inside
  obtain ⟨octet, -, rfl⟩ := List.mem_map.mp inside
  exact printed_hexDigits 2 octet.toNat

theorem length_octetTexts (octets : List UInt8) : (octetTexts octets).length = octets.length :=
  List.length_map _

/-- No octet text holds a separator. -/
theorem not_mem_octetTexts (octets : List UInt8) (separator : Char)
    (marker : separator ∈ [':', '-', '+', 'x', 'X', '\x00']) :
    ∀ piece ∈ octetTexts octets, separator ∉ piece :=
  fun piece inside => (printed_octetTexts octets piece inside).not_mem separator marker

/-- No octet text is empty. -/
theorem ne_nil_of_mem_octetTexts (octets : List UInt8) : ∀ piece ∈ octetTexts octets, piece ≠ [] := by
  intro piece inside empty
  obtain ⟨octet, -, rfl⟩ := List.mem_map.mp inside
  have counted := congrArg List.length empty
  rw [length_hexDigits, List.length_nil] at counted
  exact absurd counted (by decide)

/-- Nor is the last one. -/
theorem getLast?_octetTexts (octets : List UInt8) : (octetTexts octets).getLast? ≠ some [] :=
  fun last => ne_nil_of_mem_octetTexts octets [] (List.mem_of_getLast? last) rfl

/-- Octets printed two digits each, joined by a separator. -/
theorem printFormat_separated_octets (separator : Char) (octets : List UInt8) :
    printFormat (separatedFormat separator 2 octets.length) (octets.map UInt8.toNat) =
      [separator].intercalate (octetTexts octets) := by
  have joined := printFormat_separatedFormat separator 2 (octets.map UInt8.toNat)
  rw [List.length_map] at joined
  rw [joined, List.map_map, octetTexts]
  congr 1
  apply List.map_congr_left
  intro octet _
  exact formatHex_of_lt 2 octet.toNat (by decide) octet.toNat_lt

/-- Six octets separated by colons take seventeen characters. -/
theorem length_separated_octets (octets : List UInt8) (sized : octets.length = 6) :
    (printFormat (separatedFormat ':' 2 6) (octets.map UInt8.toNat)).length = 17 := by
  rw [length_printFormat _ _ (fits_octets _ octets (by decide) (by rw [sized]; rfl))]
  rfl

theorem readByteTokens_octetTexts (octets : List UInt8) :
    readByteTokens (octetTexts octets) = some octets := by
  induction octets with
  | nil => rfl
  | cons octet octets inductionHypothesis =>
    have first : readField 2 (hexDigits 2 octet.toNat) = some (octet.toNat : Int) := readField_octet octet
    rw [octetTexts, List.map_cons, readByteTokens, first, ← octetTexts, inductionHypothesis]
    simp only [Option.bind_eq_bind, Option.bind_some, Option.pure_def, wrapOctet_natCast,
      UInt8.ofNat_toNat]

theorem readTokens_octetTexts (count index : Nat) (octets : List UInt8)
    (within : index + octets.length ≤ count) :
    readTokens count (fun _ => 2) index (octetTexts octets) =
      some (octets.map fun octet => (octet.toNat : Int)) := by
  induction octets generalizing index with
  | nil => rfl
  | cons octet octets inductionHypothesis =>
    rw [List.length_cons] at within
    have first : readField 2 (hexDigits 2 octet.toNat) = some (octet.toNat : Int) := readField_octet octet
    rw [octetTexts, List.map_cons, readTokens, if_neg (by omega), first, ← octetTexts,
      inductionHypothesis (index + 1) (by omega)]
    rfl

/-! ### Round trips -/

/-- **A `RawAddress` reads back from its text**, for every splitter with the law. -/
theorem RawAddress.fromString_toString {splitString : Char → List Char → List (List Char)}
    (laws : SplitStringLaws splitString) (addr : RawAddress) :
    RawAddress.fromString splitString addr.toString = some addr := by
  obtain ⟨octets, sized⟩ := addr
  have long : (RawAddress.toString ⟨octets, sized⟩).length = 17 := length_separated_octets octets sized
  have joined : RawAddress.toString ⟨octets, sized⟩ = [':'].intercalate (octetTexts octets) := by
    rw [RawAddress.toString, ← printFormat_separated_octets, sized]
  have notEmpty : octetTexts octets ≠ [] :=
    List.ne_nil_of_length_pos (by rw [length_octetTexts, sized]; decide)
  -- every octet text is two digits: not empty, no separator, no white space
  have clean : ∀ piece ∈ octetTexts octets, piece ≠ [] ∧ ':' ∉ piece ∧ piece.any isSpace = false :=
    fun piece inside =>
      ⟨ne_nil_of_mem_octetTexts octets piece inside, not_mem_octetTexts octets ':' (by decide) piece inside,
        List.any_eq_false.mpr fun c found => by
          rw [(printed_octetTexts octets piece inside).not_isSpace c found]
          decide⟩
  have tokens : splitString ':' (RawAddress.toString ⟨octets, sized⟩) = octetTexts octets := by
    rw [joined]
    exact laws.split_intercalate ':' _ notEmpty clean
  rw [RawAddress.fromString, if_neg (not_not.mpr long), tokens]
  unfold RawAddress.fromTokens
  simp only [length_octetTexts, sized, dite_true]
  split
  next found read =>
    rw [readByteTokens_octetTexts, Option.some.injEq] at read
    subst read
    rfl
  next read =>
    rw [readByteTokens_octetTexts] at read
    exact absurd read (Option.some_ne_none _)

/-- **An `Address` reads back from its text**, printed from its last octet. -/
theorem Address.fromString_toString (addr : Address) :
    Address.fromString addr.toString = some addr := by
  obtain ⟨octets, sized⟩ := addr
  have reversedSized : octets.reverse.length = 6 := by rw [List.length_reverse, sized]
  have long : (Address.toString ⟨octets, sized⟩).length = 17 :=
    length_separated_octets octets.reverse reversedSized
  have tokens : getlineTokens ':' (Address.toString ⟨octets, sized⟩) = octetTexts octets.reverse := by
    rw [Address.toString, ← reversedSized, printFormat_separated_octets,
      getlineTokens_intercalate ':' _ (not_mem_octetTexts _ ':' (by decide)) (getLast?_octetTexts _)]
  have read := readTokens_octetTexts 6 0 octets.reverse (by rw [reversedSized])
  have stored : ((octets.reverse.map fun octet => (octet.toNat : Int)).map wrapOctet).reverse = octets := by
    simp only [List.map_map, Function.comp_def, wrapOctet_natCast, UInt8.ofNat_toNat, List.map_id',
      List.reverse_reverse]
  unfold Address.fromString
  rw [if_neg (not_not.mpr long), tokens, read]
  simp only [List.length_map, reversedSized, dite_true, stored]

/-- A value below sixteen fills the low half-octet left free by a shift of four. -/
theorem shiftLeft_four_or (high low : Nat) (small : low < 16) : high <<< 4 ||| low = high * 16 + low := by
  rw [← Nat.shiftLeft_add_eq_or_of_lt small, Nat.shiftLeft_eq]

/-- The three fields of a class of device put back into its octets. -/
theorem codFields_octets (low middle high : UInt8) :
    [UInt8.ofNat (wrapUint16 (low.toNat : Int)),
      UInt8.ofNat (wrapUint16 ((middle.toNat % 16 : Nat) : Int) |||
        (wrapUint16 ((high.toNat * 16 + middle.toNat / 16 : Nat) : Int) &&& 0xf) <<< 4),
      UInt8.ofNat (wrapUint16 ((high.toNat * 16 + middle.toNat / 16 : Nat) : Int) >>> 4)] =
      [low, middle, high] := by
  have lowFits := low.toNat_lt
  have middleFits := middle.toNat_lt
  have highFits := high.toNat_lt
  have upper : (high.toNat * 16 + middle.toNat / 16) % 16 = middle.toNat / 16 := by omega
  have nibble : (high.toNat * 16 + middle.toNat / 16) &&& 0xf = middle.toNat / 16 :=
    (Nat.and_two_pow_sub_one_eq_mod _ 4).trans upper
  have rejoined : middle.toNat % 16 ||| (middle.toNat / 16) <<< 4 = middle.toNat := by
    rw [Nat.or_comm, shiftLeft_four_or _ _ (Nat.mod_lt _ (by decide)), Nat.div_add_mod']
  have shifted : (high.toNat * 16 + middle.toNat / 16) >>> 4 = high.toNat := by
    rw [Nat.shiftRight_eq_div_pow]
    omega
  rw [wrapUint16_natCast _ (by omega), wrapUint16_natCast _ (by omega), wrapUint16_natCast _ (by omega),
    nibble, rejoined, shifted, UInt8.ofNat_toNat, UInt8.ofNat_toNat, UInt8.ofNat_toNat]

/-- **A `ClassOfDevice` reads back from its text.** -/
theorem ClassOfDevice.fromString_toString (device : ClassOfDevice) :
    ClassOfDevice.fromString device.toString = some device := by
  obtain ⟨cod, sized⟩ := device
  obtain ⟨low, middle, high, rfl⟩ : ∃ low middle high, cod = [low, middle, high] := by
    match cod, sized with
    | [low, middle, high], _ => exact ⟨low, middle, high, rfl⟩
  have middleFits := middle.toNat_lt
  have highFits := high.toNat_lt
  -- the three printed fields, and that each fits its width
  have top : high.toNat <<< 4 ||| middle.toNat >>> 4 = high.toNat * 16 + middle.toNat / 16 := by
    rw [Nat.shiftRight_eq_div_pow, shiftLeft_four_or _ _ (by omega)]
  have nibble : middle.toNat &&& 0x0f = middle.toNat % 16 := Nat.and_two_pow_sub_one_eq_mod _ 4
  have topFits : high.toNat * 16 + middle.toNat / 16 < 16 ^ 3 := by omega
  have nibbleFits : middle.toNat % 16 < 16 ^ 1 := Nat.mod_lt _ (by decide)
  have joined : ClassOfDevice.toString ⟨[low, middle, high], sized⟩ =
      ['-'].intercalate [hexDigits 3 (high.toNat * 16 + middle.toNat / 16),
        hexDigits 1 (middle.toNat % 16), hexDigits 2 low.toNat] := by
    simp only [ClassOfDevice.toString, codFormat, printFormat, List.getElem_cons_succ,
      List.getElem_cons_zero, top, nibble, formatHex_of_lt 3 _ (by decide) topFits,
      formatHex_of_lt 1 _ (by decide) nibbleFits, formatHex_of_lt 2 _ (by decide) low.toNat_lt,
      List.intercalate_cons_cons, List.intercalate_singleton, List.append_assoc,
      List.singleton_append, List.append_nil]
  have pieces : ∀ piece ∈ [hexDigits 3 (high.toNat * 16 + middle.toNat / 16),
      hexDigits 1 (middle.toNat % 16), hexDigits 2 low.toNat], Printed piece := by
    simp only [List.mem_cons, List.mem_nil_iff, or_false]
    rintro piece (rfl | rfl | rfl) <;> exact printed_hexDigits _ _
  have long : (ClassOfDevice.toString ⟨[low, middle, high], sized⟩).length = 8 := by
    rw [joined]
    simp only [List.intercalate_cons_cons, List.intercalate_singleton, List.length_append,
      length_hexDigits, List.length_singleton]
  have tokens : getlineTokens '-' (ClassOfDevice.toString ⟨[low, middle, high], sized⟩) =
      [hexDigits 3 (high.toNat * 16 + middle.toNat / 16), hexDigits 1 (middle.toNat % 16),
        hexDigits 2 low.toNat] := by
    have free : ∀ piece ∈ [hexDigits 3 (high.toNat * 16 + middle.toNat / 16),
        hexDigits 1 (middle.toNat % 16), hexDigits 2 low.toNat], '-' ∉ piece :=
      fun piece inside => (pieces piece inside).not_mem '-' (by decide)
    have lastFull : [hexDigits 3 (high.toNat * 16 + middle.toNat / 16), hexDigits 1 (middle.toNat % 16),
        hexDigits 2 low.toNat].getLast? ≠ some [] := by
      rw [List.getLast?_cons_cons, List.getLast?_cons_cons, List.getLast?_singleton]
      exact fun empty => hexDigits_ne_nil 2 low.toNat (by decide) (Option.some.inj empty)
    rw [joined, getlineTokens_intercalate '-' _ free lastFull]
  have read : readTokens 3 codTokenWidth 0 [hexDigits 3 (high.toNat * 16 + middle.toNat / 16),
      hexDigits 1 (middle.toNat % 16), hexDigits 2 low.toNat] =
      some [((high.toNat * 16 + middle.toNat / 16 : Nat) : Int), ((middle.toNat % 16 : Nat) : Int),
        (low.toNat : Int)] := by
    simp only [readTokens, codTokenWidth,
      readField_hexDigits 3 _ (by decide) (by decide) topFits,
      readField_hexDigits 1 _ (by decide) (by decide) nibbleFits,
      readField_hexDigits 2 _ (by decide) (by decide) low.toNat_lt,
      Option.bind_eq_bind, Option.bind_some, Option.pure_def]
    rfl
  unfold ClassOfDevice.fromString
  rw [if_neg (not_not.mpr long), tokens, read]
  simp only [codFields_octets]

/-- The stores of `sscanf` that run to the end of the octets replace them. -/
theorem storeOctets_to_end (base : List UInt8) (start : Nat) (values : List UInt8)
    (filling : start + values.length = base.length) :
    storeOctets base start values = base.take start ++ values := by
  induction values generalizing base start with
  | nil =>
    rw [List.length_nil, Nat.add_zero] at filling
    rw [storeOctets, List.append_nil, filling, List.take_length]
  | cons value values inductionHypothesis =>
    rw [List.length_cons] at filling
    have inside : start < base.length := by omega
    have stored : (base.set start value).take (start + 1) = base.take start ++ [value] := by
      rw [List.take_set, List.take_add_one, List.getElem?_eq_getElem inside, Option.toList_some,
        List.set_append_right _ _ (by rw [List.length_take]; omega), List.length_take,
        Nat.min_eq_left (Nat.le_of_lt inside), Nat.sub_self, List.set_cons_zero]
    rw [storeOctets, inductionHypothesis _ _ (by rw [List.length_set]; omega), stored,
      List.append_assoc, List.singleton_append]

/-- **A `Uuid` reads back from its text**, and the text is valid. -/
theorem Uuid.fromString_toString (uuid : Uuid) : Uuid.fromString uuid.toString = (uuid, true) := by
  obtain ⟨uu, sized⟩ := uuid
  have fits : Fits uuidFormat (uu.map UInt8.toNat) :=
    fits_octets uuidFormat uu (by decide) (by rw [sized]; rfl)
  have long : (Uuid.toString ⟨uu, sized⟩).length = kString128BitLen := by
    rw [Uuid.toString, length_printFormat _ _ fits]
    rfl
  have notEmpty : Uuid.toString ⟨uu, sized⟩ ≠ [] := by
    intro empty
    rw [empty, List.length_nil] at long
    exact absurd long (by decide)
  -- the dashes stand where the directives before them end
  have dashes : ¬ ((Uuid.toString ⟨uu, sized⟩)[8]? ≠ some '-' ∨ (Uuid.toString ⟨uu, sized⟩)[13]? ≠ some '-' ∨
      (Uuid.toString ⟨uu, sized⟩)[18]? ≠ some '-' ∨ (Uuid.toString ⟨uu, sized⟩)[23]? ≠ some '-') := by
    have at8 : (Uuid.toString ⟨uu, sized⟩)[8]? = some '-' :=
      getElem?_printFormat_literal uuidFormat _ fits 4 '-' rfl
    have at13 : (Uuid.toString ⟨uu, sized⟩)[13]? = some '-' :=
      getElem?_printFormat_literal uuidFormat _ fits 7 '-' rfl
    have at18 : (Uuid.toString ⟨uu, sized⟩)[18]? = some '-' :=
      getElem?_printFormat_literal uuidFormat _ fits 10 '-' rfl
    have at23 : (Uuid.toString ⟨uu, sized⟩)[23]? = some '-' :=
      getElem?_printFormat_literal uuidFormat _ fits 13 '-' rfl
    rw [at8, at13, at18, at23]
    simp
  have whole : cString (Uuid.toString ⟨uu, sized⟩) = Uuid.toString ⟨uu, sized⟩ :=
    cString_printFormat uuidFormat _ (by decide)
  have scanned : scanFormat uuidFormat (Uuid.toString ⟨uu, sized⟩) = (uu, some []) := by
    have readBack := scanFormat_printFormat uuidFormat (uu.map UInt8.toNat) [] fits
    rw [List.append_nil, List.map_map] at readBack
    rw [Uuid.toString, readBack]
    simp only [Function.comp_def, UInt8.ofNat_toNat, List.map_id']
  have stored : storeOctets kBase.uu 0 uu = uu := by
    rw [storeOctets_to_end _ _ _ (by rw [sized]; rfl), List.take_zero, List.nil_append]
  unfold Uuid.fromString
  rw [if_neg notEmpty, if_pos long, if_neg dashes]
  simp only [scanUuid, whole, scanned, stored, sized, long]
  rfl

/-- **Every identifier reads back from its own text**, the `RawAddress` for
every splitter with the law `base::SplitString` is relied on for. -/
theorem identifiers_readBack {splitString : Char → List Char → List (List Char)}
    (laws : SplitStringLaws splitString) :
    (∀ addr : RawAddress, RawAddress.fromString splitString addr.toString = some addr) ∧
      (∀ addr : Address, Address.fromString addr.toString = some addr) ∧
      (∀ device : ClassOfDevice, ClassOfDevice.fromString device.toString = some device) ∧
      (∀ uuid : Uuid, Uuid.fromString uuid.toString = (uuid, true)) :=
  ⟨RawAddress.fromString_toString laws, Address.fromString_toString, ClassOfDevice.fromString_toString,
    Uuid.fromString_toString⟩

/-- With `List.splitOn` as the splitter. -/
theorem identifiers_readBack_splitOn :
    SplitStringLaws (fun separator text => text.splitOn separator) ∧
      (∀ addr : RawAddress,
        RawAddress.fromString (fun separator text => text.splitOn separator) addr.toString = some addr) ∧
      (∀ addr : Address, Address.fromString addr.toString = some addr) ∧
      (∀ device : ClassOfDevice, ClassOfDevice.fromString device.toString = some device) ∧
      (∀ uuid : Uuid, Uuid.fromString uuid.toString = (uuid, true)) :=
  ⟨splitStringLaws_splitOn, identifiers_readBack splitStringLaws_splitOn⟩

/-- **The readers take text no identifier prints.** A sign, or white space
before a digit, passes every length and separator check, and the identifier
read prints as other text: `-1` is read as `0xff`, ` 1` as `0x01`, `+ff` as
`0x0ff`, and a 16-bit UUID of `-1-1` is valid and reads as `ffff`. -/
theorem fromString_acceptsUnprinted (splitString : Char → List Char → List (List Char))
    (laws : SplitStringLaws splitString) :
    (RawAddress.fromString splitString ("-1:00:00:00:00:00".toList)).map RawAddress.toString =
      some ("ff:00:00:00:00:00".toList) ∧
    (Address.fromString (" 1:00:00:00:00:00".toList)).map Address.toString =
      some ("01:00:00:00:00:00".toList) ∧
    (ClassOfDevice.fromString ("+ff-0-00".toList)).map ClassOfDevice.toString =
      some ("0ff-0-00".toList) ∧
    Uuid.fromString ("-1-1".toList) = (Uuid.from16Bit 0xffff, true) := by
  -- the splitter hands `-1` to `strtol` as the first token
  have tokens : splitString ':' "-1:00:00:00:00:00".toList =
      ["-1".toList, "00".toList, "00".toList, "00".toList, "00".toList, "00".toList] := by
    have joined : "-1:00:00:00:00:00".toList =
        [':'].intercalate ["-1".toList, "00".toList, "00".toList, "00".toList, "00".toList, "00".toList] := by
      decide
    rw [joined]
    exact laws.split_intercalate ':' _ (by decide) (by decide)
  refine ⟨?_, by decide⟩
  rw [RawAddress.fromString, if_neg (by decide), tokens]
  decide

/-- With `List.splitOn` as the splitter. -/
theorem fromString_acceptsUnprinted_splitOn :
    SplitStringLaws (fun separator text => text.splitOn separator) ∧
      (RawAddress.fromString (fun separator text => text.splitOn separator)
          ("-1:00:00:00:00:00".toList)).map RawAddress.toString = some ("ff:00:00:00:00:00".toList) ∧
      (Address.fromString (" 1:00:00:00:00:00".toList)).map Address.toString =
        some ("01:00:00:00:00:00".toList) ∧
      (ClassOfDevice.fromString ("+ff-0-00".toList)).map ClassOfDevice.toString =
        some ("0ff-0-00".toList) ∧
      Uuid.fromString ("-1-1".toList) = (Uuid.from16Bit 0xffff, true) :=
  ⟨splitStringLaws_splitOn, fromString_acceptsUnprinted _ splitStringLaws_splitOn⟩

end Fluoride.TextIds
