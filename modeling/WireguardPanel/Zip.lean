import WireguardPanel.Foundation.Bitwise
import WireguardPanel.Foundation.Buffer
import WireguardPanel.Foundation.Crc
import WireguardPanel.Foundation.Utf8
import WireguardPanel.Platform

/-!
# Archives

The archives of generated configurations, which are stored without compression.

* `crc32`: the check of an entry, from a table and with the signed operators of
  the language. `crc32_eq`: it is the CRC-32 of the bits one after the other.
* `safeZipPath`: the path of an entry. `safePath_safeZipPath`: it does not leave
  the directory, whatever the name.
* `createZip`: the writer. Every number has to fit its field: an archive of a
  later year than 2107 is an error.
* `readZip`: a reader, from the record at the end by way of the directory.
* `Stored`: how the entries and their part of the directory are laid out, which
  is what the loop of the writer keeps (`stored_of_foldlM`).
* `createZip_spec`: the reader finds the entries of an archive.
-/

namespace WireguardPanel

open Foundation

/-! ## The check of an entry -/

/-- The step of `crcTable`. -/
def crcStep (value : ℤ) : ℤ :=
  if Bitwise.and value 1 ≠ 0 then Bitwise.xor 0xedb88320 (Bitwise.unsignedShiftRight value 1)
  else Bitwise.unsignedShiftRight value 1

/-- `crcTable`. -/
def crcTable : List ℤ := (List.range 256).map fun index : ℕ =>
  Bitwise.unsignedShiftRight (crcStep^[8] (index : ℤ)) 0

/-- The step of `crc32`. An index beyond the table would count as zero. -/
def crcUpdate (value : ℤ) (byte : UInt8) : ℤ :=
  Bitwise.xor (crcTable.getD (Bitwise.and (Bitwise.xor value byte.toNat) 0xff).toNat 0)
    (Bitwise.unsignedShiftRight value 8)

/-- `crc32`. -/
def crc32 (data : List UInt8) : ℤ :=
  Bitwise.unsignedShiftRight (Bitwise.xor (data.foldl crcUpdate 0xffffffff) 0xffffffff) 0

/-- The polynomial of the check, with its coefficients in reverse. -/
def crcPolynomial : BitVec 32 := 0xedb88320

/-- The CRC-32 of bytes, bit by bit. -/
def bitwiseCrc32 (data : List UInt8) : BitVec 32 :=
  ~~~Crc.register crcPolynomial (BitVec.allOnes 32) data

theorem bits_crcStep (value : ℤ) :
    Bitwise.bits (crcStep value) = Crc.shift crcPolynomial (Bitwise.bits value) := by
  have hpolynomial : Bitwise.bits 0xedb88320 = crcPolynomial := by decide
  rw [crcStep, Crc.shift]
  by_cases hlow : (Bitwise.bits value).getLsbD 0 = true
  · rw [if_pos ((Bitwise.and_one_ne_zero_iff value).2 hlow), if_pos hlow, Bitwise.bits_xor,
      Bitwise.bits_unsignedShiftRight, hpolynomial, BitVec.xor_comm]
  · rw [if_neg fun h => hlow ((Bitwise.and_one_ne_zero_iff value).1 h), if_neg hlow,
      Bitwise.bits_unsignedShiftRight]

theorem bits_iterate_crcStep (value : ℤ) (k : ℕ) :
    Bitwise.bits (crcStep^[k] value) = (Crc.shift crcPolynomial)^[k] (Bitwise.bits value) := by
  induction k generalizing value with
  | zero => rfl
  | succ k ih => rw [Function.iterate_succ_apply, ih, bits_crcStep, ← Function.iterate_succ_apply]

/-- An entry of the table is the register after eight shifts of its index. -/
theorem bits_crcTable {index : ℕ} (h : index < 256) :
    Bitwise.bits (crcTable.getD index 0) =
      (Crc.shift crcPolynomial)^[8] (BitVec.ofNat 32 index) := by
  have hentry : crcTable.getD index 0 =
      Bitwise.unsignedShiftRight (crcStep^[8] index) 0 := by
    rw [crcTable, List.getD_eq_getElem?_getD, List.getElem?_map, List.getElem?_range h]
    rfl
  rw [hentry, Bitwise.bits_unsignedShiftRight, BitVec.ushiftRight_zero, bits_iterate_crcStep,
    Bitwise.bits, BitVec.ofInt_natCast]

/-- The step of `crc32` shifts the eight bits of a byte out of the register. -/
theorem bits_crcUpdate (value : ℤ) (byte : UInt8) :
    Bitwise.bits (crcUpdate value byte) = (Crc.shift crcPolynomial)^[8]
      (Bitwise.bits value ^^^ byte.toBitVec.setWidth 32) := by
  have hbyte : Bitwise.bits byte.toNat = byte.toBitVec.setWidth 32 := by
    refine BitVec.eq_of_toNat_eq ?_
    rw [Bitwise.bits, BitVec.ofInt_natCast, BitVec.toNat_ofNat, BitVec.toNat_setWidth,
      UInt8.toNat_toBitVec]
  have hmask : Bitwise.bits 0xff = 0xff := by decide
  have hindex : Bitwise.and (Bitwise.xor value byte.toNat) 0xff =
      (((Bitwise.bits value ^^^ byte.toBitVec.setWidth 32) &&& 0xff).toNat : ℤ) := by
    rw [Bitwise.and, Bitwise.bits_xor, hbyte, hmask, Bitwise.toInt_of_lt]
    rw [BitVec.toNat_and]
    exact Nat.lt_of_le_of_lt Nat.and_le_right (by decide)
  have hless : ((Bitwise.bits value ^^^ byte.toBitVec.setWidth 32) &&& 0xff).toNat < 256 := by
    rw [BitVec.toNat_and]
    exact Nat.lt_of_le_of_lt Nat.and_le_right (by decide)
  have hhigh : byte.toBitVec.setWidth 32 >>> 8 = 0#32 := by
    refine BitVec.eq_of_getLsbD_eq fun i _ => ?_
    rw [BitVec.getLsbD_ushiftRight, BitVec.getLsbD_setWidth, BitVec.getLsbD_of_ge _ _ (by omega)]
    simp
  rw [crcUpdate, Bitwise.bits_xor, hindex, Int.toNat_natCast, bits_crcTable hless,
    Bitwise.bits_unsignedShiftRight, BitVec.ofNat_toNat, BitVec.setWidth_eq,
    Crc.shifts_eight_eq _ (Bitwise.bits value ^^^ _), BitVec.ushiftRight_xor_distrib, hhigh,
    BitVec.xor_zero]

theorem bits_foldl_crcUpdate (value : ℤ) (data : List UInt8) :
    Bitwise.bits (data.foldl crcUpdate value) =
      Crc.register crcPolynomial (Bitwise.bits value) data := by
  induction data generalizing value with
  | nil => rfl
  | cons byte data ih =>
    rw [List.foldl_cons, ih, bits_crcUpdate, Crc.register_cons (by decide)]

/-- The bits that `crc32` gives back as an unsigned number. -/
theorem bits_crc32 (data : List UInt8) :
    Bitwise.bits (Bitwise.xor (data.foldl crcUpdate 0xffffffff) 0xffffffff) =
      bitwiseCrc32 data := by
  have hones : Bitwise.bits 0xffffffff = BitVec.allOnes 32 := by decide
  rw [Bitwise.bits_xor, bits_foldl_crcUpdate, hones, BitVec.xor_allOnes, bitwiseCrc32]

/-- The check from the table is the one bit by bit. -/
theorem crc32_eq (data : List UInt8) : crc32 data = (bitwiseCrc32 data).toNat := by
  rw [crc32, Bitwise.unsignedShiftRight, BitVec.ushiftRight_zero, bits_crc32]

example : bitwiseCrc32 [0x31, 0x32, 0x33, 0x34, 0x35, 0x36, 0x37, 0x38, 0x39] = 0xcbf43926 := by
  decide +kernel

/-! ## Paths -/

/-- The parts of a path that `safeZipPath` keeps. -/
def keepsPart (part : String) : Bool := part ≠ "" && part ≠ "." && part ≠ ".."

/-- `safeZipPath`. -/
def safeZipPath (value : String) : String :=
  let path := Text.join "/" ((Text.split '/'
    (String.ofList (value.toList.map fun c => if c = '\\' then '/' else c))).filter keepsPart)
  if path = "" then "file" else path

/-- A relative path that stays where it is. -/
structure SafePath (path : String) : Prop where
  part : ∀ part ∈ Text.split '/' path, part ≠ "" ∧ part ≠ "." ∧ part ≠ ".."
  backslash : '\\' ∉ path.toList

/-- The parts that are kept, or the name that stands for none of them. -/
theorem exists_parts (value : String) : ∃ parts : List String, parts ≠ [] ∧
    (∀ part ∈ parts, keepsPart part = true ∧ '/' ∉ part.toList ∧ '\\' ∉ part.toList) ∧
    safeZipPath value = Text.join "/" parts := by
  set mapped := value.toList.map fun c => if c = '\\' then '/' else c with hmapped
  set parts := (Text.split '/' (String.ofList mapped)).filter keepsPart with hparts
  have hno : '\\' ∉ mapped := fun hmem => by
    obtain ⟨c, -, hc⟩ := List.mem_map.1 hmem
    split_ifs at hc with hback
    · exact absurd hc (by decide)
    · exact hback hc
  have hall : ∀ part ∈ parts,
      keepsPart part = true ∧ '/' ∉ part.toList ∧ '\\' ∉ part.toList := fun part hpart => by
    obtain ⟨hsplit, hkeeps⟩ := List.mem_filter.1 hpart
    obtain ⟨piece, hpiece, rfl⟩ := List.mem_map.1 hsplit
    rw [String.toList_ofList] at hpiece ⊢
    obtain ⟨hslash, hsub⟩ := Text.of_mem_splitOn hpiece
    exact ⟨hkeeps, hslash, fun hback => hno (hsub _ hback)⟩
  have hpath : safeZipPath value =
      if Text.join "/" parts = "" then "file" else Text.join "/" parts := rfl
  by_cases hempty : Text.join "/" parts = ""
  · refine ⟨["file"], List.cons_ne_nil _ _, fun part hpart => ?_, ?_⟩
    · rw [List.mem_singleton.1 hpart]
      decide
    · rw [hpath, if_pos hempty]
      rfl
  · refine ⟨parts, fun hnil => hempty ?_, hall, ?_⟩
    · rw [hnil]
      rfl
    · rw [hpath, if_neg hempty]

theorem split_safeZipPath {value : String} {parts : List String} (hne : parts ≠ [])
    (hparts : ∀ part ∈ parts,
      keepsPart part = true ∧ '/' ∉ part.toList ∧ '\\' ∉ part.toList)
    (h : safeZipPath value = Text.join "/" parts) :
    Text.split '/' (safeZipPath value) = parts := by
  rw [h]
  exact Text.split_join hne fun part hpart => (hparts part hpart).2.1

theorem safePath_safeZipPath (value : String) : SafePath (safeZipPath value) := by
  obtain ⟨parts, hne, hparts, hpath⟩ := exists_parts value
  refine ⟨fun part hpart => ?_, fun hback => ?_⟩
  · rw [split_safeZipPath hne hparts hpath] at hpart
    simpa [keepsPart, and_assoc] using (hparts part hpart).1
  · rw [hpath] at hback
    rcases Text.mem_join hback with hsep | ⟨part, hpart, hmem⟩
    · exact absurd hsep (by decide)
    · exact (hparts part hpart).2.2 hmem

/-- A path that is safe is kept as it is. -/
theorem safeZipPath_safeZipPath (value : String) :
    safeZipPath (safeZipPath value) = safeZipPath value := by
  obtain ⟨parts, hne, hparts, hpath⟩ := exists_parts value
  have hsafe := safePath_safeZipPath value
  have hsplit := split_safeZipPath hne hparts hpath
  have hmap : (safeZipPath value).toList.map (fun c => if c = '\\' then '/' else c) =
      (safeZipPath value).toList := by
    conv_rhs => rw [← List.map_id (safeZipPath value).toList]
    exact List.map_congr_left fun c hc =>
      if_neg fun heq : c = '\\' => hsafe.backslash (heq ▸ hc)
  have hfilter : parts.filter keepsPart = parts :=
    List.filter_eq_self.2 fun part hpart => (hparts part hpart).1
  have hnonempty : safeZipPath value ≠ "" := fun hempty => by
    have hpart := (hsafe.part "" (by rw [hempty]; decide)).1
    exact hpart rfl
  rw [safeZipPath, hmap, String.ofList_toList, hsplit, hfilter, ← hpath]
  exact if_neg hnonempty

/-- The bytes of parts, each with a separator. -/
def partsLength (parts : List String) : ℕ :=
  (parts.map fun part => (Utf8.encode part).length + 1).sum

theorem length_encode_append (s t : String) :
    (Utf8.encode (s ++ t)).length = (Utf8.encode s).length + (Utf8.encode t).length := by
  rw [Utf8.encode, String.toList_append, List.flatMap_append, List.length_append]
  rfl

theorem length_encode_join {parts : List String} (hne : parts ≠ []) :
    (Utf8.encode (Text.join "/" parts)).length + 1 = partsLength parts := by
  induction parts with
  | nil => exact absurd rfl hne
  | cons s rest ih =>
    cases rest with
    | nil => simp [Text.join, partsLength]
    | cons t rest =>
      have hslash : (Utf8.encode "/").length = 1 := by decide
      have hrest := ih (List.cons_ne_nil _ _)
      simp only [partsLength, List.map_cons, List.sum_cons] at hrest ⊢
      rw [Text.join, length_encode_append, length_encode_append, hslash]
      omega

theorem partsLength_split (s : String) :
    partsLength (Text.split '/' s) = (Utf8.encode s).length + 1 := by
  have hlist : ∀ cs : List Char, ((cs.splitOn '/').map fun piece =>
      (piece.flatMap String.utf8EncodeChar).length + 1).sum =
        (cs.flatMap String.utf8EncodeChar).length + 1 := fun cs => by
    induction cs with
    | nil => rfl
    | cons c cs ih =>
      have hslash : (String.utf8EncodeChar '/').length = 1 := by decide
      rw [List.splitOn_cons_eq_if_modifyHead]
      split_ifs with hc
      · rw [eq_of_beq hc, List.map_cons, List.sum_cons, ih]
        simp only [List.flatMap_nil, List.flatMap_cons, List.length_nil, List.length_append, hslash]
        omega
      · cases hpieces : cs.splitOn '/' with
        | nil => exact absurd hpieces (List.splitOn_ne_nil '/' cs)
        | cons first rest =>
          rw [hpieces, List.map_cons, List.sum_cons] at ih
          rw [List.modifyHead_cons, List.map_cons, List.sum_cons, List.flatMap_cons,
            List.flatMap_cons, List.length_append, List.length_append]
          omega
  rw [partsLength, Text.split, List.map_map]
  refine Eq.trans (congrArg List.sum (List.map_congr_left fun piece _ => ?_)) (hlist s.toList)
  rw [Function.comp_apply, Utf8.encode, String.toList_ofList]

theorem partsLength_filter_le (parts : List String) :
    partsLength (parts.filter keepsPart) ≤ partsLength parts := by
  induction parts with
  | nil => exact le_rfl
  | cons part parts ih =>
    simp only [partsLength] at ih ⊢
    rw [List.filter_cons]
    split_ifs with hkeeps
    · simp only [List.map_cons, List.sum_cons]
      omega
    · simp only [List.map_cons, List.sum_cons]
      omega

/-- A path gets no longer, unless nothing of it is kept. -/
theorem length_encode_safeZipPath_le (value : String) :
    (Utf8.encode (safeZipPath value)).length ≤ max 4 (Utf8.encode value).length := by
  have hmapped : (Utf8.encode (String.ofList
      (value.toList.map fun c => if c = '\\' then '/' else c))).length =
        (Utf8.encode value).length := by
    rw [Utf8.encode, Utf8.encode, String.toList_ofList]
    induction value.toList with
    | nil => rfl
    | cons c cs ih =>
      rw [List.map_cons, List.flatMap_cons, List.flatMap_cons, List.length_append,
        List.length_append, ih]
      split_ifs with hc
      · rw [hc]
        rfl
      · rfl
  have hle := partsLength_filter_le (Text.split '/' (String.ofList
    (value.toList.map fun c => if c = '\\' then '/' else c)))
  rw [partsLength_split, hmapped] at hle
  simp only [safeZipPath]
  split_ifs with hempty
  · exact (by decide : (Utf8.encode "file").length ≤ 4).trans (le_max_left _ _)
  · have hnonempty : (Text.split '/' (String.ofList
        (value.toList.map fun c => if c = '\\' then '/' else c))).filter keepsPart ≠ [] :=
      fun hnil => hempty (by rw [hnil]; rfl)
    have hjoin := length_encode_join hnonempty
    omega

/-! ## Times -/

/-- The local time of a valid `Date`. The month is counted from zero. -/
structure LocalTime where
  year : ℤ
  month : ℕ
  day : ℕ
  hours : ℕ
  minutes : ℕ
  seconds : ℕ
  year_le : year ≤ 275760
  month_lt : month < 12
  day_le : day ≤ 31
  hours_lt : hours < 24
  minutes_lt : minutes < 60
  seconds_lt : seconds < 60

/-- `dosDateTime`: the time and the date. Each part of a date that is not valid
    is `NaN`, which the operators take for zero. -/
def dosDateTime : Option LocalTime → ℤ × ℤ
  | none => (0, 0)
  | some value =>
    (Bitwise.or (Bitwise.or (Bitwise.shiftLeft value.hours 11) (Bitwise.shiftLeft value.minutes 5))
        (value.seconds / 2 : ℕ),
      Bitwise.or (Bitwise.or (Bitwise.shiftLeft (max 1980 value.year - 1980) 9)
        (Bitwise.shiftLeft (value.month + 1) 5)) value.day)

/-! ## The writer -/

/-- `ZipEntry`. -/
structure ZipEntry where
  name : String
  data : String ⊕ List UInt8

/-- The bytes of the name that is written. -/
def ZipEntry.nameBytes (entry : ZipEntry) : List UInt8 := Utf8.encode (safeZipPath entry.name)

/-- The bytes of the data. -/
def ZipEntry.dataBytes (entry : ZipEntry) : List UInt8 :=
  match entry.data with
  | .inl text => Utf8.encode text
  | .inr buffer => buffer

/-- What is written into the header of an entry. -/
def localFields (time date crc : ℤ) (size nameLength : ℕ) : List Buffer.Field :=
  [⟨4, 0x04034b50, 0⟩, ⟨2, 20, 4⟩, ⟨2, 0x0800, 6⟩, ⟨2, time, 10⟩, ⟨2, date, 12⟩, ⟨4, crc, 14⟩,
    ⟨4, size, 18⟩, ⟨4, size, 22⟩, ⟨2, nameLength, 26⟩]

/-- What is written into the record of an entry in the directory. -/
def centralFields (time date crc : ℤ) (size nameLength offset : ℕ) : List Buffer.Field :=
  [⟨4, 0x02014b50, 0⟩, ⟨2, 20, 4⟩, ⟨2, 20, 6⟩, ⟨2, 0x0800, 8⟩, ⟨2, time, 12⟩, ⟨2, date, 14⟩,
    ⟨4, crc, 16⟩, ⟨4, size, 20⟩, ⟨4, size, 24⟩, ⟨2, nameLength, 28⟩, ⟨4, offset, 42⟩]

/-- What is written into the record at the end. -/
def endFields (count centralSize offset : ℕ) : List Buffer.Field :=
  [⟨4, 0x06054b50, 0⟩, ⟨2, count, 8⟩, ⟨2, count, 10⟩, ⟨4, centralSize, 12⟩, ⟨4, offset, 16⟩]

/-- The variables of the loop of `createZip`. -/
structure ZipState where
  entries : List (List UInt8)
  central : List (List UInt8)
  offset : ℕ

/-- The loop of `createZip`. A number that does not fit its field is an error. -/
def addEntry (now : Option LocalTime) (s : ZipState) (entry : ZipEntry) : Option ZipState := do
  let time := (dosDateTime now).1
  let date := (dosDateTime now).2
  let name := entry.nameBytes
  let data := entry.dataBytes
  let crc := crc32 data
  let header ← Buffer.writeAll (List.replicate 30 0)
    (localFields time date crc data.length name.length)
  let record ← Buffer.writeAll (List.replicate 46 0)
    (centralFields time date crc data.length name.length s.offset)
  return {
    entries := s.entries ++ [header, name, data]
    central := s.central ++ [record, name]
    offset := s.offset + (header.length + name.length + data.length) }

/-- `createZip`. -/
def createZip (entries : List ZipEntry) (now : Option LocalTime) : Option (List UInt8) := do
  let s ← entries.foldlM (addEntry now) ⟨[], [], 0⟩
  let centralSize := (s.central.map List.length).sum
  let record ← Buffer.writeAll (List.replicate 22 0)
    (endFields entries.length centralSize s.offset)
  return (s.entries ++ s.central ++ [record]).flatten

/-! ## A reader -/

/-- What a header says about an entry. -/
structure ZipHeader where
  name : String
  crc : ℕ
  compressedSize : ℕ
  size : ℕ
  deriving DecidableEq

/-- An entry as a reader finds it, with both of its headers. -/
structure ZipMember where
  header : ZipHeader
  record : ZipHeader
  data : List UInt8
  deriving DecidableEq

/-- The header of a stored entry with a UTF-8 name, and its data. -/
def readLocal (archive : List UInt8) (offset compressedSize : ℕ) :
    Option (ZipHeader × List UInt8) := do
  guard (Buffer.read archive 4 offset = some 0x04034b50)
  guard (Buffer.read archive 2 (offset + 6) = some 0x0800)
  guard (Buffer.read archive 2 (offset + 8) = some 0)
  let crc ← Buffer.read archive 4 (offset + 14)
  let compressed ← Buffer.read archive 4 (offset + 18)
  let size ← Buffer.read archive 4 (offset + 22)
  let nameLength ← Buffer.read archive 2 (offset + 26)
  let extraLength ← Buffer.read archive 2 (offset + 28)
  let name ← Buffer.slice archive (offset + 30) nameLength
  let data ← Buffer.slice archive (offset + (30 + nameLength + extraLength)) compressedSize
  return (⟨Utf8.decode name, crc, compressed, size⟩, data)

/-- The records of the directory from a position on, which end with the directory. -/
def readCentral (archive : List UInt8) (stop : ℕ) : ℕ → ℕ → Option (List ZipMember)
  | 0, position => if position = stop then some [] else none
  | count + 1, position => do
    guard (Buffer.read archive 4 position = some 0x02014b50)
    guard (Buffer.read archive 2 (position + 8) = some 0x0800)
    guard (Buffer.read archive 2 (position + 10) = some 0)
    let crc ← Buffer.read archive 4 (position + 16)
    let compressed ← Buffer.read archive 4 (position + 20)
    let size ← Buffer.read archive 4 (position + 24)
    let nameLength ← Buffer.read archive 2 (position + 28)
    let extraLength ← Buffer.read archive 2 (position + 30)
    let commentLength ← Buffer.read archive 2 (position + 32)
    let offset ← Buffer.read archive 4 (position + 42)
    let name ← Buffer.slice archive (position + 46) nameLength
    let (header, data) ← readLocal archive offset compressed
    let rest ← readCentral archive stop count
      (position + (46 + nameLength + extraLength + commentLength))
    return ⟨header, ⟨Utf8.decode name, crc, compressed, size⟩, data⟩ :: rest

/-- The entries of an archive whose end record is at its end. -/
def readZip (archive : List UInt8) : Option (List ZipMember) := do
  let position := archive.length - 22
  guard (Buffer.read archive 4 position = some 0x06054b50)
  let count ← Buffer.read archive 2 (position + 10)
  let centralSize ← Buffer.read archive 4 (position + 12)
  let offset ← Buffer.read archive 4 (position + 16)
  guard (Buffer.read archive 2 (position + 20) = some 0)
  guard (offset + centralSize = position)
  readCentral archive (offset + centralSize) count offset

/-- What a reader should find of an entry. -/
def ZipEntry.member (entry : ZipEntry) : ZipMember :=
  let header : ZipHeader := ⟨safeZipPath entry.name, (bitwiseCrc32 entry.dataBytes).toNat,
    entry.dataBytes.length, entry.dataBytes.length⟩
  ⟨header, header, entry.dataBytes⟩

/-! ## What the writer has written -/

theorem crc32_fits (data : List UInt8) : 0 ≤ crc32 data ∧ crc32 data < 256 ^ 4 := by
  rw [crc32, Bitwise.unsignedShiftRight]
  have hlt := (Bitwise.bits (Bitwise.xor (data.foldl crcUpdate 0xffffffff) 0xffffffff) >>> 0).isLt
  omega

theorem toNat_crc32 (data : List UInt8) : (crc32 data).toNat = (bitwiseCrc32 data).toNat := by
  rw [crc32, Bitwise.unsignedShiftRight, BitVec.ushiftRight_zero, bits_crc32, Int.toNat_natCast]

theorem separate_localFields (time date crc : ℤ) (size nameLength : ℕ) :
    Buffer.Separate (localFields time date crc size nameLength) := by
  simp [Buffer.Separate, localFields, Buffer.Field.Apart]

theorem separate_centralFields (time date crc : ℤ) (size nameLength offset : ℕ) :
    Buffer.Separate (centralFields time date crc size nameLength offset) := by
  simp [Buffer.Separate, centralFields, Buffer.Field.Apart]

theorem separate_endFields (count centralSize offset : ℕ) :
    Buffer.Separate (endFields count centralSize offset) := by
  simp [Buffer.Separate, endFields, Buffer.Field.Apart]

/-- The header of an entry. -/
def IsHeader (now : Option LocalTime) (entry : ZipEntry) : List UInt8 → Prop :=
  Buffer.Filled (List.replicate 30 0) (localFields (dosDateTime now).1 (dosDateTime now).2
    (crc32 entry.dataBytes) entry.dataBytes.length entry.nameBytes.length)

/-- The record of an entry in the directory. -/
def IsRecord (now : Option LocalTime) (entry : ZipEntry) (offset : ℕ) : List UInt8 → Prop :=
  Buffer.Filled (List.replicate 46 0) (centralFields (dosDateTime now).1 (dosDateTime now).2
    (crc32 entry.dataBytes) entry.dataBytes.length entry.nameBytes.length offset)

/-- The entries from an offset on, with their part of the directory. -/
inductive Stored (now : Option LocalTime) :
    List ZipEntry → ℕ → List UInt8 → List UInt8 → Prop
  | nil (offset : ℕ) : Stored now [] offset [] []
  | cons {entry : ZipEntry} {entries : List ZipEntry} {offset : ℕ}
      {header record locals centrals : List UInt8} : IsHeader now entry header →
      IsRecord now entry offset record →
      Stored now entries (offset + (30 + entry.nameBytes.length + entry.dataBytes.length)) locals
        centrals →
      Stored now (entry :: entries) offset
        (header ++ (entry.nameBytes ++ (entry.dataBytes ++ locals)))
        (record ++ (entry.nameBytes ++ centrals))

/-- What the loop does with an entry. -/
theorem addEntry_eq_some {now : Option LocalTime} {s s' : ZipState} {entry : ZipEntry}
    (h : addEntry now s entry = some s') :
    ∃ header record, IsHeader now entry header ∧ IsRecord now entry s.offset record ∧
      s' = ⟨s.entries ++ [header, entry.nameBytes, entry.dataBytes],
        s.central ++ [record, entry.nameBytes],
        s.offset + (30 + entry.nameBytes.length + entry.dataBytes.length)⟩ := by
  obtain ⟨header, hheader, h⟩ := Option.bind_eq_some_iff.1 h
  obtain ⟨record, hrecord, h⟩ := Option.bind_eq_some_iff.1 h
  have hfilled := Buffer.filled_of_writeAll (separate_localFields _ _ _ _ _) hheader
  refine ⟨header, record, hfilled,
    Buffer.filled_of_writeAll (separate_centralFields _ _ _ _ _ _) hrecord, ?_⟩
  rw [← Option.some.inj h, hfilled.length, List.length_replicate]

theorem stored_of_foldlM {now : Option LocalTime} {entries : List ZipEntry} {s s' : ZipState}
    (h : entries.foldlM (addEntry now) s = some s') :
    ∃ locals centrals, Stored now entries s.offset locals centrals ∧
      s'.entries.flatten = s.entries.flatten ++ locals ∧
      s'.central.flatten = s.central.flatten ++ centrals ∧
      s'.offset = s.offset + locals.length := by
  induction entries generalizing s with
  | nil =>
    rw [List.foldlM_nil] at h
    rw [← Option.some.inj h]
    exact ⟨[], [], .nil _, (List.append_nil _).symm, (List.append_nil _).symm, rfl⟩
  | cons entry entries ih =>
    rw [List.foldlM_cons] at h
    obtain ⟨middle, hentry, hrest⟩ := Option.bind_eq_some_iff.1 h
    obtain ⟨header, record, hheader, hrecord, rfl⟩ := addEntry_eq_some hentry
    obtain ⟨locals, centrals, hstored, hentries, hcentral, hoffset⟩ := ih hrest
    refine ⟨_, _, .cons hheader hrecord hstored, ?_, ?_, ?_⟩
    · rw [hentries]
      simp
    · rw [hcentral]
      simp
    · rw [hoffset]
      simp only [List.length_append, hheader.length, List.length_replicate]
      omega

/-! ## Reading it -/

/-- The header and the data of an entry are read at the place of the header. -/
theorem readLocal_header {now : Option LocalTime} {entry : ZipEntry} {header : List UInt8}
    (h : IsHeader now entry header) (front back : List UInt8) :
    readLocal (front ++ (header ++ (entry.nameBytes ++ (entry.dataBytes ++ back)))) front.length
      entry.dataBytes.length = some (entry.member.header, entry.dataBytes) := by
  have hlength : header.length = 30 := h.length.trans List.length_replicate
  set rest := entry.nameBytes ++ (entry.dataBytes ++ back) with hrest
  -- The fields of the header, which are followed by the name.
  have hread : ∀ width offset, offset + width ≤ 30 →
      Buffer.read (front ++ (header ++ rest)) width (front.length + offset) =
        Buffer.read header width offset := fun width offset hplace =>
    Buffer.read_within (hlength ▸ hplace)
  have hsignature := (hread 4 0 (by decide)).trans
    (h.read ⟨4, 0x04034b50, 0⟩ (List.mem_of_getElem? (i := 0) rfl))
  have hflags := (hread 2 6 (by decide)).trans
    (h.read ⟨2, 0x0800, 6⟩ (List.mem_of_getElem? (i := 2) rfl))
  have hmethod := (hread 2 8 (by decide)).trans
    (h.read_rest (by simp only [localFields, List.forall_mem_cons, Buffer.Field.Apart]; decide))
  have hcrc := (hread 4 14 (by decide)).trans
    (h.read ⟨4, crc32 entry.dataBytes, 14⟩ (List.mem_of_getElem? (i := 5) rfl))
  have hcompressed := (hread 4 18 (by decide)).trans
    (h.read ⟨4, entry.dataBytes.length, 18⟩ (List.mem_of_getElem? (i := 6) rfl))
  have hsize := (hread 4 22 (by decide)).trans
    (h.read ⟨4, entry.dataBytes.length, 22⟩ (List.mem_of_getElem? (i := 7) rfl))
  have hnameLength := (hread 2 26 (by decide)).trans
    (h.read ⟨2, entry.nameBytes.length, 26⟩ (List.mem_of_getElem? (i := 8) rfl))
  have hextraLength := (hread 2 28 (by decide)).trans
    (h.read_rest (by simp only [localFields, List.forall_mem_cons, Buffer.Field.Apart]; decide))
  have hname := Buffer.slice_within front header entry.nameBytes (entry.dataBytes ++ back)
  have hdata := Buffer.slice_within front (header ++ entry.nameBytes) entry.dataBytes back
  rw [hlength, ← hrest] at hname
  rw [List.append_assoc header, ← hrest, List.length_append, hlength] at hdata
  rw [Nat.add_zero] at hsignature
  have hzero : Buffer.read (List.replicate 30 0) 2 8 = some 0 ∧
      Buffer.read (List.replicate 30 0) 2 28 = some 0 := ⟨rfl, rfl⟩
  rw [hzero.1] at hmethod
  rw [hzero.2] at hextraLength
  simp only [Int.toNat_natCast, toNat_crc32] at hcrc hcompressed hsize hnameLength
  simp only [readLocal, hsignature, hflags, hmethod, hcrc, hcompressed, hsize, hnameLength,
    hextraLength, hname, Nat.add_zero, hdata, guard, Option.bind_eq_bind, Option.bind_some]
  simp [ZipEntry.member, ZipEntry.nameBytes, Utf8.decode_encode]

/-- The records are read one after the other, each with the entry at its offset. -/
theorem readCentral_stored {now : Option LocalTime} {entries : List ZipEntry} {offset : ℕ}
    {locals centrals : List UInt8} (h : Stored now entries offset locals centrals)
    {archive front middle front' back : List UInt8} (hoffset : front.length = offset)
    (hlocals : archive = front ++ (locals ++ middle))
    (hcentrals : archive = front' ++ (centrals ++ back)) :
    readCentral archive (front'.length + centrals.length) entries.length front'.length =
      some (entries.map ZipEntry.member) := by
  induction h generalizing front front' with
  | nil =>
    rw [List.length_nil, List.length_nil, Nat.add_zero, readCentral, if_pos rfl, List.map_nil]
  | @cons entry entries offset header record locals centrals hheader hrecord hrest ih =>
    have hheaderLength : header.length = 30 := hheader.length.trans List.length_replicate
    have hrecordLength : record.length = 46 := hrecord.length.trans List.length_replicate
    have hread : ∀ width place, place + width ≤ 46 →
        Buffer.read archive width (front'.length + place) = Buffer.read record width place :=
      fun width place hplace => by
        rw [hcentrals, List.append_assoc, Buffer.read_within (hrecordLength ▸ hplace)]
    have hsignature := (hread 4 0 (by decide)).trans
      (hrecord.read ⟨4, 0x02014b50, 0⟩ (List.mem_of_getElem? (i := 0) rfl))
    have hflags := (hread 2 8 (by decide)).trans
      (hrecord.read ⟨2, 0x0800, 8⟩ (List.mem_of_getElem? (i := 3) rfl))
    have hmethod := (hread 2 10 (by decide)).trans
      (hrecord.read_rest (by
        simp only [centralFields, List.forall_mem_cons, Buffer.Field.Apart]; decide))
    have hcrc := (hread 4 16 (by decide)).trans
      (hrecord.read ⟨4, crc32 entry.dataBytes, 16⟩ (List.mem_of_getElem? (i := 6) rfl))
    have hcompressed := (hread 4 20 (by decide)).trans
      (hrecord.read ⟨4, entry.dataBytes.length, 20⟩ (List.mem_of_getElem? (i := 7) rfl))
    have hsize := (hread 4 24 (by decide)).trans
      (hrecord.read ⟨4, entry.dataBytes.length, 24⟩ (List.mem_of_getElem? (i := 8) rfl))
    have hnameLength := (hread 2 28 (by decide)).trans
      (hrecord.read ⟨2, entry.nameBytes.length, 28⟩ (List.mem_of_getElem? (i := 9) rfl))
    have hextraLength := (hread 2 30 (by decide)).trans
      (hrecord.read_rest (by
        simp only [centralFields, List.forall_mem_cons, Buffer.Field.Apart]; decide))
    have hcommentLength := (hread 2 32 (by decide)).trans
      (hrecord.read_rest (by
        simp only [centralFields, List.forall_mem_cons, Buffer.Field.Apart]; decide))
    have hplace := (hread 4 42 (by decide)).trans
      (hrecord.read ⟨4, offset, 42⟩ (List.mem_of_getElem? (i := 10) rfl))
    have hname : Buffer.slice archive (front'.length + 46) entry.nameBytes.length =
        some entry.nameBytes := by
      have hwithin := Buffer.slice_within front' record entry.nameBytes (centrals ++ back)
      rwa [hrecordLength, ← List.append_assoc entry.nameBytes, ← List.append_assoc record,
        ← hcentrals] at hwithin
    have hlocal : readLocal archive offset entry.dataBytes.length =
        some (entry.member.header, entry.dataBytes) := by
      have hat := readLocal_header hheader front (locals ++ middle)
      rwa [hoffset, ← List.append_assoc entry.dataBytes, ← List.append_assoc entry.nameBytes,
        ← List.append_assoc header, ← hlocals] at hat
    have hlater := @ih (front ++ (header ++ (entry.nameBytes ++ entry.dataBytes)))
      (front' ++ (record ++ entry.nameBytes))
      (by simp only [List.length_append]; omega)
      (by rw [hlocals]; simp only [List.append_assoc])
      (by rw [hcentrals]; simp only [List.append_assoc])
    have hstop : (front' ++ (record ++ entry.nameBytes)).length + centrals.length =
        front'.length + (record ++ (entry.nameBytes ++ centrals)).length := by
      simp only [List.length_append]
      omega
    have hnext : (front' ++ (record ++ entry.nameBytes)).length =
        front'.length + (46 + entry.nameBytes.length) := by
      simp only [List.length_append]
      omega
    rw [hstop, hnext] at hlater
    have hzero : Buffer.read (List.replicate 46 0) 2 10 = some 0 ∧
        Buffer.read (List.replicate 46 0) 2 30 = some 0 ∧
        Buffer.read (List.replicate 46 0) 2 32 = some 0 := ⟨rfl, rfl, rfl⟩
    rw [hzero.1] at hmethod
    rw [hzero.2.1] at hextraLength
    rw [hzero.2.2] at hcommentLength
    rw [Nat.add_zero] at hsignature
    simp only [Int.toNat_natCast, toNat_crc32] at hcrc hcompressed hsize hnameLength hplace
    simp only [List.length_cons, readCentral, hsignature, hflags, hmethod, hcrc, hcompressed, hsize,
      hnameLength, hextraLength, hcommentLength, hplace, hname, Nat.add_zero, hlocal, hlater, guard,
      Option.bind_eq_bind, Option.bind_some]
    simp [ZipEntry.member, ZipEntry.nameBytes, Utf8.decode_encode]

/-- What the writer has written is read as its entries. -/
theorem readZip_createZip {entries : List ZipEntry} {now : Option LocalTime}
    {archive : List UInt8} (h : createZip entries now = some archive) :
    ∃ locals centrals, Stored now entries 0 locals centrals ∧
      archive.length = locals.length + centrals.length + 22 ∧
      readZip archive = some (entries.map ZipEntry.member) := by
  obtain ⟨s, hloop, h⟩ := Option.bind_eq_some_iff.1 h
  obtain ⟨record, hend, h⟩ := Option.bind_eq_some_iff.1 h
  obtain ⟨locals, centrals, hstored, hentries, hcentral, hoffset⟩ := stored_of_foldlM hloop
  have hrecord := Buffer.filled_of_writeAll (separate_endFields _ _ _) hend
  have hrecordLength : record.length = 22 := hrecord.length.trans List.length_replicate
  have hcentralSize : (s.central.map List.length).sum = centrals.length := by
    rw [← List.length_flatten, hcentral]
    simp
  have harchive : archive = locals ++ (centrals ++ record) := by
    rw [← Option.some.inj h]
    simp [hentries, hcentral]
  have hlength : archive.length = locals.length + centrals.length + 22 := by
    rw [harchive, List.length_append, List.length_append]
    omega
  refine ⟨locals, centrals, hstored, hlength, ?_⟩
  have hposition : archive.length - 22 = (locals ++ centrals).length := by
    rw [List.length_append]
    omega
  have hread : ∀ width place, Buffer.read archive width ((locals ++ centrals).length + place) =
      Buffer.read record width place := fun width place => by
    rw [harchive, ← List.append_assoc, Buffer.read_append_right]
  have hsignature := (hread 4 0).trans
    (hrecord.read ⟨4, 0x06054b50, 0⟩ (List.mem_of_getElem? (i := 0) rfl))
  have hcount := (hread 2 10).trans
    (hrecord.read ⟨2, entries.length, 10⟩ (List.mem_of_getElem? (i := 2) rfl))
  have hsize := (hread 4 12).trans (hrecord.read ⟨4, (s.central.map List.length).sum, 12⟩
    (List.mem_of_getElem? (i := 3) rfl))
  have hplace := (hread 4 16).trans
    (hrecord.read ⟨4, s.offset, 16⟩ (List.mem_of_getElem? (i := 4) rfl))
  have hcommentLength := (hread 2 20).trans
    (hrecord.read_rest (by simp only [endFields, List.forall_mem_cons, Buffer.Field.Apart]; decide))
  have hzero : Buffer.read (List.replicate 22 0) 2 20 = some 0 := rfl
  have hstart : s.offset = locals.length := hoffset.trans (Nat.zero_add _)
  have hmembers := readCentral_stored hstored (List.length_nil : ([] : List UInt8).length = 0)
    (harchive : archive = [] ++ (locals ++ (centrals ++ record))) harchive
  rw [Nat.add_zero] at hsignature
  rw [hzero] at hcommentLength
  simp only [Int.toNat_natCast, hcentralSize, hstart] at hcount hsize hplace
  simp only [readZip, hposition, hsignature, hcount, hsize, hplace, hcommentLength, guard,
    Option.bind_eq_bind, Option.bind_some, hmembers]
  simp

/-! ## When the numbers fit -/

/-- The bytes of an archive. -/
def archiveSize (entries : List ZipEntry) : ℕ :=
  (entries.map fun entry => 30 + entry.nameBytes.length + entry.dataBytes.length).sum +
    (entries.map fun entry => 46 + entry.nameBytes.length).sum + 22

/-- The date can be written. -/
def HasDosDate (now : Option LocalTime) : Prop := ∀ time, now = some time → time.year ≤ 2107

theorem length_stored {now : Option LocalTime} {entries : List ZipEntry} {offset : ℕ}
    {locals centrals : List UInt8} (h : Stored now entries offset locals centrals) :
    locals.length + centrals.length + 22 = archiveSize entries := by
  induction h with
  | nil => rfl
  | cons hheader hrecord _ ih =>
    have hheaderLength := hheader.length.trans List.length_replicate
    have hrecordLength := hrecord.length.trans List.length_replicate
    simp only [archiveSize, List.map_cons, List.sum_cons, List.length_append] at ih ⊢
    omega

/-- The time of a date always fits. -/
theorem dosDateTime_time_fits (now : Option LocalTime) :
    0 ≤ (dosDateTime now).1 ∧ (dosDateTime now).1 < 256 ^ 2 := by
  cases now with
  | none => decide
  | some time =>
    have hhours := time.hours_lt
    have hminutes := time.minutes_lt
    have hseconds := time.seconds_lt
    have hor : time.hours * 2 ^ 11 ||| time.minutes * 2 ^ 5 < 2 ^ 16 :=
      Nat.or_lt_two_pow (by omega) (by omega)
    have hor' : (time.hours * 2 ^ 11 ||| time.minutes * 2 ^ 5) ||| time.seconds / 2 < 2 ^ 16 :=
      Nat.or_lt_two_pow hor (by omega)
    rw [dosDateTime, Bitwise.shiftLeft_natCast (by omega), Bitwise.shiftLeft_natCast (by omega),
      Bitwise.or_natCast (by omega) (by omega), Bitwise.or_natCast (by omega) (by omega)]
    omega

/-- Years are counted from 1980, in seven bits. -/
theorem dosDateTime_date_fits_iff (now : Option LocalTime) :
    (0 ≤ (dosDateTime now).2 ∧ (dosDateTime now).2 < 256 ^ 2) ↔ HasDosDate now := by
  cases now with
  | none => exact iff_of_true (by decide) nofun
  | some time =>
    have hyear := time.year_le
    have hmonth := time.month_lt
    have hday := time.day_le
    obtain ⟨years, hyears⟩ : ∃ years : ℕ, max 1980 time.year - 1980 = years :=
      ⟨_, (Int.toNat_of_nonneg (by omega)).symm⟩
    have hmonths : ((time.month : ℤ) + 1) = ((time.month + 1 : ℕ) : ℤ) := by push_cast; rfl
    have hor : years * 2 ^ 9 ||| (time.month + 1) * 2 ^ 5 < 2 ^ 31 :=
      Nat.or_lt_two_pow (by omega) (by omega)
    have hvalue : (dosDateTime (some time)).2 =
        (((years * 2 ^ 9 ||| (time.month + 1) * 2 ^ 5) ||| time.day : ℕ) : ℤ) := by
      change Bitwise.or (Bitwise.or (Bitwise.shiftLeft (max 1980 time.year - 1980) 9)
        (Bitwise.shiftLeft (time.month + 1) 5)) time.day = _
      rw [hyears, hmonths, Bitwise.shiftLeft_natCast (by omega),
        Bitwise.shiftLeft_natCast (by omega), Bitwise.or_natCast (by omega) (by omega),
        Bitwise.or_natCast hor (by omega)]
    rw [hvalue]
    constructor
    · rintro ⟨-, hlt⟩ later hlater
      rw [← Option.some.inj hlater]
      have hleft : years * 2 ^ 9 ≤ (years * 2 ^ 9 ||| (time.month + 1) * 2 ^ 5) ||| time.day :=
        Nat.left_le_or.trans Nat.left_le_or
      omega
    · intro hdate
      have hle := hdate time rfl
      have hsmall : years * 2 ^ 9 ||| (time.month + 1) * 2 ^ 5 < 2 ^ 16 :=
        Nat.or_lt_two_pow (by omega) (by omega)
      have hsmall' : (years * 2 ^ 9 ||| (time.month + 1) * 2 ^ 5) ||| time.day < 2 ^ 16 :=
        Nat.or_lt_two_pow hsmall (by omega)
      omega

/-- The numbers of an entry fit their fields if the date does. -/
theorem isSome_addEntry {now : Option LocalTime} {s : ZipState} {entry : ZipEntry}
    (hname : entry.nameBytes.length < 65536) (hdata : entry.dataBytes.length < 2 ^ 32)
    (hoffset : s.offset < 2 ^ 32) : (addEntry now s entry).isSome ↔ HasDosDate now := by
  have htime := dosDateTime_time_fits now
  have hcrc := crc32_fits entry.dataBytes
  have hheader : (Buffer.writeAll (List.replicate 30 0) (localFields (dosDateTime now).1
      (dosDateTime now).2 (crc32 entry.dataBytes) entry.dataBytes.length
      entry.nameBytes.length)).isSome ↔ HasDosDate now := by
    rw [Buffer.isSome_writeAll, ← dosDateTime_date_fits_iff]
    simp only [localFields, List.forall_mem_cons, Buffer.Field.Fits, List.length_replicate,
      List.not_mem_nil, IsEmpty.forall_iff, implies_true, and_true]
    omega
  have hrecord : (Buffer.writeAll (List.replicate 46 0) (centralFields (dosDateTime now).1
      (dosDateTime now).2 (crc32 entry.dataBytes) entry.dataBytes.length
      entry.nameBytes.length s.offset)).isSome ↔ HasDosDate now := by
    rw [Buffer.isSome_writeAll, ← dosDateTime_date_fits_iff]
    simp only [centralFields, List.forall_mem_cons, Buffer.Field.Fits, List.length_replicate,
      List.not_mem_nil, IsEmpty.forall_iff, implies_true, and_true]
    omega
  constructor
  · intro h
    obtain ⟨s', hs'⟩ := Option.isSome_iff_exists.1 h
    obtain ⟨header, hwritten, -⟩ := Option.bind_eq_some_iff.1 hs'
    exact hheader.1 (hwritten ▸ rfl)
  · intro h
    obtain ⟨header, hwritten⟩ := Option.isSome_iff_exists.1 (hheader.2 h)
    obtain ⟨record, hwritten'⟩ := Option.isSome_iff_exists.1 (hrecord.2 h)
    rw [addEntry, hwritten, Option.bind_eq_bind, Option.bind_some, hwritten']
    rfl

/-- The loop goes through if there is nothing to write or the date fits. -/
theorem isSome_foldlM {now : Option LocalTime} {entries : List ZipEntry} {s : ZipState}
    (hnames : ∀ entry ∈ entries, entry.nameBytes.length < 65536)
    (hsize : s.offset + archiveSize entries < 2 ^ 32) :
    (entries.foldlM (addEntry now) s).isSome ↔ entries = [] ∨ HasDosDate now := by
  induction entries generalizing s with
  | nil => exact iff_of_true rfl (.inl rfl)
  | cons entry entries ih =>
    obtain ⟨hname, hrest⟩ := List.forall_mem_cons.1 hnames
    simp only [archiveSize, List.map_cons, List.sum_cons] at hsize
    rw [List.foldlM_cons, or_iff_right (List.cons_ne_nil _ _),
      ← isSome_addEntry (s := s) hname (by omega) (by omega)]
    constructor
    · intro h
      obtain ⟨s', hs'⟩ := Option.isSome_iff_exists.1 h
      obtain ⟨middle, hmiddle, -⟩ := Option.bind_eq_some_iff.1 hs'
      exact hmiddle ▸ rfl
    · intro h
      obtain ⟨middle, hmiddle⟩ := Option.isSome_iff_exists.1 h
      have hdate := (isSome_addEntry (s := s) hname (by omega) (by omega)).1 h
      obtain ⟨header, record, -, -, rfl⟩ := addEntry_eq_some hmiddle
      rw [hmiddle]
      refine (ih hrest ?_).2 (.inr hdate)
      change s.offset + (30 + entry.nameBytes.length + entry.dataBytes.length) +
        archiveSize entries < 2 ^ 32
      rw [archiveSize]
      omega

theorem isSome_createZip {entries : List ZipEntry} {now : Option LocalTime}
    (hcount : entries.length < 65536) (hsize : archiveSize entries < 2 ^ 32)
    (hnames : ∀ entry ∈ entries, entry.nameBytes.length < 65536) :
    (createZip entries now).isSome ↔ entries = [] ∨ HasDosDate now := by
  have hstart :
    (⟨[], [], 0⟩ : ZipState).offset + archiveSize entries < 2 ^ 32 := by simpa using hsize
  rw [← isSome_foldlM hnames hstart]
  constructor
  · intro h
    obtain ⟨archive, harchive⟩ := Option.isSome_iff_exists.1 h
    obtain ⟨s, hs, -⟩ := Option.bind_eq_some_iff.1 harchive
    exact hs ▸ rfl
  · intro h
    obtain ⟨s, hs⟩ := Option.isSome_iff_exists.1 h
    obtain ⟨locals, centrals, hstored, -, hcentral, hoffset⟩ := stored_of_foldlM hs
    have hlength := length_stored hstored
    have hcentralSize : (s.central.map List.length).sum = centrals.length := by
      rw [← List.length_flatten, hcentral]
      simp
    have hstart : s.offset = locals.length := hoffset.trans (Nat.zero_add _)
    have hend : (Buffer.writeAll (List.replicate 22 0) (endFields entries.length
        (s.central.map List.length).sum s.offset)).isSome := by
      rw [Buffer.isSome_writeAll]
      simp only [endFields, List.forall_mem_cons, Buffer.Field.Fits, List.length_replicate,
        List.not_mem_nil, IsEmpty.forall_iff, implies_true, and_true]
      omega
    obtain ⟨record, hrecord⟩ := Option.isSome_iff_exists.1 hend
    have hdone : createZip entries now =
        some (s.entries ++ s.central ++ [record]).flatten := by
      rw [createZip, hs, Option.bind_eq_bind, Option.bind_some]
      exact Option.bind_eq_some_iff.2 ⟨record, hrecord, rfl⟩
    rw [hdone, Option.isSome_some]

/-- An archive is written unless its date is too late, and a reader finds the
    entries in it, under paths that are safe. -/
theorem createZip_spec (entries : List ZipEntry) (now : Option LocalTime)
    (hcount : entries.length < 65536) (hsize : archiveSize entries < 2 ^ 32)
    (hnames : ∀ entry ∈ entries, entry.nameBytes.length < 65536) :
    ((createZip entries now).isSome ↔ entries = [] ∨ HasDosDate now) ∧
      (∀ archive, createZip entries now = some archive →
        archive.length = archiveSize entries ∧
          readZip archive = some (entries.map ZipEntry.member)) ∧
      ∀ value, SafePath (safeZipPath value) ∧
        safeZipPath (safeZipPath value) = safeZipPath value ∧
        (Utf8.encode (safeZipPath value)).length ≤ max 4 (Utf8.encode value).length := by
  refine ⟨isSome_createZip hcount hsize hnames, fun archive harchive => ?_, fun value =>
    ⟨safePath_safeZipPath value, safeZipPath_safeZipPath value,
      length_encode_safeZipPath_le value⟩⟩
  obtain ⟨locals, centrals, hstored, hlength, hread⟩ := readZip_createZip harchive
  exact ⟨hlength.trans (length_stored hstored), hread⟩

/-- The entries of two peers, one of which has a path that leaves the directory. -/
def exampleEntries : List ZipEntry :=
  [⟨"configs/user-a.conf", .inl "[Interface]\n"⟩, ⟨"../user-b.conf", .inr [0x23, 0x0a]⟩]

/-- The last day of February 2024, at 13:45:59. -/
def exampleTime : LocalTime where
  year := 2024
  month := 1
  day := 29
  hours := 13
  minutes := 45
  seconds := 59
  year_le := by decide
  month_lt := by decide
  day_le := by decide
  hours_lt := by decide
  minutes_lt := by decide
  seconds_lt := by decide

theorem createZip_spec_two : ∃ archive,
    createZip exampleEntries (some exampleTime) = some archive ∧
      readZip archive = some (exampleEntries.map ZipEntry.member) := by
  have hspec := createZip_spec exampleEntries (some exampleTime) (by decide) (by decide +kernel)
    (by decide +kernel)
  have hdate : HasDosDate (some exampleTime) := fun time htime => by
    cases htime
    decide
  obtain ⟨archive, harchive⟩ := Option.isSome_iff_exists.1 (hspec.1.2 (.inr hdate))
  exact ⟨archive, harchive, (hspec.2.1 archive harchive).2⟩

end WireguardPanel
