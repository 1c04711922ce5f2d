/-
  ReviewRota — the Unicode encoding forms.

  Bytes are lists.  A decoder gives one entry for each code point, and `none` for
  each maximal piece that encodes nothing.  A code point is a character or half of
  a surrogate pair; only some readers take halves that stand alone.

  * `Point` is a code point;
  * `encodeUtf8` writes a character as its one to four bytes;
  * `decodeUtf8` reads UTF-8, `Utf8.step` by `Utf8.step`: the state is the
    unfinished code point, with the range allowed for its next byte, so that
    overlong forms, and halves where they are not taken, are refused at their
    second byte;
  * `decodeUtf16` and `decodeUtf32` read the wider forms in either byte order, and
    take halves;
  * `utf8Lenient` reads UTF-8 with `U+FFFD` for each ill-formed piece;
  * `unencodable` tells the first run of halves in a text, which no encoding form
    can write.
-/
namespace ReviewRota.Text

/-! ## Code points -/

/-- A character, or half of a surrogate pair. -/
inductive Point where
  | char (c : Char)
  | half (n : Nat)
  deriving DecidableEq, Repr

namespace Point

/-- The code point of a number. -/
def ofNat (n : Nat) : Point := if n.isValidChar then .char (Char.ofNat n) else .half n

/-- The number of a code point. -/
def toNat : Point → Nat
  | char c => c.toNat
  | half n => n

/-- The character, if the code point is one. -/
def char? : Point → Option Char
  | char c => some c
  | half _ => none

/-- The code point is half of a surrogate pair. -/
def isHalf : Point → Bool
  | char _ => false
  | half _ => true

end Point

/-- The code points of a text. -/
def points (s : String) : List Point := s.toList.map .char

/-- The text of the code points, `U+FFFD` for each half. -/
def ofPoints (ps : List Point) : String := String.ofList (ps.map fun p => (p.char?).getD '\uFFFD')

/-- The first run of halves: where it begins, its first member and its length. -/
def unencodable (ps : List Point) : Option (Nat × Nat × Nat) :=
  let before := ps.takeWhile fun p => !p.isHalf
  match (ps.drop before.length).takeWhile Point.isHalf with
  | [] => none
  | p :: run => some (before.length, p.toNat, run.length + 1)

/-! ## UTF-8 -/

/-- The bytes of a character in UTF-8. -/
def encodeUtf8 (c : Char) : List UInt8 :=
  let n := c.toNat
  let tail (k : Nat) : UInt8 := (0x80 + (n >>> (6 * k)) % 64).toUInt8
  if n < 0x80 then [n.toUInt8]
  else if n < 0x800 then [(0xC0 + n / 64).toUInt8, tail 0]
  else if n < 0x10000 then [(0xE0 + n / 4096).toUInt8, tail 1, tail 0]
  else [(0xF0 + n / 262144).toUInt8, tail 2, tail 1, tail 0]

/-- The bytes of a text in UTF-8. -/
def utf8Bytes (s : String) : List UInt8 := s.toList.flatMap encodeUtf8

/-- An unfinished character: its value so far, how many bytes it still lacks,
    and the bounds of the next one. -/
structure Utf8.Partial where
  value : Nat
  missing : Nat
  low : Nat
  high : Nat
  deriving DecidableEq, Repr

/-- What a leading byte of a longer form opens. -/
def Utf8.lead (halves : Bool) (b : Nat) : Option Utf8.Partial :=
  if 0xC2 ≤ b ∧ b ≤ 0xDF then some ⟨b - 0xC0, 1, 0x80, 0xBF⟩
  else if b = 0xE0 then some ⟨0, 2, 0xA0, 0xBF⟩
  else if b = 0xED then some ⟨0xD, 2, 0x80, if halves then 0xBF else 0x9F⟩
  else if 0xE1 ≤ b ∧ b ≤ 0xEF then some ⟨b - 0xE0, 2, 0x80, 0xBF⟩
  else if b = 0xF0 then some ⟨0, 3, 0x90, 0xBF⟩
  else if 0xF1 ≤ b ∧ b ≤ 0xF3 then some ⟨b - 0xF0, 3, 0x80, 0xBF⟩
  else if b = 0xF4 then some ⟨4, 3, 0x80, 0x8F⟩
  else none

/-- The entries that a byte finishes when no code point is open, and what is
    open after it. -/
def Utf8.start (halves : Bool) (b : Nat) : List (Option Point) × Option Utf8.Partial :=
  if b < 0x80 then ([some (.ofNat b)], none)
  else match Utf8.lead halves b with
    | some p => ([], some p)
    | none => ([none], none)

/-- The entries that a byte finishes, and what is open after it. -/
def Utf8.step (halves : Bool) (b : Nat) :
    Option Utf8.Partial → List (Option Point) × Option Utf8.Partial
  | none => Utf8.start halves b
  | some p =>
    if p.low ≤ b ∧ b ≤ p.high then
      let value := p.value * 64 + (b - 0x80)
      if p.missing ≤ 1 then ([some (.ofNat value)], none)
      else ([], some ⟨value, p.missing - 1, 0x80, 0xBF⟩)
    else
      let (done, «open») := Utf8.start halves b
      (none :: done, «open»)

/-- The entries of the remaining bytes. -/
def Utf8.decodeFrom (halves : Bool) : Option Utf8.Partial → List UInt8 → List (Option Point)
  | none, [] => []
  | some _, [] => [none]
  | p, b :: bs =>
    (Utf8.step halves b.toNat p).1 ++ Utf8.decodeFrom halves (Utf8.step halves b.toNat p).2 bs

/-- The code points of a text in UTF-8, `none` for each ill-formed piece; halves
    of surrogate pairs are ill-formed unless they are taken. -/
def decodeUtf8 (halves : Bool) (bs : List UInt8) : List (Option Point) :=
  Utf8.decodeFrom halves none bs

/-- The text, with `U+FFFD` for each ill-formed piece. -/
def utf8Lenient (bs : List UInt8) : String :=
  String.ofList ((decodeUtf8 false bs).map fun p => (p.bind Point.char?).getD '\uFFFD')

/-! ## The wider forms -/

/-- The order of the bytes of a unit. -/
inductive ByteOrder where
  | big
  | little
  deriving DecidableEq, Repr

/-- The 16-bit units of the bytes; `none` for a byte that is left over. -/
def units16 (order : ByteOrder) : List UInt8 → List (Option Nat)
  | [] => []
  | [_] => [none]
  | a :: b :: bs =>
    (match order with
      | .big => some (a.toNat * 256 + b.toNat)
      | .little => some (b.toNat * 256 + a.toNat)) :: units16 order bs

/-- A unit that opens a surrogate pair. -/
def isHighSurrogate (n : Nat) : Bool := 0xD800 ≤ n && n ≤ 0xDBFF

/-- A unit that closes a surrogate pair. -/
def isLowSurrogate (n : Nat) : Bool := 0xDC00 ≤ n && n ≤ 0xDFFF

/-- The character of a surrogate pair. -/
def ofSurrogates (high low : Nat) : Char :=
  Char.ofNat (0x10000 + (high - 0xD800) * 0x400 + (low - 0xDC00))

/-- The code points of a list of 16-bit units. -/
def decodeUnits16 : List (Option Nat) → List (Option Point)
  | [] => []
  | some h :: some l :: us =>
    if isHighSurrogate h && isLowSurrogate l then
      some (.char (ofSurrogates h l)) :: decodeUnits16 us
    else some (.ofNat h) :: decodeUnits16 (some l :: us)
  | some h :: us => some (.ofNat h) :: decodeUnits16 us
  | none :: us => none :: decodeUnits16 us

/-- The code points of a text in UTF-16. -/
def decodeUtf16 (order : ByteOrder) (bs : List UInt8) : List (Option Point) :=
  decodeUnits16 (units16 order bs)

/-- The code points of a text in UTF-32. -/
def decodeUtf32 (order : ByteOrder) : List UInt8 → List (Option Point)
  | [] => []
  | a :: b :: c :: d :: bs =>
    let n := match order with
      | .big => ((a.toNat * 256 + b.toNat) * 256 + c.toNat) * 256 + d.toNat
      | .little => ((d.toNat * 256 + c.toNat) * 256 + b.toNat) * 256 + a.toNat
    (if n < 0x110000 then some (.ofNat n) else none) :: decodeUtf32 order bs
  | _ => [none]

example : utf8Lenient (utf8Bytes "aü☃😀") = "aü☃😀" := by decide +kernel
example : utf8Lenient [0x61, 0xE2, 0x98, 0x62, 0xFF] = "a\uFFFDb\uFFFD" := by decide +kernel
example : decodeUtf8 true [0xED, 0xA0, 0x80] = [some (.half 0xD800)] := by decide +kernel

end ReviewRota.Text
