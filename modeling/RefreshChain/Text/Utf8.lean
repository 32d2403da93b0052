/-!
# UTF-8

Bytes that may or may not be the UTF-8 form of a text.

* `Utf8.encode`: the bytes of a text.
* `Utf8.pieces`: cuts bytes into characters and into bytes that belong to none. Of these, a piece
  is as long as some character begins.
* `Utf8.decode?`, `Utf8.decodeLossy`: the text, or where it breaks; and the text with a replacement
  character for each piece that is none.
-/

namespace RefreshChain.Utf8

def encode (s : String) : List UInt8 := s.toUTF8.toList

/-- What a first byte says about the bytes that follow it. -/
structure Lead where
  /-- How many bytes follow. -/
  count : Nat
  /-- The least value of the next one. -/
  low : UInt8 := 0x80
  /-- The greatest value of the next one. -/
  high : UInt8 := 0xBF
  /-- The bits of the character in the first byte. -/
  bits : Nat
  deriving DecidableEq, Repr

/-- What a byte above 0x7F says, if a character can begin with it. Shorter forms exist for what the
bounds of the next byte leave out, or it is no character. -/
def lead? (b : UInt8) : Option Lead :=
  if b < 0xC2 then none
  else if b < 0xE0 then some { count := 1, bits := b.toNat - 0xC0 }
  else if b = 0xE0 then some { count := 2, low := 0xA0, bits := 0 }
  else if b = 0xED then some { count := 2, high := 0x9F, bits := 0xD }
  else if b < 0xF0 then some { count := 2, bits := b.toNat - 0xE0 }
  else if b = 0xF0 then some { count := 3, low := 0x90, bits := 0 }
  else if b < 0xF4 then some { count := 3, bits := b.toNat - 0xF0 }
  else if b = 0xF4 then some { count := 3, high := 0x8F, bits := 4 }
  else none

/-- The bytes that can follow a first byte: at most `count`, of which the first one has bounds of
its own. -/
def following : Nat → UInt8 → UInt8 → List UInt8 → List UInt8
  | count + 1, low, high, b :: bs =>
    if low ≤ b ∧ b ≤ high then b :: following count 0x80 0xBF bs else []
  | _, _, _, _ => []

inductive Piece where
  | char (c : Char)
  /-- Bytes that are not the form of a character. -/
  | broken (length : Nat)
  /-- The form of a character that the text ends within. -/
  | incomplete (length : Nat)
  deriving DecidableEq, Repr

/-- How many bytes a piece takes. -/
def Piece.length : Piece → Nat
  | .char c => c.utf8Size
  | .broken n => n
  | .incomplete n => n

/-- The piece at whose front the given byte above 0x7F stands. -/
def piece (b : UInt8) (bs : List UInt8) : Piece :=
  match lead? b with
  | none => .broken 1
  | some l =>
    let tail := following l.count l.low l.high bs
    if tail.length = l.count then
      .char (Char.ofNat (tail.foldl (fun n b => 64 * n + (b.toNat - 0x80)) l.bits))
    else if tail.length = bs.length then .incomplete (tail.length + 1)
    else .broken (tail.length + 1)

def pieces : List UInt8 → List Piece
  | [] => []
  | b :: bs =>
    if b < 0x80 then .char (Char.ofNat b.toNat) :: pieces bs
    else
      let p := piece b bs
      p :: pieces (bs.drop (p.length - 1))
termination_by bs => bs.length
decreasing_by all_goals simp only [List.length_cons, List.length_drop]; omega

/-- Where bytes cease to be a text. -/
structure Fault where
  index : Nat
  /-- How many bytes are wrong; unknown where the bytes end too soon. -/
  length : Option Nat
  deriving DecidableEq, Repr

def Fault.message (f : Fault) : String :=
  match f.length with
  | some n =>
    "invalid utf-8 sequence of " ++ toString n ++ " bytes from index " ++ toString f.index
  | none => "incomplete utf-8 byte sequence from index " ++ toString f.index

/-- The characters of the pieces; `index` bytes stand in front of them. -/
def chars? (index : Nat) : List Piece → Except Fault (List Char)
  | [] => .ok []
  | .char c :: ps => return c :: (← chars? (index + c.utf8Size) ps)
  | .broken n :: _ => .error ⟨index, some n⟩
  | .incomplete _ :: _ => .error ⟨index, none⟩

def decode? (bytes : List UInt8) : Except Fault String :=
  (chars? 0 (pieces bytes)).map String.ofList

/-- The character that stands for bytes that are none. -/
def replacement : Char := '\uFFFD'

def decodeLossy (bytes : List UInt8) : String :=
  String.ofList <| (pieces bytes).map fun
    | .char c => c
    | _ => replacement

end RefreshChain.Utf8
