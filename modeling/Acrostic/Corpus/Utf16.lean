import Acrostic.Corpus.Decoder

namespace Acrostic.Corpus.Utf16

inductive ByteOrder where
  | littleEndian
  | bigEndian
deriving DecidableEq, Repr

def ByteOrder.unit : ByteOrder → UInt8 → UInt8 → Nat
  | littleEndian, first, second => first.toNat + 256 * second.toNat
  | bigEndian, first, second => 256 * first.toNat + second.toNat

-- The two bytes of a unit
def ByteOrder.bytes : ByteOrder → Nat → List UInt8
  | littleEndian, unit => [UInt8.ofNat (unit % 256), UInt8.ofNat (unit / 256)]
  | bigEndian, unit => [UInt8.ofNat (unit / 256), UInt8.ofNat (unit % 256)]

def isLead (unit : Nat) : Bool :=
  0xD800 ≤ unit && unit < 0xDC00

def isTrail (unit : Nat) : Bool :=
  0xDC00 ≤ unit && unit < 0xE000

-- The first surrogate of a pair that waits for the second, and the first byte of a unit
structure State where
  lead : Option Nat
  byte : Option UInt8
deriving DecidableEq

-- A unit that no surrogate waits for
def single (unit : Nat) : Option Nat × List Piece :=
  if isLead unit then (some unit, [])
  else if isTrail unit then (none, [none])
  else (none, [some (Char.ofNat unit)])

def stepUnit (lead : Option Nat) (unit : Nat) : Option Nat × List Piece :=
  match lead with
  | none => single unit
  | some lead =>
    if isTrail unit then
      (none, [some (Char.ofNat (0x10000 + (lead - 0xD800) * 0x400 + (unit - 0xDC00)))])
    else
      let (state, pieces) := single unit
      (state, none :: pieces)

def step (order : ByteOrder) (state : State) (byte : UInt8) : State × List Piece :=
  match state.byte with
  | none => (⟨state.lead, some byte⟩, [])
  | some first =>
    let (lead, pieces) := stepUnit state.lead (order.unit first byte)
    (⟨lead, none⟩, pieces)

def finish (state : State) : List Piece :=
  if state.lead.isSome || state.byte.isSome then [none] else []

def decoder (order : ByteOrder) : Decoder where
  State := State
  start := ⟨none, none⟩
  step := step order
  finish := finish

-- The units of a character: itself, or a pair of surrogates
def units (c : Char) : List Nat :=
  if c.toNat < 0x10000 then [c.toNat]
  else [0xD800 + (c.toNat - 0x10000) / 0x400, 0xDC00 + (c.toNat - 0x10000) % 0x400]

-- The text as bytes
def encode (order : ByteOrder) (text : List Char) : List UInt8 :=
  (text.flatMap units).flatMap order.bytes

end Acrostic.Corpus.Utf16
