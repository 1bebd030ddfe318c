/-
# Codecs

A codec writes a value as bytes and reads it back from the front of a byte
string. Records are written field by field, in order, without padding:
integers little-endian at their width, a truth value as one byte, a byte run
or a text behind its length in eight bytes. A record codec is put together
from the codecs of its fields (`Codec.pair`, `Codec.via`), and bytes behind a
record are left to the caller.

Key definitions: `Codec`, `Codec.pair`, `Codec.via`, `littleEndian`,
`ofLittleEndian`, `DecodeError`.
-/
import SensorBroker.Text.Utf8

namespace SensorBroker

/-- Why bytes are not the record that was asked for. -/
inductive DecodeError
  /-- The bytes end inside a word. -/
  | endInWord
  /-- The bytes end inside a run whose length was given. -/
  | endInRun
  /-- A truth value is neither 0 nor 1. -/
  | notTruth (found : UInt8)
  /-- A text is not UTF-8. -/
  | notText (flaw : Utf8.Flaw)
deriving DecidableEq

/-- The wording of a decode error. -/
def DecodeError.message : DecodeError → String
  | .endInWord => "io error: unexpected end of file"
  | .endInRun => "io error: "
  | .notTruth found =>
    "invalid u8 while decoding bool, expected 0 or 1, found " ++ toString found.toNat
  | .notText flaw => "string is not valid utf8: " ++ flaw.message

/-- A way of writing values of `α` as bytes and reading them back. -/
structure Codec (α : Type) where
  /-- The bytes of a value. -/
  encode : α → Bytes
  /-- The value at the front of the bytes, and the bytes behind it. -/
  decode : Bytes → Except DecodeError (α × Bytes)

/-- The lowest `width` bytes of `n`, lowest first. -/
def littleEndian : Nat → Nat → Bytes
  | 0, _ => []
  | width + 1, n => UInt8.ofNat n :: littleEndian width (n / 256)

/-- The number whose bytes, lowest first, are given. -/
def ofLittleEndian : Bytes → Nat
  | [] => 0
  | b :: rest => b.toNat + 256 * ofLittleEndian rest

/-- The first `n` bytes and the rest, if there are that many. -/
def takeExactly (n : Nat) (bs : Bytes) : Option (Bytes × Bytes) :=
  let run := bs.take n
  if run.length = n then some (run, bs.drop n) else none

theorem takeExactly_eq_some_iff {n : Nat} {bs run rest : Bytes} :
    takeExactly n bs = some (run, rest) ↔ bs = run ++ rest ∧ run.length = n := by
  simp only [takeExactly, Option.ite_none_right_eq_some, Option.some.injEq, Prod.mk.injEq]
  constructor
  · rintro ⟨hlen, rfl, rfl⟩
    exact ⟨(List.take_append_drop n bs).symm, hlen⟩
  · rintro ⟨rfl, rfl⟩
    simp

theorem takeExactly_eq_none_iff {n : Nat} {bs : Bytes} :
    takeExactly n bs = none ↔ bs.length < n := by
  simp only [takeExactly, List.length_take, ite_eq_right_iff, reduceCtorEq, imp_false]
  omega

namespace Codec

/-- A number of `width` bytes. -/
def word (width : Nat) : Codec Nat where
  encode := littleEndian width
  decode bs :=
    match takeExactly width bs with
    | some (run, rest) => .ok (ofLittleEndian run, rest)
    | none => .error .endInWord

/-- Writes a value as another one. -/
def via {α β : Type} (c : Codec α) (forth : β → α) (back : α → β) : Codec β where
  encode b := c.encode (forth b)
  decode bs :=
    match c.decode bs with
    | .ok (a, rest) => .ok (back a, rest)
    | .error e => .error e

/-- One value behind the other. -/
def pair {α β : Type} (c : Codec α) (d : Codec β) : Codec (α × β) where
  encode p := c.encode p.1 ++ d.encode p.2
  decode bs :=
    match c.decode bs with
    | .error e => .error e
    | .ok (a, rest) =>
      match d.decode rest with
      | .error e => .error e
      | .ok (b, rest) => .ok ((a, b), rest)

def uint32 : Codec UInt32 := (word 4).via UInt32.toNat UInt32.ofNat

def int32 : Codec Int32 := uint32.via Int32.toUInt32 UInt32.toInt32

def int64 : Codec Int64 :=
  (word 8).via (fun x => x.toUInt64.toNat) fun n => (UInt64.ofNat n).toInt64

def single : Codec Single := uint32.via Single.bits Single.mk

def sensorId : Codec SensorId := int32.via SensorId.raw SensorId.mk

/-- A truth value is the byte 0 or 1. -/
def truth : Codec Bool where
  encode b := [if b then 1 else 0]
  decode
    | [] => .error .endInWord
    | b :: rest =>
      if b = 0 then .ok (false, rest)
      else if b = 1 then .ok (true, rest)
      else .error (.notTruth b)

/-- A run of bytes, behind its length. -/
def run : Codec Bytes where
  encode bs := (word 8).encode bs.length ++ bs
  decode bs :=
    match (word 8).decode bs with
    | .error e => .error e
    | .ok (n, rest) =>
      match takeExactly n rest with
      | some (run, rest) => .ok (run, rest)
      | none => .error .endInRun

/-- A text is the run of its UTF-8 bytes. -/
def text : Codec String where
  encode s := run.encode (Utf8.encode s)
  decode bs :=
    match run.decode bs with
    | .error e => .error e
    | .ok (bytes, rest) =>
      match Utf8.decode? bytes with
      | some s => .ok (s, rest)
      | none => .error (.notText ((Utf8.flaw? bytes).getD (.cut 0)))

end Codec
end SensorBroker
