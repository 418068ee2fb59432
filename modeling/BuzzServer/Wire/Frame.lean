/-
This file develops length-prefixed frames: four bytes give the length of the
body, the most significant byte first, and the body follows.

A frame that is followed by anything can be read back from its beginning.
-/

import Mathlib.Data.List.Basic
import Mathlib.Data.String.Basic
import Mathlib.Tactic.Common

namespace Wire

/-! ### Words of 32 bits -/

/-- The four bytes of a number, the most significant one first. -/
def bigEndian32 (value : Nat) : List UInt8 :=
  [UInt8.ofNat (value / 2 ^ 24), UInt8.ofNat (value / 2 ^ 16), UInt8.ofNat (value / 2 ^ 8),
    UInt8.ofNat value]

/-- The number at the beginning of a stream, and what follows it. -/
def readBigEndian32 : List UInt8 → Option (Nat × List UInt8)
  | first :: second :: third :: fourth :: rest =>
      some (first.toNat * 2 ^ 24 + second.toNat * 2 ^ 16 + third.toNat * 2 ^ 8 + fourth.toNat, rest)
  | _ => none

@[simp] theorem bigEndian32_length (value : Nat) : (bigEndian32 value).length = 4 := rfl

theorem readBigEndian32_bigEndian32 {value : Nat} (small : value < 2 ^ 32) (rest : List UInt8) :
    readBigEndian32 (bigEndian32 value ++ rest) = some (value, rest) := by
  simp only [bigEndian32, readBigEndian32, List.cons_append, List.nil_append, UInt8.toNat_ofNat',
    Option.some.injEq, Prod.mk.injEq, and_true]
  omega

/-- A stream is too short for a number, or it begins with four bytes that give the same number
whatever follows them. -/
theorem readBigEndian32_cases (bytes : List UInt8) :
    (bytes.length < 4 ∧ readBigEndian32 bytes = none) ∨
      ∃ header rest value, bytes = header ++ rest ∧ header.length = 4 ∧
        ∀ more, readBigEndian32 (header ++ more) = some (value, more) := by
  rcases bytes with _ | ⟨first, _ | ⟨second, _ | ⟨third, _ | ⟨fourth, rest⟩⟩⟩⟩
  any_goals exact .inl ⟨by simp, rfl⟩
  exact .inr ⟨[first, second, third, fourth], rest, _, rfl, rfl, fun _ => rfl⟩

/-! ### Frames -/

/-- A body behind its length. -/
def frame (body : List UInt8) : List UInt8 := bigEndian32 body.length ++ body

@[simp] theorem frame_length (body : List UInt8) : (frame body).length = 4 + body.length := by
  simp [frame]

theorem readBigEndian32_frame {body : List UInt8} (small : body.length < 2 ^ 32)
    (rest : List UInt8) :
    readBigEndian32 (frame body ++ rest) = some (body.length, body ++ rest) := by
  rw [frame, List.append_assoc, readBigEndian32_bigEndian32 small]

end Wire
